import Redaction.Json.Text
import Redaction.Number.Decimal

/-!
# What a log receives

A log takes documents as they are and everything else as text. A redacted message is logged as the
document of its redacted form, whose text is also what a log shows that takes no documents.
-/

namespace Redaction.Log

/-- A value that is logged. -/
inductive Loggable where
  | document (j : Json)
  | text (s : String)
  | bool (b : Bool)
  | integer (n : Int)
  | nothing
  | unit

/-- What reaches the log. -/
inductive Captured where
  | document (j : Json)
  | text (s : String)

/-- **What a log receives of a value.** -/
def Loggable.captured : Loggable → Captured
  | document j => .document j
  | text s => .text s
  | bool b => .text (if b then "true" else "false")
  | integer n => .text (String.ofList (Number.integerText n))
  | nothing => .text ""
  | unit => .text "()"

end Redaction.Log
