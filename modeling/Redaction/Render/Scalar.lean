import Redaction.Json.Value
import Redaction.Number.Shortest
import Redaction.Ordered
import Redaction.Text.Base64

/-!
# Scalars as JSON

How the values of unredacted scalar fields show. Bytes are base 64. A double that is an integer of
magnitude below `2 ^ 53` shows as that integer, any other finite one as the double itself;
infinities and NaNs, which JSON has not, show as null. A single-precision number shows as the double
that its own shortest decimal reads as, so that `0.1` does not grow digits.

A map shows as the object of its entries, its keys in the order of their texts.
-/

namespace Redaction.Render

open Number

/-- Bytes in base 64. -/
def bytes (b : List UInt8) : Json := .text (String.ofList (Text.Base64.encode b))

/-- The magnitude below which doubles that are integers show as integers. -/
def exactIntegers : Nat := Nat.pow 2 53

/-- **A double.** -/
def double (x : Double) : Json :=
  match x.integral with
  | some n => if n.natAbs < exactIntegers then .integer n else .ofDouble x
  | none => .ofDouble x

/-- The double that the shortest decimal of a single-precision number reads as. -/
def widen (s : Scaled) : Double :=
  let d := Number.single.shortest .up s
  .ofDecimal s.negative d.digits d.exponent

/-- **A single-precision number.** -/
def single (x : Single) : Json :=
  match x.decode with
  | some s => double (widen s)
  | none => .null

/-- The key of a map entry. -/
inductive MapKey where
  | text (s : String)
  | integer (n : Int)
  | bool (b : Bool)
deriving DecidableEq

/-- The text of a key. -/
def MapKey.name : MapKey → String
  | text s => s
  | integer n => String.ofList (integerText n)
  | bool b => if b then "true" else "false"

/-- **The object of a map:** keys by their texts, in order; of two entries with one text the later
counts. -/
def map (entries : List (MapKey × Json)) : Json :=
  .object (Ordered.ofList (entries.map fun e => (e.1.name, e.2)))

end Redaction.Render
