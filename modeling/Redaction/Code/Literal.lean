import Redaction.Code.Token
import Redaction.Number.Shortest
import Redaction.Text.Quoted

/-!
# Literals of generated code

The tokens of texts and numbers. A number carries the suffix of its type; a negative one is the
minus sign and the literal of its magnitude. Floating-point literals are positional with the fewest
digits that read back as the number, and have no exponent and no empty fraction.
-/

namespace Redaction.Code.Literal

open Number

/-- The literal of a text. -/
def text (s : String) : List Token := [.word (Text.Quoted.literal s)]

/-- The literal of a magnitude with a suffix, and a minus sign if it is negative. -/
def number (negative : Bool) (magnitude : List Char) (suffix : String) : List Token :=
  (if negative then [.word "-"] else []) ++ [.word (String.ofList magnitude ++ suffix)]

/-- The literal of an integer. -/
def integer (n : Int) (suffix : String) : List Token :=
  number (n < 0) (digitsOf n.natAbs) suffix

/-- The literal of a finite number of a format. -/
def float (f : Format) (s : Scaled) (suffix : String) : List Token :=
  number s.negative (f.shortest .up s).positional suffix

end Redaction.Code.Literal
