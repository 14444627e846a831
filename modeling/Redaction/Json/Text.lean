import Redaction.Json.Value
import Redaction.Number.Shortest

/-!
# The text of a JSON document

One line without blanks. A double is written with the fewest digits that read back as it,
positionally when its first digit stands for a power of ten from `-5` to `15`, always with a
fraction; any other double has an exponent. In a text only the quote, the backslash and the controls
below the space are escaped.
-/

namespace Redaction.Json

open Number

/-! ### Numbers -/

/-- The positional notation of a decimal, with a fraction even if it is zero. -/
def withFraction (d : Decimal) : List Char :=
  d.positional ++ if 0 ≤ d.exponent then ['.', '0'] else []

/-- The text of a decimal in a document. -/
def decimalText (d : Decimal) : List Char :=
  if d.digits = 0 ∨ (-5 ≤ d.order ∧ d.order ≤ 15) then withFraction d else d.scientific

/-- The text of a double; there is none but `null` for infinities and NaNs. -/
def doubleText (x : Double) : List Char :=
  match x.decode with
  | some s => (if s.negative then ['-'] else []) ++ decimalText (double.shortest .even s)
  | none => "null".toList

/-! ### Texts -/

/-- What stands for a character between the quotes. -/
def escape (c : Char) : List Char :=
  if c = '"' then ['\\', '"']
  else if c = '\\' then ['\\', '\\']
  else if c = '\x08' then ['\\', 'b']
  else if c = '\x0c' then ['\\', 'f']
  else if c = '\n' then ['\\', 'n']
  else if c = '\r' then ['\\', 'r']
  else if c = '\t' then ['\\', 't']
  else if c.toNat < 0x20 then ['\\', 'u'] ++ (Nat.toDigits 16 c.toNat).leftpad 4 '0'
  else [c]

/-- A text between quotes. -/
def quoted (s : String) : List Char := '"' :: s.toList.flatMap escape ++ ['"']

/-! ### Documents -/

mutual
/-- The characters of a document. -/
def chars : Json → List Char
  | null => "null".toList
  | bool true => "true".toList
  | bool false => "false".toList
  | integer n => integerText n
  | number x => doubleText x
  | text s => quoted s
  | array items => '[' :: itemChars items ++ [']']
  | object members => '\x7b' :: memberChars members ++ ['\x7d']

/-- The items of an array, with commas between them. -/
def itemChars : List Json → List Char
  | [] => []
  | [item] => chars item
  | item :: next :: items => chars item ++ ',' :: itemChars (next :: items)

/-- The members of an object, with commas between them. -/
def memberChars : List (String × Json) → List Char
  | [] => []
  | [(key, value)] => quoted key ++ ':' :: chars value
  | (key, value) :: next :: members =>
    quoted key ++ ':' :: chars value ++ ',' :: memberChars (next :: members)
end

/-- **The text of a document.** -/
def render (j : Json) : String := String.ofList (chars j)

end Redaction.Json
