import Redaction.Code.Impl
import Redaction.Json.Reader

/-!
# Reading the literals of generated code

What the compiler makes of a literal. The literal of a text ends at the first quote that no
backslash stands before, and is read character by character: `Mode` says what came before. The
literal of a number is one token, behind a minus sign if it is negative; it holds the decimal digits
and the suffix of its type, which has to have the number. Notations that generated code does not use
are not read: raw texts, other bases, digit separators and exponents.
-/

namespace Redaction.Code.Literal.Read

open Number
open Json.Read (hexDigit?)

/-! ### Texts -/

/-- What stands before a character of a text. -/
inductive Mode where
  /-- Nothing of importance, or a line's end that was escaped, and blanks. -/
  | plain (continued : Bool)
  | backslash
  /-- The beginning `\x` of a byte, and its first digit. -/
  | byte (high : Option Nat)
  /-- The beginning `\u` of a code point. -/
  | unicode
  /-- The beginning of a code point: its brace and some digits, with their value. -/
  | digits (count value : Nat)
deriving DecidableEq

/-- The character that a letter behind a backslash stands for. -/
def letter? (c : Char) : Option Char :=
  if c = 'n' then some '\n'
  else if c = 'r' then some '\r'
  else if c = 't' then some '\t'
  else if c = '0' then some '\x00'
  else if c = '\\' ∨ c = '"' ∨ c = '\'' then some c
  else none

/-- A character in front of what is read. -/
def push (c : Char) (read : Option (List Char × List Char)) : Option (List Char × List Char) :=
  read.map fun r => (c :: r.1, r.2)

/-- **The characters up to the closing quote,** and what stands behind it. -/
def characters? : Mode → List Char → Option (List Char × List Char)
  | _, [] => none
  | .plain continued, c :: cs =>
    if continued ∧ c ∈ [' ', '\t', '\n', '\r'] then characters? (.plain true) cs
    else if c = '"' then some ([], cs)
    else if c = '\\' then characters? .backslash cs
    else if c = '\r' then none
    else push c (characters? (.plain false) cs)
  | .backslash, c :: cs =>
    if c = '\n' then characters? (.plain true) cs
    else if c = 'x' then characters? (.byte none) cs
    else if c = 'u' then characters? .unicode cs
    else (letter? c).bind fun d => push d (characters? (.plain false) cs)
  | .byte none, c :: cs =>
    (hexDigit? c).bind fun d => if d < 8 then characters? (.byte (some d)) cs else none
  | .byte (some high), c :: cs =>
    (hexDigit? c).bind fun d => push (Char.ofNat (high * 16 + d)) (characters? (.plain false) cs)
  | .unicode, c :: cs => if c = '\x7b' then characters? (.digits 0 0) cs else none
  | .digits count value, c :: cs =>
    if c = '\x7d' then
      if 0 < count ∧ value.isValidChar then push (Char.ofNat value) (characters? (.plain false) cs)
      else none
    else if c = '_' ∧ 0 < count then characters? (.digits count value) cs
    else if count < 6 then
      (hexDigit? c).bind fun d => characters? (.digits (count + 1) (value * 16 + d)) cs
    else none

/-- **The text that a literal at the front stands for,** and what stands behind the literal. -/
def text? : List Char → Option (String × List Char)
  | '"' :: cs => (characters? (.plain false) cs).map fun r => (String.ofList r.1, r.2)
  | _ => none

/-! ### Integers -/

/-- The integers of a type. -/
def Holds (type : IntegerType) (n : Int) : Prop :=
  match type with
  | .i64 => -0x8000000000000000 ≤ n ∧ n < 0x8000000000000000
  | .u64 => 0 ≤ n ∧ n < 0x10000000000000000
  | .i32 => -0x80000000 ≤ n ∧ n < 0x80000000

instance (type : IntegerType) (n : Int) : Decidable (Holds type n) := by
  unfold Holds
  split <;> infer_instance

/-- The integer type with a suffix. -/
def integerType? (suffix : List Char) : Option IntegerType :=
  if suffix = "i64".toList then some .i64
  else if suffix = "u64".toList then some .u64
  else if suffix = "i32".toList then some .i32
  else none

/-- The integer of a word. A number without a sign cannot be negated, and a type has to have the
integer with its sign. -/
def signedInteger? (negative : Bool) (word : String) : Option (IntegerType × Int) := do
  let digits := word.toList.takeWhile Char.isDigit
  let type ← integerType? (word.toList.dropWhile Char.isDigit)
  let magnitude : Int := Nat.ofDigitChars 10 digits 0
  let n := if negative then -magnitude else magnitude
  if digits ≠ [] ∧ (negative → type ≠ .u64) ∧ Holds type n then return (type, n) else none

/-- **The integer that a literal stands for,** with its type. -/
def integer? : List Token → Option (IntegerType × Int)
  | [.word w] => signedInteger? false w
  | [.word sign, .word w] => if sign = "-" then signedInteger? true w else none
  | _ => none

/-! ### Floating-point numbers -/

/-- The width with a suffix. -/
def floatWidth? (suffix : List Char) : Option FloatWidth :=
  if suffix = "f32".toList then some .single
  else if suffix = "f64".toList then some .double
  else none

/-- The decimal of a word: digits, and more digits behind a point if there is one. -/
def decimal? (word : String) : Option (FloatWidth × Decimal) := do
  let whole := word.toList.takeWhile Char.isDigit
  let rest := word.toList.dropWhile Char.isDigit
  let hasPoint := rest.head? == some '.'
  let fraction := if hasPoint then rest.tail.takeWhile Char.isDigit else []
  let width ← floatWidth? (if hasPoint then rest.tail.dropWhile Char.isDigit else rest)
  if whole ≠ [] ∧ (hasPoint → fraction ≠ []) then
    return (width, ⟨Nat.ofDigitChars 10 (whole ++ fraction) 0, -fraction.length⟩)
  else none

/-- **The decimal that a literal stands for,** whether it is negated, and the width it is rounded
to. -/
def float? : List Token → Option (Bool × FloatWidth × Decimal)
  | [.word w] => (decimal? w).map (false, ·)
  | [.word sign, .word w] => if sign = "-" then (decimal? w).map (true, ·) else none
  | _ => none

end Redaction.Code.Literal.Read
