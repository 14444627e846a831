import Redaction.Json.Value

/-!
# Reading JSON documents

A reader of all of JSON, with blanks between the tokens, every escape in texts and every notation of
numbers. A number with neither a fraction nor an exponent is an integer; what the text of any other
number stands for is said by the function `parse`. The members of an object are kept as they come,
with keys that come again.

Readers give what they have read and what stands behind it. Lists are read with a bound on the
number of steps, of which a text takes no more than it has characters.
-/

namespace Redaction.Json.Read

open Number

/-- The characters behind the blanks. -/
def skipBlanks (cs : List Char) : List Char := cs.dropWhile fun c =>
  c == ' ' || c == '\t' || c == '\n' || c == '\r'

/-! ### Numbers -/

/-- A character that numbers are written with. -/
def isNumeric (c : Char) : Bool :=
  c.isDigit || c == '-' || c == '+' || c == '.' || c == 'e' || c == 'E'

/-- Digits, at least one. -/
def areDigits (cs : List Char) : Bool := !cs.isEmpty && cs.all Char.isDigit

/-- The digits before the point. A zero in front stands alone. -/
def isWhole (cs : List Char) : Bool := areDigits cs && (cs.head? != some '0' || cs == ['0'])

/-- An exponent with or without a sign, or nothing. -/
def isExponent : List Char → Bool
  | [] => true
  | c :: cs =>
    (c == 'e' || c == 'E') &&
      areDigits (if cs.head? == some '+' || cs.head? == some '-' then cs.tail else cs)

/-- What follows the digits before the point: a fraction, an exponent, both or nothing. -/
def isTail (cs : List Char) : Bool :=
  if cs.head? == some '.' then
    areDigits (cs.tail.takeWhile Char.isDigit) && isExponent (cs.tail.dropWhile Char.isDigit)
  else isExponent cs

/-- **The number of a token.** -/
def numberOf (parse : List Char → Double) (token : List Char) : Option Json :=
  let negative := token.head? == some '-'
  let unsigned := if negative then token.tail else token
  let whole := unsigned.takeWhile Char.isDigit
  let rest := unsigned.dropWhile Char.isDigit
  if isWhole whole && isTail rest then
    if rest.isEmpty then
      let n : Int := Nat.ofDigitChars 10 whole 0
      some (integer (if negative then -n else n))
    else some (number (parse token))
  else none

/-! ### Texts -/

/-- The value of a hexadecimal digit. -/
def hexDigit? (c : Char) : Option Nat :=
  if c.isDigit then some (c.toNat - 48)
  else if 'a' ≤ c ∧ c ≤ 'f' then some (c.toNat - 87)
  else if 'A' ≤ c ∧ c ≤ 'F' then some (c.toNat - 55)
  else none

/-- The number of four hexadecimal digits. -/
def codeUnit? : List Char → Option (Nat × List Char)
  | a :: b :: c :: d :: cs => do
    let high := (← hexDigit? a) * 16 + (← hexDigit? b)
    let low := (← hexDigit? c) * 16 + (← hexDigit? d)
    return (high * 256 + low, cs)
  | _ => none

/-- The character of one code unit, or of a pair of surrogates. -/
def codePoint? (cs : List Char) : Option (Char × List Char) := do
  let (unit, cs) ← codeUnit? cs
  if unit < 0xD800 ∨ 0xDFFF < unit then return (Char.ofNat unit, cs)
  else if unit < 0xDC00 then
    match cs with
    | '\\' :: 'u' :: cs =>
      let (low, cs) ← codeUnit? cs
      if 0xDC00 ≤ low ∧ low ≤ 0xDFFF then
        return (Char.ofNat (0x10000 + (unit - 0xD800) * 0x400 + (low - 0xDC00)), cs)
      else none
    | _ => none
  else none

/-- The character of an escape, behind its backslash. -/
def escaped? : List Char → Option (Char × List Char)
  | [] => none
  | c :: cs =>
    match c with
    | '"' => some ('"', cs)
    | '\\' => some ('\\', cs)
    | '/' => some ('/', cs)
    | 'b' => some ('\x08', cs)
    | 'f' => some ('\x0c', cs)
    | 'n' => some ('\n', cs)
    | 'r' => some ('\r', cs)
    | 't' => some ('\t', cs)
    | 'u' => codePoint? cs
    | _ => none

/-- The first character of what stands between quotes. -/
def character? : List Char → Option (Char × List Char)
  | [] => none
  | c :: cs =>
    if c = '\\' then escaped? cs
    else if c = '"' ∨ c.toNat < 0x20 then none
    else some (c, cs)

/-- The characters up to the closing quote. -/
def characters? : Nat → List Char → Option (List Char × List Char)
  | 0, _ => none
  | n + 1, cs =>
    if cs.head? = some '"' then some ([], cs.tail)
    else do
      let (c, cs) ← character? cs
      let (more, cs) ← characters? n cs
      return (c :: more, cs)

/-- The key of a member, with the colon behind it. -/
def key? (n : Nat) (cs : List Char) : Option (String × List Char) :=
  match skipBlanks cs with
  | '"' :: cs => do
    let (key, cs) ← characters? n cs
    match skipBlanks cs with
    | ':' :: cs => return (String.ofList key, cs)
    | _ => none
  | _ => none

/-! ### Documents -/

/-- A word that stands for a document. -/
def word? : List Char → Option (Json × List Char)
  | 'n' :: 'u' :: 'l' :: 'l' :: cs => some (null, cs)
  | 't' :: 'r' :: 'u' :: 'e' :: cs => some (bool true, cs)
  | 'f' :: 'a' :: 'l' :: 's' :: 'e' :: cs => some (bool false, cs)
  | _ => none

section

variable (parse : List Char → Double)

mutual
/-- A document. -/
def value? : Nat → List Char → Option (Json × List Char)
  | 0, _ => none
  | n + 1, cs =>
    match skipBlanks cs with
    | [] => none
    | c :: cs =>
      if c = '"' then do
        let (s, cs) ← characters? n cs
        return (text (String.ofList s), cs)
      else if c = '[' then
        if (skipBlanks cs).head? = some ']' then some (array [], (skipBlanks cs).tail)
        else do
          let (items, cs) ← items? n cs
          return (array items, cs)
      else if c = '\x7b' then
        if (skipBlanks cs).head? = some '\x7d' then some (object [], (skipBlanks cs).tail)
        else do
          let (members, cs) ← members? n cs
          return (object members, cs)
      else if isNumeric c then do
        let x ← numberOf parse ((c :: cs).takeWhile isNumeric)
        return (x, (c :: cs).dropWhile isNumeric)
      else word? (c :: cs)

/-- The items of an array up to its end, at least one. -/
def items? : Nat → List Char → Option (List Json × List Char)
  | 0, _ => none
  | n + 1, cs => do
    let (item, cs) ← value? n cs
    match skipBlanks cs with
    | ',' :: cs => do
      let (items, cs) ← items? n cs
      return (item :: items, cs)
    | ']' :: cs => return ([item], cs)
    | _ => none

/-- The members of an object up to its end, at least one. -/
def members? : Nat → List Char → Option (List (String × Json) × List Char)
  | 0, _ => none
  | n + 1, cs => do
    let (key, cs) ← key? n cs
    let (value, cs) ← value? n cs
    match skipBlanks cs with
    | ',' :: cs => do
      let (members, cs) ← members? n cs
      return ((key, value) :: members, cs)
    | '\x7d' :: cs => return ([(key, value)], cs)
    | _ => none
end

end

end Read

/-- **The document that a text is,** if it is one. -/
def read (parse : List Char → Number.Double) (s : String) : Option Json := do
  let (j, rest) ← Read.value? parse s.toList.length s.toList
  if (Read.skipBlanks rest).isEmpty then return j else none

end Redaction.Json
