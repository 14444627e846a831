import Redaction.Text.Visible

/-!
# Quoted text

A text between double quotes, in which no character but the plain ones stands for itself. There are
two forms, which differ only in how a NUL is written: for a reader of log lines (`quoted`), and as a
literal of generated code (`literal`), where a digit after the NUL must not look like part of it.
-/

namespace Redaction.Text.Quoted

/-- The escape of a character by its code point. -/
def codeEscape (c : Char) : List Char :=
  ['\\', 'u', '\x7b'] ++ Nat.toDigits 16 c.toNat ++ ['\x7d']

/-- What stands for a character between the quotes. -/
def escape (c : Char) : List Char :=
  if c = '\x00' then ['\\', '0']
  else if c = '\t' then ['\\', 't']
  else if c = '\r' then ['\\', 'r']
  else if c = '\n' then ['\\', 'n']
  else if c = '"' then ['\\', '"']
  else if c = '\\' then ['\\', '\\']
  else if isPlain c then [c]
  else codeEscape c

/-- **The quoted form of a text.** -/
def quoted (s : String) : String := String.ofList ('"' :: s.toList.flatMap escape ++ ['"'])

/-- Whether a text starts with an octal digit. -/
def startsOctal : List Char → Bool
  | [] => false
  | c :: _ => '0' ≤ c && c ≤ '7'

/-- The characters between the quotes of a literal. -/
def literalBody : List Char → List Char
  | [] => []
  | c :: rest =>
    (if c = '\x00' ∧ startsOctal rest then ['\\', 'x', '0', '0'] else escape c) ++ literalBody rest

/-- **The literal of a text.** -/
def literal (s : String) : String := String.ofList ('"' :: literalBody s.toList ++ ['"'])

end Redaction.Text.Quoted
