import Redaction.Text.Blank
import Redaction.Text.IdentifierChars

/-!
# Tokens of paths

A path in a text consists of names, colons and, where it has generic arguments, of what types are
written with. Blanks and comments may stand between the tokens, but not between the two colons; a
documentation comment is a token of its own and so never part of a path.

Of literals there are those of texts and characters, in which a backslash stands before one
character, and those of decimal numbers without a fraction or an exponent, which may name their
type. A text with any other token has none (`tokens?`).
-/

namespace Redaction.Code.Path

/-! ### Blanks and comments -/

/-- A blank between tokens; the two direction marks count. -/
def isTokenBlank (c : Char) : Bool :=
  Text.isBlank c || c.toNat == 0x200E || c.toNat == 0x200F

/-- What follows a line comment: the rest from the line's end. -/
def afterLine (cs : List Char) : List Char := cs.dropWhile (· != '\n')

/-- What follows a block comment, of which `depth` are open; none if one is not closed. -/
def afterBlock : Nat → List Char → Option (List Char)
  | depth, '/' :: '*' :: cs => afterBlock (depth + 1) cs
  | depth, '*' :: '/' :: cs => if depth ≤ 1 then some cs else afterBlock (depth - 1) cs
  | depth, _ :: cs => afterBlock depth cs
  | _, [] => none

/-- What follows a comment, if the text starts with one that is not documentation. -/
def afterComment? : List Char → Option (List Char)
  | '/' :: '/' :: '/' :: '/' :: cs => some (afterLine cs)
  | '/' :: '/' :: '/' :: _ => none
  | '/' :: '/' :: '!' :: _ => none
  | '/' :: '/' :: cs => some (afterLine cs)
  | '/' :: '*' :: '*' :: '/' :: cs => some cs
  | '/' :: '*' :: '*' :: '*' :: cs => afterBlock 1 ('*' :: '*' :: cs)
  | '/' :: '*' :: '*' :: _ => none
  | '/' :: '*' :: '!' :: _ => none
  | '/' :: '*' :: cs => afterBlock 1 cs
  | _ => none

/-- The text without the blanks and comments in front of it; each round takes away at least one
character. -/
def skipBlanks : Nat → List Char → List Char
  | 0, cs => cs
  | rounds + 1, cs =>
    match afterComment? cs with
    | some rest => skipBlanks rounds rest
    | none =>
      match cs with
      | c :: rest => if isTokenBlank c then skipBlanks rounds rest else cs
      | [] => []

/-! ### Names and literals -/

/-- A token of a path; that of a lifetime or a literal has its quotes. -/
inductive PathToken where
  | colons
  | name (s : String)
  | lifetime (s : String)
  | literal (s : String)
  | mark (c : Char)
deriving DecidableEq

/-- The words that no raw identifier may spell. -/
def neverRaw : List String := ["_", "super", "self", "Self", "crate"]

/-- A name at the front of a text. -/
def name? (cs : List Char) : Option (List Char × List Char) :=
  match cs with
  | [] => none
  | c :: rest =>
    if Text.isIdentifierStart c then
      some (c :: rest.takeWhile Text.isIdentifierContinue, rest.dropWhile Text.isIdentifierContinue)
    else none

/-- The characters that a backslash may stand before. -/
def escapable : List Char := ['n', 'r', 't', '\\', '\'', '"', '0']

/-- A text behind its first quote, up to and with its last one. -/
def quoted? : List Char → Option (List Char × List Char)
  | '"' :: cs => some (['"'], cs)
  | '\\' :: c :: cs =>
    if c ∈ escapable then (quoted? cs).map fun (text, rest) => ('\\' :: c :: text, rest) else none
  | '\r' :: '\n' :: cs => (quoted? cs).map fun (text, rest) => ('\r' :: '\n' :: text, rest)
  | '\r' :: _ => none
  | c :: cs => (quoted? cs).map fun (text, rest) => (c :: text, rest)
  | [] => none

/-- What a single quote begins: a character, or a lifetime. -/
def apostrophe? : List Char → Option (PathToken × List Char)
  | '\\' :: c :: '\'' :: cs =>
    if c ∈ escapable then some (.literal (String.ofList ['\'', '\\', c, '\'']), cs) else none
  | c :: '\'' :: cs =>
    if c = '\\' then none else some (.literal (String.ofList ['\'', c, '\'']), cs)
  | cs =>
    match name? cs with
    | some (_, '\'' :: _) | some (_, '#' :: _) => none
    | some (word, rest) => some (.lifetime (String.ofList ('\'' :: word)), rest)
    | none => none

/-- The types that a number may name. -/
def numberTypes : List String :=
  ["u8", "u16", "u32", "u64", "u128", "usize", "i8", "i16", "i32", "i64", "i128", "isize", "f32",
    "f64"]

/-- A number: digits with underscores between them, and maybe its type. -/
def number? (cs : List Char) : Option (PathToken × List Char) :=
  let isPart (c : Char) : Bool := c.isDigit || c == '_'
  let digits := cs.takeWhile isPart
  match name? (cs.dropWhile isPart) with
  | some (word, rest) =>
    if String.ofList word ∈ numberTypes then some (.literal (String.ofList (digits ++ word)), rest)
    else none
  | none => some (.literal (String.ofList digits), cs.dropWhile isPart)

/-! ### Tokens -/

/-- The marks that types are written with. -/
def marks : List Char := ['<', '>', ',', '=', '&', '*', '!', '-', ';', '(', ')', '[', ']']

/-- A token at the front of a text. -/
def token? : List Char → Option (PathToken × List Char)
  | ':' :: ':' :: cs => some (.colons, cs)
  | 'r' :: '#' :: cs =>
    match name? cs with
    | some (word, rest) =>
      if String.ofList word ∈ neverRaw then none
      else some (.name (String.ofList ('r' :: '#' :: word)), rest)
    | none => none
  | '"' :: cs =>
    (quoted? cs).map fun (text, rest) => (.literal (String.ofList ('"' :: text)), rest)
  | '\'' :: cs => apostrophe? cs
  | c :: cs =>
    if c ∈ marks then some (.mark c, cs)
    else if c.isDigit then number? (c :: cs)
    else (name? (c :: cs)).map fun (word, rest) => (.name (String.ofList word), rest)
  | [] => none

/-- The tokens of a text; each takes at least one character. -/
def tokens? : Nat → List Char → Option (List PathToken)
  | 0, _ => some []
  | rounds + 1, cs =>
    match skipBlanks cs.length cs with
    | [] => some []
    | rest =>
      match token? rest with
      | some (t, rest) => (tokens? rounds rest).map (t :: ·)
      | none => none

end Redaction.Code.Path
