import Redaction.Code.PathToken
import Redaction.Code.Identifier

/-!
# Paths

A path names an item of some crate: segments with `::` between them, and possibly in front. A
segment is an identifier that may have generic arguments, which are lifetimes, types, literals, and
names that are set to one of these. Keywords are no segments except those that start paths, and
only `Self` of those has arguments.

Options give paths as texts. `Path.ofText?` reads those whose arguments have the tokens of
`Path.tokens?` and are made of the types here: paths, which may be qualified, references, pointers,
tuples, slices, arrays with a literal length, `!` and `_`. The types of functions, those with bounds,
macros and constants in braces are left to other readers.
-/

namespace Redaction.Code

/-- A segment of a path: a name and the generic arguments behind it, if it has any. These are the
tokens as they are printed, a group in brackets being one. -/
structure PathSegment where
  name : String
  arguments : List String := []
deriving DecidableEq

/-- The tokens of a segment. -/
def PathSegment.words (s : PathSegment) : List String := s.name :: s.arguments

/-- A path. -/
structure Path where
  /-- Whether `::` stands in front. -/
  isGlobal : Bool
  segments : List PathSegment
deriving DecidableEq, Inhabited

namespace Path

/-- The tokens of segments, with colons between them. -/
def segmentWords (ss : List PathSegment) : List String :=
  List.intercalate ["::"] (ss.map PathSegment.words)

/-- The tokens of a path. -/
def words (p : Path) : List String :=
  (if p.isGlobal then ["::"] else []) ++ segmentWords p.segments

/-! ### Generic arguments -/

/-- A group as one token. -/
def group (opening : String) (inner : List String) (closing : String) : String :=
  opening ++ " ".intercalate inner ++ closing

/-- A type, or a constant that stands in the place of one. -/
inductive Value where
  | path (p : Path)
  | other (words : List String)

/-- The tokens of a type or constant. -/
def Value.words : Value → List String
  | path p => p.words
  | other ws => ws

/-- Whether an argument of that name may be set. -/
def Value.isSettable : Value → Bool
  | path p => !p.isGlobal && p.segments.length == 1
  | other _ => false

/-- A generic argument, and whether a comma follows it. -/
structure Argument where
  isLifetime : Bool
  words : List String
  hasComma : Bool := false

/-- Arguments with commas between them. The last one keeps its own. -/
def argumentWords : List Argument → List String
  | [] => []
  | [a] => a.words ++ if a.hasComma then [","] else []
  | a :: next :: rest => a.words ++ "," :: argumentWords (next :: rest)

/-- Arguments as they are printed, lifetimes first. -/
def printed (as : List Argument) : List String :=
  "<" :: argumentWords (as.filter (·.isLifetime) ++ as.filter (!·.isLifetime)) ++ [">"]

/-! ### The grammar of paths -/

/-- The words that no segment of a path may be. -/
def refusedSegments : List String :=
  ["_", "abstract", "as", "async", "await", "become", "box", "break", "const", "continue", "do",
    "dyn", "else", "enum", "extern", "false", "final", "fn", "for", "if", "impl", "in", "let",
    "loop", "macro", "match", "mod", "move", "mut", "override", "priv", "pub", "ref", "return",
    "static", "struct", "trait", "true", "try", "type", "typeof", "unsafe", "unsized", "use",
    "virtual", "where", "while", "yield"]

/-- The segments that have no arguments. -/
def bareSegments : List String := ["super", "self", "crate"]

/-- A constant at the front: a literal, a truth value or a negative number. -/
def constant? : List PathToken → Option (String × List PathToken)
  | .literal s :: ts => some (s, ts)
  | .name "true" :: ts => some ("true", ts)
  | .name "false" :: ts => some ("false", ts)
  | .mark '-' :: .literal s :: ts => if s.startsWith Char.isDigit then some ("-" ++ s, ts) else none
  | _ => none

/-- What stands between `&` and a type. -/
def modifiers : List PathToken → List String × List PathToken
  | .lifetime s :: .name "mut" :: ts => ([s, "mut"], ts)
  | .lifetime s :: ts => ([s], ts)
  | .name "mut" :: ts => (["mut"], ts)
  | ts => ([], ts)

/-! Each of the readers below takes what it reads from the front, and `n` bounds how deep they call
one another. -/

mutual
/-- A path. -/
def path? : Nat → List PathToken → Option (Path × List PathToken)
  | 0, _ => none
  | n + 1, .colons :: ts => (segments? n ts).map fun (ss, ts) => (⟨true, ss⟩, ts)
  | n + 1, ts => (segments? n ts).map fun (ss, ts) => (⟨false, ss⟩, ts)

/-- Segments with colons between them. -/
def segments? : Nat → List PathToken → Option (List PathSegment × List PathToken)
  | 0, _ => none
  | n + 1, ts =>
    match segment? n ts with
    | some (s, .colons :: ts) => (segments? n ts).map fun (ss, ts) => (s :: ss, ts)
    | some (s, ts) => some ([s], ts)
    | none => none

/-- A segment with its arguments. -/
def segment? : Nat → List PathToken → Option (PathSegment × List PathToken)
  | n + 1, .name s :: ts =>
    if s ∈ refusedSegments then none
    else if s ∈ bareSegments then some (⟨s, []⟩, ts)
    else
      match ts with
      | .mark '<' :: ts => (arguments? n ts).map fun (as, ts) => (⟨s, printed as⟩, ts)
      | .colons :: .mark '<' :: ts =>
        (arguments? n ts).map fun (as, ts) => (⟨s, "::" :: printed as⟩, ts)
      | ts => some (⟨s, []⟩, ts)
  | _, _ => none

/-- Arguments behind the opening bracket, up to and with the closing one. -/
def arguments? : Nat → List PathToken → Option (List Argument × List PathToken)
  | 0, _ => none
  | _ + 1, .mark '>' :: ts => some ([], ts)
  | n + 1, ts =>
    match argument? n ts with
    | some (a, .mark '>' :: ts) => some ([a], ts)
    | some (a, .mark ',' :: ts) =>
      (arguments? n ts).map fun (as, ts) => ({ a with hasComma := true } :: as, ts)
    | _ => none

/-- One argument. -/
def argument? : Nat → List PathToken → Option (Argument × List PathToken)
  | 0, _ => none
  | _ + 1, .lifetime s :: ts => some (⟨true, [s], false⟩, ts)
  | n + 1, ts =>
    match value? n ts with
    | some (name, .mark '=' :: ts) =>
      if name.isSettable then
        (value? n ts).map fun (v, ts) => (⟨false, name.words ++ "=" :: v.words, false⟩, ts)
      else none
    | some (v, ts) => some (⟨false, v.words, false⟩, ts)
    | none => none

/-- A constant or a type. -/
def value? : Nat → List PathToken → Option (Value × List PathToken)
  | 0, _ => none
  | n + 1, ts =>
    match constant? ts with
    | some (s, ts) => some (.other [s], ts)
    | none => type? n ts

/-- A type. -/
def type? : Nat → List PathToken → Option (Value × List PathToken)
  | 0, _ => none
  | _ + 1, .name "_" :: ts => some (.other ["_"], ts)
  | _ + 1, .mark '!' :: ts => some (.other ["!"], ts)
  | n + 1, .mark '&' :: ts =>
    (type? n (modifiers ts).2).map fun (t, rest) => (.other ("&" :: (modifiers ts).1 ++ t.words), rest)
  | n + 1, .mark '*' :: .name s :: ts =>
    if s = "const" ∨ s = "mut" then
      (type? n ts).map fun (t, ts) => (.other ("*" :: s :: t.words), ts)
    else none
  | n + 1, .mark '(' :: ts =>
    (types? n ts).map fun (inner, ts) => (.other [group "(" inner ")"], ts)
  | n + 1, .mark '[' :: ts =>
    match type? n ts with
    | some (t, .mark ']' :: ts) => some (.other [group "[" t.words "]"], ts)
    | some (t, .mark ';' :: .literal s :: .mark ']' :: ts) =>
      some (.other [group "[" (t.words ++ [";", s]) "]"], ts)
    | _ => none
  | n + 1, .mark '<' :: ts =>
    match type? n ts with
    | some (t, ts) => (qualified? n ts).map fun (ws, ts) => (.other ("<" :: t.words ++ ws), ts)
    | none => none
  | n + 1, ts => (path? n ts).map fun (p, ts) => (.path p, ts)

/-- Types with commas between them, up to and with the closing parenthesis. -/
def types? : Nat → List PathToken → Option (List String × List PathToken)
  | 0, _ => none
  | _ + 1, .mark ')' :: ts => some ([], ts)
  | n + 1, ts =>
    match type? n ts with
    | some (t, .mark ')' :: ts) => some (t.words, ts)
    | some (t, .mark ',' :: ts) =>
      (types? n ts).map fun (inner, ts) => (t.words ++ "," :: inner, ts)
    | _ => none

/-- What follows the type that a path is qualified by. -/
def qualified? : Nat → List PathToken → Option (List String × List PathToken)
  | 0, _ => none
  | n + 1, .name "as" :: ts =>
    match path? n ts with
    | some (p, .mark '>' :: .colons :: ts) =>
      (segments? n ts).map fun (ss, ts) =>
        ("as" :: p.words ++ ">" :: "::" :: segmentWords ss, ts)
    | _ => none
  | n + 1, .mark '>' :: .colons :: ts =>
    (segments? n ts).map fun (ss, ts) => (">" :: "::" :: segmentWords ss, ts)
  | _ + 1, _ => none
end

/-! ### Paths of texts -/

/-- The path of a list of tokens. No reader calls more than eight others before it takes one. -/
def ofTokens? (ts : List PathToken) : Option Path :=
  match path? (8 * ts.length + 8) ts with
  | some (p, []) => some p
  | _ => none

/-- A text without the mark that some editors put in front of it. -/
def dropMark : List Char → List Char
  | '\uFEFF' :: cs => cs
  | cs => cs

/-- **The path that a text writes,** if it writes one of those here. -/
def ofText? (s : String) : Option Path :=
  let cs := dropMark s.toList
  (tokens? (cs.length + 1) cs).bind ofTokens?

example : ofText? "logs<u8, 'a>::slog" =
    some ⟨false, [⟨"logs", ["<", "'a", ",", "u8", ",", ">"]⟩, ⟨"slog", []⟩]⟩ := by decide +kernel

/-- The path of the crate in which the generated code stands. -/
def ownCrate : Path := ⟨false, [⟨"crate", []⟩]⟩

/-- The path of a crate by its name. -/
def ofCrate (name : String) : Path := ⟨true, [⟨name, []⟩]⟩

end Path

end Redaction.Code
