import Redaction.Text.Alphanumeric
import Redaction.Text.LetterCase

/-!
# Words and the cases of names

A name is cut into words, and the words are put together again in one of three ways: `snake_case`,
`UpperCamelCase` and `lowerCamelCase`.

* A character that is neither letter nor digit separates words and is dropped (`pieces`).
* Inside a piece a word ends before an upper-case letter that follows lower case, and before the
  last upper-case letter of a run that lower case follows (`cutWords`): `HTTPServer` is `HTTP`,
  `Server`.
  Characters without case, digits among them, never end a word.

Nothing but separators is lost: the words of a piece, written one after the other, are the piece
(`flatten_cutWords`).
-/

namespace Redaction.Text

/-! ### Cutting a name into words -/

/-- The case of the last cased letter of the word that is being read. -/
inductive LastCase where
  | unseen
  | lower
  | upper
deriving DecidableEq

/-- The case after one more character; a character without case leaves it. -/
def LastCase.after (m : LastCase) (c : Char) : LastCase :=
  if isLower c then .lower else if isUpper c then .upper else m

/-- The words of a piece, of which `word` has been read of the first one. -/
def cutWords : LastCase → List Char → List Char → List (List Char)
  | _, _, [] => []
  | _, word, [c] => [word ++ [c]]
  | m, word, c :: next :: rest =>
    if m.after c = .lower ∧ isUpper next then
      (word ++ [c]) :: cutWords .unseen [] (next :: rest)
    else if m = .upper ∧ isUpper c ∧ isLower next then
      word :: cutWords .unseen [c] (next :: rest)
    else
      cutWords (m.after c) (word ++ [c]) (next :: rest)

/-- The runs of letters and digits of a name; two separators in a row have an empty one between. -/
def pieces (cs : List Char) : List (List Char) := cs.splitOnP (!isAlphanumeric ·)

/-- **The words of a name.** -/
def words (cs : List Char) : List (List Char) := (pieces cs).flatMap (cutWords .unseen [])

theorem flatten_cutWords (m : LastCase) (word cs : List Char) (h : cs ≠ []) :
    (cutWords m word cs).flatten = word ++ cs := by
  fun_induction cutWords m word cs <;> simp_all

/-! ### Putting words together -/

/-- A word in lower case; a capital sigma at its end takes the final form. -/
def lowerWord : List Char → List Char
  | [] => []
  | [c] => if c = 'Σ' then ['ς'] else lower c
  | c :: next :: rest => lower c ++ lowerWord (next :: rest)

/-- A word with its first letter in upper case and the rest in lower case. -/
def capitalWord : List Char → List Char
  | [] => []
  | c :: rest => upper c ++ lowerWord rest

/-- `snake_case`: the words in lower case, joined by underscores. -/
def snake (cs : List Char) : List Char := List.intercalate ['_'] ((words cs).map lowerWord)

/-- `UpperCamelCase`: the words capitalised, joined by nothing. -/
def upperCamel (cs : List Char) : List Char := (words cs).flatMap capitalWord

/-- `lowerCamelCase`: the first word in lower case, the others capitalised. -/
def lowerCamel (cs : List Char) : List Char :=
  match words cs with
  | [] => []
  | w :: ws => lowerWord w ++ ws.flatMap capitalWord

end Redaction.Text
