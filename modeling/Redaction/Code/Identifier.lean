import Redaction.Text.IdentifierChars
import Redaction.Text.Words

/-!
# Identifiers

The identifiers of generated code. A declaration keeps its words and changes their case: fields and
modules are in `snake_case`, types and variants in `UpperCamelCase`. A result that is a keyword of
Rust is written as a raw identifier, or with an underscore behind it where there is no raw form.

Not every name has an identifier: the words of a name may be none or start with a digit
(`snakeIdentifier?`, `camelIdentifier?`).
-/

namespace Redaction.Code

open Text

/-- The keywords that a raw identifier may spell. -/
def rawKeywords : List String :=
  ["abstract", "as", "async", "await", "become", "box", "break", "const", "continue", "do", "dyn",
    "else", "enum", "false", "final", "fn", "for", "gen", "if", "impl", "in", "let", "loop",
    "macro", "match", "mod", "move", "mut", "override", "priv", "pub", "ref", "return", "static",
    "struct", "trait", "true", "try", "type", "typeof", "unsafe", "unsized", "use", "virtual",
    "where", "while", "yield"]

/-- The keywords that no raw identifier may spell. -/
def plainKeywords : List String := ["self", "super", "extern", "crate"]

/-- **The form of an identifier:** a letter or an underscore, then also digits. -/
def isIdentifier : List Char → Bool
  | [] => false
  | c :: cs => isIdentifierStart c && cs.all isIdentifierContinue

/-- Keywords have the form of identifiers. -/
theorem isIdentifier_of_mem_rawKeywords : ∀ k ∈ rawKeywords, isIdentifier k.toList := by decide

/-- The text if it has the form of an identifier. -/
def identifier? (s : String) : Option String := if isIdentifier s.toList then some s else none

/-- The identifier of a field or a module; none can be made of some names. -/
def snakeIdentifier? (name : String) : Option String :=
  let snake := String.ofList (snake name.toList)
  if snake ∈ plainKeywords then some (snake ++ "_")
  else if snake ∈ rawKeywords then some ("r#" ++ snake)
  else identifier? snake

/-- The identifier of a type or a variant; none can be made of some names. -/
def camelIdentifier? (name : String) : Option String :=
  let camel := String.ofList (upperCamel name.toList)
  if camel = "Self" then some "Self_" else identifier? camel

end Redaction.Code
