/-!
# Names of message types

A message type is known by its full name, package and enclosing messages first, without a leading
dot. References in a schema are written with one.
-/

namespace Redaction

/-- The full name of a message type. -/
structure TypeName where
  text : String
deriving DecidableEq, Inhabited

namespace TypeName

/-- The characters after one leading dot. -/
def dropDot : List Char → List Char
  | '.' :: cs => cs
  | cs => cs

/-- **The type that a reference names:** one leading dot is not part of the name. -/
def ofReference (reference : String) : TypeName := ⟨String.ofList (dropDot reference.toList)⟩

/-- Names are ordered by their texts. -/
instance : LT TypeName := ⟨fun a b => a.text < b.text⟩

instance : DecidableLT TypeName := fun a b => inferInstanceAs (Decidable (a.text < b.text))

end TypeName

/-- A path of names under a package, joined by dots; the empty package adds nothing. -/
def qualify (package : String) (path : List String) : String :=
  let joined := String.intercalate "." path
  if package.isEmpty then joined else package ++ "." ++ joined

end Redaction
