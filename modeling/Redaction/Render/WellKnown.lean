import Redaction.Render.Scalar
import Redaction.Text.Words

/-!
# Other well-known types as JSON

A dynamic value is JSON in the form of a message, and shows as the JSON that it describes; a value
whose kind is not set shows as null. Field masks show as paths in `lowerCamelCase`. A packed message
shows as nothing but its type, because what is packed may be what nobody is to see.
-/

namespace Redaction.Render

open Number

/-- JSON in the form of a message. -/
inductive Dynamic where
  | unset
  | null
  | number (x : Double)
  | text (s : String)
  | bool (b : Bool)
  | struct (fields : List (String × Dynamic))
  | list (items : List Dynamic)
deriving Inhabited

namespace Dynamic

mutual
/-- **The JSON that a dynamic value describes.** -/
def json : Dynamic → Json
  | unset => .null
  | null => .null
  | number x => double x
  | text s => .text s
  | bool b => .bool b
  | struct fields => .object (Ordered.ofList (jsonFields fields))
  | list items => .array (jsonItems items)

def jsonFields : List (String × Dynamic) → List (String × Json)
  | [] => []
  | (key, value) :: rest => (key, json value) :: jsonFields rest

def jsonItems : List Dynamic → List Json
  | [] => []
  | item :: rest => json item :: jsonItems rest
end

end Dynamic

/-- A path of field names in `lowerCamelCase`, each name by itself. -/
def maskPath (path : String) : List Char :=
  List.intercalate ['.'] ((path.toList.splitOn '.').map Text.lowerCamel)

/-- **A field mask:** its paths with commas between them. -/
def fieldMask (paths : List String) : Json :=
  .text (String.ofList (List.intercalate [','] (paths.map maskPath)))

/-- **A packed message:** its type. -/
def packed (typeUrl : String) : Json := .object [("@type", .text typeUrl)]

/-- A message without fields. -/
def empty : Json := .object []

end Redaction.Render
