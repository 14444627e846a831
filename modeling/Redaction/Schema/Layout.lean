import Redaction.Code.Identifier
import Redaction.Schema.Load

/-!
# The layouts of a schema

How the messages of a schema are laid out: by their fields in the order of declaration, where the
members of a oneof are one field, in the place of the first of them. Fields and variants have the
names that they have in code. Wrappers and the empty message are no structures there, so they have
no name to report errors under.
-/

namespace Redaction.Schema

open Wire

/-! ### Fields -/

/-- The field name in code; a name without an identifier stays as it is. -/
def codeName (name : String) : String := (Code.snakeIdentifier? name).getD name

/-- The name of a type or variant in code. -/
def codeTypeName (name : String) : String := (Code.camelIdentifier? name).getD name

/-- The type of a single value of a field. -/
def kindOf (f : FieldDescriptor) : Kind TypeName :=
  match FieldType.ofNumber? (f.type.getD 0) with
  | some (.scalar s) => .scalar s
  | _ => .message (.ofReference (f.typeName.getD ""))

def numberOf (f : FieldDescriptor) : Nat := (f.number.getD 0).toInt.toNat

/-- The entry type of a map field. -/
def mapEntry? (index : Index) (f : FieldDescriptor) : Option MessageDescriptor :=
  if isRepeated f then
    match kindOf f with
    | .message type => (index.message? type.text).filter (·.isMapEntry)
    | .scalar _ => none
  else none

/-- The scalar type of the keys of a map. -/
def keyScalar (entry : MessageDescriptor) : Scalar :=
  match (entry.field.find? (·.number == some 1)).map kindOf with
  | some (.scalar s) => s
  | _ => .string

/-- The type of the values of a map. -/
def valueKind (entry : MessageDescriptor) : Kind TypeName :=
  ((entry.field.find? (·.number == some 2)).map kindOf).getD (.scalar .bytes)

/-- The shape of a field outside of a oneof. -/
def shapeOf (index : Index) (proto3 : Bool) (f : FieldDescriptor) : Shape TypeName :=
  match mapEntry? index f with
  | some entry => .map (numberOf f) (keyScalar entry) (valueKind entry)
  | none =>
    if isRepeated f then .repeated (numberOf f) (kindOf f)
    else
      match kindOf f with
      | .message _ => .optional (numberOf f) (kindOf f)
      | .scalar _ =>
        if tellsUnset proto3 f then .optional (numberOf f) (kindOf f)
        else .implicit (numberOf f) (kindOf f)

/-- The member of a oneof that a field is. -/
def memberOf (f : FieldDescriptor) : Member TypeName :=
  ⟨codeTypeName (f.name.getD ""), numberOf f, kindOf f⟩

/-- The field of the oneof at a place. -/
def oneofField (m : MessageDescriptor) (place : Nat) : Wire.Field TypeName :=
  let name := ((m.oneof[place]?).bind (·.name)).getD ""
  ⟨codeName name, .oneof ((m.field.filter (oneofIndex · == some place)).map memberOf)⟩

/-- The layout of some fields of a message, of whose oneofs those in `seen` have their field. -/
def layoutFields (index : Index) (proto3 : Bool) (m : MessageDescriptor) :
    List Nat → List FieldDescriptor → List (Wire.Field TypeName)
  | _, [] => []
  | seen, f :: fs =>
    match oneofIndex f with
    | some place =>
      if seen.contains place then layoutFields index proto3 m seen fs
      else oneofField m place :: layoutFields index proto3 m (place :: seen) fs
    | none =>
      ⟨codeName (f.name.getD ""), shapeOf index proto3 f⟩ :: layoutFields index proto3 m seen fs

/-! ### Messages -/

/-- Whether a message type is a structure in code. -/
def isStructure (type : TypeName) : Bool :=
  match WellKnown.ofName? type with
  | some .empty | some (.wrapper _) => false
  | _ => true

/-- The layout of a message declared in `file`. -/
def layoutOf (index : Index) (file : FileDescriptor) (type : TypeName) (m : MessageDescriptor) :
    Layout TypeName :=
  { name := if isStructure type then some (codeTypeName (m.name.getD "")) else none
    fields := layoutFields index (file.syntaxName == some "proto3") m [] m.field }

/-- **The layouts of all messages** of some files. -/
def layouts (index : Index) (files : List FileDescriptor) : List (TypeName × Layout TypeName) :=
  files.flatMap fun file =>
    (walkMessages [] file.message).map fun (path, m) =>
      let type := TypeName.ofReference (qualify (file.package.getD "") path)
      (type, layoutOf index file type m)

end Redaction.Schema
