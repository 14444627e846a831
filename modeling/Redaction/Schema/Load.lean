import Redaction.Ordered
import Redaction.Schema.Index

/-!
# Loading a schema

The descriptors of all files become a `Schema`, or the first thing that is wrong with them is
reported. All names are indexed first; then the messages are classified file by file, outer before
nested. The entry messages of maps, and what may be declared inside them, are no messages of the
schema.
-/

namespace Redaction.Schema

/-! ### Fields -/

/-- The type of a field; none set counts as zero, which is no type. -/
def fieldType (fullName : String) (f : FieldDescriptor) : Except Error FieldType :=
  let number := f.type.getD 0
  match FieldType.ofNumber? number with
  | some type => .ok type
  | none => .error (.unsupportedFieldType fullName number)

/-- Whether a field is repeated; a label that is none counts as optional. -/
def isRepeated (f : FieldDescriptor) : Bool := f.label.bind Label.ofNumber? == some .repeated

/-- Whether a field is one of an `optional` declaration, whose oneof is not a real one. -/
def isSynthetic (f : FieldDescriptor) : Bool := f.proto3Optional.getD false

/-- Whether a singular scalar tells unset from default: `optional` declarations do, and in older
files every scalar that is not required. -/
def tellsUnset (proto3 : Bool) (f : FieldDescriptor) : Bool :=
  isSynthetic f || (!proto3 && (f.label.bind Label.ofNumber?).getD .optional == .optional)

/-- The element type of a map value. -/
def mapValue (index : Index) (fullName : String) (value : FieldDescriptor) :
    Except Error ElementType := do
  match ← fieldType fullName value with
  | .message | .group => return .message (← index.resolveMessage fullName value)
  | .scalar .enumeration =>
    index.resolveEnum fullName value
    return .scalar .enumeration
  | .scalar s => return .scalar (.ofScalar s)

/-- The category of a map field with the given entry message. -/
def mapCategory (index : Index) (fullName entryName : String) (entry : MessageDescriptor) :
    Except Error Category := do
  let malformed := Error.malformedMapEntry entryName
  let some key := entry.field.find? (·.number == some 1) | throw malformed
  let some value := entry.field.find? (·.number == some 2) | throw malformed
  let some keyKind := ScalarKind.ofType? (← fieldType fullName key) | throw malformed
  return .map keyKind (← mapValue index fullName value)

/-- The category of a field that refers to a message: a map if it repeats an entry message. -/
def messageCategory (index : Index) (fullName : String) (f : FieldDescriptor) :
    Except Error (Category × Cardinality) := do
  let type ← index.resolveMessage fullName f
  match index.message? type.text with
  | some entry =>
    if entry.isMapEntry ∧ isRepeated f then
      return (← mapCategory index fullName type.text entry, .map)
    else return (.message type, .singular)
  | none => return (.message type, .singular)

/-- The category of a field, and whether it is a map. -/
def categoryOf (index : Index) (fullName : String) (f : FieldDescriptor) :
    Except Error (Category × Cardinality) := do
  match ← fieldType fullName f with
  | .message | .group => messageCategory index fullName f
  | .scalar .enumeration =>
    index.resolveEnum fullName f
    return (.scalar .enumeration, .singular)
  | .scalar s => return (.scalar (.ofScalar s), .singular)

/-- The place of the oneof that a field names, unless it is not a real one or negative. -/
def oneofIndex (f : FieldDescriptor) : Option Nat :=
  if isSynthetic f then none
  else f.oneofIndex.bind fun i => if i.toInt < 0 then none else some i.toInt.toNat

/-- **A field of the message `owner`.** -/
def Field.ofDescriptor (index : Index) (owner : TypeName) (proto3 : Bool) (f : FieldDescriptor) :
    Except Error Field := do
  let some name := f.name | throw (.missingDescriptorField "FieldDescriptorProto.name")
  let fullName := owner.text ++ "." ++ name
  let (category, form) ← categoryOf index fullName f
  let cardinality := if form = .singular ∧ isRepeated f then .repeated else form
  let isScalar := match category with
    | .scalar _ => true
    | _ => false
  return {
    name, fullName, category, cardinality
    jsonName := f.jsonName.getD (outputKey name)
    explicitPresence := cardinality == .singular && isScalar && tellsUnset proto3 f
    oneof := oneofIndex f
    rules := f.rules }

/-! ### Messages -/

/-- The field whose oneof is not among the first `count`, if there is one. -/
def strayMember? (count : Nat) (fields : List Field) : Option (Field × Nat) :=
  fields.findSome? fun f => f.oneof.bind fun i => if count ≤ i then some (f, i) else none

/-- **A message type,** declared in `file` at `path`. -/
def Message.ofDescriptor (index : Index) (file : FileDescriptor) (path : List String)
    (m : MessageDescriptor) : Except Error Message := do
  let id := TypeName.ofReference (qualify (file.package.getD "") path)
  let proto3 := file.syntaxName == some "proto3"
  let fields ← m.field.mapM (Field.ofDescriptor index id proto3)
  if let some (f, i) := strayMember? m.oneof.length fields then
    throw (.unknownOneof f.fullName i)
  return {
    id, path, fields
    file := file.name.getD ""
    nested := (m.nested.filter (!·.isMapEntry)).map fun n =>
      TypeName.ofReference (id.text ++ "." ++ n.name.getD "")
    oneofs := m.oneof.map fun o => o.name.getD "" }

mutual
/-- A message and the messages inside it with their paths, outer before nested; an entry message is
left out with all that is inside it. -/
def walkMessage (path : List String) :
    MessageDescriptor → List (List String × MessageDescriptor)
  | ⟨name, field, nested, enum, options, oneof⟩ =>
    let m : MessageDescriptor := ⟨name, field, nested, enum, options, oneof⟩
    let path := path ++ [name.getD ""]
    if m.isMapEntry then [] else (path, m) :: walkMessages path nested

/-- The messages that stand side by side and those inside them. -/
def walkMessages (path : List String) :
    List MessageDescriptor → List (List String × MessageDescriptor)
  | [] => []
  | m :: ms => walkMessage path m ++ walkMessages path ms
end

/-! ### Files -/

/-- The messages of a file in the order of declaration. -/
def fileMessages (index : Index) (file : FileDescriptor) : Except Error (List Message) :=
  (walkMessages [] file.message).mapM fun (path, m) => Message.ofDescriptor index file path m

/-- The schema with one more file. -/
def addFile (file : FileDescriptor) (generate : Bool) (messages : List Message) (s : Schema) :
    Schema :=
  { files := s.files ++ [{
      name := file.name.getD ""
      package := file.package.getD ""
      generate
      messages := messages.map (·.id) }]
    messages := messages.foldl (fun table m => Ordered.insert m.id m table) s.messages }

/-- Adds files one after the other. -/
def addFiles (index : Index) (requested : List String) :
    List FileDescriptor → Schema → Except Error Schema
  | [], s => .ok s
  | file :: files, s => do
    let messages ← fileMessages index file
    addFiles index requested files
      (addFile file (requested.contains (file.name.getD "")) messages s)

/-- **The schema of all files,** of which output is requested for those that are named. -/
def ofFiles (files : List FileDescriptor) (requested : List String) : Except Error Schema := do
  let index ← Index.ofFiles files
  addFiles index requested files {}

end Redaction.Schema
