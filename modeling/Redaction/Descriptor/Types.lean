import Redaction.Wire.Layout

/-!
# Descriptors

A schema reaches the generator as descriptors: trees that say which files declare which messages,
enums and fields, and which rules the fields carry. Everything a descriptor may leave unset is an
`Option`, because an unset text and an empty one are different things.

A field's rules say whether it is redacted and may override the mask; the override has a type of its
own, which need not fit the field.
-/

namespace Redaction

open Number

/-! ### Numbers of types and labels -/

/-- The type of a field: a scalar type, a group or a message. -/
inductive FieldType where
  | scalar (s : Wire.Scalar)
  | group
  | message
deriving DecidableEq

/-- The number of a field type in a descriptor. -/
def FieldType.number : FieldType → Int32
  | scalar .double => 1
  | scalar .float => 2
  | scalar .int64 => 3
  | scalar .uint64 => 4
  | scalar .int32 => 5
  | scalar .fixed64 => 6
  | scalar .fixed32 => 7
  | scalar .bool => 8
  | scalar .string => 9
  | group => 10
  | message => 11
  | scalar .bytes => 12
  | scalar .uint32 => 13
  | scalar .enumeration => 14
  | scalar .sfixed32 => 15
  | scalar .sfixed64 => 16
  | scalar .sint32 => 17
  | scalar .sint64 => 18

/-- Every field type, in the order of the numbers. -/
def FieldType.all : List FieldType :=
  [scalar .double, scalar .float, scalar .int64, scalar .uint64, scalar .int32, scalar .fixed64,
    scalar .fixed32, scalar .bool, scalar .string, group, message, scalar .bytes, scalar .uint32,
    scalar .enumeration, scalar .sfixed32, scalar .sfixed64, scalar .sint32, scalar .sint64]

/-- **The field type of a number,** if there is one. -/
def FieldType.ofNumber? (n : Int32) : Option FieldType := all.find? (·.number == n)

/-- How often a field may occur. -/
inductive Label where
  | optional
  | required
  | repeated
deriving DecidableEq

/-- The number of a label in a descriptor. -/
def Label.number : Label → Int32
  | optional => 1
  | required => 2
  | repeated => 3

/-- The label of a number, if there is one. -/
def Label.ofNumber? (n : Int32) : Option Label :=
  [optional, required, repeated].find? (·.number == n)

/-! ### Rules -/

/-- A mask override, under the key of its type. -/
inductive Override where
  | string (mask : String)
  | int (mask : Int64)
  | double (mask : Double)
  | bool (mask : Bool)
  | bytes (mask : String)
  | enum (mask : Int32)
deriving DecidableEq

/-- The key of an override in a schema. -/
def Override.key : Override → String
  | string _ => "string_mask"
  | int _ => "int_mask"
  | double _ => "double_mask"
  | bool _ => "bool_mask"
  | bytes _ => "bytes_mask"
  | enum _ => "enum_mask"

/-- **The rules of a field:** whether it is redacted, and an override of its mask. -/
structure Rules where
  redact : Bool := false
  mask : Option Override := none
deriving DecidableEq, Inhabited

/-! ### Declarations -/

/-- The options of a field that matter here. -/
structure FieldOptions where
  redact : Option Rules := none
deriving DecidableEq, Inhabited

/-- The options of a message that matter here. -/
structure MessageOptions where
  mapEntry : Option Bool := none
deriving DecidableEq, Inhabited

/-- A field of a message. -/
structure FieldDescriptor where
  name : Option String := none
  number : Option Int32 := none
  label : Option Int32 := none
  type : Option Int32 := none
  typeName : Option String := none
  options : Option FieldOptions := none
  oneofIndex : Option Int32 := none
  jsonName : Option String := none
  proto3Optional : Option Bool := none
deriving DecidableEq, Inhabited

/-- A oneof of a message. -/
structure OneofDescriptor where
  name : Option String := none
deriving DecidableEq, Inhabited

/-- An enum; its values do not matter here. -/
structure EnumDescriptor where
  name : Option String := none
deriving DecidableEq, Inhabited

/-- A message with its fields and the types declared inside it. -/
structure MessageDescriptor where
  name : Option String := none
  field : List FieldDescriptor := []
  nested : List MessageDescriptor := []
  enum : List EnumDescriptor := []
  options : Option MessageOptions := none
  oneof : List OneofDescriptor := []
deriving Inhabited

/-- A file of declarations. -/
structure FileDescriptor where
  name : Option String := none
  package : Option String := none
  dependency : List String := []
  message : List MessageDescriptor := []
  enum : List EnumDescriptor := []
  syntaxName : Option String := none
deriving Inhabited

/-- A set of files. -/
structure FileSet where
  file : List FileDescriptor := []
deriving Inhabited

/-! ### Requests and responses -/

/-- What the compiler asks of the generator. -/
structure Request where
  fileToGenerate : List String := []
  parameter : Option String := none
  protoFile : List FileDescriptor := []
deriving Inhabited

/-- A file that the generator hands back. -/
structure ResponseFile where
  name : Option String := none
  insertionPoint : Option String := none
  content : Option String := none
deriving DecidableEq, Inhabited

/-- **What the generator answers:** files, or an error without files. -/
structure Response where
  error : Option String := none
  supportedFeatures : Option UInt64 := none
  file : List ResponseFile := []
deriving DecidableEq, Inhabited

/-! ### What descriptors say -/

/-- Whether the message is the entry type of a map field. -/
def MessageDescriptor.isMapEntry (m : MessageDescriptor) : Bool :=
  (m.options.bind (·.mapEntry)).getD false

/-- The rules that a field carries. -/
def FieldDescriptor.rules (f : FieldDescriptor) : Option Rules := f.options.bind (·.redact)

end Redaction
