import Redaction.Descriptor.Types
import Redaction.Schema.TypeName

/-!
# Categories of fields

Each field has one category: a scalar kind, a message type, or a map from a scalar kind to one of
the two. Several scalar types share a kind when their values look alike; what remains of the integer
and floating-point types is their width, which masks are narrowed to.
-/

namespace Redaction

/-! ### Kinds -/

/-- The width of an integer, and whether it has a sign. -/
inductive IntWidth where
  | signed32
  | signed64
  | unsigned32
  | unsigned64
deriving DecidableEq

/-- The width of a floating-point number. -/
inductive FloatWidth where
  | single
  | double
deriving DecidableEq

/-- What kind of value a scalar field has. -/
inductive ScalarKind where
  | string
  | bytes
  | int (width : IntWidth)
  | float (width : FloatWidth)
  | bool
  | enumeration
deriving DecidableEq

/-- The kind of a scalar type. -/
def ScalarKind.ofScalar : Wire.Scalar → ScalarKind
  | .string => string
  | .bytes => bytes
  | .int32 | .sint32 | .sfixed32 => int .signed32
  | .int64 | .sint64 | .sfixed64 => int .signed64
  | .uint32 | .fixed32 => int .unsigned32
  | .uint64 | .fixed64 => int .unsigned64
  | .float => float .single
  | .double => float .double
  | .bool => bool
  | .enumeration => enumeration

/-- The kind of a field type; groups and messages have none. -/
def ScalarKind.ofType? : FieldType → Option ScalarKind
  | .scalar s => some (ofScalar s)
  | .group | .message => none

/-- The name of a kind in messages. -/
def ScalarKind.name : ScalarKind → String
  | string => "string"
  | bytes => "bytes"
  | int _ => "integer"
  | float _ => "floating-point"
  | bool => "bool"
  | enumeration => "enum"

/-! ### Categories -/

/-- The type of a single element: a scalar or a message. -/
inductive ElementType where
  | scalar (kind : ScalarKind)
  | message (type : TypeName)
deriving DecidableEq

def ElementType.target? : ElementType → Option TypeName
  | scalar _ => none
  | message type => some type

/-- The category of a field. -/
inductive Category where
  | scalar (kind : ScalarKind)
  | message (type : TypeName)
  | map (key : ScalarKind) (value : ElementType)
deriving DecidableEq

namespace Category

/-- **The type of one element:** the field itself, an item of a repeated field, or a map value. -/
def element : Category → ElementType
  | scalar kind => .scalar kind
  | message type => .message type
  | map _ value => value

/-- The message type that the field leads to, through a map value if need be. -/
def target? (c : Category) : Option TypeName := c.element.target?

/-- The name of a category in messages. -/
def name : Category → String
  | scalar kind => kind.name
  | message _ => "message"
  | map _ _ => "map"

end Category

/-- How many values a field has, and whether they have keys. -/
inductive Cardinality where
  | singular
  | repeated
  | map
deriving DecidableEq

/-! ### Well-known types -/

/-- A message type that every schema may use and that has a rendering of its own. A wrapper stands
for the scalar it wraps. -/
inductive WellKnown where
  | timestamp
  | duration
  | empty
  | struct
  | value
  | listValue
  | fieldMask
  | any
  | wrapper (kind : ScalarKind)
deriving DecidableEq

/-- The package of the well-known types, with the dot after it. -/
def WellKnown.package : List Char := "google.protobuf.".toList

/-- The well-known type of a name within their package. -/
def WellKnown.ofLocalName? : String → Option WellKnown
  | "Timestamp" => some timestamp
  | "Duration" => some duration
  | "Empty" => some empty
  | "Struct" => some struct
  | "Value" => some value
  | "ListValue" => some listValue
  | "FieldMask" => some fieldMask
  | "Any" => some any
  | "DoubleValue" => some (wrapper (.float .double))
  | "FloatValue" => some (wrapper (.float .single))
  | "Int64Value" => some (wrapper (.int .signed64))
  | "UInt64Value" => some (wrapper (.int .unsigned64))
  | "Int32Value" => some (wrapper (.int .signed32))
  | "UInt32Value" => some (wrapper (.int .unsigned32))
  | "BoolValue" => some (wrapper .bool)
  | "StringValue" => some (wrapper .string)
  | "BytesValue" => some (wrapper .bytes)
  | _ => none

/-- **The well-known type of a full name,** if it is one. -/
def WellKnown.ofName? (type : TypeName) : Option WellKnown :=
  if package.isPrefixOf type.text.toList then
    ofLocalName? (String.ofList (type.text.toList.drop package.length))
  else none

end Redaction
