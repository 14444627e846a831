import Redaction.Descriptor.Construct

/-!
# The files of the well-known types

The declarations that every schema gets along with it when it uses well-known types.
-/

namespace Redaction.Sample

/-- A singular field of a scalar type. -/
def scalar (name : String) (number : Int32) (type : Wire.Scalar) : FieldDescriptor :=
  .ofType name number (.scalar type)

/-- A message with the given fields. -/
def messageOf (name : String) (fields : List FieldDescriptor) : MessageDescriptor :=
  fields.foldl MessageDescriptor.withField (.named name)

/-- A file with the given messages. -/
def fileOf (name package : String) (messages : List MessageDescriptor) : FileDescriptor :=
  messages.foldl FileDescriptor.withMessage (.named name package)

/-- A file of the package of the well-known types. -/
def wellKnownFile (name : String) (messages : List MessageDescriptor) : FileDescriptor :=
  fileOf ("google/protobuf/" ++ name ++ ".proto") "google.protobuf" messages

/-- A message that wraps a scalar. -/
def wrapper (name : String) (type : Wire.Scalar) : MessageDescriptor :=
  messageOf name [scalar "value" 1 type]

/-- A message of seconds and nanoseconds. -/
def secondsAndNanos (name : String) : MessageDescriptor :=
  messageOf name [scalar "seconds" 1 .int64, scalar "nanos" 2 .int32]

/-- A dynamic value: one of six kinds. -/
def dynamicValue : MessageDescriptor :=
  (messageOf "Value"
    [(FieldDescriptor.enumeration "null_value" 1 ".google.protobuf.NullValue").inOneof 0,
      (scalar "number_value" 2 .double).inOneof 0,
      (scalar "string_value" 3 .string).inOneof 0,
      (scalar "bool_value" 4 .bool).inOneof 0,
      (FieldDescriptor.message "struct_value" 5 ".google.protobuf.Struct").inOneof 0,
      (FieldDescriptor.message "list_value" 6 ".google.protobuf.ListValue").inOneof 0]).withOneof
    "kind"

/-- A struct: a map of dynamic values. -/
def dynamicStruct : MessageDescriptor :=
  (messageOf "Struct" [.map "fields" 1 ".google.protobuf.Struct.FieldsEntry"]).withNested
    (.mapEntryOf "FieldsEntry" (scalar "key" 1 .string)
      (.message "value" 2 ".google.protobuf.Value"))

/-- A list of dynamic values. -/
def dynamicList : MessageDescriptor :=
  messageOf "ListValue" [(FieldDescriptor.message "values" 1 ".google.protobuf.Value").repeated]

/-- The file of the dynamic values. -/
def structFile : FileDescriptor :=
  [dynamicStruct, dynamicValue, dynamicList].foldl FileDescriptor.withMessage
    ((FileDescriptor.named "google/protobuf/struct.proto" "google.protobuf").withEnum "NullValue")

/-- **The files of the well-known types.** -/
def wellKnownFiles : List FileDescriptor :=
  [wellKnownFile "timestamp" [secondsAndNanos "Timestamp"],
    wellKnownFile "duration" [secondsAndNanos "Duration"],
    wellKnownFile "empty" [.named "Empty"],
    wellKnownFile "wrappers"
      [wrapper "DoubleValue" .double, wrapper "FloatValue" .float, wrapper "Int64Value" .int64,
        wrapper "UInt64Value" .uint64, wrapper "Int32Value" .int32, wrapper "UInt32Value" .uint32,
        wrapper "BoolValue" .bool, wrapper "StringValue" .string, wrapper "BytesValue" .bytes],
    structFile,
    wellKnownFile "field_mask" [messageOf "FieldMask" [(scalar "paths" 1 .string).repeated]],
    wellKnownFile "any" [messageOf "Any" [scalar "type_url" 1 .string, scalar "value" 2 .bytes]]]

end Redaction.Sample
