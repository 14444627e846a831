import Redaction.Sample.WellKnownFiles

/-!
# The sample schema

Seven files that use every kind of field, redacted and not: messages about users, all scalar types,
lists and maps and oneofs, references between files and in circles, well-known types, and a file of
the older dialect in which every optional scalar tells unset from default.
-/

namespace Redaction.Sample

open FieldDescriptor

/-! ### Users -/

def userFile : FileDescriptor :=
  let user := messageOf "User"
    [scalar "name" 1 .string,
      (scalar "email" 2 .string).redactedWith (.string "*"),
      (scalar "password" 3 .string).redactedWith (.string "[HIDDEN]"),
      scalar "age" 4 .int32]
  let address := messageOf "Address"
    [(scalar "street" 1 .string).redacted, scalar "city" 2 .string]
  let account := messageOf "Account"
    [scalar "id" 1 .string,
      (scalar "secret_key" 2 .string).redacted,
      message "user" 3 ".acme.user.v1.User",
      (message "addresses" 4 ".acme.user.v1.Address").repeated,
      enumeration "status" 5 ".acme.user.v1.Status"]
  let withoutRedaction := messageOf "MessageWithNoRedact"
    [scalar "name" 1 .string, scalar "count" 2 .int32]
  (fileOf "acme/user/v1/user.proto" "acme.user.v1"
    [user, address, account, withoutRedaction]).withEnum "Status"

/-! ### Scalars -/

/-- One field of every scalar type. -/
def allScalars : List (String × Wire.Scalar) :=
  [("string_val", .string), ("bytes_val", .bytes), ("int32_val", .int32), ("int64_val", .int64),
    ("uint32_val", .uint32), ("uint64_val", .uint64), ("sint32_val", .sint32),
    ("sint64_val", .sint64), ("fixed32_val", .fixed32), ("fixed64_val", .fixed64),
    ("sfixed32_val", .sfixed32), ("sfixed64_val", .sfixed64), ("float_val", .float),
    ("double_val", .double), ("bool_val", .bool), ("level", .enumeration)]

/-- The enum field of the scalar messages. -/
def levelField (number : Int32) : FieldDescriptor :=
  enumeration "level" number ".acme.scalars.v1.Level"

/-- Redacted fields of the given scalar types, numbered from `number`. -/
def redactedScalars : Int32 → List (String × Wire.Scalar) → List FieldDescriptor
  | _, [] => []
  | number, (name, type) :: rest =>
    (if type = .enumeration then levelField number else scalar name number type).redacted ::
      redactedScalars (number + 1) rest

/-- The double nearest to `-1.5`, and the one nearest to `-999.99`. -/
def minusOneAndAHalf : Number.Double := .ofDecimal true 15 (-1)

def minusManyNines : Number.Double := .ofDecimal true 99999 (-2)

def scalarsFile : FileDescriptor :=
  let customMasks := messageOf "CustomMasks"
    [(scalar "string_val" 1 .string).redactedWith (.string "[REDACTED]"),
      (scalar "bytes_val" 2 .bytes).redactedWith (.bytes "[BINARY]"),
      (scalar "int32_val" 3 .int32).redactedWith (.int (-1)),
      (scalar "int64_val" 4 .int64).redactedWith (.int (-9999999999)),
      (scalar "uint32_val" 5 .uint32).redactedWith (.int 9999),
      (scalar "uint32_wrapped" 6 .uint32).redactedWith (.int (-1)),
      (scalar "uint64_wrapped" 7 .fixed64).redactedWith (.int (-1)),
      (scalar "float_val" 8 .float).redactedWith (.double minusOneAndAHalf),
      (scalar "double_val" 9 .double).redactedWith (.double minusManyNines),
      (scalar "bool_val" 10 .bool).redactedWith (.bool true),
      (levelField 11).redactedWith (.enum 99),
      (scalar "mismatched" 12 .string).redactedWith (.int 7)]
  let plainValues := messageOf "PlainValues"
    [(scalar "secret" 1 .string).redacted,
      scalar "bytes_val" 2 .bytes,
      scalar "int64_val" 3 .int64,
      scalar "uint64_val" 4 .uint64,
      scalar "float_val" 5 .float,
      scalar "double_val" 6 .double,
      scalar "bool_val" 7 .bool,
      levelField 8,
      (scalar "nickname" 9 .string).withProto3Optional.inOneof 0,
      ((scalar "hidden_nickname" 10 .string).withProto3Optional.inOneof 1).redacted]
  (fileOf "acme/scalars/v1/scalars.proto" "acme.scalars.v1"
    [messageOf "AllRedacted" (redactedScalars 1 allScalars), customMasks,
      (plainValues.withOneof "_nickname").withOneof "_hidden_nickname"]).withEnum "Level"

/-! ### Collections -/

/-- The entry type of a map with keys of the given type. -/
def entryOf (name : String) (key : Wire.Scalar) (value : FieldDescriptor) : MessageDescriptor :=
  .mapEntryOf name (scalar "key" 1 key) value

def collectionsMessage : MessageDescriptor :=
  let fields :=
    [(scalar "tags" 1 .string).repeated,
      (scalar "hidden_tags" 2 .string).repeated.redacted,
      (message "items" 3 ".acme.collections.v1.Item").repeated,
      map "labels" 4 ".acme.collections.v1.Collections.LabelsEntry",
      (map "hidden_labels" 5 ".acme.collections.v1.Collections.HiddenLabelsEntry").redacted,
      map "by_id" 6 ".acme.collections.v1.Collections.ByIdEntry",
      map "scores" 7 ".acme.collections.v1.Collections.ScoresEntry",
      (message "hidden_items" 8 ".acme.collections.v1.Item").repeated.redacted]
  [entryOf "LabelsEntry" .string (scalar "value" 2 .string),
    entryOf "HiddenLabelsEntry" .string (scalar "value" 2 .string),
    entryOf "ByIdEntry" .int32 (message "value" 2 ".acme.collections.v1.Item"),
    entryOf "ScoresEntry" .int64 (scalar "value" 2 .double)].foldl
    MessageDescriptor.withNested (messageOf "Collections" fields)

def extrasMessage : MessageDescriptor :=
  let fields :=
    [(scalar "blobs" 1 .bytes).repeated,
      (enumeration "priorities" 2 ".acme.collections.v1.Priority").repeated,
      (scalar "ratios" 3 .float).repeated,
      map "priority_by_name" 4 ".acme.collections.v1.Extras.PriorityByNameEntry",
      map "by_flag" 5 ".acme.collections.v1.Extras.ByFlagEntry",
      (scalar "secret" 6 .string).redacted]
  [entryOf "PriorityByNameEntry" .string (enumeration "value" 2 ".acme.collections.v1.Priority"),
    entryOf "ByFlagEntry" .bool (scalar "value" 2 .string)].foldl
    MessageDescriptor.withNested (messageOf "Extras" fields)

def collectionsFile : FileDescriptor :=
  let item := messageOf "Item"
    [scalar "id" 1 .string, (scalar "secret" 2 .string).redacted, scalar "type" 3 .string]
  let login := messageOf "Login"
    [scalar "user" 1 .string,
      ((scalar "api_key" 2 .string).inOneof 0).redacted,
      (message "item" 3 ".acme.collections.v1.Item").inOneof 0,
      (scalar "token" 4 .bytes).inOneof 0]
  let event := messageOf "Event"
    [scalar "name" 1 .string,
      message "occurred_at" 2 ".google.protobuf.Timestamp",
      (scalar "secret" 3 .string).redacted,
      (message "hidden_at" 4 ".google.protobuf.Timestamp").redacted]
  let tree := messageOf "Tree"
    [scalar "label" 1 .string,
      (scalar "secret" 2 .string).redacted,
      (message "children" 3 ".acme.collections.v1.Tree").repeated]
  let ping := messageOf "Ping"
    [message "pong" 1 ".acme.collections.v1.Pong", (scalar "secret" 2 .string).redacted]
  let pong := messageOf "Pong"
    [message "ping" 1 ".acme.collections.v1.Ping", scalar "name" 2 .string]
  let outer := messageOf "Outer"
    [scalar "note" 1 .string, message "inner" 2 ".acme.collections.v1.Outer.Inner"]
  let inner := messageOf "Inner" [(scalar "secret" 1 .string).redacted]
  let team := messageOf "Team"
    [scalar "name" 1 .string,
      (scalar "secret" 2 .string).redacted,
      (message "members" 3 ".acme.collections.v1.Member").repeated]
  let member := messageOf "Member"
    [scalar "name" 1 .string, (message "teams" 2 ".acme.collections.v1.Team").repeated]
  ((fileOf "acme/collections/v1/collections.proto" "acme.collections.v1"
    [item, collectionsMessage, login.withOneof "credential", event, tree, ping, pong,
      outer.withNested inner, extrasMessage, team, member]).withDependency
    "google/protobuf/timestamp.proto").withEnum "Priority"

/-! ### References between files -/

def sharedFile : FileDescriptor :=
  fileOf "acme/shared/v1/shared.proto" "acme.shared.v1"
    [messageOf "SensitiveData"
      [(scalar "token" 1 .string).redacted, scalar "label" 2 .string]]

def appFile : FileDescriptor :=
  let container := messageOf "Container"
    [scalar "name" 1 .string, message "data" 2 ".acme.shared.v1.SensitiveData"]
  let dataList := messageOf "DataList"
    [(message "items" 1 ".acme.shared.v1.SensitiveData").repeated]
  let dataMap := messageOf "DataMap" [map "entries" 1 ".acme.app.v1.DataMap.EntriesEntry"]
  let deep := messageOf "Deep"
    [message "container" 1 ".acme.app.v1.Container", scalar "note" 2 .string]
  (fileOf "acme/app/v1/app.proto" "acme.app.v1"
    [container, dataList,
      dataMap.withNested
        (entryOf "EntriesEntry" .string (message "value" 2 ".acme.shared.v1.SensitiveData")),
      deep, messageOf "Unrelated" [scalar "name" 1 .string]]).withDependency
    "acme/shared/v1/shared.proto"

/-! ### Well-known types -/

def typesFile : FileDescriptor :=
  let schedule := messageOf "Schedule"
    [scalar "name" 1 .string,
      message "starts_at" 2 ".google.protobuf.Timestamp",
      message "timeout" 3 ".google.protobuf.Duration",
      (message "secret_window" 4 ".google.protobuf.Duration").redacted,
      (message "history" 5 ".google.protobuf.Timestamp").repeated,
      map "deadlines" 6 ".acme.types.v1.Schedule.DeadlinesEntry"]
  let wrappers := messageOf "Wrappers"
    [message "string_val" 1 ".google.protobuf.StringValue",
      message "int64_val" 2 ".google.protobuf.Int64Value",
      message "uint32_val" 3 ".google.protobuf.UInt32Value",
      message "bool_val" 4 ".google.protobuf.BoolValue",
      message "bytes_val" 5 ".google.protobuf.BytesValue",
      message "double_val" 6 ".google.protobuf.DoubleValue",
      (message "secret_string" 7 ".google.protobuf.StringValue").redacted,
      (message "secret_int" 8 ".google.protobuf.Int64Value").redacted,
      (message "aliases" 9 ".google.protobuf.StringValue").repeated]
  let envelope := messageOf "Envelope"
    [message "attributes" 1 ".google.protobuf.Struct",
      message "value" 2 ".google.protobuf.Value",
      message "items" 3 ".google.protobuf.ListValue",
      message "update_mask" 4 ".google.protobuf.FieldMask",
      message "payload" 5 ".google.protobuf.Any",
      message "ack" 6 ".google.protobuf.Empty",
      (scalar "secret" 7 .string).redacted,
      (message "sent_at" 8 ".google.protobuf.Timestamp").inOneof 0,
      (message "note" 9 ".google.protobuf.StringValue").inOneof 0]
  ["any", "duration", "empty", "field_mask", "struct", "timestamp", "wrappers"].foldl
    (fun file name => file.withDependency ("google/protobuf/" ++ name ++ ".proto"))
    (fileOf "acme/types/v1/types.proto" "acme.types.v1"
      [schedule.withNested
        (entryOf "DeadlinesEntry" .string (message "value" 2 ".google.protobuf.Timestamp")),
        wrappers, envelope.withOneof "stamp"])

/-! ### The older dialect -/

def legacyFile : FileDescriptor :=
  ((fileOf "acme/legacy/v1/legacy.proto" "acme.legacy.v1"
    [messageOf "Record"
      [scalar "note" 1 .string,
        scalar "count" 2 .int32,
        scalar "ratio" 3 .double,
        scalar "flag" 4 .bool,
        enumeration "tier" 5 ".acme.legacy.v1.Tier",
        (scalar "pin" 6 .string).redacted,
        (scalar "tags" 7 .string).repeated]]).withSyntax "proto2").withEnum "Tier"

/-! ### All files -/

/-- The seven files of the schema itself. -/
def ownFiles : List FileDescriptor :=
  [userFile, scalarsFile, collectionsFile, sharedFile, appFile, typesFile, legacyFile]

/-- **The files of the sample schema,** those of the well-known types first. -/
def files : List FileDescriptor := wellKnownFiles ++ ownFiles

end Redaction.Sample
