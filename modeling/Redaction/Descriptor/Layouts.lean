import Redaction.Descriptor.Types

/-!
# The layouts of descriptors

Under which numbers the fields of descriptors are written. Field options have the rules as an
ordinary field, number 50000; all other options are unknown fields and fall away when a descriptor
is read.
-/

namespace Redaction

open Wire

/-- The message types of descriptors. -/
inductive DescriptorType where
  | request | response | responseFile
  | fileSet | file | message | messageOptions | field | fieldOptions | oneof | enumeration | rules
deriving DecidableEq

namespace DescriptorType

def optionalText (number : Nat) (name : String) : Wire.Field DescriptorType :=
  ⟨name, .optional number (.scalar .string)⟩

def optionalInt32 (number : Nat) (name : String) : Wire.Field DescriptorType :=
  ⟨name, .optional number (.scalar .int32)⟩

def optionalBool (number : Nat) (name : String) : Wire.Field DescriptorType :=
  ⟨name, .optional number (.scalar .bool)⟩

def repeatedText (number : Nat) (name : String) : Wire.Field DescriptorType :=
  ⟨name, .repeated number (.scalar .string)⟩

def optionalMessage (number : Nat) (name : String) (type : DescriptorType) :
    Wire.Field DescriptorType :=
  ⟨name, .optional number (.message type)⟩

def repeatedMessage (number : Nat) (name : String) (type : DescriptorType) :
    Wire.Field DescriptorType :=
  ⟨name, .repeated number (.message type)⟩

/-- The members of the oneof that holds a mask override. -/
def overrideMembers : List (Member DescriptorType) :=
  [⟨"StringMask", 2, .scalar .string⟩, ⟨"IntMask", 3, .scalar .int64⟩,
    ⟨"DoubleMask", 4, .scalar .double⟩, ⟨"BoolMask", 5, .scalar .bool⟩,
    ⟨"BytesMask", 6, .scalar .string⟩, ⟨"EnumMask", 7, .scalar .int32⟩]

/-- **The layout of each type.** -/
def layout : DescriptorType → Layout DescriptorType
  | request => ⟨some "CodeGeneratorRequest",
      [repeatedText 1 "file_to_generate", optionalText 2 "parameter",
        repeatedMessage 15 "proto_file" file]⟩
  | response => ⟨some "CodeGeneratorResponse",
      [optionalText 1 "error", ⟨"supported_features", .optional 2 (.scalar .uint64)⟩,
        repeatedMessage 15 "file" responseFile]⟩
  | responseFile => ⟨some "GeneratedFile",
      [optionalText 1 "name", optionalText 2 "insertion_point", optionalText 15 "content"]⟩
  | fileSet => ⟨some "FileDescriptorSet", [repeatedMessage 1 "file" file]⟩
  | file => ⟨some "FileDescriptorProto",
      [optionalText 1 "name", optionalText 2 "package", repeatedText 3 "dependency",
        repeatedMessage 4 "message_type" message, repeatedMessage 5 "enum_type" enumeration,
        optionalText 12 "syntax"]⟩
  | message => ⟨some "DescriptorProto",
      [optionalText 1 "name", repeatedMessage 2 "field" field,
        repeatedMessage 3 "nested_type" message, repeatedMessage 4 "enum_type" enumeration,
        optionalMessage 7 "options" messageOptions, repeatedMessage 8 "oneof_decl" oneof]⟩
  | messageOptions => ⟨some "MessageOptions", [optionalBool 7 "map_entry"]⟩
  | field => ⟨some "FieldDescriptorProto",
      [optionalText 1 "name", optionalInt32 3 "number", optionalInt32 4 "label",
        optionalInt32 5 "r#type", optionalText 6 "type_name",
        optionalMessage 8 "options" fieldOptions, optionalInt32 9 "oneof_index",
        optionalText 10 "json_name", optionalBool 17 "proto3_optional"]⟩
  | fieldOptions => ⟨some "FieldOptions", [optionalMessage 50000 "redact" rules]⟩
  | oneof => ⟨some "OneofDescriptorProto", [optionalText 1 "name"]⟩
  | enumeration => ⟨some "EnumDescriptorProto", [optionalText 1 "name"]⟩
  | rules => ⟨some "RedactRules",
      [⟨"redact", .implicit 1 (.scalar .bool)⟩, ⟨"mask", .oneof overrideMembers⟩]⟩

end DescriptorType

end Redaction
