import Redaction.Descriptor.Types

/-!
# Assembling descriptors

Descriptors written by hand, as a compiler would write them for the declarations they stand for. The
functions add to the end of a list or replace what is set, so that `f.repeated.redacted` reads like
the declaration of a field.
-/

namespace Redaction

/-! ### Fields -/

namespace FieldDescriptor

/-- A singular field of a scalar type. -/
def ofType (name : String) (number : Int32) (type : FieldType) : FieldDescriptor :=
  { name := some name, number := some number, label := some Label.optional.number,
    type := some type.number }

/-- A singular field of a message type; the name of the type is written with its leading dot. -/
def message (name : String) (number : Int32) (typeName : String) : FieldDescriptor :=
  { ofType name number .message with typeName := some typeName }

/-- A singular field of an enum type. -/
def enumeration (name : String) (number : Int32) (typeName : String) : FieldDescriptor :=
  { ofType name number (.scalar .enumeration) with typeName := some typeName }

def repeated (f : FieldDescriptor) : FieldDescriptor :=
  { f with label := some Label.repeated.number }

/-- A map field, which repeats the entries of the given type. -/
def map (name : String) (number : Int32) (entryTypeName : String) : FieldDescriptor :=
  (message name number entryTypeName).repeated

/-- A field that tells unset from default. -/
def withProto3Optional (f : FieldDescriptor) : FieldDescriptor :=
  { f with proto3Optional := some true }

def inOneof (f : FieldDescriptor) (index : Int32) : FieldDescriptor :=
  { f with oneofIndex := some index }

def withJsonName (f : FieldDescriptor) (jsonName : String) : FieldDescriptor :=
  { f with jsonName := some jsonName }

/-- The field with the given rules in place of its options. -/
def withRules (f : FieldDescriptor) (rules : Rules) : FieldDescriptor :=
  { f with options := some { redact := some rules } }

/-- **A redacted field** without an override. -/
def redacted (f : FieldDescriptor) : FieldDescriptor := f.withRules { redact := true }

/-- A redacted field with an override of its mask. -/
def redactedWith (f : FieldDescriptor) (mask : Override) : FieldDescriptor :=
  f.withRules { redact := true, mask := some mask }

/-- The field under another name and number. -/
def renumbered (f : FieldDescriptor) (name : String) (number : Int32) : FieldDescriptor :=
  { f with name := some name, number := some number }

end FieldDescriptor

/-! ### Messages -/

namespace MessageDescriptor

/-- A message without declarations. -/
def named (name : String) : MessageDescriptor := { name := some name }

def withField (m : MessageDescriptor) (f : FieldDescriptor) : MessageDescriptor :=
  { m with field := m.field ++ [f] }

def withNested (m nested : MessageDescriptor) : MessageDescriptor :=
  { m with nested := m.nested ++ [nested] }

def withEnum (m : MessageDescriptor) (name : String) : MessageDescriptor :=
  { m with enum := m.enum ++ [⟨some name⟩] }

def withOneof (m : MessageDescriptor) (name : String) : MessageDescriptor :=
  { m with oneof := m.oneof ++ [⟨some name⟩] }

/-- **The entry type of a map:** the key is field 1 and the value field 2. -/
def mapEntryOf (name : String) (key value : FieldDescriptor) : MessageDescriptor :=
  { ((named name).withField (key.renumbered "key" 1)).withField (value.renumbered "value" 2) with
    options := some { mapEntry := some true } }

end MessageDescriptor

/-! ### Files -/

namespace FileDescriptor

/-- A file without declarations; the empty package is left unset. -/
def named (name package : String) : FileDescriptor :=
  { name := some name, package := if package.isEmpty then none else some package,
    syntaxName := some "proto3" }

def withSyntax (f : FileDescriptor) (syntaxName : String) : FileDescriptor :=
  { f with syntaxName := some syntaxName }

def withDependency (f : FileDescriptor) (name : String) : FileDescriptor :=
  { f with dependency := f.dependency ++ [name] }

def withMessage (f : FileDescriptor) (m : MessageDescriptor) : FileDescriptor :=
  { f with message := f.message ++ [m] }

def withEnum (f : FileDescriptor) (name : String) : FileDescriptor :=
  { f with enum := f.enum ++ [⟨some name⟩] }

end FileDescriptor

end Redaction
