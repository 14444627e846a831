import Redaction.Descriptor.Layouts
import Redaction.Wire.Decode
import Redaction.Wire.Encode

/-!
# Reading and writing descriptors

Each descriptor type is laid over the slots of its layout, and the slots are read from and written
to bytes. `toSlots` and `ofSlots` go between a descriptor and its slots in both directions; slots of
a shape that the layout does not allow count as unset.
-/

namespace Redaction

open Wire Number

/-! ### Slots of single fields -/

namespace Wire

def Value.text? : Value → Option String
  | .datum (.text s) => some s
  | _ => none

def Value.bool? : Value → Option Bool
  | .datum (.bool b) => some b
  | _ => none

def Value.integer? : Value → Option Int
  | .datum (.integer n) => some n
  | _ => none

def Value.double? : Value → Option Double
  | .datum (.double x) => some x
  | _ => none

/-- The slot of an optional value. -/
def Slot.ofOption : Option Value → Slot
  | some v => .single v
  | none => .absent

/-- The value of a slot that has one. -/
def Slot.single? : Slot → Option Value
  | .single v => some v
  | _ => none

def Slot.ofText (t : Option String) : Slot := .ofOption (t.map fun s => .datum (.text s))

def Slot.ofBool (b : Option Bool) : Slot := .ofOption (b.map fun b => .datum (.bool b))

def Slot.ofInt32 (n : Option Int32) : Slot :=
  .ofOption (n.map fun n => .datum (.integer n.toInt))

def Slot.ofTexts (ts : List String) : Slot := .repeated (ts.map fun s => .datum (.text s))

def Slot.text? (s : Slot) : Option String := s.single?.bind Value.text?

def Slot.bool? (s : Slot) : Option Bool := s.single?.bind Value.bool?

def Slot.int32? (s : Slot) : Option Int32 := (s.single?.bind Value.integer?).map Int32.ofInt

def Slot.texts (s : Slot) : List String := s.values.filterMap Value.text?

/-- The message of a slot, read from its slots. -/
def Slot.message? {α : Type} (ofSlots : List Slot → α) (s : Slot) : Option α :=
  s.single?.map fun v => ofSlots v.slots

/-- The messages of a repeated field, each read from its slots. -/
def Slot.messages {α : Type} (ofSlots : List Slot → α) (s : Slot) : List α :=
  s.values.map fun v => ofSlots v.slots

/-- The slot of an optional message. -/
def Slot.ofMessage {α : Type} (toSlots : α → List Slot) (m : Option α) : Slot :=
  .ofOption (m.map fun m => .message (toSlots m))

/-- The slot of a repeated message. -/
def Slot.ofMessages {α : Type} (toSlots : α → List Slot) (ms : List α) : Slot :=
  .repeated (ms.map fun m => .message (toSlots m))

end Wire

/-! ### Rules and options -/

/-- The member of the oneof that an override is. -/
def Override.toSlot : Override → Slot
  | string mask => .member 2 (.datum (.text mask))
  | int mask => .member 3 (.datum (.integer mask.toInt))
  | double mask => .member 4 (.datum (.double mask))
  | bool mask => .member 5 (.datum (.bool mask))
  | bytes mask => .member 6 (.datum (.text mask))
  | enum mask => .member 7 (.datum (.integer mask.toInt))

def Override.ofSlot? : Slot → Option Override
  | .member 2 (.datum (.text mask)) => some (string mask)
  | .member 3 (.datum (.integer mask)) => some (int (.ofInt mask))
  | .member 4 (.datum (.double mask)) => some (double mask)
  | .member 5 (.datum (.bool mask)) => some (bool mask)
  | .member 6 (.datum (.text mask)) => some (bytes mask)
  | .member 7 (.datum (.integer mask)) => some (enum (.ofInt mask))
  | _ => none

namespace Rules

def toSlots (r : Rules) : List Slot :=
  [.single (.datum (.bool r.redact)), (r.mask.map Override.toSlot).getD .absent]

def ofSlots : List Slot → Rules
  | [redact, mask] => { redact := redact.bool?.getD false, mask := Override.ofSlot? mask }
  | _ => {}

end Rules

namespace FieldOptions

def toSlots (o : FieldOptions) : List Slot := [.ofMessage Rules.toSlots o.redact]

def ofSlots : List Slot → FieldOptions
  | [redact] => { redact := redact.message? Rules.ofSlots }
  | _ => {}

end FieldOptions

namespace MessageOptions

def toSlots (o : MessageOptions) : List Slot := [.ofBool o.mapEntry]

def ofSlots : List Slot → MessageOptions
  | [mapEntry] => { mapEntry := mapEntry.bool? }
  | _ => {}

end MessageOptions

/-! ### Declarations -/

namespace OneofDescriptor

def toSlots (o : OneofDescriptor) : List Slot := [.ofText o.name]

def ofSlots : List Slot → OneofDescriptor
  | [name] => { name := name.text? }
  | _ => {}

end OneofDescriptor

namespace EnumDescriptor

def toSlots (e : EnumDescriptor) : List Slot := [.ofText e.name]

def ofSlots : List Slot → EnumDescriptor
  | [name] => { name := name.text? }
  | _ => {}

end EnumDescriptor

namespace FieldDescriptor

def toSlots (f : FieldDescriptor) : List Slot :=
  [.ofText f.name, .ofInt32 f.number, .ofInt32 f.label, .ofInt32 f.type, .ofText f.typeName,
    .ofMessage FieldOptions.toSlots f.options, .ofInt32 f.oneofIndex, .ofText f.jsonName,
    .ofBool f.proto3Optional]

def ofSlots : List Slot → FieldDescriptor
  | [name, number, label, type, typeName, options, oneofIndex, jsonName, proto3Optional] =>
    { name := name.text?, number := number.int32?, label := label.int32?, type := type.int32?,
      typeName := typeName.text?, options := options.message? FieldOptions.ofSlots,
      oneofIndex := oneofIndex.int32?, jsonName := jsonName.text?,
      proto3Optional := proto3Optional.bool? }
  | _ => {}

end FieldDescriptor

namespace MessageDescriptor

mutual
/-- The slots of a message and of all messages inside it. -/
def toSlots : MessageDescriptor → List Slot
  | ⟨name, field, nested, enum, options, oneof⟩ =>
    [.ofText name, .ofMessages FieldDescriptor.toSlots field, .repeated (toValues nested),
      .ofMessages EnumDescriptor.toSlots enum, .ofMessage MessageOptions.toSlots options,
      .ofMessages OneofDescriptor.toSlots oneof]

def toValues : List MessageDescriptor → List Value
  | [] => []
  | m :: ms => .message (toSlots m) :: toValues ms
end

mutual
/-- The message of a value and all messages inside it. -/
def ofValue : Value → MessageDescriptor
  | .message [name, field, .repeated nested, enum, options, oneof] =>
    { name := name.text?, field := field.messages FieldDescriptor.ofSlots,
      nested := ofValues nested, enum := enum.messages EnumDescriptor.ofSlots,
      options := options.message? MessageOptions.ofSlots,
      oneof := oneof.messages OneofDescriptor.ofSlots }
  | _ => {}

def ofValues : List Value → List MessageDescriptor
  | [] => []
  | v :: vs => ofValue v :: ofValues vs
end

def ofSlots (slots : List Slot) : MessageDescriptor := ofValue (.message slots)

end MessageDescriptor

namespace FileDescriptor

def toSlots (f : FileDescriptor) : List Slot :=
  [.ofText f.name, .ofText f.package, .ofTexts f.dependency,
    .repeated (MessageDescriptor.toValues f.message), .ofMessages EnumDescriptor.toSlots f.enum,
    .ofText f.syntaxName]

def ofSlots : List Slot → FileDescriptor
  | [name, package, dependency, message, enum, syntaxName] =>
    { name := name.text?, package := package.text?, dependency := dependency.texts,
      message := MessageDescriptor.ofValues message.values,
      enum := enum.messages EnumDescriptor.ofSlots, syntaxName := syntaxName.text? }
  | _ => {}

end FileDescriptor

namespace FileSet

def toSlots (s : FileSet) : List Slot := [.ofMessages FileDescriptor.toSlots s.file]

def ofSlots : List Slot → FileSet
  | [file] => { file := file.messages FileDescriptor.ofSlots }
  | _ => {}

end FileSet

/-! ### Requests and responses -/

namespace Request

def toSlots (r : Request) : List Slot :=
  [.ofTexts r.fileToGenerate, .ofText r.parameter, .ofMessages FileDescriptor.toSlots r.protoFile]

def ofSlots : List Slot → Request
  | [fileToGenerate, parameter, protoFile] =>
    { fileToGenerate := fileToGenerate.texts, parameter := parameter.text?,
      protoFile := protoFile.messages FileDescriptor.ofSlots }
  | _ => {}

end Request

namespace ResponseFile

def toSlots (f : ResponseFile) : List Slot :=
  [.ofText f.name, .ofText f.insertionPoint, .ofText f.content]

def ofSlots : List Slot → ResponseFile
  | [name, insertionPoint, content] =>
    { name := name.text?, insertionPoint := insertionPoint.text?, content := content.text? }
  | _ => {}

end ResponseFile

namespace Response

def toSlots (r : Response) : List Slot :=
  [.ofText r.error,
    .ofOption (r.supportedFeatures.map fun n => .datum (.integer n.toNat)),
    .ofMessages ResponseFile.toSlots r.file]

def ofSlots : List Slot → Response
  | [error, supportedFeatures, file] =>
    { error := error.text?,
      supportedFeatures := (supportedFeatures.single?.bind Value.integer?).map fun n =>
        n.toNat.toUInt64,
      file := file.messages ResponseFile.ofSlots }
  | _ => {}

end Response

/-! ### Bytes -/

/-- A type of descriptors that bytes can write. -/
structure Codec (α : Type) where
  /-- The layout of the type. -/
  type : DescriptorType
  toSlots : α → List Slot
  ofSlots : List Slot → α

namespace Codec

variable {α : Type}

/-- **Reads a descriptor.** -/
def decode (c : Codec α) (bytes : Bytes) : Except Wire.Error α :=
  (Wire.decode DescriptorType.layout c.type.layout bytes).map c.ofSlots

/-- **Writes a descriptor.** -/
def encode (c : Codec α) (a : α) : Bytes :=
  Wire.encode DescriptorType.layout c.type.layout (c.toSlots a)

def rules : Codec Rules := ⟨.rules, Rules.toSlots, Rules.ofSlots⟩
def fieldOptions : Codec FieldOptions := ⟨.fieldOptions, FieldOptions.toSlots, FieldOptions.ofSlots⟩
def field : Codec FieldDescriptor := ⟨.field, FieldDescriptor.toSlots, FieldDescriptor.ofSlots⟩
def message : Codec MessageDescriptor :=
  ⟨.message, MessageDescriptor.toSlots, MessageDescriptor.ofSlots⟩
def file : Codec FileDescriptor := ⟨.file, FileDescriptor.toSlots, FileDescriptor.ofSlots⟩
def fileSet : Codec FileSet := ⟨.fileSet, FileSet.toSlots, FileSet.ofSlots⟩
def request : Codec Request := ⟨.request, Request.toSlots, Request.ofSlots⟩
def response : Codec Response := ⟨.response, Response.toSlots, Response.ofSlots⟩

end Codec

end Redaction
