import Redaction.Wire.Scalars

/-!
# Writing messages

The fields of a message are written in the order of its layout. A field with implicit presence is
written only if its value is not the default; a field that tells whether it is set is written
whenever it is. Values of repeated fields get a record each.
-/

namespace Redaction.Wire

variable {τ : Type} (layouts : τ → Layout τ)

/-- The bytes of a key. -/
def writeKey (number : Nat) (wireType : WireType) : Bytes :=
  Varint.write (Key.code ⟨number, wireType⟩)

/-- A payload with its key and its length in front. -/
def writeBody (number : Nat) (payload : Bytes) : Bytes :=
  writeKey number .lengthDelimited ++ Varint.write payload.length ++ payload

/-- The record of a scalar. -/
def writeScalar (number : Nat) (s : Scalar) (d : Datum) : Bytes :=
  writeKey number s.wireType ++ s.write d

/-- Whether a value is the default of its type, so that implicit presence leaves it out. -/
def Kind.isEmpty : Kind τ → Value → Bool
  | .scalar s, .datum d => d == s.default
  | _, _ => false

mutual
/-- The record of a single value. -/
def writeValue (number : Nat) (kind : Kind τ) : Value → Bytes
  | .datum d =>
    match kind with
    | .scalar s => writeScalar number s d
    | .message _ => []
  | .message slots =>
    match kind with
    | .scalar _ => []
    | .message type => writeBody number (writeSlots (layouts type).fields slots)

/-- The records of a field. -/
def writeSlot (shape : Shape τ) : Slot → Bytes
  | .absent => []
  | .single v =>
    match shape with
    | .implicit number kind => if kind.isEmpty v then [] else writeValue number kind v
    | .optional number kind => writeValue number kind v
    | _ => []
  | .repeated vs =>
    match shape with
    | .repeated number kind => writeValues number kind vs
    | _ => []
  | .map es =>
    match shape with
    | .map number key value => writeEntries number key value es
    | _ => []
  | .member number v =>
    match shape with
    | .oneof members =>
      match Shape.memberKind? members number with
      | some kind => writeValue number kind v
      | none => []
    | _ => []

/-- The records of the values of a repeated field. -/
def writeValues (number : Nat) (kind : Kind τ) : List Value → Bytes
  | [] => []
  | v :: vs => writeValue number kind v ++ writeValues number kind vs

/-- The records of the entries of a map. -/
def writeEntries (number : Nat) (key : Scalar) (value : Kind τ) : List (Datum × Value) → Bytes
  | [] => []
  | (k, v) :: es =>
    writeBody number (writeScalar 1 key k ++ writeValue 2 value v) ++
      writeEntries number key value es

/-- The records of the fields of a message. -/
def writeSlots (fields : List (Field τ)) : List Slot → Bytes
  | [] => []
  | slot :: slots =>
    match fields with
    | [] => []
    | field :: fields => writeSlot field.shape slot ++ writeSlots fields slots
end

/-- **The bytes of the message with the given slots.** -/
def encode (layout : Layout τ) (slots : List Slot) : Bytes :=
  writeSlots layouts layout.fields slots

end Redaction.Wire
