import Redaction.Wire.Scalars

/-!
# Reading messages

The records of a message are merged one after the other into its slots: a scalar replaces the one
before it, a singular message goes on with the fields it has, a repeated field grows, a map takes
the entry in place of one with its key, and a oneof changes to the member that came last. Records
with a number that the layout does not have are skipped.

The entry of a map is read as a message with two fields (`Layout.entry`). Each message and each
entry takes one level of nesting, of which there are `depthLimit`.
-/

namespace Redaction.Wire

variable {τ : Type} (layouts : τ → Layout τ)

/-- Merges the body of a message, with its length in front, into slots of the given layout. -/
abbrev BodyReader (τ : Type) := Layout τ → List Slot → Reader (List Slot)

/-! ### One value -/

/-- Merges a value of the given type into the value that is there. -/
def mergeValue (body : BodyReader τ) (kind : Kind τ) (wireType : WireType) (old : Value) :
    Reader Value := fun bytes =>
  match kind with
  | .scalar s => do
    expect s.wireType wireType
    let (d, rest) ← s.read bytes
    return (.datum d, rest)
  | .message type => do
    expect .lengthDelimited wireType
    let (slots, rest) ← body (layouts type) old.slots bytes
    return (.message slots, rest)

/-- Reads one more of the numbers that a record holds. -/
def readPacked (s : Scalar) (vs : List Value) : Reader (List Value) := fun bytes => do
  let (d, rest) ← s.read bytes
  return (vs ++ [.datum d], rest)

/-- Reads the values of a record of a repeated field: one, or any number of packed ones. -/
def readRepeated (body : BodyReader τ) (kind : Kind τ) (wireType : WireType) (vs : List Value) :
    Reader (List Value) := fun bytes =>
  let one : Except Error (List Value × Bytes) := do
    let (v, rest) ← mergeValue layouts body kind wireType (kind.empty layouts) bytes
    return (vs ++ [v], rest)
  match kind with
  | .scalar s =>
    if s.isPackable ∧ wireType = .lengthDelimited then delimited (readPacked s) vs bytes else one
  | .message _ => one

/-! ### One slot -/

/-- Adds an entry to a map, in place of an entry with its key. -/
def insertEntry (key : Datum) (value : Value) : List (Datum × Value) → List (Datum × Value)
  | [] => [(key, value)]
  | e :: es => if e.1 = key then (key, value) :: es else e :: insertEntry key value es

/-- The entry that the slots of a map entry hold. -/
def entryOf (key : Scalar) (value : Kind τ) : List Slot → Datum × Value
  | [.single (.datum k), .single v] => (k, v)
  | _ => (key.default, value.empty layouts)

/-- The value of a slot, or that of the member of a oneof with the given number. -/
def Slot.current? (number : Nat) : Slot → Option Value
  | .single v => some v
  | .member n v => if n = number then some v else none
  | _ => none

/-- The values of a repeated field. -/
def Slot.values : Slot → List Value
  | .repeated vs => vs
  | _ => []

/-- The entries of a map. -/
def Slot.entries : Slot → List (Datum × Value)
  | .map es => es
  | _ => []

/-- **Merges a record into the slot of its field.** -/
def mergeSlot (body : BodyReader τ) (shape : Shape τ) (key : Key) (slot : Slot) : Reader Slot :=
  fun bytes =>
  match shape with
  | .implicit _ kind | .optional _ kind => do
    let old := (slot.current? key.field).getD (kind.empty layouts)
    let (v, rest) ← mergeValue layouts body kind key.wireType old bytes
    return (.single v, rest)
  | .repeated _ kind => do
    let (vs, rest) ← readRepeated layouts body kind key.wireType slot.values bytes
    return (.repeated vs, rest)
  | .map _ keyType kind => do
    let (slots, rest) ← body (.entry keyType kind) (kind.emptyEntry layouts keyType) bytes
    let (k, v) := entryOf layouts keyType kind slots
    return (.map (insertEntry k v slot.entries), rest)
  | .oneof members => do
    let kind := (Shape.memberKind? members key.field).getD (.scalar .bytes)
    let old := (slot.current? key.field).getD (kind.empty layouts)
    let (v, rest) ← mergeValue layouts body kind key.wireType old bytes
    return (.member key.field v, rest)

/-! ### Messages -/

/-- The place of the field with a given number. -/
def Layout.indexOf (layout : Layout τ) (number : Nat) : Option Nat :=
  layout.fields.findIdx? (·.shape.hasNumber number)

/-- The error of a field, reported with the field if its message has a name. -/
def Layout.report (layout : Layout τ) (field : Field τ) (e : Error) : Error :=
  match layout.name with
  | some name => e.within ⟨name, field.name⟩
  | none => e

/-- Reads one record and merges it into the slots. -/
def mergeRecord (body : BodyReader τ) (limit : Nat) (layout : Layout τ) (slots : List Slot) :
    Reader (List Slot) := fun bytes => do
  let (key, rest) ← readKey bytes
  match layout.fields.find? (·.shape.hasNumber key.field), layout.indexOf key.field with
  | some field, some i =>
    let (slot, rest) ←
      (mergeSlot layouts body field.shape key (slots.getD i field.shape.emptySlot) rest).mapError
        (layout.report field)
    return (slots.set i slot, rest)
  | _, _ => do
    let rest ← skip limit key rest
    return (slots, rest)

/-- Merges the body of a nested message, `limit` levels of nesting being left. -/
def mergeBody : Nat → BodyReader τ
  | 0, _, _, _ => refuse .tooDeep
  | limit + 1, layout, slots, bytes =>
    delimited (mergeRecord layouts (mergeBody limit) limit layout) slots bytes

/-- How many levels of nesting a message may have. -/
def depthLimit : Nat := 100

/-- Merges the records of a byte string into the slots of a message. -/
def mergeInto (layout : Layout τ) (slots : List Slot) (bytes : Bytes) :
    Except Error (List Slot) := do
  let step := mergeRecord layouts (mergeBody layouts depthLimit) depthLimit layout
  return (← repeatUntil step 0 (bytes.length + 1) slots bytes).1

/-- **The slots of the message that a byte string writes.** -/
def decode (layout : Layout τ) (bytes : Bytes) : Except Error (List Slot) :=
  mergeInto layouts layout layout.emptySlots bytes

end Redaction.Wire
