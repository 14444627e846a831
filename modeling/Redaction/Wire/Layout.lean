import Redaction.Number.Binary

/-!
# Layouts and values

A layout lists the fields of a message type; a value of the type is the list of its slots, one for
each field and in the same order. A message type refers to others by names of any type `τ`, so that
a set of layouts is a function `τ → Layout τ`.

| Shape of the field | Slot |
|---|---|
| implicit presence | always a single value, at first the default |
| optional | absent, or a single value |
| repeated | the list of the values |
| map | the list of the entries, each key once |
| oneof | absent, or the number and the value of the member that is set |
-/

namespace Redaction.Wire

open Number

/-! ### Layouts -/

/-- The scalar types, by how their values are written. -/
inductive Scalar where
  | double | float
  | int32 | int64 | uint32 | uint64
  | sint32 | sint64
  | fixed32 | fixed64 | sfixed32 | sfixed64
  | bool
  | string
  | bytes
  | enumeration
deriving DecidableEq

/-- The type of a single value. -/
inductive Kind (τ : Type) where
  | scalar (s : Scalar)
  | message (type : τ)
deriving DecidableEq

/-- A member of a oneof: the name of its variant, its number and its type. -/
structure Member (τ : Type) where
  name : String
  number : Nat
  kind : Kind τ
deriving DecidableEq

/-- How a field holds its values, and under which number they are written. -/
inductive Shape (τ : Type) where
  | implicit (number : Nat) (kind : Kind τ)
  | optional (number : Nat) (kind : Kind τ)
  | repeated (number : Nat) (kind : Kind τ)
  | map (number : Nat) (key : Scalar) (value : Kind τ)
  | oneof (members : List (Member τ))
deriving DecidableEq

namespace Shape

variable {τ : Type}

/-- Whether a record with the given number belongs to the field. -/
def hasNumber (n : Nat) : Shape τ → Bool
  | implicit number _ | optional number _ | repeated number _ | map number _ _ => number == n
  | oneof members => members.any (·.number == n)

/-- The type of the member of a oneof with a given number. -/
def memberKind? (members : List (Member τ)) (n : Nat) : Option (Kind τ) :=
  (members.find? (·.number == n)).map (·.kind)

end Shape

/-- A field and the name it has in error reports. -/
structure Field (τ : Type) where
  name : String
  shape : Shape τ
deriving DecidableEq

/-- The fields of a message type. A type without a name adds nothing to error reports. -/
structure Layout (τ : Type) where
  name : Option String
  fields : List (Field τ)
deriving DecidableEq

/-- The entry of a map as a message: the key is field 1, the value field 2. -/
def Layout.entry {τ : Type} (key : Scalar) (value : Kind τ) : Layout τ :=
  ⟨none, [⟨"key", .implicit 1 (.scalar key)⟩, ⟨"value", .implicit 2 value⟩]⟩

/-! ### Values -/

/-- A scalar value. -/
inductive Datum where
  | integer (n : Int)
  | double (x : Double)
  | float (x : Single)
  | bool (b : Bool)
  | text (s : String)
  | blob (b : List UInt8)
deriving DecidableEq, Inhabited

/-- The integer of a datum; no other datum is read as one. -/
def Datum.toInt : Datum → Int
  | .integer n => n
  | _ => 0

mutual
/-- A single value. -/
inductive Value where
  | datum (d : Datum)
  | message (slots : List Slot)

/-- What a field holds. -/
inductive Slot where
  | absent
  | single (v : Value)
  | repeated (vs : List Value)
  | map (entries : List (Datum × Value))
  | member (number : Nat) (v : Value)
end

instance : Inhabited Value := ⟨.message []⟩
instance : Inhabited Slot := ⟨.absent⟩

/-- The slots of a message; a scalar has none. -/
def Value.slots : Value → List Slot
  | .datum _ => []
  | .message slots => slots

/-- The default of a scalar type. -/
def Scalar.default : Scalar → Datum
  | .double => .double .zero
  | .float => .float ⟨0⟩
  | .bool => .bool false
  | .string => .text ""
  | .bytes => .blob []
  | .int32 | .int64 | .uint32 | .uint64 | .sint32 | .sint64 | .fixed32 | .fixed64 | .sfixed32
  | .sfixed64 | .enumeration => .integer 0

section Defaults

variable {τ : Type} (layouts : τ → Layout τ)

/-- The slot of a field that holds nothing. A message with implicit presence is one of a map entry,
and its own fields are not. -/
def Shape.emptySlot : Shape τ → Slot
  | implicit _ (.scalar s) => .single (.datum s.default)
  | implicit _ (.message _) => .single (.message [])
  | optional _ _ => .absent
  | repeated _ _ => .repeated []
  | map _ _ _ => .map []
  | oneof _ => .absent

/-- The slots of a message without records. -/
def Layout.emptySlots (layout : Layout τ) : List Slot := layout.fields.map (·.shape.emptySlot)

/-- The value of a type before anything is read. -/
def Kind.empty : Kind τ → Value
  | .scalar s => .datum s.default
  | .message type => .message (layouts type).emptySlots

/-- The slots of a map entry before anything is read. -/
def Kind.emptyEntry (key : Scalar) (value : Kind τ) : List Slot :=
  [.single (.datum key.default), .single (value.empty layouts)]

end Defaults

end Redaction.Wire
