import Mathlib.Data.List.Forall2
import Redaction.Proofs.Emission
import Redaction.Render.Messages
import Redaction.Schema.Layout

/-!
# The documents of messages

What a message is to look like, said by recursion over the fields of its type: a field outside of a
oneof is one member, a oneof is one member if it is set and none if not. A redacted field shows as
its mask whatever is in it; any other field shows the documents of its values.

The slots of a message stand for its rows: a field outside of a oneof is a row of its own, the
members of a oneof share one. Which of them is set is told by the number that their variant has on
the wire.
-/

namespace Redaction.Document

open Schema Wire

/-! ### Scalars, well-known messages and masks -/

/-- The document of a scalar. -/
def ofScalar : ScalarKind → Datum → Json
  | .string, .text s => .text s
  | .bytes, .blob b => Render.bytes b
  | .int _, .integer n | .enumeration, .integer n => .integer n
  | .float .single, .float x => Render.single x
  | .float .double, .double x => Render.double x
  | .bool, .bool b => .bool b
  | _, _ => .null

/-- The document of a well-known message; a wrapper shows as what it wraps. -/
def ofWellKnown (slots : List Slot) : WellKnown → Json
  | .timestamp => (Render.Timestamp.ofSlots slots).json
  | .duration => (Render.Duration.ofSlots slots).json
  | .empty => .object []
  | .struct => (Render.Dynamic.ofStruct slots).json
  | .value => (Render.Dynamic.ofValue (.message slots)).json
  | .listValue => (Render.Dynamic.ofList slots).json
  | .fieldMask => Render.fieldMask (Render.pathsOf slots)
  | .any => .object [("@type", .text (Render.typeUrlOf slots))]
  | .wrapper kind =>
    match slots with
    | [.single (.datum d)] => ofScalar kind d
    | _ => .null

/-- The document of a mask. -/
def ofMask : Mask → Json
  | .text s => .text s
  | .signed n => .integer n.toInt
  | .unsigned n => .integer n.toNat
  | .enum n => .integer n.toInt
  | .single x => Render.single x
  | .double x => Render.double x
  | .bool b => .bool b
  | .null => .null
  | .emptyList => .array []
  | .emptyMap => .object []

/-- **What a redacted field shows as:** the empty form of what is not a scalar, and for a scalar its
override, or the mask of its kind. -/
def ofRedacted (f : Schema.Field) : Json :=
  match f.form with
  | .repeated => .array []
  | .map => .object []
  | .message => .null
  | .scalar kind => ofMask ((f.override?.bind kind.overridden?).getD kind.defaultMask)

/-- The text of a map key. -/
def keyText : Datum → String
  | .text s => s
  | .bool b => if b then "true" else "false"
  | d => String.ofList (Number.integerText d.toInt)

/-! ### Rows -/

/-- What a slot stands for: a field of its own, or the members of a oneof under their numbers. -/
inductive Row where
  | field (f : Schema.Field)
  | oneof (alternatives : List (Nat × Schema.Field))

/-- The row of a leader with its slot's field. -/
def rowOf (m : Message) (f : Schema.Field) (w : Wire.Field TypeName) : Row :=
  match f.oneof, w.shape with
  | some index, .oneof members =>
    .oneof ((members.map (·.number)).zip (Code.membersOf m index))
  | _, _ => .field f

/-- **The rows of a message type,** in the order of declaration. -/
def rowsOf (m : Message) (layout : Layout TypeName) : List Row :=
  List.zipWith (rowOf m) (Code.leaders [] m.fields) layout.fields

/-! ### Documents -/

variable (rows : TypeName → List Row)

mutual
/-- **The document of a value.** -/
def ofValue : Value → ElementType → Json
  | .datum d, .scalar kind => ofScalar kind d
  | .message slots, .message type =>
    match WellKnown.ofName? type with
    | some known => ofWellKnown slots known
    | none => .object (members slots (rows type))
  | _, _ => .null

/-- What a field that is not redacted shows as: null if it is not set, the documents of its items,
or those of its entries in the order of their keys. -/
def ofSlot : Slot → ElementType → Json
  | .absent, _ => .null
  | .single v, element | .member _ v, element => ofValue v element
  | .repeated vs, element => .array (ofItems vs element)
  | .map es, element => .object ((ofEntries es element).mergeSort fun a b => a.1 ≤ b.1)

def ofItems : List Value → ElementType → List Json
  | [], _ => []
  | v :: vs, element => ofValue v element :: ofItems vs element

def ofEntries : List (Datum × Value) → ElementType → List (String × Json)
  | [], _ => []
  | (k, v) :: es, element => (keyText k, ofValue v element) :: ofEntries es element

/-- **The members of a message:** one for each field, and one for each oneof that is set. -/
def members : List Slot → List Row → List (String × Json)
  | s :: slots, .field f :: rows =>
    (f.jsonName, if f.isRedacted then ofRedacted f else ofSlot s f.category.element) ::
      members slots rows
  | s :: slots, .oneof alternatives :: rows => ofChoice s alternatives ++ members slots rows
  | [], _ => []
  | _ :: _, [] => []

/-- The member of the alternative that is set. -/
def ofChoice : Slot → List (Nat × Schema.Field) → List (String × Json)
  | .member number v, alternatives =>
    match alternatives.lookup number with
    | some f => [(f.jsonName, if f.isRedacted then ofRedacted f else ofValue v f.category.element)]
    | none => []
  | _, _ => []
end

/-! ### Items, entries and keys -/

variable {rows}

theorem members_cons (s : Slot) (row : Row) (slots : List Slot) (rs : List Row) :
    members rows (s :: slots) (row :: rs) = members rows [s] [row] ++ members rows slots rs := by
  cases row <;> simp [members]

theorem ofItems_eq_map (vs : List Value) (element : ElementType) :
    ofItems rows vs element = vs.map (ofValue rows · element) := by
  induction vs with
  | nil => rfl
  | cons v vs ih => rw [ofItems, ih, List.map_cons]

theorem ofEntries_eq_map (es : List (Datum × Value)) (element : ElementType) :
    ofEntries rows es element = es.map fun e => (keyText e.1, ofValue rows e.2 element) := by
  induction es with
  | nil => rfl
  | cons e es ih => rw [ofEntries, ih, List.map_cons]

/-- The keys that a row may show. -/
def Row.keys : Row → List String
  | field f => [f.jsonName]
  | oneof alternatives => alternatives.map (·.2.jsonName)

theorem keys_ofChoice (s : Slot) (alternatives : List (Nat × Schema.Field)) :
    ((ofChoice rows s alternatives).map (·.1)).Sublist (alternatives.map (·.2.jsonName)) := by
  cases s with
  | member n v =>
    rw [ofChoice]
    split
    · next f hf =>
      obtain ⟨l₁, l₂, rfl, -⟩ := List.lookup_eq_some_iff.mp hf
      rw [List.map_append, List.map_cons]
      exact (List.singleton_sublist.mpr List.mem_cons_self).trans (List.sublist_append_right _ _)
    · exact List.nil_sublist _
  | _ => exact List.nil_sublist _

/-- **The keys of a message are keys of its rows,** in their order. -/
theorem keys_members : ∀ (slots : List Slot) (rs : List Row),
    ((members rows slots rs).map (·.1)).Sublist (rs.flatMap Row.keys)
  | [], rs => by simp [members]
  | s :: slots, [] => by simp [members]
  | s :: slots, .field f :: rs => by
    rw [members, List.map_cons, List.flatMap_cons]
    exact (keys_members slots rs).cons_cons f.jsonName
  | s :: slots, .oneof alternatives :: rs => by
    rw [members, List.map_append, List.flatMap_cons]
    exact (keys_ofChoice s alternatives).append (keys_members slots rs)

end Redaction.Document
