import Redaction.Proofs.Scalars

/-!
# What records do to a message

Each record takes the slots of a message to others. The relations of this file say which bytes take
which slots to which, for the layouts of any message types: a value, the slot of a field, a record,
and the body of a message, down to a limit of nesting.

* `reads_mergeRecord`, `reads_mergeBody`: what is merged are the forms of a record and of a body.
* `decode_eq_ok_iff`: what is read as a message is a run of records.
-/

namespace Redaction.Wire

variable {τ : Type} (layouts : τ → Layout τ)

/-! ### Forms -/

/-- The bytes that take the slots of a message to others, given what nested messages are. -/
abbrev BodyForm (τ : Type) := Layout τ → List Slot → List Slot → Bytes → Prop

variable (body : BodyForm τ)

/-- **The forms of a value** that goes on from an old one. -/
def ValueForm (kind : Kind τ) (wireType : WireType) (old v : Value) (q : Bytes) : Prop :=
  match kind with
  | .scalar s => wireType = s.wireType ∧ ∃ d, s.Form d q ∧ .datum d = v
  | .message type =>
    wireType = .lengthDelimited ∧
      ∃ slots, body (layouts type) old.slots slots q ∧ .message slots = v

/-- The type of the numbers that a record of a repeated field holds one after the other, if it is
such a record. -/
def Kind.packed? (kind : Kind τ) (wireType : WireType) : Option Scalar :=
  match kind with
  | .scalar s => if s.isPackable ∧ wireType = .lengthDelimited then some s else none
  | .message _ => none

/-- One more number among the values. -/
def NumberForm (s : Scalar) (vs vs' : List Value) (q : Bytes) : Prop :=
  ∃ d, s.Form d q ∧ vs ++ [.datum d] = vs'

/-- **The forms of what a record adds** to the values of a repeated field. -/
def ValuesForm (kind : Kind τ) (wireType : WireType) (vs vs' : List Value) (q : Bytes) : Prop :=
  match kind.packed? wireType with
  | some s => ∃ payload, Prefixed payload q ∧ Run (NumberForm s) vs vs' payload
  | none => ∃ v, ValueForm layouts body kind wireType (kind.empty layouts) v q ∧ vs ++ [v] = vs'

/-- The value of a slot that a record with the given number goes on from. -/
def Slot.old (slot : Slot) (number : Nat) (kind : Kind τ) : Value :=
  (slot.current? number).getD (kind.empty layouts)

/-- The type of the values that a number of a oneof has. -/
def Shape.kindOf (members : List (Member τ)) (number : Nat) : Kind τ :=
  (memberKind? members number).getD (.scalar .bytes)

/-- **The forms of what a record does to the slot of its field.** -/
def SlotForm (shape : Shape τ) (key : Key) (slot slot' : Slot) (q : Bytes) : Prop :=
  match shape with
  | .implicit _ kind | .optional _ kind =>
    ∃ v, ValueForm layouts body kind key.wireType (slot.old layouts key.field kind) v q ∧
      .single v = slot'
  | .repeated _ kind =>
    ∃ vs, ValuesForm layouts body kind key.wireType slot.values vs q ∧ .repeated vs = slot'
  | .map _ keyType kind =>
    ∃ slots, body (.entry keyType kind) (kind.emptyEntry layouts keyType) slots q ∧
      .map (insertEntry (entryOf layouts keyType kind slots).1
        (entryOf layouts keyType kind slots).2 slot.entries) = slot'
  | .oneof members =>
    ∃ v, ValueForm layouts body (Shape.kindOf members key.field) key.wireType
      (slot.old layouts key.field (Shape.kindOf members key.field)) v q ∧
      .member key.field v = slot'

/-- **What may be behind a key,** and what it does to the slots of the message. -/
inductive FieldForm (limit : Nat) (layout : Layout τ) (key : Key) (slots : List Slot) :
    List Slot → Bytes → Prop
  | declared {i : Nat} {field : Field τ} {slot : Slot} {q : Bytes} :
      layout.indexOf key.field = some i → layout.fields[i]? = some field →
      SlotForm layouts body field.shape key (slots.getD i field.shape.emptySlot) slot q →
      FieldForm limit layout key slots (slots.set i slot) q
  | undeclared {q : Bytes} : layout.indexOf key.field = none → Behind limit key q →
      FieldForm limit layout key slots slots q

/-- The forms of a record that takes the slots of a message to others. -/
def RecordForm (limit : Nat) (layout : Layout τ) (slots slots' : List Slot) : Bytes → Prop :=
  RecordOf fun key q => FieldForm layouts body limit layout key slots slots' q

/-- **The forms of the body of a message,** `limit` levels of nesting being left: its length and a
run of records. -/
def bodyForm : Nat → BodyForm τ
  | 0, _, _, _, _ => False
  | limit + 1, layout, slots, slots', q => ∃ payload, Prefixed payload q ∧
      Run (RecordForm layouts (bodyForm limit) limit layout) slots slots' payload

/-- The forms of a record of a message inside which `limit` levels of nesting are left. -/
abbrev RecordAt (limit : Nat) (layout : Layout τ) : List Slot → List Slot → Bytes → Prop :=
  RecordForm layouts (bodyForm layouts limit) limit layout

/-! ### Reading values -/

theorem form_ne_nil {s : Scalar} {d : Datum} {q : Bytes} (h : s.Form d q) : q ≠ [] := by
  rintro rfl
  have hp := payload_of_form h
  unfold Payload at hp
  split at hp
  · obtain ⟨n, hn⟩ := hp
    exact hn.groups.ne_nil rfl
  · cases hp
  · cases hp
  · obtain ⟨payload, l, hl, he⟩ := hp
    exact hl.groups.ne_nil (List.append_eq_nil_iff.mp he.symm).1
  all_goals exact hp

variable {layouts} {body} {read : BodyReader τ}

/-- A reader that asks for a wire type first. -/
theorem Reads.expect {α : Type} {r : Reader α} {form : α → Bytes → Prop} (h : Reads r form)
    (expected actual : WireType) :
    Reads (fun bytes => do Wire.expect expected actual; r bytes)
      fun a q => actual = expected ∧ form a q := by
  intro bytes a rest
  unfold Wire.expect
  split_ifs with hw
  · change r bytes = _ ↔ _
    simpa only [hw, true_and] using h bytes a rest
  · simp only [hw, false_and, exists_false, iff_false]
    exact fun h => by cases h

theorem reads_mergeValue (hb : ∀ layout slots, Reads (read layout slots) (body layout slots))
    (kind : Kind τ) (wireType : WireType) (old : Value) :
    Reads (mergeValue layouts read kind wireType old)
      (ValueForm layouts body kind wireType old) := by
  cases kind with
  | scalar s => exact ((reads_scalar s).map Value.datum).expect s.wireType wireType
  | message type =>
    exact ((hb (layouts type) old.slots).map Value.message).expect .lengthDelimited wireType

theorem reads_readPacked (s : Scalar) (vs : List Value) :
    Reads (readPacked s vs) (NumberForm s vs) :=
  (reads_scalar s).map fun d => vs ++ [Value.datum d]

theorem reads_readRepeated (hb : ∀ layout slots, Reads (read layout slots) (body layout slots))
    (kind : Kind τ) (wireType : WireType) (vs : List Value) :
    Reads (readRepeated layouts read kind wireType vs)
      (ValuesForm layouts body kind wireType vs) := by
  have value : Reads (mergeValue layouts read kind wireType (kind.empty layouts)) _ :=
    reads_mergeValue hb kind wireType _
  have one := value.map fun v => vs ++ [v]
  unfold ValuesForm
  cases kind with
  | message type => exact one
  | scalar s =>
    unfold Kind.packed?
    dsimp only
    split_ifs with hp
    · intro bytes vs' rest
      rw [readRepeated, if_pos hp]
      refine reads_delimited (reads_readPacked s) ?_ vs bytes vs' rest
      rintro _ _ p ⟨d, hd, -⟩
      exact form_ne_nil hd
    · intro bytes vs' rest
      rw [readRepeated, if_neg hp]
      exact one bytes vs' rest

/-! ### Reading records -/

/-- **What is merged into a slot.** -/
theorem reads_mergeSlot (hb : ∀ layout slots, Reads (read layout slots) (body layout slots))
    (shape : Shape τ) (key : Key) (slot : Slot) :
    Reads (mergeSlot layouts read shape key slot) (SlotForm layouts body shape key slot) := by
  cases shape with
  | implicit n kind | optional n kind =>
    exact (reads_mergeValue hb kind key.wireType (slot.old layouts key.field kind)).map Slot.single
  | repeated n kind =>
    exact (reads_readRepeated hb kind key.wireType slot.values).map Slot.repeated
  | map n keyType kind =>
    exact (hb (.entry keyType kind) (kind.emptyEntry layouts keyType)).map fun slots =>
      Slot.map (insertEntry (entryOf layouts keyType kind slots).1
        (entryOf layouts keyType kind slots).2 slot.entries)
  | oneof members =>
    exact (reads_mergeValue hb (Shape.kindOf members key.field) key.wireType
      (slot.old layouts key.field (Shape.kindOf members key.field))).map (Slot.member key.field)

/-- The field that a number is found to belong to stands at its place. -/
theorem Layout.find?_eq (layout : Layout τ) (n : Nat) :
    layout.fields.find? (·.shape.hasNumber n) = (layout.indexOf n).bind (layout.fields[·]?) :=
  List.find?_eq_bind_findIdx?_getElem?

/-- The place of a number is that of a field which it belongs to. -/
theorem Layout.exists_of_indexOf {layout : Layout τ} {n i : Nat} (h : layout.indexOf n = some i) :
    ∃ field, layout.fields[i]? = some field ∧ field.shape.hasNumber n := by
  obtain ⟨hi, hn, -⟩ := List.findIdx?_eq_some_iff_getElem.mp h
  exact ⟨layout.fields[i], List.getElem?_eq_getElem hi, hn⟩

/-- **What is merged as a record.** -/
theorem reads_mergeRecord (hb : ∀ layout slots, Reads (read layout slots) (body layout slots))
    (limit : Nat) (layout : Layout τ) (slots : List Slot) :
    Reads (mergeRecord layouts read limit layout slots)
      (RecordForm layouts body limit layout slots) := by
  intro bytes slots' rest
  rw [mergeRecord, bind_eq_ok]
  constructor
  · rintro ⟨⟨key, rest'⟩, hkey, h⟩
    obtain ⟨k, hk, rfl⟩ := (reads_readKey _ _ _).mp hkey
    dsimp only at h
    rw [Layout.find?_eq] at h
    cases hi : layout.indexOf key.field with
    | some i =>
      obtain ⟨field, hf, -⟩ := Layout.exists_of_indexOf hi
      rw [hi, Option.bind_some, hf] at h
      obtain ⟨⟨slot, rest''⟩, hslot, h⟩ := bind_eq_ok.mp h
      obtain ⟨rfl, rfl⟩ := Prod.mk.inj (pure_eq_ok.mp h)
      obtain ⟨q, hq, rfl⟩ := (reads_mergeSlot hb _ _ _ _ _ _).mp (mapError_eq_ok.mp hslot)
      exact ⟨k ++ q, ⟨key, k, q, hk, .declared hi hf hq, rfl⟩, (List.append_assoc ..).symm⟩
    | none =>
      rw [hi, Option.bind_none] at h
      obtain ⟨rest'', hskip, h⟩ := bind_eq_ok.mp h
      obtain ⟨rfl, rfl⟩ := Prod.mk.inj (pure_eq_ok.mp h)
      obtain ⟨q, hq, rfl⟩ := skip_eq_ok_iff.mp hskip
      exact ⟨k ++ q, ⟨key, k, q, hk, .undeclared hi hq, rfl⟩, (List.append_assoc ..).symm⟩
  · rintro ⟨_, ⟨key, k, q, hk, hq, rfl⟩, rfl⟩
    refine ⟨(key, q ++ rest), ?_, ?_⟩
    · rw [List.append_assoc]
      exact reads_readKey.append hk _
    · dsimp only
      rw [Layout.find?_eq]
      cases hq with
      | @declared i field slot q hi hf hslot =>
        rw [hi, Option.bind_some, hf]
        refine bind_eq_ok.mpr ⟨(slot, rest), mapError_eq_ok.mpr ?_, rfl⟩
        exact (reads_mergeSlot hb _ _ _).append hslot rest
      | undeclared hi hbehind =>
        rw [hi, Option.bind_none]
        exact bind_eq_ok.mpr ⟨rest, skip_eq_ok_iff.mpr ⟨q, hbehind, rfl⟩, rfl⟩

theorem RecordForm.ne_nil {limit : Nat} {layout : Layout τ} {slots slots' : List Slot} {p : Bytes}
    (h : RecordForm layouts body limit layout slots slots' p) : p ≠ [] := RecordOf.ne_nil h

/-- **What is merged as the body of a message.** -/
theorem reads_mergeBody (layouts : τ → Layout τ) (limit : Nat) (layout : Layout τ)
    (slots : List Slot) :
    Reads (mergeBody layouts limit layout slots) (bodyForm layouts limit layout slots) := by
  induction limit generalizing layout slots with
  | zero =>
    intro bytes slots' rest
    simp [mergeBody, refuse, bodyForm]
  | succ limit ih =>
    exact reads_delimited (reads_mergeRecord ih limit layout) RecordForm.ne_nil slots

/-- **What is read as a message is a run of records** from the message that has none. -/
theorem decode_eq_ok_iff {layout : Layout τ} {slots : List Slot} {bytes : Bytes} :
    decode layouts layout bytes = .ok slots ↔
      Run (RecordAt layouts depthLimit layout) layout.emptySlots slots bytes := by
  rw [decode, mergeInto, bind_eq_ok]
  constructor
  · rintro ⟨⟨slots', rest⟩, hr, h⟩
    obtain rfl := pure_eq_ok.mp h
    obtain ⟨payload, hrun, rfl, hrest⟩ :=
      (repeatUntil_eq_ok_iff (reads_mergeRecord (reads_mergeBody layouts depthLimit) _ _)
        RecordForm.ne_nil (Nat.lt_succ_self _)).mp hr
    rw [List.length_eq_zero_iff.mp hrest, List.append_nil]
    exact hrun
  · intro hrun
    refine ⟨(slots, []), ?_, rfl⟩
    refine (repeatUntil_eq_ok_iff (reads_mergeRecord (reads_mergeBody layouts depthLimit) _ _)
      RecordForm.ne_nil (Nat.lt_succ_self _)).mpr ?_
    exact ⟨bytes, hrun, (List.append_nil _).symm, rfl⟩

end Redaction.Wire
