import Mathlib.Data.List.Nodup
import Redaction.Proofs.Merging
import Redaction.Wire.Encode

/-!
# Messages written and read

For layouts without maps and without packed numbers, whose numbers are distinct and small enough for
a key. `SlotsFit` says what the fields of such a message hold and how deep its messages are nested.

* `decode_encode`: a message that fits is read from what is written.
* `fits_of_decode`: a message that is read fits, and it is written with at most twice the bytes.
-/

namespace Redaction.Wire

variable {τ : Type} {layouts : τ → Layout τ}

/-! ### Plain layouts -/

/-- Neither maps nor packed numbers, nor messages that are never unset. -/
def Shape.isPlain : Shape τ → Bool
  | .implicit _ (.scalar _) | .optional _ _ | .repeated _ (.message _) | .oneof _ => true
  | .repeated _ (.scalar s) => !s.isPackable
  | .implicit _ (.message _) | .map _ _ _ => false

/-- The numbers that a field is written under. -/
def Shape.numbers : Shape τ → List Nat
  | .implicit number _ | .optional number _ | .repeated number _ | .map number _ _ => [number]
  | .oneof members => members.map (·.number)

/-- **A plain layout:** plain shapes, and distinct numbers that have a key. -/
structure Layout.IsPlain (layout : Layout τ) : Prop where
  shapes : ∀ field ∈ layout.fields, field.shape.isPlain
  nodup : (layout.fields.flatMap (·.shape.numbers)).Nodup
  numbers : ∀ n ∈ layout.fields.flatMap (·.shape.numbers), 0 < n ∧ n < 2 ^ 29

theorem Shape.hasNumber_iff {shape : Shape τ} {n : Nat} :
    shape.hasNumber n ↔ n ∈ shape.numbers := by
  cases shape with
  | oneof members => simp [hasNumber, numbers]
  | _ =>
    rw [hasNumber, numbers, List.mem_singleton, beq_iff_eq]
    exact eq_comm

/-- The number of a field leads to it. -/
theorem Layout.IsPlain.indexOf_eq {layout : Layout τ} (hl : layout.IsPlain) {i : Nat}
    {field : Field τ} (hf : layout.fields[i]? = some field) {n : Nat}
    (hn : n ∈ field.shape.numbers) : layout.indexOf n = some i := by
  obtain ⟨hi, rfl⟩ := List.getElem?_eq_some_iff.mp hf
  refine List.findIdx?_eq_some_iff_getElem.mpr ⟨hi, Shape.hasNumber_iff.mpr hn, fun j hj hm => ?_⟩
  have hpairs := List.pairwise_iff_getElem.mp (List.nodup_flatMap.mp hl.nodup).2
  exact hpairs j i (Nat.lt_trans hj hi) hi hj (Shape.hasNumber_iff.mp hm) hn

theorem Layout.IsPlain.spells_key {layout : Layout τ} (hl : layout.IsPlain) {i : Nat}
    {field : Field τ} (hf : layout.fields[i]? = some field) {n : Nat} (hn : n ∈ field.shape.numbers)
    (w : WireType) : Key.Spells ⟨n, w⟩ (writeKey n w) := by
  obtain ⟨hpos, hlt⟩ := hl.numbers n (List.mem_flatMap.mpr ⟨field, List.mem_of_getElem? hf, hn⟩)
  have hw := w.number_lt
  have hcode : Key.code ⟨n, w⟩ < 2 ^ 32 := by
    rw [Key.code]
    dsimp only
    omega
  exact ⟨Varint.spells_write (by omega), hcode, by dsimp only; omega⟩

/-! ### Messages that fit -/

/-- What a slot of a plain shape holds, given what its values are. -/
def Slot.Fits (values : Kind τ → Value → Prop) (shape : Shape τ) (slot : Slot) : Prop :=
  match shape, slot with
  | .implicit _ kind, .single v | .optional _ kind, .single v => values kind v
  | .optional _ _, .absent | .oneof _, .absent => True
  | .repeated _ kind, .repeated vs => ∀ v ∈ vs, values kind v
  | .oneof members, .member n v =>
    ∃ kind, Shape.memberKind? members n = some kind ∧ values kind v
  | _, _ => False

/-- **The value fits its type,** and its messages into `limit` levels of nesting. -/
def Value.Fits (layouts : τ → Layout τ) : Nat → Kind τ → Value → Prop
  | _, .scalar s, .datum d => s.Holds d
  | limit + 1, .message type, .message slots =>
    List.Forall₂ (fun slot field => slot.Fits (Value.Fits layouts limit) field.shape) slots
      (layouts type).fields
  | _, _, _ => False

/-- **The slots fit the fields,** and the messages in them into `limit` levels of nesting. -/
abbrev SlotsFit (layouts : τ → Layout τ) (limit : Nat) (slots : List Slot)
    (fields : List (Field τ)) : Prop :=
  List.Forall₂ (fun slot field => slot.Fits (Value.Fits layouts limit) field.shape) slots fields

/-- The messages in a value, and the value if it is one, are nested at most so deep. -/
def Value.NestsWithin : Nat → Value → Prop
  | _, .datum _ => True
  | 0, .message _ => False
  | n + 1, .message slots => ∀ slot ∈ slots, ∀ v ∈ slot.parts, v.NestsWithin n

/-- **The messages in a message are nested at most so deep,** the message itself not counted. -/
def NestWithin (n : Nat) (slots : List Slot) : Prop :=
  ∀ slot ∈ slots, ∀ v ∈ slot.parts, v.NestsWithin n

/-- The wire type of the records of a value. -/
def Kind.wireType : Kind τ → WireType
  | .scalar s => s.wireType
  | .message _ => .lengthDelimited

/-- What is written behind the key of a value. -/
def writeContent (layouts : τ → Layout τ) : Kind τ → Value → Bytes
  | .scalar s, .datum d => s.write d
  | .message type, .message slots =>
    Varint.write (writeSlots layouts (layouts type).fields slots).length ++
      writeSlots layouts (layouts type).fields slots
  | _, _ => []

theorem writeValue_eq {limit : Nat} {kind : Kind τ} {v : Value} (h : v.Fits layouts limit kind)
    (n : Nat) :
    writeValue layouts n kind v = writeKey n kind.wireType ++ writeContent layouts kind v := by
  cases v with
  | datum d =>
    cases kind with
    | scalar s => rw [writeValue, writeScalar, writeContent, Kind.wireType]
    | message type => cases limit <;> exact h.elim
  | message slots =>
    cases kind with
    | scalar s => cases limit <;> exact h.elim
    | message type =>
      rw [writeValue, writeBody, writeContent, Kind.wireType, List.append_assoc]

/-! ### What is written is read -/

/-- What is written of the messages of a level is a form of them. -/
def BodiesRead (layouts : τ → Layout τ) (limit : Nat) : Prop :=
  ∀ (type : τ) (slots : List Slot), (Value.message slots).Fits layouts limit (.message type) →
    (writeContent layouts (.message type) (.message slots)).length < 2 ^ 64 →
      bodyForm layouts limit (layouts type) (layouts type).emptySlots slots
        (writeContent layouts (.message type) (.message slots))

theorem valueForm_write {limit : Nat} (hb : BodiesRead layouts limit) {kind : Kind τ} {v : Value}
    (h : v.Fits layouts limit kind) {n : Nat}
    (hlen : (writeValue layouts n kind v).length < 2 ^ 64) :
    ValueForm layouts (bodyForm layouts limit) kind kind.wireType (kind.empty layouts) v
      (writeContent layouts kind v) := by
  rw [writeValue_eq h, List.length_append] at hlen
  cases kind with
  | scalar s =>
    cases v with
    | datum d =>
      have hd : s.Holds d := by cases limit <;> exact h
      exact ⟨rfl, d, form_write hd (Nat.lt_of_le_of_lt (Nat.le_add_left _ _) hlen), rfl⟩
    | message slots => cases limit <;> exact h.elim
  | message type =>
    cases v with
    | datum d => cases limit <;> exact h.elim
    | message slots =>
      exact ⟨rfl, slots, hb type slots h (Nat.lt_of_le_of_lt (Nat.le_add_left _ _) hlen), rfl⟩

section Writing

variable {limit i : Nat} {layout : Layout τ} {field : Field τ}

/-- The record of a value does to its slot what the value does. -/
theorem recordAt_write (hl : layout.IsPlain) (hf : layout.fields[i]? = some field) {n : Nat}
    (hn : n ∈ field.shape.numbers) {kind : Kind τ} {v : Value} (hv : v.Fits layouts limit kind)
    {slots : List Slot} {slot slot' : Slot} (hs : slots[i]? = some slot)
    (h : SlotForm layouts (bodyForm layouts limit) field.shape ⟨n, kind.wireType⟩ slot slot'
      (writeContent layouts kind v)) :
    RecordAt layouts limit layout slots (slots.set i slot') (writeValue layouts n kind v) := by
  rw [writeValue_eq hv]
  have hget : slots.getD i field.shape.emptySlot = slot := by
    rw [List.getD_eq_getElem?_getD, hs, Option.getD_some]
  exact ⟨⟨n, kind.wireType⟩, _, _, hl.spells_key hf hn _,
    .declared (hl.indexOf_eq hf hn) hf (hget ▸ h), rfl⟩

theorem set_eq_self {α : Type} {l : List α} {a : α} (h : l[i]? = some a) : l.set i a = l := by
  obtain ⟨hi, rfl⟩ := List.getElem?_eq_some_iff.mp h
  exact List.set_getElem_self hi

/-- A value on its own is not one of packed numbers. -/
theorem packed?_wireType (kind : Kind τ) : kind.packed? kind.wireType = none := by
  cases kind with
  | message type => rfl
  | scalar s =>
    unfold Kind.packed? Kind.wireType Scalar.isPackable
    dsimp only
    rw [if_neg]
    simp

theorem run_writeValues (hl : layout.IsPlain) (hb : BodiesRead layouts limit)
    (hf : layout.fields[i]? = some field) {n : Nat} {kind : Kind τ}
    (hshape : field.shape = .repeated n kind) {ws : List Value}
    (hws : ∀ v ∈ ws, v.Fits layouts limit kind)
    (hlen : (writeValues layouts n kind ws).length < 2 ^ 64) {vs : List Value} {slots : List Slot}
    (hs : slots[i]? = some (.repeated vs)) :
    Run (RecordAt layouts limit layout) slots (slots.set i (.repeated (vs ++ ws)))
      (writeValues layouts n kind ws) := by
  induction ws generalizing vs slots with
  | nil =>
    rw [List.append_nil, set_eq_self hs, writeValues]
    exact .done
  | cons v ws ih =>
    obtain ⟨hv, hws⟩ := List.forall_mem_cons.mp hws
    rw [writeValues, List.length_append] at hlen
    rw [writeValues]
    have hn : n ∈ field.shape.numbers := by simp [hshape, Shape.numbers]
    have hform : SlotForm layouts (bodyForm layouts limit) field.shape ⟨n, kind.wireType⟩
        (.repeated vs) (.repeated (vs ++ [v])) (writeContent layouts kind v) := by
      rw [hshape]
      refine ⟨vs ++ [v], ?_, rfl⟩
      rw [ValuesForm, packed?_wireType]
      exact ⟨v, valueForm_write hb hv (n := n) (by omega), rfl⟩
    have hstep := recordAt_write hl hf hn hv hs hform
    have hi := (List.getElem?_eq_some_iff.mp hs).1
    have hset : (slots.set i (.repeated (vs ++ [v])))[i]? = some (.repeated (vs ++ [v])) :=
      List.getElem?_set_self hi
    have hrun := ih hws (by omega) hset
    rw [List.set_set, List.append_assoc] at hrun
    exact .step hstep hrun

/-- **What is written of a field fills its slot.** -/
theorem run_writeSlot (hl : layout.IsPlain) (hb : BodiesRead layouts limit)
    (hf : layout.fields[i]? = some field) {slot : Slot}
    (hfit : slot.Fits (Value.Fits layouts limit) field.shape)
    (hlen : (writeSlot layouts field.shape slot).length < 2 ^ 64) {slots : List Slot}
    (hs : slots[i]? = some field.shape.emptySlot) :
    Run (RecordAt layouts limit layout) slots (slots.set i slot)
      (writeSlot layouts field.shape slot) := by
  obtain ⟨name, shape⟩ := field
  dsimp only at hfit hlen hs ⊢
  have hplain := hl.shapes _ (List.mem_of_getElem? hf)
  have absent (he : slot = shape.emptySlot) (hw : writeSlot layouts shape slot = []) :
      Run (RecordAt layouts limit layout) slots (slots.set i slot)
        (writeSlot layouts shape slot) := by
    rw [hw, he, set_eq_self hs]
    exact .done
  cases shape with
  | implicit n kind =>
    cases slot with
    | single v =>
      rw [writeSlot] at absent hlen ⊢
      cases kind with
      | message type => cases hplain
      | scalar s =>
        split_ifs at absent hlen ⊢ with hempty
        · cases v with
          | message slots => cases hempty
          | datum d =>
            rw [Kind.isEmpty, beq_iff_eq] at hempty
            exact absent (by rw [hempty, Shape.emptySlot]) rfl
        · exact .single (recordAt_write hl hf List.mem_cons_self hfit hs
            ⟨v, valueForm_write hb hfit hlen, rfl⟩)
    | _ => exact hfit.elim
  | optional n kind =>
    cases slot with
    | single v =>
      rw [writeSlot] at hlen ⊢
      exact .single (recordAt_write hl hf List.mem_cons_self hfit hs
        ⟨v, valueForm_write hb hfit hlen, rfl⟩)
    | absent => exact absent rfl rfl
    | _ => exact hfit.elim
  | repeated n kind =>
    cases slot with
    | «repeated» vs =>
      rw [writeSlot] at hlen ⊢
      exact run_writeValues hl hb hf rfl hfit hlen hs
    | _ => exact hfit.elim
  | map n key kind => cases hplain
  | oneof members =>
    cases slot with
    | member n v =>
      obtain ⟨kind, hkind, hv⟩ := hfit
      have hn : n ∈ (Shape.oneof members).numbers := by
        obtain ⟨m, hm, -⟩ := Option.map_eq_some_iff.mp hkind
        exact List.mem_map.mpr ⟨m, List.mem_of_find?_eq_some hm, by simpa using List.find?_some hm⟩
      have hof : Shape.kindOf members n = kind := by rw [Shape.kindOf, hkind, Option.getD_some]
      simp only [writeSlot, hkind] at hlen ⊢
      refine .single (recordAt_write hl hf hn hv hs ?_)
      rw [SlotForm, hof]
      exact ⟨v, valueForm_write hb hv hlen, rfl⟩
    | absent => exact absent rfl rfl
    | _ => exact hfit.elim

/-- What is written of the fields that are left fills their slots, those before being filled. -/
theorem run_writeSlots (hl : layout.IsPlain) (hb : BodiesRead layouts limit)
    (before : List (Field τ)) {fields : List (Field τ)} (hfields : layout.fields = before ++ fields)
    {slots : List Slot} (hfit : SlotsFit layouts limit slots fields)
    (hlen : (writeSlots layouts fields slots).length < 2 ^ 64) (done : List Slot)
    (hdone : done.length = before.length) :
    Run (RecordAt layouts limit layout) (done ++ fields.map (·.shape.emptySlot)) (done ++ slots)
      (writeSlots layouts fields slots) := by
  induction hfit generalizing before done with
  | nil => exact .done
  | @cons slot field slots fields hslot _ ih =>
    rw [writeSlots, List.length_append] at hlen
    rw [writeSlots]
    have hf : layout.fields[before.length]? = some field := by simp [hfields]
    have hs : (done ++ field.shape.emptySlot :: fields.map (·.shape.emptySlot))[before.length]? =
        some field.shape.emptySlot := by simp [← hdone]
    have hfirst := run_writeSlot hl hb hf hslot (by omega) hs
    have hset : (done ++ field.shape.emptySlot :: fields.map (·.shape.emptySlot)).set before.length
        slot = done ++ [slot] ++ fields.map (·.shape.emptySlot) := by simp [← hdone]
    have hrest := ih (before ++ [field]) (by simpa using hfields) (by omega) (done ++ [slot])
      (by simpa using hdone)
    rw [hset] at hfirst
    rw [List.append_assoc done [slot] slots] at hrest
    exact hfirst.append hrest

end Writing

theorem bodiesRead (hl : ∀ type, (layouts type).IsPlain) (limit : Nat) :
    BodiesRead layouts limit := by
  induction limit with
  | zero => exact fun _ _ h _ => h.elim
  | succ limit ih =>
    intro type slots hfit hlen
    rw [writeContent, List.length_append] at hlen
    have hbody : (writeSlots layouts (layouts type).fields slots).length < 2 ^ 64 := by omega
    exact ⟨_, prefixed_write hbody, run_writeSlots (hl type) ih [] rfl hfit hbody [] rfl⟩

/-- **A message that fits is read from what is written.** -/
theorem decode_encode (hl : ∀ type, (layouts type).IsPlain) {type : τ} {slots : List Slot}
    (hfit : SlotsFit layouts depthLimit slots (layouts type).fields)
    (hlen : (encode layouts (layouts type) slots).length < 2 ^ 64) :
    decode layouts (layouts type) (encode layouts (layouts type) slots) = .ok slots :=
  decode_eq_ok_iff.mpr (run_writeSlots (hl type) (bodiesRead hl depthLimit) [] rfl hfit hlen [] rfl)

/-! ### What is read fits -/

/-- The prefix of a body that has grown by at most twice what was read. -/
theorem length_prefix_le {a b n : Nat} {l : Bytes} (hl : Varint.Spells n l) (hb : b ≤ a + 2 * n) :
    (Varint.write b).length ≤ (Varint.write a).length + 2 * l.length := by
  have ha := (Varint.groups_write a).lt
  have hn := hl.groups.lt
  have hpos := hl.length_pos
  have one_le {k : Nat} (hk : 0 < k) : 128 ≤ 128 ^ k := by
    simpa using Nat.pow_le_pow_right (show 0 < 128 by omega) (show 1 ≤ k by omega)
  have hA := one_le (Varint.length_write_pos a)
  have hB := one_le hpos
  rw [Varint.length_write_le_iff (by omega), Nat.pow_add, Nat.two_mul, Nat.pow_add, ← Nat.mul_assoc]
  generalize 128 ^ (Varint.write a).length = A at ha hA ⊢
  generalize 128 ^ l.length = B at hn hB ⊢
  have hsum : A + B ≤ A * B := Nat.add_le_mul (by omega) (by omega)
  have htwice : A * B * 2 ≤ A * B * B := Nat.mul_le_mul_left _ (by omega)
  omega

theorem holds_default (s : Scalar) : s.Holds s.default := by
  cases s
  case string => exact ⟨[], rfl⟩
  case bytes => exact ⟨[], rfl⟩
  all_goals exact ⟨0, by decide, rfl⟩

theorem fits_empty {limit : Nat} {layout : Layout τ} (hl : layout.IsPlain) :
    SlotsFit layouts limit layout.emptySlots layout.fields := by
  refine List.forall₂_map_left_iff.mpr (List.forall₂_same.mpr fun field hf => ?_)
  have hplain := hl.shapes field hf
  generalize field.shape = shape at hplain
  cases shape with
  | implicit n kind =>
    cases kind with
    | message type => cases hplain
    | scalar s => cases limit <;> exact holds_default s
  | optional => trivial
  | «repeated» => exact fun _ h => nomatch h
  | map => cases hplain
  | oneof => trivial

theorem writeSlot_empty {shape : Shape τ} (h : shape.isPlain) :
    writeSlot layouts shape shape.emptySlot = [] := by
  cases shape with
  | implicit n kind =>
    cases kind with
    | message type => cases h
    | scalar s =>
      rw [Shape.emptySlot, writeSlot, if_pos]
      simp [Kind.isEmpty]
  | optional => rfl
  | «repeated» => rfl
  | map => cases h
  | oneof => rfl

theorem writeSlots_empty {layout : Layout τ} (hl : layout.IsPlain) :
    writeSlots layouts layout.fields layout.emptySlots = [] := by
  have hshapes := hl.shapes
  unfold Layout.emptySlots
  generalize layout.fields = fields at hshapes
  induction fields with
  | nil => rfl
  | cons field fields ih =>
    obtain ⟨hfield, hfields⟩ := List.forall_mem_cons.mp hshapes
    rw [List.map_cons, writeSlots, writeSlot_empty hfield, ih hfields, List.append_nil]

/-- The length of what is kept when a value goes on from an old one. -/
def kept (layouts : τ → Layout τ) : Kind τ → Value → Nat
  | .scalar _, _ => 0
  | .message type, v => (writeContent layouts (.message type) v).length

/-- Reading the messages of a level gives messages that fit, and are written with at most twice the
bytes that were read. -/
def BodiesFit (layouts : τ → Layout τ) (limit : Nat) : Prop :=
  ∀ (type : τ) (old slots : List Slot) (q : Bytes),
    old = (layouts type).emptySlots ∨ (Value.message old).Fits layouts limit (.message type) →
    bodyForm layouts limit (layouts type) old slots q →
      (Value.message slots).Fits layouts limit (.message type) ∧
      (writeContent layouts (.message type) (.message slots)).length ≤
        (writeContent layouts (.message type) (.message old)).length + 2 * q.length

theorem fits_of_valueForm {limit : Nat} (hb : BodiesFit layouts limit) {kind : Kind τ}
    {w : WireType} {old v : Value} {q : Bytes}
    (hold : old = kind.empty layouts ∨ old.Fits layouts limit kind)
    (h : ValueForm layouts (bodyForm layouts limit) kind w old v q) :
    w = kind.wireType ∧ v.Fits layouts limit kind ∧
      (writeContent layouts kind v).length ≤ kept layouts kind old + 2 * q.length := by
  cases kind with
  | scalar s =>
    obtain ⟨rfl, d, hd, rfl⟩ := h
    have hfit : (Value.datum d).Fits layouts limit (.scalar s) := by
      cases limit <;> exact holds_of_form hd
    have := length_write_le_of_form hd
    exact ⟨rfl, hfit, by rwa [writeContent, kept, Nat.zero_add]⟩
  | message type =>
    obtain ⟨rfl, slots, hbody, rfl⟩ := h
    cases old with
    | datum d =>
      rcases hold with hold | hold
      · cases hold
      · cases limit <;> exact hold.elim
    | message old =>
      obtain ⟨hfit, hle⟩ := hb type old slots q (hold.imp_left fun h => by cases h; rfl) hbody
      exact ⟨rfl, hfit, hle⟩

/-- Of an empty value at most the length in front of it is kept. -/
theorem kept_empty_le (hl : ∀ type, (layouts type).IsPlain) (kind : Kind τ) :
    kept layouts kind (kind.empty layouts) ≤ 1 := by
  cases kind with
  | scalar s => exact Nat.zero_le 1
  | message type =>
    rw [kept, Kind.empty, writeContent, writeSlots_empty (hl type), List.append_nil,
      List.length_nil, Varint.length_write_le_iff (by omega)]
    omega

theorem length_writeKey_le {key : Key} {k : Bytes} (hk : key.Spells k) {w : WireType}
    (hw : key.wireType = w) : (writeKey key.field w).length ≤ k.length := by
  subst hw
  exact hk.code.length_write_le le_rfl

/-- What is written of a value of which nothing was there before. -/
theorem length_writeValue_le (hl : ∀ type, (layouts type).IsPlain) {limit : Nat}
    (hb : BodiesFit layouts limit) {kind : Kind τ} {key : Key} {k q : Bytes} (hk : key.Spells k)
    {v : Value}
    (h : ValueForm layouts (bodyForm layouts limit) kind key.wireType (kind.empty layouts) v q) :
    v.Fits layouts limit kind ∧
      (writeValue layouts key.field kind v).length ≤ 2 * (k.length + q.length) := by
  obtain ⟨hw, hfit, hle⟩ := fits_of_valueForm hb (.inl rfl) h
  refine ⟨hfit, ?_⟩
  have hkey := length_writeKey_le hk hw
  have hkept := kept_empty_le hl kind
  have hpos := hk.code.length_pos
  rw [writeValue_eq hfit, List.length_append]
  omega

/-- What is written of a value that goes on from an old one. -/
theorem length_writeValue_le_add {limit : Nat} (hb : BodiesFit layouts limit) {kind : Kind τ}
    {key : Key} {k q : Bytes} (hk : key.Spells k) {old v : Value}
    (hold : old.Fits layouts limit kind)
    (h : ValueForm layouts (bodyForm layouts limit) kind key.wireType old v q) :
    v.Fits layouts limit kind ∧ (writeValue layouts key.field kind v).length ≤
      (writeValue layouts key.field kind old).length + 2 * (k.length + q.length) := by
  obtain ⟨hw, hfit, hle⟩ := fits_of_valueForm hb (.inr hold) h
  refine ⟨hfit, ?_⟩
  have hkey := length_writeKey_le hk hw
  have hkept : kept layouts kind old ≤ (writeContent layouts kind old).length := by
    cases kind with
    | scalar s => exact Nat.zero_le _
    | message type => exact le_rfl
  rw [writeValue_eq hfit, writeValue_eq hold, List.length_append, List.length_append]
  omega

section Reading

variable {limit : Nat} {shape : Shape τ} {key : Key} {k q : Bytes}

/-- The value that a record goes on from is empty or the one that is written of the slot. -/
theorem fits_of_current (hl : ∀ type, (layouts type).IsPlain) (hb : BodiesFit layouts limit)
    (hk : key.Spells k) {kind : Kind τ} {slot : Slot} {v : Value}
    (hslot : ∀ old, slot.current? key.field = some old → old.Fits layouts limit kind)
    (h : ValueForm layouts (bodyForm layouts limit) kind key.wireType
      (slot.old layouts key.field kind) v q) :
    v.Fits layouts limit kind ∧ (writeValue layouts key.field kind v).length ≤
      ((slot.current? key.field).elim 0 fun old => (writeValue layouts key.field kind old).length) +
        2 * (k.length + q.length) := by
  unfold Slot.old at h
  cases hc : slot.current? key.field with
  | none =>
    rw [hc] at h
    rw [Option.elim_none, Nat.zero_add]
    exact length_writeValue_le hl hb hk h
  | some old =>
    rw [hc] at h
    exact length_writeValue_le_add hb hk (hslot old hc) h

theorem writeValues_append (n : Nat) (kind : Kind τ) (vs ws : List Value) :
    writeValues layouts n kind (vs ++ ws) =
      writeValues layouts n kind vs ++ writeValues layouts n kind ws := by
  induction vs with
  | nil => rfl
  | cons v vs ih => rw [List.cons_append, writeValues, writeValues, ih, List.append_assoc]

/-- A repeated field of a plain shape takes one value from a record. -/
theorem packed?_of_isPlain {n : Nat} {kind : Kind τ} (h : (Shape.repeated n kind).isPlain)
    (w : WireType) : kind.packed? w = none := by
  cases kind with
  | message type => rfl
  | scalar s =>
    have hs : s.isPackable = false := by simpa [Shape.isPlain] using h
    simp [Kind.packed?, hs]

theorem memberKind?_of_hasNumber {members : List (Member τ)} {n : Nat}
    (h : (Shape.oneof members).hasNumber n) :
    Shape.memberKind? members n = some (Shape.kindOf members n) := by
  obtain ⟨kind, hkind⟩ := exists_memberKind? h
  rw [Shape.kindOf, hkind, Option.getD_some]

/-- What is there of a member is what is written of its oneof. -/
theorem fits_of_current_member {members : List (Member τ)} {n : Nat} {slot : Slot} {old : Value}
    (hn : (Shape.oneof members).hasNumber n)
    (hslot : slot.Fits (Value.Fits layouts limit) (.oneof members))
    (h : slot.current? n = some old) :
    old.Fits layouts limit (Shape.kindOf members n) ∧
      writeSlot layouts (.oneof members) slot =
        writeValue layouts n (Shape.kindOf members n) old := by
  have hkind := memberKind?_of_hasNumber hn
  cases slot with
  | member n' v =>
    obtain ⟨kind, hk, hv⟩ := hslot
    rw [Slot.current?] at h
    split_ifs at h with hnum
    subst hnum
    obtain rfl := Option.some.inj h
    obtain rfl := Option.some.inj (hk.symm.trans hkind)
    exact ⟨hv, by rw [writeSlot]; simp only [hkind]⟩
  | absent => cases h
  | _ => exact hslot.elim

/-- **What a record does to a slot** leaves it one that fits. -/
theorem fits_of_slotForm (hl : ∀ type, (layouts type).IsPlain) (hb : BodiesFit layouts limit)
    (hplain : shape.isPlain) (hn : shape.hasNumber key.field) (hk : key.Spells k)
    {slot slot' : Slot} (hslot : slot.Fits (Value.Fits layouts limit) shape)
    (h : SlotForm layouts (bodyForm layouts limit) shape key slot slot' q) :
    slot'.Fits (Value.Fits layouts limit) shape ∧ (writeSlot layouts shape slot').length ≤
      (writeSlot layouts shape slot).length + 2 * (k.length + q.length) := by
  cases shape with
  | implicit n kind =>
    obtain ⟨v, hv, rfl⟩ := h
    obtain rfl : n = key.field := by simpa [Shape.hasNumber] using hn
    cases kind with
    | message type => cases hplain
    | scalar s =>
      -- a scalar takes the place of the one before it, whichever that is
      have hfresh : ValueForm layouts (bodyForm layouts limit) (.scalar s) key.wireType
          (Kind.empty layouts (.scalar s)) v q := hv
      obtain ⟨hfit, hle⟩ := length_writeValue_le hl hb hk hfresh
      refine ⟨hfit, ?_⟩
      rw [writeSlot]
      split_ifs
      · simp
      · omega
  | optional n kind =>
    obtain ⟨v, hv, rfl⟩ := h
    obtain rfl : n = key.field := by simpa [Shape.hasNumber] using hn
    cases slot with
    | absent => exact fits_of_current hl hb hk (by rintro _ ⟨⟩) hv
    | single old => exact fits_of_current hl hb hk (fun _ h => Option.some.inj h ▸ hslot) hv
    | _ => exact hslot.elim
  | «repeated» n kind =>
    obtain ⟨vs', hvs, rfl⟩ := h
    obtain rfl : n = key.field := by simpa [Shape.hasNumber] using hn
    rw [ValuesForm, packed?_of_isPlain hplain] at hvs
    obtain ⟨v, hv, rfl⟩ := hvs
    obtain ⟨hfit, hle⟩ := length_writeValue_le hl hb hk hv
    cases slot with
    | «repeated» vs =>
      refine ⟨List.forall_mem_append.mpr ⟨hslot, List.forall_mem_singleton.mpr hfit⟩, ?_⟩
      rw [Slot.values, writeSlot, writeSlot, writeValues_append, List.length_append, writeValues,
        writeValues, List.append_nil]
      omega
    | _ => exact hslot.elim
  | map n keyType kind => cases hplain
  | oneof members =>
    obtain ⟨v, hv, rfl⟩ := h
    have hkind := memberKind?_of_hasNumber hn
    obtain ⟨hfit, hle⟩ := fits_of_current hl hb hk
      (fun _ h => (fits_of_current_member hn hslot h).1) hv
    refine ⟨⟨_, hkind, hfit⟩, ?_⟩
    simp only [writeSlot, hkind]
    cases hc : slot.current? key.field with
    | none =>
      rw [hc, Option.elim_none] at hle
      omega
    | some old =>
      rw [hc, Option.elim_some] at hle
      rwa [(fits_of_current_member hn hslot hc).2]

end Reading

theorem length_writeSlots_set (layouts : τ → Layout τ) {fields : List (Field τ)}
    {slots : List Slot} {i : Nat} {field : Field τ} {old : Slot} (hf : fields[i]? = some field)
    (hs : slots[i]? = some old) (slot : Slot) :
    (writeSlots layouts fields (slots.set i slot)).length +
        (writeSlot layouts field.shape old).length =
      (writeSlots layouts fields slots).length + (writeSlot layouts field.shape slot).length := by
  induction slots generalizing fields i with
  | nil => cases hs
  | cons s slots ih =>
    cases fields with
    | nil => cases hf
    | cons f fields =>
      cases i with
      | zero =>
        obtain rfl := Option.some.inj hf
        obtain rfl := Option.some.inj hs
        simp only [List.set_cons_zero, writeSlots, List.length_append]
        omega
      | succ i =>
        rw [List.getElem?_cons_succ] at hf hs
        have := ih hf hs
        simp only [List.set_cons_succ, writeSlots, List.length_append]
        omega

/-- **What a record does to a message** leaves it one that fits. -/
theorem fits_of_recordAt (hl : ∀ type, (layouts type).IsPlain) {limit : Nat}
    (hb : BodiesFit layouts limit) {layout : Layout τ} (hlayout : layout.IsPlain)
    {slots slots' : List Slot} {p : Bytes} (hfit : SlotsFit layouts limit slots layout.fields)
    (h : RecordAt layouts limit layout slots slots' p) :
    SlotsFit layouts limit slots' layout.fields ∧
      (writeSlots layouts layout.fields slots').length ≤
        (writeSlots layouts layout.fields slots).length + 2 * p.length := by
  obtain ⟨key, k, q, hk, hq, rfl⟩ := h
  cases hq with
  | undeclared _ _ => exact ⟨hfit, Nat.le_add_right _ _⟩
  | @declared i field slot _ hi hf hslot =>
    obtain ⟨field', hf', hn⟩ := Layout.exists_of_indexOf hi
    obtain rfl := Option.some.inj (hf.symm.trans hf')
    have hfind : layout.fields.find? (·.shape.hasNumber key.field) = some field := by
      rw [Layout.find?_eq, hi, Option.bind_some, hf]
    obtain ⟨hget, hset⟩ := forall₂_findIdx? hfit hfind hi field.shape.emptySlot
    have hplain := hlayout.shapes field (List.mem_of_getElem? hf)
    obtain ⟨hfit', hle⟩ := fits_of_slotForm hl hb hplain hn hk hget hslot
    refine ⟨hset slot hfit', ?_⟩
    have hlt : i < slots.length := by
      rw [hfit.length_eq]
      exact (List.getElem?_eq_some_iff.mp hf).1
    have hs : slots[i]? = some (slots.getD i field.shape.emptySlot) := by
      rw [List.getD_eq_getElem?_getD, List.getElem?_eq_getElem hlt, Option.getD_some]
    have := length_writeSlots_set layouts hf hs slot
    rw [List.length_append]
    omega

/-- **What a run of records does to a message** leaves it one that fits. -/
theorem fits_of_run (hl : ∀ type, (layouts type).IsPlain) {limit : Nat}
    (hb : BodiesFit layouts limit) {layout : Layout τ} (hlayout : layout.IsPlain)
    {slots slots' : List Slot} {bytes : Bytes} (hfit : SlotsFit layouts limit slots layout.fields)
    (h : Run (RecordAt layouts limit layout) slots slots' bytes) :
    SlotsFit layouts limit slots' layout.fields ∧
      (writeSlots layouts layout.fields slots').length ≤
        (writeSlots layouts layout.fields slots).length + 2 * bytes.length := by
  induction h with
  | done => exact ⟨hfit, Nat.le_add_right _ _⟩
  | step hstep _ ih =>
    obtain ⟨hfit', hle⟩ := fits_of_recordAt hl hb hlayout hfit hstep
    obtain ⟨hfit'', hle'⟩ := ih hfit'
    refine ⟨hfit'', ?_⟩
    rw [List.length_append]
    omega

theorem bodiesFit (hl : ∀ type, (layouts type).IsPlain) (limit : Nat) :
    BodiesFit layouts limit := by
  induction limit with
  | zero => exact fun _ _ _ _ _ h => h.elim
  | succ limit ih =>
    rintro type old slots _ hold ⟨payload, ⟨l, hspells, rfl⟩, hrun⟩
    have hfit : SlotsFit layouts limit old (layouts type).fields := by
      rcases hold with rfl | hold
      · exact fits_empty (hl type)
      · exact hold
    obtain ⟨hfit', hle⟩ := fits_of_run hl ih (hl type) hfit hrun
    refine ⟨hfit', ?_⟩
    have := length_prefix_le hspells hle
    rw [writeContent, writeContent, List.length_append, List.length_append, List.length_append]
    omega

/-- **A message that is read fits,** and at most twice the bytes are written of it. -/
theorem fits_of_decode (hl : ∀ type, (layouts type).IsPlain) {type : τ} {slots : List Slot}
    {bytes : Bytes} (h : decode layouts (layouts type) bytes = .ok slots) :
    SlotsFit layouts depthLimit slots (layouts type).fields ∧
      (encode layouts (layouts type) slots).length ≤ 2 * bytes.length := by
  obtain ⟨hfit, hle⟩ := fits_of_run hl (bodiesFit hl depthLimit) (hl type) (fits_empty (hl type))
    (decode_eq_ok_iff.mp h)
  rw [writeSlots_empty (hl type), List.length_nil, Nat.zero_add] at hle
  exact ⟨hfit, hle⟩

end Redaction.Wire
