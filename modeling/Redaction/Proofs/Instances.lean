import Mathlib.Data.List.Forall2
import Mathlib.Data.List.Nodup
import Redaction.Proofs.Results
import Redaction.Wire.Decode

/-!
# Instances of message types

What the slots of a message of a type look like: there is one for each field of the layout, and it
holds what the shape of the field allows (`Slot.IsOf`). The keys of a map are distinct scalars of
the type of its keys; a oneof holds a value of the type of the member that is set.

* `Value.induct` is the induction on values: a message comes after all values in its slots.
* `isOf_mergeSlot`, `slotsOf_mergeRecord`: reading a record keeps a message an instance.
* `slotsOf_mergeInto`: whatever bytes are read into it, an instance of a type stays one.
-/

namespace Redaction.Wire

/-! ### Induction on values -/

/-- The values that a slot is made of. -/
def Slot.parts : Slot → List Value
  | .absent => []
  | .single v => [v]
  | .repeated vs => vs
  | .map es => es.map (·.2)
  | .member _ v => [v]

/-- **Induction on values:** what holds of a message when it holds of all values in its slots holds
of every value. -/
theorem Value.induct {P : Value → Prop} (datum : ∀ d, P (.datum d))
    (message : ∀ slots : List Slot, (∀ s ∈ slots, ∀ v ∈ s.parts, P v) → P (.message slots))
    (v : Value) : P v :=
  @Value.rec P (fun s => ∀ v ∈ s.parts, P v) (fun slots => ∀ s ∈ slots, ∀ v ∈ s.parts, P v)
    (fun vs => ∀ v ∈ vs, P v) (fun es => ∀ v ∈ es.map (·.2), P v) (fun e => P e.2)
    datum message
    (fun _ hv => nomatch hv)
    (fun _ hv => List.forall_mem_singleton.mpr hv)
    (fun _ hvs => hvs)
    (fun _ hes => hes)
    (fun _ _ hv => List.forall_mem_singleton.mpr hv)
    (fun _ hs => nomatch hs)
    (fun _ _ hs hss => List.forall_mem_cons.mpr ⟨hs, hss⟩)
    (fun _ hv => nomatch hv)
    (fun _ _ hv hvs => List.forall_mem_cons.mpr ⟨hv, hvs⟩)
    (fun _ he => nomatch he)
    (fun _ _ he hes => List.forall_mem_cons.mpr ⟨he, hes⟩)
    (fun _ _ hv => hv) v

/-! ### Instances -/

/-- Whether a datum is one of a scalar type. -/
def Scalar.admits (s : Scalar) : Datum → Bool
  | .double _ => s == .double
  | .float _ => s == .float
  | .bool _ => s == .bool
  | .text _ => s == .string
  | .blob _ => s == .bytes
  | .integer _ => !([.double, .float, .bool, .string, .bytes] : List Scalar).contains s

variable {τ : Type} {layouts : τ → Layout τ}

mutual
/-- **The value is one of the type.** -/
inductive Value.IsOf (layouts : τ → Layout τ) : Value → Kind τ → Prop
  | datum {d : Datum} {s : Scalar} : s.admits d → Value.IsOf layouts (.datum d) (.scalar s)
  | message {slots : List Slot} {type : τ} :
      List.Forall₂ (fun s (w : Field τ) => Slot.IsOf layouts s w.shape) slots
        (layouts type).fields →
      Value.IsOf layouts (.message slots) (.message type)

/-- **The slot is one of a field with the shape.** -/
inductive Slot.IsOf (layouts : τ → Layout τ) : Slot → Shape τ → Prop
  | implicit {v : Value} {n : Nat} {kind : Kind τ} : v.IsOf layouts kind →
      Slot.IsOf layouts (.single v) (.implicit n kind)
  | unset {n : Nat} {kind : Kind τ} : Slot.IsOf layouts .absent (.optional n kind)
  | set {v : Value} {n : Nat} {kind : Kind τ} : v.IsOf layouts kind →
      Slot.IsOf layouts (.single v) (.optional n kind)
  | repeated {vs : List Value} {n : Nat} {kind : Kind τ} : (∀ v ∈ vs, v.IsOf layouts kind) →
      Slot.IsOf layouts (.repeated vs) (.repeated n kind)
  | map {es : List (Datum × Value)} {n : Nat} {key : Scalar} {kind : Kind τ} :
      (es.map (·.1)).Nodup → (∀ e ∈ es, key.admits e.1) → (∀ e ∈ es, e.2.IsOf layouts kind) →
      Slot.IsOf layouts (.map es) (.map n key kind)
  | unchosen {members : List (Member τ)} : Slot.IsOf layouts .absent (.oneof members)
  | member {v : Value} {n : Nat} {members : List (Member τ)} {kind : Kind τ} :
      Shape.memberKind? members n = some kind → v.IsOf layouts kind →
      Slot.IsOf layouts (.member n v) (.oneof members)
end

/-- **The slots are those of a message with the fields.** -/
abbrev SlotsOf (layouts : τ → Layout τ) (slots : List Slot) (fields : List (Field τ)) : Prop :=
  List.Forall₂ (fun s (w : Field τ) => s.IsOf layouts w.shape) slots fields

theorem Value.isOf_message {slots : List Slot} {type : τ} :
    (Value.message slots).IsOf layouts (.message type) ↔
      SlotsOf layouts slots (layouts type).fields :=
  ⟨fun h => by cases h with | message h => exact h, .message⟩

/-- The slots of a message value. -/
theorem Value.IsOf.slots {v : Value} {type : τ} (h : v.IsOf layouts (.message type)) :
    SlotsOf layouts v.slots (layouts type).fields := by
  cases h with
  | message h => exact h

/-! ### Messages without records -/

theorem Scalar.admits_default (s : Scalar) : s.admits s.default := by cases s <;> decide

/-- Every field of the layouts starts with a slot of its own shape. -/
def StartsEmpty (layouts : τ → Layout τ) : Prop :=
  ∀ type, ∀ w ∈ (layouts type).fields, w.shape.emptySlot.IsOf layouts w.shape

/-- A shape that is not a message with implicit presence has an empty slot. -/
theorem isOf_emptySlot {shape : Shape τ} (h : ∀ n type, shape ≠ .implicit n (.message type)) :
    shape.emptySlot.IsOf layouts shape := by
  cases shape with
  | implicit n kind =>
    cases kind with
    | scalar s => exact .implicit (.datum s.admits_default)
    | message type => exact absurd rfl (h n type)
  | optional => exact .unset
  | repeated => exact .repeated fun _ hv => nomatch hv
  | map => exact .map List.nodup_nil (fun _ he => nomatch he) fun _ he => nomatch he
  | oneof => exact .unchosen

theorem slotsOf_empty {fields : List (Field τ)}
    (h : ∀ w ∈ fields, w.shape.emptySlot.IsOf layouts w.shape) :
    SlotsOf layouts (fields.map (·.shape.emptySlot)) fields :=
  List.forall₂_map_left_iff.mpr (List.forall₂_same.mpr h)

theorem isOf_empty (h : StartsEmpty layouts) (kind : Kind τ) :
    (kind.empty layouts).IsOf layouts kind := by
  cases kind with
  | scalar s => exact .datum s.admits_default
  | message type => exact .message (slotsOf_empty (h type))

theorem slotsOf_emptyEntry (h : StartsEmpty layouts) (key : Scalar) (kind : Kind τ) :
    SlotsOf layouts (kind.emptyEntry layouts key) (Layout.entry key kind).fields :=
  .cons (.implicit (.datum key.admits_default)) (.cons (.implicit (isOf_empty h kind)) .nil)

/-! ### Reading values -/

theorem Reader.map_ok {α β : Type} {f : α → β} {r : Reader α} {bytes rest : Bytes} {b : β}
    (h : r.map f bytes = .ok (b, rest)) : ∃ a, f a = b := by
  obtain ⟨⟨a, r'⟩, -, h⟩ := bind_eq_ok.mp h
  exact ⟨a, congrArg Prod.fst (pure_eq_ok.mp h)⟩

theorem admits_readText {bytes rest : Bytes} {d : Datum} (h : readText bytes = .ok (d, rest)) :
    Scalar.string.admits d := by
  obtain ⟨⟨payload, r⟩, -, h⟩ := bind_eq_ok.mp h
  dsimp only at h
  split at h
  · obtain rfl := congrArg Prod.fst (pure_eq_ok.mp h)
    rfl
  · cases h

/-- A reader of a scalar type gives scalars of the type. -/
theorem admits_read {s : Scalar} {bytes rest : Bytes} {d : Datum}
    (h : s.read bytes = .ok (d, rest)) : s.admits d := by
  cases s
  case string => exact admits_readText h
  all_goals
    rw [Scalar.read] at h
    obtain ⟨n, rfl⟩ := Reader.map_ok h
    rfl

/-- A reader of bodies that keeps messages instances of their layouts. -/
def Keeps (layouts : τ → Layout τ) (body : BodyReader τ) : Prop :=
  ∀ {layout : Layout τ} {slots slots' : List Slot} {bytes rest : Bytes},
    SlotsOf layouts slots layout.fields → body layout slots bytes = .ok (slots', rest) →
      SlotsOf layouts slots' layout.fields

variable {body : BodyReader τ}

theorem isOf_mergeValue (hb : Keeps layouts body) {kind : Kind τ} {wireType : WireType}
    {old v : Value} {bytes rest : Bytes} (ho : old.IsOf layouts kind)
    (h : mergeValue layouts body kind wireType old bytes = .ok (v, rest)) :
    v.IsOf layouts kind := by
  unfold mergeValue at h
  cases kind with
  | scalar s =>
    obtain ⟨_, -, h⟩ := bind_eq_ok.mp h
    obtain ⟨⟨d, r⟩, hd, h⟩ := bind_eq_ok.mp h
    obtain rfl := congrArg Prod.fst (pure_eq_ok.mp h)
    exact .datum (admits_read hd)
  | message type =>
    obtain ⟨_, -, h⟩ := bind_eq_ok.mp h
    obtain ⟨⟨slots, r⟩, hs, h⟩ := bind_eq_ok.mp h
    obtain rfl := congrArg Prod.fst (pure_eq_ok.mp h)
    exact .message (hb ho.slots hs)

/-- **An invariant of a loop** that every step keeps holds of what the loop gives. -/
theorem repeatUntil_invariant {σ : Type} {step : σ → Reader σ} {P : σ → Prop}
    (hstep : ∀ {s s' bytes rest}, P s → step s bytes = .ok (s', rest) → P s') {stop : Nat} :
    ∀ {rounds : Nat} {s s' : σ} {bytes rest : Bytes}, P s →
      repeatUntil step stop rounds s bytes = .ok (s', rest) → P s'
  | 0, s, s', bytes, rest, hs, h => by
    rw [repeatUntil, Except.ok.injEq, Prod.mk.injEq] at h
    exact h.1 ▸ hs
  | rounds + 1, s, s', bytes, rest, hs, h => by
    unfold repeatUntil at h
    split_ifs at h
    · cases h
    · rw [Except.ok.injEq, Prod.mk.injEq] at h
      exact h.1 ▸ hs
    · obtain ⟨⟨t, r⟩, ht, h⟩ := bind_eq_ok.mp h
      exact repeatUntil_invariant hstep (hstep hs ht) h

theorem delimited_invariant {σ : Type} {step : σ → Reader σ} {P : σ → Prop}
    (hstep : ∀ {s s' bytes rest}, P s → step s bytes = .ok (s', rest) → P s') {s s' : σ}
    {bytes rest : Bytes} (hs : P s) (h : delimited step s bytes = .ok (s', rest)) : P s' := by
  obtain ⟨⟨n, r⟩, -, h⟩ := bind_eq_ok.mp h
  dsimp only at h
  split_ifs at h
  · cases h
  · exact repeatUntil_invariant hstep hs h

theorem isOf_readRepeated (hl : StartsEmpty layouts) (hb : Keeps layouts body) {kind : Kind τ}
    {wireType : WireType} {vs vs' : List Value} {bytes rest : Bytes}
    (hvs : ∀ v ∈ vs, v.IsOf layouts kind)
    (h : readRepeated layouts body kind wireType vs bytes = .ok (vs', rest)) :
    ∀ v ∈ vs', v.IsOf layouts kind := by
  have one (h : (mergeValue layouts body kind wireType (kind.empty layouts) bytes).bind
      (fun r => .ok (vs ++ [r.1], r.2)) = .ok (vs', rest)) : ∀ v ∈ vs', v.IsOf layouts kind := by
    obtain ⟨⟨v, r⟩, hv, h⟩ := bind_eq_ok.mp h
    obtain rfl := congrArg Prod.fst (Except.ok.inj h)
    refine List.forall_mem_append.mpr ⟨hvs, List.forall_mem_singleton.mpr ?_⟩
    exact isOf_mergeValue hb (isOf_empty hl kind) hv
  cases kind with
  | message type => exact one h
  | scalar s =>
    unfold readRepeated at h
    dsimp only at h
    split_ifs at h
    · refine delimited_invariant (P := fun vs => ∀ v ∈ vs, v.IsOf layouts (.scalar s))
        (fun hus hu => ?_) hvs h
      obtain ⟨⟨d, r⟩, hd, hu⟩ := bind_eq_ok.mp hu
      obtain rfl := congrArg Prod.fst (pure_eq_ok.mp hu)
      exact List.forall_mem_append.mpr
        ⟨hus, List.forall_mem_singleton.mpr (.datum (admits_read hd))⟩
    · exact one h

/-! ### Reading slots -/

theorem mem_of_mem_insertEntry {key : Datum} {value : Value} {e : Datum × Value}
    {es : List (Datum × Value)} (h : e ∈ insertEntry key value es) : e = (key, value) ∨ e ∈ es := by
  induction es with
  | nil => exact Or.inl (List.mem_singleton.mp h)
  | cons x es ih =>
    unfold insertEntry at h
    split_ifs at h
    · exact (List.mem_cons.mp h).imp_right (List.mem_cons_of_mem _)
    · rcases List.mem_cons.mp h with rfl | h
      · exact Or.inr List.mem_cons_self
      · exact (ih h).imp_right (List.mem_cons_of_mem _)

theorem nodup_insertEntry {key : Datum} {value : Value} {es : List (Datum × Value)}
    (h : (es.map (·.1)).Nodup) : ((insertEntry key value es).map (·.1)).Nodup := by
  induction es with
  | nil => exact List.nodup_singleton _
  | cons x es ih =>
    obtain ⟨hx, hes⟩ := List.nodup_cons.mp h
    unfold insertEntry
    split_ifs with hk
    · exact List.nodup_cons.mpr ⟨hk ▸ hx, hes⟩
    · refine List.nodup_cons.mpr ⟨fun hm => ?_, ih hes⟩
      obtain ⟨e, he, hek⟩ := List.mem_map.mp hm
      rcases mem_of_mem_insertEntry he with rfl | he
      · exact hk hek.symm
      · exact hx (List.mem_map.mpr ⟨e, he, hek⟩)

/-- An entry is read as a message with a key and a value, which are never unset. -/
theorem isOf_entryOf {keyType : Scalar} {kind : Kind τ} {slots : List Slot}
    (h : SlotsOf layouts slots (Layout.entry keyType kind).fields) :
    keyType.admits (entryOf layouts keyType kind slots).1 ∧
      (entryOf layouts keyType kind slots).2.IsOf layouts kind := by
  obtain _ | ⟨hk, _ | ⟨hv, _ | _⟩⟩ := h
  cases hk with
  | implicit hk =>
    cases hk with
    | datum hk =>
      cases hv with
      | implicit hv => exact ⟨hk, hv⟩

/-- A map stays one of its field when an entry is added. -/
theorem isOf_insertEntry {es : List (Datum × Value)} {n : Nat} {keyType : Scalar} {kind : Kind τ}
    {key : Datum} {value : Value} (hd : (es.map (·.1)).Nodup) (hkeys : ∀ e ∈ es, keyType.admits e.1)
    (hvals : ∀ e ∈ es, e.2.IsOf layouts kind) (hk : keyType.admits key)
    (hv : value.IsOf layouts kind) :
    (Slot.map (insertEntry key value es)).IsOf layouts (.map n keyType kind) := by
  refine .map (nodup_insertEntry hd) (fun e he => ?_) fun e he => ?_
  · rcases mem_of_mem_insertEntry he with rfl | he
    · exact hk
    · exact hkeys e he
  · rcases mem_of_mem_insertEntry he with rfl | he
    · exact hv
    · exact hvals e he

/-- A record may only go on with a value of the type that it has. -/
theorem isOf_current {slot : Slot} {v : Value} {number : Nat} {kind : Kind τ}
    (h : ∀ v, slot.current? number = some v → v.IsOf layouts kind) (hv : v.IsOf layouts kind) :
    ((slot.current? number).getD v).IsOf layouts kind := by
  cases hc : slot.current? number with
  | none => exact hv
  | some w => exact h w hc

/-- A oneof has a member of each of its numbers. -/
theorem exists_memberKind? {members : List (Member τ)} {n : Nat}
    (h : (Shape.oneof members).hasNumber n) :
    ∃ kind, Shape.memberKind? members n = some kind := by
  obtain ⟨m, hm⟩ := Option.isSome_iff_exists.mp (List.find?_isSome.mpr (List.any_eq_true.mp h))
  exact ⟨m.kind, by rw [Shape.memberKind?, hm, Option.map_some]⟩

/-- **Reading a record keeps a slot one of its field.** -/
theorem isOf_mergeSlot (hl : StartsEmpty layouts) (hb : Keeps layouts body) {shape : Shape τ}
    {key : Key} {slot slot' : Slot} {bytes rest : Bytes} (hn : shape.hasNumber key.field)
    (hs : slot.IsOf layouts shape)
    (h : mergeSlot layouts body shape key slot bytes = .ok (slot', rest)) :
    slot'.IsOf layouts shape := by
  unfold mergeSlot at h
  cases shape with
  | implicit n kind =>
    obtain ⟨⟨v, r⟩, hv, h⟩ := bind_eq_ok.mp h
    obtain rfl := congrArg Prod.fst (pure_eq_ok.mp h)
    refine .implicit (isOf_mergeValue hb (isOf_current (fun w hw => ?_) (isOf_empty hl kind)) hv)
    cases hs with
    | implicit hs => rw [Slot.current?, Option.some.injEq] at hw; exact hw ▸ hs
  | optional n kind =>
    obtain ⟨⟨v, r⟩, hv, h⟩ := bind_eq_ok.mp h
    obtain rfl := congrArg Prod.fst (pure_eq_ok.mp h)
    refine .set (isOf_mergeValue hb (isOf_current (fun w hw => ?_) (isOf_empty hl kind)) hv)
    cases hs with
    | unset => cases hw
    | set hs => rw [Slot.current?, Option.some.injEq] at hw; exact hw ▸ hs
  | repeated n kind =>
    obtain ⟨⟨vs, r⟩, hvs, h⟩ := bind_eq_ok.mp h
    obtain rfl := congrArg Prod.fst (pure_eq_ok.mp h)
    cases hs with
    | repeated hs => exact .repeated (isOf_readRepeated hl hb hs hvs)
  | map n keyType kind =>
    obtain ⟨⟨slots, r⟩, hslots, h⟩ := bind_eq_ok.mp h
    obtain rfl := congrArg Prod.fst (pure_eq_ok.mp h)
    obtain ⟨hk, hv⟩ := isOf_entryOf (hb (slotsOf_emptyEntry hl keyType kind) hslots)
    cases hs with
    | map hd hkeys hvals => exact isOf_insertEntry hd hkeys hvals hk hv
  | oneof members =>
    obtain ⟨⟨v, r⟩, hv, h⟩ := bind_eq_ok.mp h
    obtain rfl := congrArg Prod.fst (pure_eq_ok.mp h)
    obtain ⟨kind, hkind⟩ := exists_memberKind? hn
    rw [hkind, Option.getD_some] at hv
    refine .member hkind
      (isOf_mergeValue hb (isOf_current (fun w hw => ?_) (isOf_empty hl kind)) hv)
    cases hs with
    | unchosen => cases hw
    | member hk hs =>
      -- the value that is set goes on only if the record is one of the same member
      dsimp only [Slot.current?] at hw
      split_ifs at hw with hkey
      rw [hkey, hkind, Option.some.injEq] at hk
      rw [Option.some.injEq] at hw
      exact hk ▸ hw ▸ hs

/-! ### Reading messages -/

/-- **Reading a record keeps a message an instance of its layout.** -/
theorem slotsOf_mergeRecord (hl : StartsEmpty layouts) (hb : Keeps layouts body) {limit : Nat}
    {layout : Layout τ} {slots slots' : List Slot} {bytes rest : Bytes}
    (hs : SlotsOf layouts slots layout.fields)
    (h : mergeRecord layouts body limit layout slots bytes = .ok (slots', rest)) :
    SlotsOf layouts slots' layout.fields := by
  obtain ⟨⟨key, r⟩, -, h⟩ := bind_eq_ok.mp h
  dsimp only at h
  split at h
  · next field i hf hi =>
    obtain ⟨⟨slot, r⟩, hm, h⟩ := bind_eq_ok.mp h
    obtain rfl := congrArg Prod.fst (pure_eq_ok.mp h)
    obtain ⟨hget, hset⟩ := forall₂_findIdx? hs hf hi field.shape.emptySlot
    have hn : field.shape.hasNumber key.field := by
      simpa using List.find?_some hf
    exact hset slot (isOf_mergeSlot hl hb hn hget (mapError_eq_ok.mp hm))
  · obtain ⟨r, -, h⟩ := bind_eq_ok.mp h
    obtain rfl := congrArg Prod.fst (pure_eq_ok.mp h)
    exact hs

theorem keeps_mergeBody (hl : StartsEmpty layouts) :
    ∀ limit, Keeps layouts (mergeBody layouts limit)
  | 0, _, _, _, _, _, _, h => by cases h
  | limit + 1, layout, _, _, _, _, hs, h =>
    delimited_invariant (P := fun slots => SlotsOf layouts slots layout.fields)
      (slotsOf_mergeRecord hl (keeps_mergeBody hl limit)) hs h

/-- **Whatever bytes are read into a message,** it stays an instance of its layout. -/
theorem slotsOf_mergeInto (hl : StartsEmpty layouts) {layout : Layout τ} {slots slots' : List Slot}
    {bytes : Bytes} (hs : SlotsOf layouts slots layout.fields)
    (h : mergeInto layouts layout slots bytes = .ok slots') :
    SlotsOf layouts slots' layout.fields := by
  obtain ⟨⟨s, r⟩, hr, h⟩ := bind_eq_ok.mp h
  obtain rfl := pure_eq_ok.mp h
  exact repeatUntil_invariant (P := fun slots => SlotsOf layouts slots layout.fields)
    (slotsOf_mergeRecord hl (keeps_mergeBody hl depthLimit)) hs hr

end Redaction.Wire
