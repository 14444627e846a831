import Mathlib.Logic.Relation
import Redaction.CommandLine
import Redaction.Proofs.Descriptors

/-!
# Records that nobody declares

A descriptor may have records of fields that its layout does not declare, between any two of its
records and in the messages inside it. Reading skips them.

* `isRecord_of_recordAt`, `Run.of_append`: what is read as a message is cut into records in one way
  only, so a run passes through every boundary between them.
* `run_of_padded`: a run stays one with undeclared records in it.
* `decode_insert_undeclared`: the descriptor that is read, and the answer to a request, stay as they
  were.
-/

namespace Redaction.Wire

variable {τ : Type} {layouts : τ → Layout τ}

/-! ### Boundaries -/

/-- **The bytes are records** one after the other. -/
def Records (bytes : Bytes) : Prop := ∃ ps : List Bytes, (∀ p ∈ ps, IsRecord p) ∧ bytes = ps.flatten

theorem Records.nil : Records [] := ⟨[], by simp, rfl⟩

theorem Records.cons {p bytes : Bytes} (hp : IsRecord p) (h : Records bytes) :
    Records (p ++ bytes) := by
  obtain ⟨ps, hps, rfl⟩ := h
  exact ⟨p :: ps, List.forall_mem_cons.mpr ⟨hp, hps⟩, rfl⟩

/-- Whether a field holds the entries of a map. -/
def Shape.isMap : Shape τ → Bool
  | .map _ _ _ => true
  | _ => false

/-- No field holds the entries of a map. A map does not look at the wire type of its records, so
what it reads need not be a record. -/
def Layout.NoMaps (layout : Layout τ) : Prop :=
  ∀ field ∈ layout.fields, field.shape.isMap = false

theorem payload_of_valueForm {limit : Nat} {kind : Kind τ} {w : WireType} {old v : Value}
    {q : Bytes} (h : ValueForm layouts (bodyForm layouts limit) kind w old v q) : Payload w q := by
  cases kind with
  | scalar s =>
    obtain ⟨rfl, d, hd, -⟩ := h
    exact payload_of_form hd
  | message type =>
    obtain ⟨rfl, slots, hbody, -⟩ := h
    cases limit with
    | zero => exact hbody.elim
    | succ limit =>
      obtain ⟨payload, hp, -⟩ := hbody
      exact ⟨payload, hp⟩

theorem payload_of_valuesForm {limit : Nat} {kind : Kind τ} {w : WireType} {vs vs' : List Value}
    {q : Bytes} (h : ValuesForm layouts (bodyForm layouts limit) kind w vs vs' q) :
    Payload w q := by
  unfold ValuesForm at h
  split at h
  · next s hs =>
    obtain ⟨payload, hp, -⟩ := h
    have hw : w = .lengthDelimited := by
      cases kind with
      | message type => cases hs
      | scalar s' =>
        unfold Kind.packed? at hs
        dsimp only at hs
        split_ifs at hs with hpack
        exact hpack.2
    rw [hw]
    exact ⟨payload, hp⟩
  · obtain ⟨v, hv, -⟩ := h
    exact payload_of_valueForm hv

theorem payload_of_slotForm {limit : Nat} {shape : Shape τ} {key : Key} {slot slot' : Slot}
    {q : Bytes} (hm : shape.isMap = false)
    (h : SlotForm layouts (bodyForm layouts limit) shape key slot slot' q) :
    Payload key.wireType q := by
  cases shape with
  | implicit n kind | optional n kind =>
    obtain ⟨v, hv, -⟩ := h
    exact payload_of_valueForm hv
  | repeated n kind =>
    obtain ⟨vs, hvs, -⟩ := h
    exact payload_of_valuesForm hvs
  | map n keyType kind => cases hm
  | oneof members =>
    obtain ⟨v, hv, -⟩ := h
    exact payload_of_valueForm hv

/-- **What is merged is a record.** -/
theorem isRecord_of_recordAt {limit : Nat} {layout : Layout τ} (hm : layout.NoMaps)
    {slots slots' : List Slot} {p : Bytes} (h : RecordAt layouts limit layout slots slots' p) :
    IsRecord p := by
  obtain ⟨key, k, q, hk, hq, rfl⟩ := h
  cases hq with
  | declared hi hf hslot =>
    have hp := payload_of_slotForm (hm _ (List.mem_of_getElem? hf)) hslot
    exact ⟨1, key, k, q, hk, .inl hp, rfl⟩
  | undeclared _ hq => exact ⟨limit, key, k, q, hk, hq, rfl⟩

section Runs

variable {σ : Type} {form : σ → σ → Bytes → Prop}

theorem Run.records (hform : ∀ {s t p}, form s t p → IsRecord p) {s t : σ} {bytes : Bytes}
    (h : Run form s t bytes) : Records bytes := by
  induction h with
  | done => exact .nil
  | step hp _ ih => exact .cons (hform hp) ih

/-- A run over a record and more begins with a step over the record. -/
theorem Run.of_cons (hform : ∀ {s t p}, form s t p → IsRecord p) {s t : σ} {p bytes : Bytes}
    (hp : IsRecord p) (h : Run form s t (p ++ bytes)) : ∃ u, form s u p ∧ Run form u t bytes := by
  obtain ⟨b, hb⟩ : ∃ b, b = p ++ bytes := ⟨_, rfl⟩
  rw [← hb] at h
  cases h with
  | done =>
    obtain ⟨_, hp⟩ := hp
    exact absurd (List.append_eq_nil_iff.mp hb.symm).1 hp.ne_nil
  | @step _ u _ p' bytes' hstep htail =>
    obtain ⟨rfl, rfl⟩ := (hform hstep).unique hp hb
    exact ⟨u, hstep, htail⟩

/-- **A run passes through every boundary between records.** -/
theorem Run.of_append (hform : ∀ {s t p}, form s t p → IsRecord p) {s t : σ} {before after : Bytes}
    (hb : Records before) (h : Run form s t (before ++ after)) :
    ∃ u, Run form s u before ∧ Run form u t after := by
  obtain ⟨ps, hps, rfl⟩ := hb
  induction ps generalizing s with
  | nil => exact ⟨s, .done, h⟩
  | cons p ps ih =>
    obtain ⟨hp, htail⟩ := List.forall_mem_cons.mp hps
    rw [List.flatten_cons, List.append_assoc] at h
    obtain ⟨u, hstep, hrun⟩ := h.of_cons hform hp
    obtain ⟨w, hw, hrest⟩ := ih htail hrun
    exact ⟨w, .step hstep hw, hrest⟩

end Runs

/-! ### Undeclared records -/

/-- A field of the layout has the number. -/
def Layout.Declares (layout : Layout τ) (number : Nat) : Prop :=
  ∃ field ∈ layout.fields, field.shape.hasNumber number

theorem Layout.indexOf_eq_none {layout : Layout τ} {number : Nat} (h : ¬ layout.Declares number) :
    layout.indexOf number = none := by
  rw [indexOf, List.findIdx?_eq_none_iff]
  intro field hf
  exact Bool.eq_false_iff.mpr fun hn => h ⟨field, hf, hn⟩

/-- **The bytes are an undeclared record:** a number that no field has, and a payload. -/
def Layout.Undeclared (layout : Layout τ) : Bytes → Prop :=
  RecordOf fun key q => ¬ layout.Declares key.field ∧ Payload key.wireType q

theorem recordAt_of_undeclared {limit : Nat} {layout : Layout τ} {p : Bytes}
    (h : layout.Undeclared p) (slots : List Slot) :
    RecordAt layouts (limit + 1) layout slots slots p := by
  obtain ⟨key, k, q, hk, ⟨hn, hq⟩, rfl⟩ := h
  exact ⟨key, k, q, hk, .undeclared (Layout.indexOf_eq_none hn) (.inl hq), rfl⟩

/-- The message type of the values of a field, for a record with the given number. -/
def Shape.messageType? (shape : Shape τ) (number : Nat) : Option τ :=
  match shape with
  | .implicit _ (.message type) | .optional _ (.message type) | .repeated _ (.message type) =>
    some type
  | .oneof members =>
    match kindOf members number with
    | .message type => some type
    | .scalar _ => none
  | _ => none

/-- The message type of the values of the field with a given number. -/
def Layout.messageType? (layout : Layout τ) (number : Nat) : Option τ :=
  (layout.fields.find? (·.shape.hasNumber number)).bind (·.shape.messageType? number)

/-- **Undeclared records are inserted** into a message inside which `limit` levels of nesting are
left: one between its records, or one into a message in it. Where no level is left nothing can be
skipped. -/
inductive Padded (layouts : τ → Layout τ) : Nat → Layout τ → Bytes → Bytes → Prop
  | here {limit : Nat} {layout : Layout τ} {before record after : Bytes} : Records before →
      layout.Undeclared record →
      Padded layouts (limit + 1) layout (before ++ after) (before ++ (record ++ after))
  | inside {limit number : Nat} {layout : Layout τ} {before after k q q' body body' : Bytes}
      {type : τ} : Records before → Key.Spells ⟨number, .lengthDelimited⟩ k →
      layout.messageType? number = some type → Prefixed body q → Prefixed body' q' →
      Padded layouts limit (layouts type) body body' →
      Padded layouts (limit + 1) layout (before ++ (k ++ q ++ after)) (before ++ (k ++ q' ++ after))

/-- What takes a value of a message type to others may take the place of what did. -/
theorem slotForm_of_body {body : BodyForm τ} {shape : Shape τ} {key : Key} {type : τ}
    {q q' : Bytes} (ht : shape.messageType? key.field = some type)
    (hbody : ∀ {old slots}, body (layouts type) old slots q → body (layouts type) old slots q')
    {slot slot' : Slot} (h : SlotForm layouts body shape key slot slot' q) :
    SlotForm layouts body shape key slot slot' q' := by
  have hvalue {old v : Value} (h : ValueForm layouts body (.message type) key.wireType old v q) :
      ValueForm layouts body (.message type) key.wireType old v q' := by
    obtain ⟨hw, slots, hslots, hv⟩ := h
    exact ⟨hw, slots, hbody hslots, hv⟩
  cases shape with
  | implicit n kind | optional n kind | repeated n kind =>
    cases kind with
    | scalar s => cases ht
    | message t =>
      obtain rfl := Option.some.inj ht
      obtain ⟨v, ⟨w, hw, hv⟩, hs⟩ := h
      first | exact ⟨v, hvalue ⟨w, hw, hv⟩, hs⟩ | exact ⟨v, ⟨w, hvalue hw, hv⟩, hs⟩
  | map n keyType kind => cases ht
  | oneof members =>
    unfold Shape.messageType? at ht
    unfold SlotForm at h ⊢
    dsimp only at ht h ⊢
    split at ht
    · next t hk =>
      obtain rfl := Option.some.inj ht
      rw [hk] at h ⊢
      obtain ⟨v, hv, hs⟩ := h
      exact ⟨v, hvalue hv, hs⟩
    · cases ht

/-- Undeclared records in the body of a nested message leave its form one. -/
theorem fieldForm_of_body {body : BodyForm τ} {limit : Nat} {layout : Layout τ} {key : Key}
    {type : τ} {q q' : Bytes} (ht : layout.messageType? key.field = some type)
    (hbody : ∀ {old slots}, body (layouts type) old slots q → body (layouts type) old slots q')
    {slots slots' : List Slot} (h : FieldForm layouts body limit layout key slots slots' q) :
    FieldForm layouts body limit layout key slots slots' q' := by
  rw [Layout.messageType?, Layout.find?_eq] at ht
  cases h with
  | declared hi hf hslot =>
    rw [hi, Option.bind_some, hf, Option.bind_some] at ht
    exact .declared hi hf (slotForm_of_body ht hbody hslot)
  | undeclared hi _ =>
    rw [hi] at ht
    cases ht

/-- A step over an undeclared record changes nothing. -/
theorem eq_of_recordAt_undeclared {limit : Nat} {layout : Layout τ} {slots slots' : List Slot}
    {p : Bytes} (hu : layout.Undeclared p) (h : RecordAt layouts limit layout slots slots' p) :
    slots' = slots := by
  obtain ⟨key, k, q, hk, ⟨hn, -⟩, rfl⟩ := hu
  obtain ⟨key', k', q', hk', hq', he⟩ := h
  obtain ⟨rfl, -⟩ := hk.unique hk' he
  cases hq' with
  | declared hi _ _ =>
    rw [Layout.indexOf_eq_none hn] at hi
    cases hi
  | undeclared _ _ => rfl

/-- The body of a nested message may give way to one that does the same. -/
theorem run_of_body {limit number : Nat} {layout : Layout τ} (hm : layout.NoMaps)
    {before after k q q' body body' : Bytes} {type : τ} (hb : Records before)
    (hk : Key.Spells ⟨number, .lengthDelimited⟩ k) (ht : layout.messageType? number = some type)
    (hq : Prefixed body q) (hq' : Prefixed body' q')
    (hrun : ∀ {old new}, Run (RecordAt layouts limit (layouts type)) old new body →
      Run (RecordAt layouts limit (layouts type)) old new body') {slots slots' : List Slot}
    (h : Run (RecordAt layouts (limit + 1) layout) slots slots' (before ++ (k ++ q ++ after))) :
    Run (RecordAt layouts (limit + 1) layout) slots slots' (before ++ (k ++ q' ++ after)) := by
  have hrecord : IsRecord (k ++ q) := ⟨1, _, k, q, hk, .inl ⟨body, hq⟩, rfl⟩
  obtain ⟨u, hbefore, hrest⟩ := h.of_append (isRecord_of_recordAt hm) hb
  obtain ⟨w, ⟨key, k', p, hk', hp, he⟩, hafter⟩ := hrest.of_cons (isRecord_of_recordAt hm) hrecord
  obtain ⟨rfl, rfl⟩ := hk.unique hk' he
  -- the body is the only payload behind its length, so the run over it is the one to change
  have hbody {old new : List Slot} (h : bodyForm layouts (limit + 1) (layouts type) old new q) :
      bodyForm layouts (limit + 1) (layouts type) old new q' := by
    obtain ⟨payload, hpayload, hrun'⟩ := h
    rw [hpayload.eq hq] at hrun'
    exact ⟨body', hq', hrun hrun'⟩
  have hstep : RecordAt layouts (limit + 1) layout u w (k ++ q') :=
    ⟨_, k, q', hk, fieldForm_of_body ht hbody hp, rfl⟩
  exact hbefore.append ((Run.single hstep).append hafter)

/-- **Undeclared records change no run.** -/
theorem run_padded_iff (hm : ∀ type, (layouts type).NoMaps) {limit : Nat} {type : τ}
    {bytes bytes' : Bytes} (hp : Padded layouts limit (layouts type) bytes bytes')
    {slots slots' : List Slot} :
    Run (RecordAt layouts limit (layouts type)) slots slots' bytes' ↔
      Run (RecordAt layouts limit (layouts type)) slots slots' bytes := by
  obtain ⟨layout, hl⟩ : ∃ layout, layout = layouts type := ⟨_, rfl⟩
  rw [← hl] at hp ⊢
  induction hp generalizing type slots slots' with
  | @here limit layout before record after hb hu =>
    subst hl
    constructor
    · intro h
      have hrecord : IsRecord record := ⟨1, hu.imp fun _ _ hq => .inl hq.2⟩
      obtain ⟨u, hbefore, hrest⟩ := h.of_append (isRecord_of_recordAt (hm type)) hb
      obtain ⟨w, hstep, hafter⟩ := hrest.of_cons (isRecord_of_recordAt (hm type)) hrecord
      rw [eq_of_recordAt_undeclared hu hstep] at hafter
      exact hbefore.append hafter
    · intro h
      obtain ⟨u, hbefore, hafter⟩ := h.of_append (isRecord_of_recordAt (hm type)) hb
      exact hbefore.append ((Run.single (recordAt_of_undeclared hu u)).append hafter)
  | @inside limit number layout before after k q q' body body' t hb hk ht hq hq' _ ih =>
    subst hl
    constructor
    · exact run_of_body (hm type) hb hk ht hq' hq (ih rfl).mp
    · exact run_of_body (hm type) hb hk ht hq hq' (ih rfl).mpr

end Redaction.Wire

/-! ### Descriptors -/

namespace Redaction

open Wire

theorem DescriptorType.noMaps (type : DescriptorType) : type.layout.NoMaps := by
  unfold Layout.NoMaps
  cases type <;> decide

/-- What is read as a descriptor does not depend on undeclared records at any level. -/
theorem Codec.decode_padded {α : Type} {c : Codec α} {bytes bytes' : Bytes}
    (hp : Relation.ReflTransGen (Padded DescriptorType.layout depthLimit c.type.layout) bytes
      bytes') (a : α) : c.decode bytes' = .ok a ↔ c.decode bytes = .ok a := by
  induction hp with
  | refl => rfl
  | tail _ hstep ih =>
    rw [← ih, Codec.decode_eq_ok_iff, Codec.decode_eq_ok_iff]
    simp only [run_padded_iff DescriptorType.noMaps hstep]

/-- **Undeclared records change nothing.** A byte string that is read as a descriptor consists of
records. With an undeclared record at its start, its end or any other boundary between two records
the same descriptor is read. A request with any number of undeclared records, in the request itself
and in the messages inside it, is answered as it is without them. -/
theorem decode_insert_undeclared :
    (∀ {α : Type} (c : Codec α) {bytes : Bytes} {a : α}, c.decode bytes = .ok a → Records bytes) ∧
    (∀ {α : Type} (c : Codec α) {before record after : Bytes}, Records before →
      c.type.layout.Undeclared record →
      ∀ a, c.decode (before ++ record ++ after) = .ok a ↔ c.decode (before ++ after) = .ok a) ∧
    ∀ (e : Environment) (args : List String) {bytes bytes' : Bytes} {request : Request},
      Codec.request.decode bytes = .ok request →
      Relation.ReflTransGen (Padded DescriptorType.layout depthLimit DescriptorType.request.layout)
        bytes bytes' →
      CommandLine.run e args bytes' = CommandLine.run e args bytes := by
  refine ⟨?_, ?_, ?_⟩
  · intro α c bytes a h
    obtain ⟨slots, hrun, -⟩ := Codec.decode_eq_ok_iff.mp h
    exact hrun.records (isRecord_of_recordAt c.type.noMaps)
  · intro α c before record after hb hu a
    rw [List.append_assoc]
    exact Codec.decode_padded (.single (.here hb hu)) a
  · intro e args bytes bytes' request h hp
    have h' : Codec.request.decode bytes' = .ok request := (Codec.decode_padded hp request).mpr h
    unfold CommandLine.run CommandLine.answer
    rw [h, h']

/-- Rules with an option among them, and a request that has the version of the compiler, and source
information in its only file. -/
theorem decode_insert_undeclared_request :
    Codec.rules.decode [8, 1, 74, 1, 0, 40, 1] = .ok { redact := true, mask := some (.bool true) } ∧
      CommandLine.run {} [] [26, 0, 122, 2, 74, 0] = CommandLine.run {} [] [122, 0] := by
  have empty : Prefixed [] [0] := reads_readPayload.form_of_eq rfl
  have option : DescriptorType.rules.layout.Undeclared [74, 1, 0] :=
    ⟨⟨9, .lengthDelimited⟩, [74], [1, 0], reads_readKey.form_of_eq rfl,
      ⟨by unfold Layout.Declares; decide, [0], reads_readPayload.form_of_eq rfl⟩, rfl⟩
  have source : DescriptorType.file.layout.Undeclared [74, 0] :=
    ⟨⟨9, .lengthDelimited⟩, [74], [0], reads_readKey.form_of_eq rfl,
      ⟨by unfold Layout.Declares; decide, [], empty⟩, rfl⟩
  have version : DescriptorType.request.layout.Undeclared [26, 0] :=
    ⟨⟨3, .lengthDelimited⟩, [26], [0], reads_readKey.form_of_eq rfl,
      ⟨by unfold Layout.Declares; decide, [], empty⟩, rfl⟩
  obtain ⟨records, insert, answers⟩ := decode_insert_undeclared
  have hrules : Codec.rules.decode [8, 1] = .ok { redact := true } := rfl
  have hrequest : Codec.request.decode [122, 0] = .ok { protoFile := [{}] } := rfl
  have hversion : Codec.request.decode [26, 0] = .ok {} := rfl
  refine ⟨(insert Codec.rules (records _ hrules) option _).mpr rfl, answers {} [] hrequest ?_⟩
  -- the version stands in front, the source information in the file behind it
  have key : Key.Spells ⟨15, .lengthDelimited⟩ [122] := reads_readKey.form_of_eq rfl
  have body : Prefixed [74, 0] [2, 74, 0] := reads_readPayload.form_of_eq rfl
  refine .tail (.single (.here .nil version)) ?_
  exact .inside (records _ hversion) key rfl empty body (.here .nil source)

end Redaction
