import Redaction.Proofs.Contents
import Redaction.Proofs.Dynamics
import Redaction.Proofs.Loading
import Redaction.Proofs.Refinement
import Redaction.Sample.Messages

/-!
# The program of the sample

The sample schema keeps to what the theory asks of a program (`generated`), of the layouts of
messages (`startsEmpty`) and of those of dynamic values (`hasDynamics`). That messages fit their
layouts is known of any loaded schema; that names are distinct and that all shown messages have code
is a finite question about the sample, which is decided together with what trees look like.

The table of a schema is sorted by name, and its requirement is found in that order. No answer
depends on the order, and sorting takes longer than all the rest, so the messages are taken as they
are declared (`declared`) and what is decided is carried over. There are three questions and not
one, since what is computed for a question is kept until it is decided.
-/

namespace Redaction.Sample

open Code Document Schema Wire

/-! ### What is decided -/

/-- The messages of the sample as they are declared. -/
def declared : List Message := files.flatMap (messagesIn (files.flatMap Index.ofFile))

/-- The messages that need redaction, found in this order. -/
def marked : Requirement := .ofSchema ⟨[], declared.map fun m => (m.id, m)⟩

/-- Whether the sample is loaded, has plain names, and each message has distinct ones. -/
def isLoaded : Bool :=
  (Schema.ofFiles files []).toOption.isSome &&
    ((files.flatMap Index.ofFile).all fun e => e.1.toList.head? != some '.') &&
    ((Schema.layouts (files.flatMap Index.ofFile) files).zip declared).all fun e =>
      decide (Tidy e.2 e.1.2)

/-- Whether code can be generated for each message. -/
def isEmitted : Bool := declared.all fun m => (emit marked false m).toOption.isSome

/-- Whether a field is shown by code of the sample, if it is shown. -/
def isCovered (f : Schema.Field) : Bool :=
  f.isRedacted ||
    match f.category.element with
    | .scalar _ => true
    | .message type => (WellKnown.ofName? type).isSome || marked.requires type

/-- Whether all that code shows is shown by code. -/
def isShown : Bool :=
  (declared.filter fun m => marked.requires m.id).all fun m => m.fields.all isCovered

/-- Whether the dynamic values are laid out as such. -/
def hasDynamicLayouts : Bool :=
  decide ((layout structName).fields.map (·.shape) = [.map 1 .string (.message valueName)]) &&
    decide ((layout listName).fields.map (·.shape) = [.repeated 1 (.message valueName)]) &&
    match (layout valueName).fields.map (·.shape) with
    | [Shape.oneof members] => members.all fun m => dynamicKind? m.number == some m.kind
    | _ => false

/-- The rows of the sample's messages. -/
def rows : TypeName → List Row := rowsOf schema.message? program

def treeName : TypeName := ⟨"acme.collections.v1.Tree"⟩

/-- Whether trees have a label, a secret and children. -/
def hasTree : Bool :=
  marked.requires treeName && (WellKnown.ofName? treeName).isNone &&
    decide ((layout treeName).fields.map (·.shape) =
      [.implicit 1 (.scalar .string), .implicit 2 (.scalar .string),
        .repeated 3 (.message treeName)]) &&
    (declared.find? (·.id == treeName)).any fun m =>
      match Document.rowsOf m (layout treeName) with
      | [.field label, .field secret, .field children] =>
        decide ([label, secret, children].map
          (fun f => (f.jsonName, f.category.element, f.isRedacted, f.mask)) =
            [("label", .scalar .string, false, .text "*"),
              ("secret", .scalar .string, true, .text "*"),
              ("children", .message treeName, false, .emptyList)])
      | _ => false

set_option maxRecDepth 100000 in
theorem loaded : isLoaded := by decide +kernel

set_option maxRecDepth 100000 in
theorem emitted : isEmitted := by decide +kernel

set_option maxRecDepth 100000 in
theorem shown : isShown ∧ hasDynamicLayouts ∧ hasTree := by decide +kernel

/-! ### The loaded sample -/

theorem accepted : Accepted files ∧ schema = schemaOf files [] := by
  have h : (Schema.ofFiles files []).toOption.isSome := by
    have h := loaded
    simp only [isLoaded, Bool.and_eq_true] at h
    exact h.1.1
  obtain ⟨s, hs⟩ := exists_ok_of_isSome h
  obtain ⟨ha, rfl⟩ := ofFiles_eq_ok_iff_accepted.mp hs
  refine ⟨ha, ?_⟩
  rw [schema, hs]
  rfl

theorem plainNames : PlainNames files := by
  have h := loaded
  simp only [isLoaded, Bool.and_eq_true, List.all_eq_true, bne_iff_ne] at h
  exact plainNames_of_keys h.1.2

theorem index_ofFiles : Index.ofFiles files = .ok (declarations files) :=
  ofFiles_eq_ok_iff.mpr ⟨accepted.1.nodup, rfl⟩

theorem index_eq : index = declarations files := by
  rw [index, index_ofFiles]
  rfl

theorem mem_schema_iff {type : TypeName} {m : Message} :
    (type, m) ∈ schema.messages ↔ m ∈ declared ∧ m.id = type := by
  rw [accepted.2, (messages_schemaOf_perm [] accepted.1 plainNames).mem_iff, List.mem_map]
  constructor
  · rintro ⟨m', hm, heq⟩
    obtain ⟨rfl, rfl⟩ := Prod.mk.inj heq
    exact ⟨hm, rfl⟩
  · rintro ⟨hm, rfl⟩
    exact ⟨m, hm, rfl⟩

/-- The order of the messages does not matter to which of them need redaction. -/
theorem requires_eq (type : TypeName) : required.requires type = marked.requires type := by
  have hmessages : Requirement.messagesOf ⟨[], declared.map fun m => (m.id, m)⟩ = declared := by
    rw [Requirement.messagesOf, List.map_map]
    exact List.map_id _
  have hmarked : marked.requires type ↔ Requirement.Reaches declared type := by
    rw [marked, Requirement.requires_iff_reaches, hmessages]
  rw [Bool.eq_iff_iff, hmarked, required, accepted.2]
  exact Requirement.requires_ofFiles_iff accepted.1 plainNames

/-- Code is generated for each message. -/
theorem exists_impl {m : Message} (hm : m ∈ declared) : ∃ i, emit required false m = .ok i := by
  have h := emitted
  rw [isEmitted, List.all_eq_true] at h
  rw [emit_congr fun f _ type _ => requires_eq type]
  exact exists_ok_of_isSome (h m hm)

/-- A type whose message needs redaction has code. -/
theorem isSome_impl? {type : TypeName} (hr : required.requires type) :
    (program.impl? type).isSome := by
  have hreaches : Requirement.Reaches (allMessages files) type := by
    rw [required, accepted.2] at hr
    exact (Requirement.requires_ofFiles_iff accepted.1 plainNames).mp hr
  obtain ⟨m, hm, hid, -⟩ := hreaches
  obtain ⟨i, hi⟩ := exists_impl hm
  have hmem : (type, i) ∈ impls := by
    rw [impls, List.mem_filterMap]
    refine ⟨(type, m), List.mem_filter.mpr ⟨mem_schema_iff.mpr ⟨hm, hid⟩, hr⟩, ?_⟩
    rw [hi]
    rfl
  unfold program
  dsimp only
  exact List.lookup_isSome_iff.mpr ⟨_, hmem, beq_self_eq_true type⟩

/-! ### The program of the sample -/

/-- A type with code is one whose message needs redaction, and the code is that of the message. -/
theorem exists_message {type : TypeName} {i : Impl} (h : program.impl? type = some i) :
    ∃ m, (type, m) ∈ schema.messages ∧ required.requires type ∧ emit required false m = .ok i := by
  unfold program at h
  dsimp only at h
  have hmem := Ordered.mem_of_lookup h
  rw [impls, List.mem_filterMap] at hmem
  obtain ⟨⟨t, m⟩, hm, hi⟩ := hmem
  obtain ⟨hm, hr⟩ := List.mem_filter.mp hm
  obtain ⟨i', hi', he⟩ := Option.map_eq_some_iff.mp hi
  obtain ⟨rfl, rfl⟩ := Prod.mk.inj he
  refine ⟨m, hm, hr, ?_⟩
  cases hemit : emit required false m with
  | error e => rw [hemit] at hi'; cases hi'
  | ok x => rw [hemit] at hi'; exact congrArg _ (Option.some.inj hi')

/-- The layouts are those of the messages, in the same order. -/
theorem keys_layouts : layouts.map (·.1) = declared.map (·.id) := by
  rw [layouts, index_eq, Schema.layouts, declared, List.map_flatMap, List.map_flatMap]
  refine List.flatMap_congr fun file hf => ?_
  have hids := ids_messagesIn (accepted.1.readable file hf)
  rw [declarations] at hids
  rw [hids, List.map_map]
  rfl

theorem nodup_layouts : (layouts.map (·.1)).Nodup := by
  rw [keys_layouts]
  exact nodup_ids accepted.1 plainNames

/-- The names in the code of a message are distinct. -/
theorem tidy_of_mem {m : Message} (hm : m ∈ declared) : Tidy m (layout m.id) := by
  have htidy := loaded
  simp only [isLoaded, Bool.and_eq_true, List.all_eq_true, decide_eq_true_eq] at htidy
  have hkeys : List.Forall₂ (fun l m => l.1 = m.id) layouts declared := by
    have h : List.Forall₂ (· = ·) (layouts.map (·.1)) (declared.map (·.id)) := by
      rw [List.forall₂_eq_eq_eq]
      exact keys_layouts
    exact List.forall₂_map_left_iff.mp (List.forall₂_map_right_iff.mp h)
  have hboth : List.Forall₂ (fun l m => l.1 = m.id ∧ Tidy m l.2) layouts declared := by
    obtain ⟨hlength, hzip⟩ := List.forall₂_iff_zip.mp hkeys
    refine List.forall₂_iff_zip.mpr ⟨hlength, fun {l m} h => ⟨hzip h, htidy.2 (l, m) ?_⟩⟩
    rwa [layouts, index_eq] at h
  obtain ⟨l, hl, hid, ht⟩ := exists_left_of_mem hboth hm
  have hlookup : layouts.lookup m.id = some l.2 :=
    (Ordered.lookup_eq_some_iff nodup_layouts).mpr (hid ▸ hl)
  rwa [layout, hlookup, Option.getD_some]

/-- What code shows of a message is shown by code. -/
theorem covers_of_mem {m : Message} {f : Schema.Field} (hm : m ∈ declared)
    (hr : required.requires m.id) (hf : f ∈ m.fields) (hredacted : ¬ f.isRedacted) :
    Covers required program f.category.element := by
  intro type he hk
  obtain ⟨h, -, -⟩ := shown
  simp only [isShown, List.all_eq_true, List.mem_filter, and_imp] at h
  have hcovered := h m hm (requires_eq m.id ▸ hr) f hf
  rw [isCovered, he] at hcovered
  dsimp only at hcovered
  rw [hk] at hcovered
  have htype : required.requires type := by
    rw [requires_eq]
    simpa [hredacted] using hcovered
  exact ⟨htype, isSome_impl? htype⟩

/-- **The code of the sample is generated for its messages.** -/
theorem generated : Generated required false schema.message? program where
  impl {type i} hi := by
    obtain ⟨m, hm, hr, hemit⟩ := exists_message hi
    have hload : Schema.ofFiles files [] = .ok schema := ofFiles_eq_ok_iff_accepted.mpr accepted
    have hindex : Index.ofFiles files = .ok index := index_eq ▸ index_ofFiles
    obtain ⟨hdeclared, rfl⟩ := mem_schema_iff.mp hm
    obtain ⟨l, hl, hfits⟩ := fits_of_mem_messages hload hindex nodup_layouts hm
    rw [← show layout m.id = l by rw [layout, layouts, hl, Option.getD_some]] at hfits
    exact ⟨m, (Ordered.lookup_eq_some_iff (sorted_ofFiles hload).nodup).mpr hm, hemit, hfits,
      tidy_of_mem hdeclared, fun f hf hredacted => covers_of_mem hdeclared hr hf hredacted⟩

/-- Messages of the sample start with slots of their own shapes. -/
theorem startsEmpty : StartsEmpty layout := by
  intro type w hw
  rw [layout] at hw
  cases hl : layouts.lookup type with
  | none => rw [hl] at hw; cases hw
  | some l =>
    rw [hl] at hw
    exact isOf_emptySlot (ne_implicit_of_mem_layouts (Ordered.mem_of_lookup hl) w hw)

theorem hasDynamics : HasDynamics layout := by
  obtain ⟨-, h, -⟩ := shown
  simp only [hasDynamicLayouts, Bool.and_eq_true, decide_eq_true_eq] at h
  obtain ⟨⟨hstruct, hlist⟩, hvalue⟩ := h
  refine ⟨⟨1, hstruct⟩, ⟨1, hlist⟩, ?_⟩
  split at hvalue
  · next members hmembers =>
    refine ⟨members, hmembers, fun member hm => ?_⟩
    simpa using List.all_eq_true.mp hvalue member hm
  · cases hvalue

end Redaction.Sample
