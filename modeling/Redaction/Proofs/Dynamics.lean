import Mathlib.Data.List.Nodup
import Mathlib.Data.List.Perm.Basic
import Redaction.Proofs.Agreement
import Redaction.Proofs.Keys
import Redaction.Proofs.OrderedTables

/-!
# Dynamic values that are the same show the same

The fields of a struct come in any order and show in the order of their names. So the JSON of a
struct, of a dynamic value or of a list of them does not depend on that order, however deep the
structs are (`showsSame`). What is needed of the three types is their shapes (`HasDynamics`):
the names of fields are distinct texts.
-/

namespace Redaction.Document

open Wire Render

/-! ### Tables with the same keys -/

/-- Tables with the same distinct keys and the same values under them have the same entries. -/
theorem perm_map_of_sameKeys {α β γ κ : Type} {key : α → κ} {g : β → γ} {as bs : List (α × β)}
    (ha : (as.map (·.1)).Nodup) (hb : (bs.map (·.1)).Nodup) (hk : SameKeys as bs)
    (hv : ∀ k a b, (k, a) ∈ as → (k, b) ∈ bs → g a = g b) :
    (as.map fun e => (key e.1, g e.2)).Perm (bs.map fun e => (key e.1, g e.2)) := by
  have hnodup {l : List (α × β)} (h : (l.map (·.1)).Nodup) :
      (l.map fun e => (e.1, g e.2)).Nodup := by
    refine List.Nodup.of_map (·.1) ?_
    rwa [List.map_map]
  have hperm : (as.map fun e => (e.1, g e.2)).Perm (bs.map fun e => (e.1, g e.2)) := by
    rw [List.perm_ext_iff_of_nodup (hnodup ha) (hnodup hb)]
    rintro ⟨k, c⟩
    simp only [List.mem_map, Prod.mk.injEq, Prod.exists]
    constructor
    · rintro ⟨k, a, hmem, rfl, rfl⟩
      obtain ⟨⟨k', b⟩, hb, rfl⟩ := List.mem_map.mp ((hk k).mp (List.mem_map_of_mem hmem))
      exact ⟨k', b, hb, rfl, (hv _ a b hmem hb).symm⟩
    · rintro ⟨k, b, hmem, rfl, rfl⟩
      obtain ⟨⟨k', a⟩, ha, rfl⟩ := List.mem_map.mp ((hk k).mpr (List.mem_map_of_mem hmem))
      exact ⟨k', a, ha, rfl, hv _ a b ha hmem⟩
  simpa [List.map_map, Function.comp_def] using hperm.map fun e => (key e.1, e.2)

/-! ### The types of dynamic values -/

def structName : TypeName := ⟨"google.protobuf.Struct"⟩
def valueName : TypeName := ⟨"google.protobuf.Value"⟩
def listName : TypeName := ⟨"google.protobuf.ListValue"⟩

/-- A well-known type has its name behind that of the package. -/
theorem text_of_ofName? {type : TypeName} {known : WellKnown}
    (h : WellKnown.ofName? type = some known) :
    ∃ name, WellKnown.ofLocalName? name = some known ∧ type.text = "google.protobuf." ++ name := by
  unfold WellKnown.ofName? at h
  split_ifs at h with hpre
  refine ⟨_, h, ?_⟩
  obtain ⟨rest, hrest⟩ := List.isPrefixOf_iff_prefix.mp hpre
  rw [← String.toList_inj, String.toList_append, ← hrest, List.drop_left,
    String.toList_ofList (l := rest)]
  rfl

/-- The three types have the three names. -/
theorem name_of_isDynamic {type : TypeName} {known : WellKnown}
    (h : WellKnown.ofName? type = some known) (hd : isDynamic known) :
    (known = .struct ∧ type = structName) ∨ (known = .value ∧ type = valueName) ∨
      (known = .listValue ∧ type = listName) := by
  obtain ⟨text⟩ := type
  obtain ⟨name, hname, rfl⟩ := text_of_ofName? h
  unfold WellKnown.ofLocalName? at hname
  split at hname <;> cases hname <;> cases hd
  · exact Or.inl ⟨rfl, rfl⟩
  · exact Or.inr (Or.inl ⟨rfl, rfl⟩)
  · exact Or.inr (Or.inr ⟨rfl, rfl⟩)

/-- The kinds of a dynamic value under their numbers. -/
def dynamicKind? : Nat → Option (Kind TypeName)
  | 1 => some (.scalar .enumeration)
  | 2 => some (.scalar .double)
  | 3 => some (.scalar .string)
  | 4 => some (.scalar .bool)
  | 5 => some (.message structName)
  | 6 => some (.message listName)
  | _ => none

/-- **The layouts of dynamic values:** a struct is a map from texts to values, a list repeats
values, and a value has one of six kinds. -/
structure HasDynamics (layouts : TypeName → Layout TypeName) : Prop where
  struct : ∃ n, (layouts structName).fields.map (·.shape) =
    [.map n .string (.message valueName)]
  list : ∃ n, (layouts listName).fields.map (·.shape) = [.repeated n (.message valueName)]
  value : ∃ members, (layouts valueName).fields.map (·.shape) = [.oneof members] ∧
    ∀ member ∈ members, dynamicKind? member.number = some member.kind

variable {layouts : TypeName → Layout TypeName}

/-- The only slot of a message whose layout has one field. -/
theorem exists_slot {slots : List Slot} {layout : Layout TypeName} {shape : Shape TypeName}
    (hs : SlotsOf layouts slots layout.fields) (h : layout.fields.map (·.shape) = [shape]) :
    ∃ s, slots = [s] ∧ s.IsOf layouts shape := by
  have hshapes : List.Forall₂ (Slot.IsOf layouts) slots (layout.fields.map (·.shape)) :=
    List.forall₂_map_right_iff.mpr hs
  rw [h] at hshapes
  obtain _ | ⟨hslot, _ | _⟩ := hshapes
  exact ⟨_, rfl, hslot⟩

/-! ### JSON of dynamic values -/

theorem jsonFields_ofEntries (es : List (Datum × Value)) :
    Dynamic.jsonFields (Dynamic.ofEntries es) =
      es.map fun e => (keyOf e.1, (Dynamic.ofValue e.2).json) := by
  induction es with
  | nil => rfl
  | cons e es ih => rw [Dynamic.ofEntries, Dynamic.jsonFields, ih, List.map_cons]

theorem jsonItems_ofValues (vs : List Value) :
    Dynamic.jsonItems (Dynamic.ofValues vs) = vs.map fun v => (Dynamic.ofValue v).json := by
  induction vs with
  | nil => rfl
  | cons v vs ih => rw [Dynamic.ofValues, Dynamic.jsonItems, ih, List.map_cons]

/-- Distinct names of fields are distinct texts. -/
theorem nodup_keyOf {es : List (Datum × Value)} (hes : ∀ e ∈ es, Scalar.string.admits e.1)
    (h : (es.map (·.1)).Nodup) : (es.map fun e => keyOf e.1).Nodup := by
  have htext : (es.map fun e => keyOf e.1) = es.map fun e => keyText e.1 := by
    refine List.map_congr_left fun e he => ?_
    have := hes e he
    cases hk : e.1 with
    | text => rfl
    | _ => rw [hk] at this; cases this
  rw [htext]
  exact nodup_keyText rfl hes h

/-- The values show the same as a struct, as a list and as a dynamic value, whichever they are. -/
structure ShowsSame (layouts : TypeName → Layout TypeName) (a b : Value) : Prop where
  struct : a.IsOf layouts (.message structName) → b.IsOf layouts (.message structName) →
    (Dynamic.ofStruct a.slots).json = (Dynamic.ofStruct b.slots).json
  list : a.IsOf layouts (.message listName) → b.IsOf layouts (.message listName) →
    (Dynamic.ofList a.slots).json = (Dynamic.ofList b.slots).json
  value : a.IsOf layouts (.message valueName) → b.IsOf layouts (.message valueName) →
    (Dynamic.ofValue a).json = (Dynamic.ofValue b).json

/-- The values in a slot show the same as those they are the same as. -/
def PartsShowSame (layouts : TypeName → Layout TypeName) (slots : List Slot) : Prop :=
  ∀ s ∈ slots, ∀ v ∈ s.parts, ∀ w, Same v w → ShowsSame layouts v w

variable {as bs : List Slot}

theorem struct_showsSame (hd : HasDynamics layouts) (hparts : PartsShowSame layouts as)
    (hsame : List.Forall₂ SameSlot as bs)
    (ha : SlotsOf layouts as (layouts structName).fields)
    (hb : SlotsOf layouts bs (layouts structName).fields) :
    (Dynamic.ofStruct as).json = (Dynamic.ofStruct bs).json := by
  obtain ⟨n, hshape⟩ := hd.struct
  obtain ⟨s, rfl, hs⟩ := exists_slot ha hshape
  obtain ⟨t, rfl, ht⟩ := exists_slot hb hshape
  obtain _ | ⟨hst, _ | _⟩ := hsame
  cases hs with
  | @map es _ _ _ hes hkeys hvals =>
    cases ht with
    | @map fs _ _ _ hfs hkeys' hvals' =>
      cases hst with
      | map hk hv =>
        rw [Dynamic.ofStruct, Dynamic.ofStruct, Dynamic.json, Dynamic.json, jsonFields_ofEntries,
          jsonFields_ofEntries]
        refine congrArg _ (Ordered.ofList_eq_of_perm ?_ ?_)
        · rw [List.map_map]
          exact nodup_keyOf hkeys hes
        · refine perm_map_of_sameKeys (g := fun v => (Dynamic.ofValue v).json) hes hfs hk ?_
          intro k a b hka hkb
          have hshow := hparts _ List.mem_cons_self a (List.mem_map_of_mem hka) b (hv k a b hka hkb)
          exact hshow.value (hvals _ hka) (hvals' _ hkb)

theorem list_showsSame (hd : HasDynamics layouts) (hparts : PartsShowSame layouts as)
    (hsame : List.Forall₂ SameSlot as bs)
    (ha : SlotsOf layouts as (layouts listName).fields)
    (hb : SlotsOf layouts bs (layouts listName).fields) :
    (Dynamic.ofList as).json = (Dynamic.ofList bs).json := by
  obtain ⟨n, hshape⟩ := hd.list
  obtain ⟨s, rfl, hs⟩ := exists_slot ha hshape
  obtain ⟨t, rfl, ht⟩ := exists_slot hb hshape
  obtain _ | ⟨hst, _ | _⟩ := hsame
  cases hs with
  | @repeated vs _ _ hvs =>
    cases ht with
    | @repeated ws _ _ hws =>
      cases hst with
      | repeated hvw =>
        rw [Dynamic.ofList, Dynamic.ofList, Dynamic.json, Dynamic.json, jsonItems_ofValues,
          jsonItems_ofValues]
        refine congrArg _ ?_
        have hshow : ∀ v ∈ vs, ∀ w, Same v w → ShowsSame layouts v w :=
          hparts _ List.mem_cons_self
        clear hparts ha hb
        induction hvw with
        | nil => rfl
        | @cons v w vs ws hvw _ ih =>
          obtain ⟨hv, hvs⟩ := List.forall_mem_cons.mp hvs
          obtain ⟨hw, hws⟩ := List.forall_mem_cons.mp hws
          obtain ⟨hs, hshow⟩ := List.forall_mem_cons.mp hshow
          rw [List.map_cons, List.map_cons, (hs w hvw).value hv hw, ih hvs hws hshow]

/-- A dynamic value that is a struct shows as the struct. -/
theorem ofValue_struct (hd : HasDynamics layouts)
    (ha : SlotsOf layouts as (layouts structName).fields) :
    Dynamic.ofValue (.message [.member 5 (.message as)]) = Dynamic.ofStruct as := by
  obtain ⟨n, hshape⟩ := hd.struct
  obtain ⟨s, rfl, hs⟩ := exists_slot ha hshape
  cases hs with
  | map => rfl

/-- A dynamic value that is a list shows as the list. -/
theorem ofValue_list (hd : HasDynamics layouts)
    (ha : SlotsOf layouts as (layouts listName).fields) :
    Dynamic.ofValue (.message [.member 6 (.message as)]) = Dynamic.ofList as := by
  obtain ⟨n, hshape⟩ := hd.list
  obtain ⟨s, rfl, hs⟩ := exists_slot ha hshape
  cases hs with
  | repeated => rfl

theorem value_showsSame (hd : HasDynamics layouts) (hparts : PartsShowSame layouts as)
    (hsame : List.Forall₂ SameSlot as bs)
    (ha : SlotsOf layouts as (layouts valueName).fields)
    (hb : SlotsOf layouts bs (layouts valueName).fields) :
    (Dynamic.ofValue (.message as)).json = (Dynamic.ofValue (.message bs)).json := by
  obtain ⟨members, hshape, hkinds⟩ := hd.value
  obtain ⟨s, rfl, hs⟩ := exists_slot ha hshape
  obtain ⟨t, rfl, ht⟩ := exists_slot hb hshape
  obtain _ | ⟨hst, _ | _⟩ := hsame
  cases hs with
  | unchosen => cases hst; rfl
  | @member v n _ kind hk hv =>
    cases hst with
    | @member _ _ w hvw =>
      cases ht with
      | @member _ _ _ kind' hk' hw =>
        obtain rfl := Option.some.inj (hk.symm.trans hk')
        cases hvw with
        | datum => rfl
        | @message vs ws hvws =>
          have hshow := hparts _ List.mem_cons_self _ List.mem_cons_self _ (.message hvws)
          have hn : dynamicKind? n = some kind := by
            rw [Shape.memberKind?, Option.map_eq_some_iff] at hk
            obtain ⟨member, hfind, rfl⟩ := hk
            have hnumber : member.number = n := by simpa using List.find?_some hfind
            rw [← hnumber]
            exact hkinds member (List.mem_of_find?_eq_some hfind)
          unfold dynamicKind? at hn
          split at hn <;> cases hn
          case h_5 =>
            rw [ofValue_struct hd (Value.isOf_message.mp hv),
              ofValue_struct hd (Value.isOf_message.mp hw)]
            exact hshow.struct hv hw
          case h_6 =>
            rw [ofValue_list hd (Value.isOf_message.mp hv),
              ofValue_list hd (Value.isOf_message.mp hw)]
            exact hshow.list hv hw
          -- the other kinds are scalars
          all_goals cases hv

/-- **Dynamic values that are the same show the same.** -/
theorem showsSame (hd : HasDynamics layouts) (a : Value) :
    ∀ b, Same a b → ShowsSame layouts a b := by
  induction a using Value.induct with
  | datum d => exact fun b _ => ⟨nofun, nofun, nofun⟩
  | message as ih =>
    intro b h
    cases h with
    | message h =>
      exact ⟨fun ha hb => struct_showsSame hd ih h ha.slots hb.slots,
        fun ha hb => list_showsSame hd ih h ha.slots hb.slots,
        fun ha hb => value_showsSame hd ih h ha.slots hb.slots⟩

/-- **The document of a dynamic message** does not depend on the order of the fields of structs. -/
theorem ofWellKnown_eq_of_same (hd : HasDynamics layouts) {type : TypeName} {known : WellKnown}
    (hk : WellKnown.ofName? type = some known) (hdyn : isDynamic known)
    (ha : SlotsOf layouts as (layouts type).fields) (hb : SlotsOf layouts bs (layouts type).fields)
    (h : Same (.message as) (.message bs)) : ofWellKnown as known = ofWellKnown bs known := by
  have hshow := showsSame hd _ _ h
  rcases name_of_isDynamic hk hdyn with ⟨rfl, rfl⟩ | ⟨rfl, rfl⟩ | ⟨rfl, rfl⟩
  · exact hshow.struct (.message ha) (.message hb)
  · exact hshow.value (.message ha) (.message hb)
  · exact hshow.list (.message ha) (.message hb)

end Redaction.Document
