import Mathlib.Data.List.Forall2
import Mathlib.Tactic.SplitIfs
import Redaction.Proofs.Emission
import Redaction.Schema.Layout

/-!
# Fields and layouts of a message agree

A message descriptor is read twice: `Message.ofDescriptor` classifies its fields for the code, and
`layoutOf` lays them out for the wire. The code reaches the fields of a layout by their names and
renders what is in them by the category of the field, so the two must agree.

* `KindFits`, `ShapeFits`, `RowFits`: a type, a field and a row are what the layout has in their
  place.
* `Reads.shapeFits`: a field fits the shape that its descriptor has.
* `fits_ofDescriptor`: a message fits its layout, whatever its descriptor is.
-/

namespace Redaction.Schema

open Wire Code

variable {index : Index} {name : String} {d : FieldDescriptor}

/-! ### What fits -/

/-- The values of the type are those of the element. -/
inductive KindFits : ElementType → Kind TypeName → Prop
  | scalar (s : Scalar) : KindFits (.scalar (.ofScalar s)) (.scalar s)
  | message (type : TypeName) : KindFits (.message type) (.message type)

/-- **The shape holds what the field is rendered from.** -/
inductive ShapeFits (f : Schema.Field) : Shape TypeName → Prop
  | repeated {n : Nat} {kind : Kind TypeName} : f.cardinality = .repeated →
      KindFits f.category.element kind → ShapeFits f (.repeated n kind)
  | map {n : Nat} {key : Scalar} {kind : Kind TypeName} : f.cardinality = .map →
      KindFits f.category.element kind → ShapeFits f (.map n key kind)
  | message {n : Nat} {type : TypeName} : f.cardinality = .singular →
      f.category.element = .message type → ShapeFits f (.optional n (.message type))
  | explicit {n : Nat} {s : Scalar} : f.cardinality = .singular →
      f.category.element = .scalar (.ofScalar s) → f.explicitPresence →
      ShapeFits f (.optional n (.scalar s))
  | implicit {n : Nat} {s : Scalar} : f.cardinality = .singular →
      f.category.element = .scalar (.ofScalar s) → ¬ f.explicitPresence →
      ShapeFits f (.implicit n (.scalar s))

/-- The member of a oneof has the variant and the type of the field, if the field is no map. -/
structure MemberFits (f : Schema.Field) (member : Member TypeName) : Prop where
  name : member.name = codeTypeName f.name
  kind : f.cardinality ≠ .map → KindFits f.category.element member.kind

/-- **The field of a layout is the row of a leader.** -/
inductive RowFits (m : Message) (f : Schema.Field) (w : Wire.Field TypeName) : Prop
  | field : f.oneof = none → w.name = codeName f.name → ShapeFits f w.shape → RowFits m f w
  | oneof {place : Nat} {members : List (Member TypeName)} : f.oneof = some place →
      w.name = codeName ((m.oneofs[place]?).getD "") → w.shape = .oneof members →
      List.Forall₂ MemberFits (membersOf m place) members → RowFits m f w

/-- **The layout has the rows of the message.** -/
def Fits (m : Message) (layout : Layout TypeName) : Prop :=
  List.Forall₂ (RowFits m) (leaders [] m.fields) layout.fields

/-! ### Categories -/

theorem fieldType_ok {type : FieldType} (h : fieldType name d = .ok type) :
    FieldType.ofNumber? (d.type.getD 0) = some type := by
  unfold fieldType at h
  dsimp only at h
  split at h
  · next t ht => rw [Except.ok.injEq] at h; exact h ▸ ht
  · cases h

theorem resolveMessage_ok {type : TypeName} (h : index.resolveMessage name d = .ok type) :
    type = .ofReference (d.typeName.getD "") := by
  unfold Index.resolveMessage at h
  dsimp only at h
  split_ifs at h
  rw [Except.ok.injEq] at h
  exact h.symm

theorem kindOf_scalar {s : Scalar} (h : fieldType name d = .ok (.scalar s)) :
    kindOf d = .scalar s := by
  rw [kindOf, fieldType_ok h]

/-- A field of any other type refers to a message. -/
theorem kindOf_message {type : FieldType} (h : fieldType name d = .ok type)
    (hs : ∀ s, type ≠ .scalar s) : kindOf d = .message (.ofReference (d.typeName.getD "")) := by
  rw [kindOf, fieldType_ok h]
  split
  · next s hs' => exact absurd (Option.some.inj hs') (hs s)
  · rfl

/-- The type of a map value. -/
theorem mapValue_ok {element : ElementType} (h : mapValue index name d = .ok element) :
    KindFits element (kindOf d) := by
  obtain ⟨type, ht, h⟩ := bind_eq_ok.mp h
  cases type with
  | scalar s =>
    rw [kindOf_scalar ht]
    by_cases hs : s = .enumeration
    · subst hs
      obtain ⟨_, -, h⟩ := bind_eq_ok.mp h
      exact pure_eq_ok.mp h ▸ .scalar .enumeration
    · cases s <;> first | exact absurd rfl hs | exact pure_eq_ok.mp h ▸ .scalar _
  | _ =>
    obtain ⟨t, hr, h⟩ := bind_eq_ok.mp h
    rw [kindOf_message ht (by nofun), ← pure_eq_ok.mp h, resolveMessage_ok hr]
    exact .message _

/-- A map has the values that its entry type has. -/
theorem mapCategory_ok {entryName : String} {entry : MessageDescriptor} {c : Category}
    (h : mapCategory index name entryName entry = .ok c) :
    KindFits c.element (valueKind entry) := by
  unfold mapCategory at h
  dsimp only at h
  split at h
  · split at h
    · next value hv =>
      obtain ⟨type, -, h⟩ := bind_eq_ok.mp h
      split at h
      · obtain ⟨element, he, h⟩ := bind_eq_ok.mp h
        rw [← pure_eq_ok.mp h, valueKind, hv]
        exact mapValue_ok he
      · cases h
    · cases h
  · cases h

/-- The category of a map has the values of the entry type, any other category those of the field.
-/
inductive CategoryFits (index : Index) (d : FieldDescriptor) (c : Category) : Cardinality → Prop
  | map {entry : MessageDescriptor} : mapEntry? index d = some entry →
      KindFits c.element (valueKind entry) → CategoryFits index d c .map
  | single : mapEntry? index d = none → KindFits c.element (kindOf d) → (∀ k e, c ≠ .map k e) →
      CategoryFits index d c .singular

theorem messageCategory_ok {type : FieldType} {c : Category} {form : Cardinality}
    (ht : fieldType name d = .ok type) (hs : ∀ s, type ≠ .scalar s)
    (h : messageCategory index name d = .ok (c, form)) : CategoryFits index d c form := by
  obtain ⟨t, hr, h⟩ := bind_eq_ok.mp h
  have hkind : kindOf d = .message t := by rw [kindOf_message ht hs, resolveMessage_ok hr]
  have hfits (hn : mapEntry? index d = none)
      (h : (pure (Category.message t, Cardinality.singular) : Except Error _) = .ok (c, form)) :
      CategoryFits index d c form := by
    obtain ⟨rfl, rfl⟩ := Prod.mk.inj (pure_eq_ok.mp h)
    exact .single hn (hkind ▸ .message t) nofun
  cases hm : index.message? t.text with
  | none =>
    rw [hm] at h
    exact hfits (by simp [ mapEntry?, hkind, hm]) h
  | some entry =>
    rw [hm] at h
    dsimp only at h
    split_ifs at h with he
    · obtain ⟨c', hc, h⟩ := bind_eq_ok.mp h
      obtain ⟨rfl, rfl⟩ := Prod.mk.inj (pure_eq_ok.mp h)
      exact .map (by simp [ mapEntry?, hkind, hm, he]) (mapCategory_ok hc)
    · refine hfits ?_ h
      simp only [ mapEntry?, hkind, hm, Option.filter]
      split_ifs with hr hme
      · exact absurd ⟨hme, hr⟩ he
      · rfl
      · rfl

/-- **The category of a field.** -/
theorem categoryOf_ok {c : Category} {form : Cardinality}
    (h : categoryOf index name d = .ok (c, form)) : CategoryFits index d c form := by
  obtain ⟨type, ht, h⟩ := bind_eq_ok.mp h
  cases type with
  | group => exact messageCategory_ok ht (by nofun) h
  | message => exact messageCategory_ok ht (by nofun) h
  | scalar s =>
    have hkind := kindOf_scalar ht
    have h : (pure (Category.scalar (.ofScalar s), Cardinality.singular) : Except Error _) =
        .ok (c, form) := by
      by_cases hs : s = .enumeration
      · subst hs
        obtain ⟨_, -, h⟩ := bind_eq_ok.mp h
        exact h
      · cases s <;> first | exact absurd rfl hs | exact h
    obtain ⟨rfl, rfl⟩ := Prod.mk.inj (pure_eq_ok.mp h)
    exact .single (by simp [ mapEntry?, hkind]) (hkind ▸ .scalar s) nofun

/-! ### Fields -/

/-- The oneof that a field belongs to. -/
theorem oneofIndex_eq_some_iff {place : Nat} : oneofIndex d = some place ↔
    ¬ isSynthetic d ∧ ∃ i, d.oneofIndex = some i ∧ i.toInt = place := by
  unfold oneofIndex
  split_ifs with h
  · simp [h]
  · rw [Option.bind_eq_some_iff, and_iff_right (by simpa using h)]
    refine exists_congr fun i => and_congr_right fun _ => ?_
    split_ifs with hneg
    · exact ⟨nofun, fun hi => by omega⟩
    · rw [Option.some.injEq]
      omega

/-- Whether values of the category are single scalars. -/
def isScalar : Category → Bool
  | .scalar _ => true
  | _ => false

/-- What a field has from its descriptor. -/
structure Reads (index : Index) (proto3 : Bool) (d : FieldDescriptor) (f : Schema.Field)
    (form : Cardinality) : Prop where
  name : d.name.getD "" = f.name
  oneof : oneofIndex d = f.oneof
  category : CategoryFits index d f.category form
  cardinality : f.cardinality = if form = .singular ∧ isRepeated d then .repeated else form
  explicit : f.explicitPresence = (f.cardinality == .singular && isScalar f.category &&
    tellsUnset proto3 d)

theorem ofDescriptor_ok {owner : TypeName} {proto3 : Bool} {f : Schema.Field}
    (h : Field.ofDescriptor index owner proto3 d = .ok f) :
    ∃ form, Reads index proto3 d f form := by
  unfold Field.ofDescriptor at h
  split at h
  · next fieldName hn =>
    obtain ⟨⟨c, form⟩, hc, h⟩ := bind_eq_ok.mp h
    rw [← pure_eq_ok.mp h]
    exact ⟨form, by rw [hn, Option.getD_some], rfl, categoryOf_ok hc, rfl, rfl⟩
  · cases h

variable {proto3 : Bool} {f : Schema.Field} {form : Cardinality}

/-- The values of a field that is no map are those of its descriptor. -/
theorem Reads.kindFits (h : Reads index proto3 d f form) (hm : f.cardinality ≠ .map) :
    KindFits f.category.element (kindOf d) := by
  cases h.category with
  | map => exact absurd h.cardinality hm
  | single _ hk => exact hk

/-- **A field fits the shape of its descriptor.** -/
theorem Reads.shapeFits (h : Reads index proto3 d f form) :
    ShapeFits f (shapeOf index proto3 d) := by
  cases h.category with
  | map he hk =>
    rw [shapeOf, he]
    exact .map h.cardinality hk
  | single he hk hmap =>
    rw [shapeOf, he]
    dsimp only
    by_cases hr : isRepeated d
    · rw [if_pos hr]
      exact .repeated (h.cardinality.trans (if_pos ⟨rfl, hr⟩)) hk
    · rw [if_neg hr]
      have hs : f.cardinality = .singular := h.cardinality.trans (if_neg fun hc => hr hc.2)
      have hexplicit := h.explicit
      cases hc : f.category with
      | map k e => exact absurd hc (hmap k e)
      | message t =>
        rw [hc] at hk
        generalize kindOf d = kind at hk ⊢
        cases hk
        exact .message hs (by rw [hc]; rfl)
      | scalar k =>
        rw [hc] at hk
        generalize kindOf d = kind at hk ⊢
        rw [hs, hc, isScalar, beq_self_eq_true, Bool.and_self, Bool.true_and] at hexplicit
        cases hk with
        | scalar s =>
          dsimp only
          split_ifs with ht
          · exact .explicit hs (by rw [hc]; rfl) (hexplicit.trans ht)
          · exact .implicit hs (by rw [hc]; rfl) (by rwa [hexplicit])

/-! ### Messages -/

/-- The fields of a oneof are its members. -/
theorem Reads.memberFits (h : Reads index proto3 d f form) : MemberFits f (memberOf d) :=
  ⟨by rw [memberOf, h.name], h.kindFits⟩

variable {file : FileDescriptor} {path : List String} {md : MessageDescriptor} {m : Message}

/-- The rows of some fields are those of their descriptors. -/
theorem rowFits_layoutFields
    (hfields : List.Forall₂ (fun d f => ∃ form, Reads index proto3 d f form) md.field m.fields)
    (honeofs : m.oneofs = md.oneof.map fun o => o.name.getD "")
    {seen : List Nat} {ds : List FieldDescriptor} {fs : List Schema.Field}
    (h : List.Forall₂ (fun d f => ∃ form, Reads index proto3 d f form) ds fs) :
    List.Forall₂ (RowFits m) (leaders seen fs) (layoutFields index proto3 md seen ds) := by
  induction h generalizing seen with
  | nil => exact .nil
  | @cons d f ds fs hf hrest ih =>
    obtain ⟨form, hf⟩ := hf
    unfold leaders layoutFields
    rw [hf.oneof]
    cases ho : f.oneof with
    | none =>
      refine .cons (.field ho ?_ hf.shapeFits) ih
      dsimp only
      rw [hf.name]
    | some place =>
      dsimp only
      split_ifs
      · exact ih
      · refine .cons ?_ ih
        have hname : ((md.oneof[place]?).bind (·.name)).getD "" = (m.oneofs[place]?).getD "" := by
          rw [honeofs, List.getElem?_map]
          cases md.oneof[place]? <;> rfl
        refine .oneof ho (by rw [oneofField, hname]) rfl
          (List.forall₂_map_right_iff.mpr (List.Forall₂.flip ?_))
        refine (List.rel_filter ?_ hfields).imp fun d f hf => hf.elim fun _ hf => hf.memberFits
        rintro d f ⟨form, hf⟩
        simp only [hf.oneof]

/-- No field strays from the oneofs if each belongs to one of them. -/
theorem strayMember?_eq_none_iff {count : Nat} {fields : List Field} :
    strayMember? count fields = none ↔
      ∀ f ∈ fields, ∀ place, f.oneof = some place → place < count := by
  rw [strayMember?, List.findSome?_eq_none_iff]
  refine forall₂_congr fun f _ => ?_
  cases f.oneof with
  | none => simp
  | some place => simp

/-- The message that a descriptor stands for, with the fields made of its fields. -/
def Message.ofFields (file : FileDescriptor) (path : List String) (md : MessageDescriptor)
    (fields : List Field) : Message :=
  let id := TypeName.ofReference (qualify (file.package.getD "") path)
  { id, path, fields
    file := file.name.getD ""
    nested := (md.nested.filter (!·.isMapEntry)).map fun n =>
      TypeName.ofReference (id.text ++ "." ++ n.name.getD "")
    oneofs := md.oneof.map fun o => o.name.getD "" }

/-- **A descriptor can be read** if its fields can and none of them strays from its oneofs. -/
theorem message_ofDescriptor_eq_ok_iff : Message.ofDescriptor index file path md = .ok m ↔
    ∃ fields, List.Forall₂ (fun d f =>
        Field.ofDescriptor index (.ofReference (qualify (file.package.getD "") path))
          (file.syntaxName == some "proto3") d = .ok f) md.field fields ∧
      strayMember? md.oneof.length fields = none ∧ m = .ofFields file path md fields := by
  unfold Message.ofDescriptor
  rw [bind_eq_ok]
  refine exists_congr fun fields => and_congr mapM_eq_ok ?_
  cases hs : strayMember? md.oneof.length fields with
  | none => exact pure_eq_ok.trans (eq_comm.trans (and_iff_right rfl).symm)
  | some stray => exact ⟨nofun, nofun⟩

/-- **The fields of a message fit its layout.** -/
theorem fits_ofDescriptor {type : TypeName}
    (h : Message.ofDescriptor index file path md = .ok m) :
    Fits m (layoutOf index file type md) := by
  obtain ⟨fields, hf, -, rfl⟩ := message_ofDescriptor_eq_ok_iff.mp h
  have hfields := hf.imp fun d f hd => ofDescriptor_ok hd
  exact rowFits_layoutFields hfields rfl hfields

/-- No field of a layout is a message with implicit presence. -/
theorem shapeOf_ne_implicit {n : Nat} {type : TypeName} :
    shapeOf index proto3 d ≠ .implicit n (.message type) := by
  unfold shapeOf
  cases mapEntry? index d with
  | some entry => nofun
  | none => cases kindOf d <;> dsimp only <;> split_ifs <;> nofun

theorem ne_implicit_of_mem_layoutFields :
    ∀ {seen : List Nat} {ds : List FieldDescriptor}, ∀ w ∈ layoutFields index proto3 md seen ds,
      ∀ n type, w.shape ≠ .implicit n (.message type)
  | _, [], _, hw => nomatch hw
  | seen, d :: ds, w, hw => by
    unfold layoutFields at hw
    split at hw
    · split_ifs at hw
      · exact ne_implicit_of_mem_layoutFields w hw
      · rcases List.mem_cons.mp hw with rfl | hw
        · nofun
        · exact ne_implicit_of_mem_layoutFields w hw
    · rcases List.mem_cons.mp hw with rfl | hw
      · exact fun _ _ => shapeOf_ne_implicit
      · exact ne_implicit_of_mem_layoutFields w hw

end Redaction.Schema
