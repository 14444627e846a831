import Mathlib.Tactic.IntervalCases
import Redaction.Proofs.DeclarationSites

/-!
# Which files are accepted

Loading goes over the declarations twice: once to index all of them, and once over the messages that
are no entries of maps nor inside one, to classify their fields. It may stop at any of them. What
it takes for it not to stop is said here of the files alone.

* `WellFormed`: names are distinct, and every field that is classified is well formed: it has a name
  and a type, what it refers to is declared, and the oneof that it names is there.
* `exists_categoryOf_iff`, `exists_message_iff`: a field and a message can be read exactly if they
  are well formed, one lemma for each function that reads.
* `ofFiles_ok_iff_wellFormed`: files have a schema exactly if they are well formed. If names are not
  distinct, the error is that of a name which is declared at two sites.
-/

namespace Redaction

/-! ### Numbers of types -/

theorem FieldType.ofNumber?_eq_some_iff {n : Int32} {t : FieldType} :
    ofNumber? n = some t ↔ t.number = n := by
  constructor
  · intro h
    simpa using List.find?_some (p := fun t : FieldType => t.number == n) h
  · rintro rfl
    cases t with
    | scalar s => cases s <;> rfl
    | group => rfl
    | message => rfl

/-- **The numbers of types** are those from 1 to 18. -/
theorem FieldType.exists_number_iff {n : Int32} :
    (∃ t : FieldType, t.number = n) ↔ 1 ≤ n ∧ n ≤ 18 := by
  constructor
  · rintro ⟨t, rfl⟩
    cases t with
    | scalar s => cases s <;> decide
    | group => decide
    | message => decide
  · rintro ⟨hlow, hhigh⟩
    have hlow : 1 ≤ n.toInt := Int32.le_iff_toInt_le.mp hlow
    have hhigh : n.toInt ≤ 18 := Int32.le_iff_toInt_le.mp hhigh
    have hn : n = Int32.ofInt n.toInt := (Int32.ofInt_toInt n).symm
    have hmem : n ∈ FieldType.all.map FieldType.number := by
      rw [hn]
      interval_cases n.toInt <;> decide
    obtain ⟨t, -, ht⟩ := List.mem_map.mp hmem
    exact ⟨t, ht⟩

namespace Schema

variable {index : Index} {files : List FileDescriptor} {requested : List String}
  {d : FieldDescriptor} {name fullName : String}

/-! ### Well-formed fields -/

/-- The number of a field's type; none set counts as zero. -/
def typeNumber (d : FieldDescriptor) : Int32 := d.type.getD 0

/-- The type of the field is that of a message. -/
def IsMessageTyped (d : FieldDescriptor) : Prop :=
  typeNumber d = FieldType.message.number ∨ typeNumber d = FieldType.group.number

/-- The message that a field refers to, without one leading dot. -/
def messageReference (d : FieldDescriptor) : String :=
  (TypeName.ofReference (d.typeName.getD "")).text

/-- The enum that a field refers to, without leading dots. -/
def enumReference (d : FieldDescriptor) : String :=
  String.ofList ((d.typeName.getD "").toList.dropWhile (· == '.'))

/-- **The field has a type, and what it refers to is declared.** -/
structure RefersToDeclared (files : List FileDescriptor) (d : FieldDescriptor) : Prop where
  valid : 1 ≤ typeNumber d ∧ typeNumber d ≤ 18
  message : IsMessageTyped d → ∃ m, HasDeclaration files (messageReference d) (.message m)
  enumeration : typeNumber d = (FieldType.scalar .enumeration).number →
    HasDeclaration files (enumReference d) .enumeration

/-- **The message can be the entry of a map:** its first fields with the numbers 1 and 2 are a key,
which is no message, and a value. -/
structure EntryWellFormed (files : List FileDescriptor) (entry : MessageDescriptor) : Prop where
  key : ∃ key, entry.field.find? (·.number == some 1) = some key ∧
    (1 ≤ typeNumber key ∧ typeNumber key ≤ 18) ∧ ¬ IsMessageTyped key
  value : ∃ value, entry.field.find? (·.number == some 2) = some value ∧
    RefersToDeclared files value

/-- If the field repeats entries, they can be the entries of a map. -/
def RepeatsWellFormed (files : List FileDescriptor) (d : FieldDescriptor) : Prop :=
  isRepeated d → ∀ entry, HasDeclaration files (messageReference d) (.message entry) →
    entry.isMapEntry → EntryWellFormed files entry

/-- **The field is well formed** in a message with so many oneofs. -/
structure FieldWellFormed (files : List FileDescriptor) (oneofs : Nat) (d : FieldDescriptor) :
    Prop where
  named : d.name.isSome
  refers : RefersToDeclared files d
  entry : IsMessageTyped d → RepeatsWellFormed files d
  oneof : ¬ isSynthetic d → ∀ i, d.oneofIndex = some i → 0 ≤ i.toInt → i.toInt < oneofs

/-- **The files are well formed:** their names are distinct, and the fields of all messages that are
no entries of maps nor inside one are well formed. -/
structure WellFormed (files : List FileDescriptor) : Prop where
  distinct : NamesDistinct files
  fields : ∀ file ∈ files, ∀ chain m, Chain file.message chain m →
    (∀ o ∈ chain, ¬ o.isMapEntry) → ∀ d ∈ m.field, FieldWellFormed files m.oneof.length d

/-! ### Types -/

theorem fieldType_eq_ok_iff {t : FieldType} :
    fieldType fullName d = .ok t ↔ t.number = typeNumber d := by
  rw [← FieldType.ofNumber?_eq_some_iff, typeNumber]
  unfold fieldType
  dsimp only
  split
  · next t' h => rw [h, Except.ok.injEq, Option.some.injEq]
  · next h => rw [h]; exact ⟨nofun, nofun⟩

/-- What the reference of a field of a type has to be. -/
def ReferenceDeclared (files : List FileDescriptor) (d : FieldDescriptor) : FieldType → Prop
  | .message | .group => ∃ m, HasDeclaration files (messageReference d) (.message m)
  | .scalar .enumeration => HasDeclaration files (enumReference d) .enumeration
  | .scalar _ => True

theorem refersToDeclared_iff : RefersToDeclared files d ↔
    ∃ t : FieldType, t.number = typeNumber d ∧ ReferenceDeclared files d t := by
  constructor
  · rintro ⟨hvalid, hmessage, henum⟩
    obtain ⟨t, ht⟩ := FieldType.exists_number_iff.mpr hvalid
    refine ⟨t, ht, ?_⟩
    cases t with
    | message => exact hmessage (Or.inl ht.symm)
    | group => exact hmessage (Or.inr ht.symm)
    | scalar s =>
      cases s with
      | enumeration => exact henum ht.symm
      | _ => exact trivial
  · rintro ⟨t, ht, hdeclared⟩
    refine ⟨FieldType.exists_number_iff.mp ⟨t, ht⟩, fun hm => ?_, fun he => ?_⟩
    · rw [IsMessageTyped, ← ht] at hm
      cases t with
      | message => exact hdeclared
      | group => exact hdeclared
      | scalar s => cases s <;> exact absurd hm (by decide)
    · rw [← ht] at he
      cases t with
      | message => exact absurd he (by decide)
      | group => exact absurd he (by decide)
      | scalar s =>
        cases s with
        | enumeration => exact hdeclared
        | _ => exact absurd he (by decide)

/-- The type of a map key has a kind. -/
theorem exists_keyKind_iff : (∃ t : FieldType, fieldType fullName d = .ok t ∧
      (ScalarKind.ofType? t).isSome) ↔
    (1 ≤ typeNumber d ∧ typeNumber d ≤ 18) ∧ ¬ IsMessageTyped d := by
  rw [← FieldType.exists_number_iff]
  simp only [fieldType_eq_ok_iff, IsMessageTyped]
  constructor
  · rintro ⟨t, ht, hs⟩
    refine ⟨⟨t, ht⟩, ?_⟩
    rw [← ht]
    cases t with
    | message => cases hs
    | group => cases hs
    | scalar s => cases s <;> decide
  · rintro ⟨⟨t, ht⟩, hs⟩
    refine ⟨t, ht, ?_⟩
    rw [← ht] at hs
    cases t with
    | message => exact absurd (Or.inl rfl) hs
    | group => exact absurd (Or.inr rfl) hs
    | scalar s => rfl

/-! ### References -/

section Indexed

variable (hi : Index.ofFiles files = .ok index)
include hi

/-- What the index has under a name is what is declared under it. -/
theorem lookup_eq_some_iff {declaration : Declaration} :
    index.lookup name = some declaration ↔ HasDeclaration files name declaration := by
  obtain ⟨hn, rfl⟩ := ofFiles_eq_ok_iff.mp hi
  rw [Ordered.lookup_eq_some_iff hn]
  exact mem_declarations_iff

theorem message?_eq_some_iff_declared {m : MessageDescriptor} :
    index.message? name = some m ↔ HasDeclaration files name (.message m) := by
  rw [← lookup_eq_some_iff hi, Index.message?]
  split
  · next n h => simp [h]
  · next h => exact ⟨fun hm => absurd hm (Option.some_ne_none m).symm, fun hm => absurd hm (h m)⟩

theorem hasEnum_iff : index.hasEnum name ↔ HasDeclaration files name .enumeration := by
  rw [← lookup_eq_some_iff hi, Index.hasEnum]
  split
  · next h => simp [h]
  · next h => simpa using h

theorem resolveMessage_eq_ok_iff {type : TypeName} : index.resolveMessage fullName d = .ok type ↔
    type = .ofReference (d.typeName.getD "") ∧
      ∃ m, HasDeclaration files (messageReference d) (.message m) := by
  simp only [← message?_eq_some_iff_declared hi, ← Option.isSome_iff_exists, messageReference]
  unfold Index.resolveMessage
  dsimp only
  split_ifs with h
  · rw [Except.ok.injEq, and_iff_left h]
    exact eq_comm
  · exact ⟨nofun, fun hd => absurd hd.2 h⟩

theorem exists_resolveEnum_iff : (∃ u, index.resolveEnum fullName d = .ok u) ↔
    HasDeclaration files (enumReference d) .enumeration := by
  rw [← hasEnum_iff hi]
  unfold Index.resolveEnum enumReference
  dsimp only
  split_ifs with h
  · exact ⟨fun _ => h, fun _ => ⟨_, rfl⟩⟩
  · exact ⟨nofun, fun hd => absurd hd h⟩

/-! ### Categories -/

theorem exists_mapValue_iff :
    (∃ e, mapValue index fullName d = .ok e) ↔ RefersToDeclared files d := by
  unfold mapValue
  rw [exists_bind_iff, refersToDeclared_iff]
  refine exists_congr fun t => and_congr fieldType_eq_ok_iff ?_
  have hmessage : (∃ e, (do return ElementType.message (← index.resolveMessage fullName d)) =
      Except.ok (ε := Error) e) ↔ ∃ m, HasDeclaration files (messageReference d) (.message m) := by
    rw [exists_bind_pure_iff]
    simp only [resolveMessage_eq_ok_iff hi, exists_eq_left]
  cases t with
  | message => exact hmessage
  | group => exact hmessage
  | scalar s =>
    cases s with
    | enumeration => exact exists_bind_pure_iff.trans (exists_resolveEnum_iff hi)
    | _ => exact ⟨fun _ => trivial, fun _ => ⟨_, rfl⟩⟩

theorem exists_mapCategory_iff {entryName : String} {entry : MessageDescriptor} :
    (∃ c, mapCategory index fullName entryName entry = .ok c) ↔ EntryWellFormed files entry := by
  unfold mapCategory
  dsimp only
  split
  · next key hk =>
    split
    · next value hv =>
      rw [exists_bind_iff]
      constructor
      · rintro ⟨t, ht, h⟩
        split at h
        · next k hs =>
          refine ⟨⟨key, hk, exists_keyKind_iff.mp ⟨t, ht, by rw [hs]; rfl⟩⟩, value, hv, ?_⟩
          rwa [exists_bind_pure_iff, exists_mapValue_iff hi] at h
        · obtain ⟨_, h⟩ := h
          cases h
      · rintro ⟨⟨key', hk', hvalid⟩, value', hv', hrefers⟩
        obtain rfl := Option.some.inj (hk.symm.trans hk')
        obtain rfl := Option.some.inj (hv.symm.trans hv')
        obtain ⟨t, ht, hs⟩ := exists_keyKind_iff.mpr hvalid
        refine ⟨t, ht, ?_⟩
        obtain ⟨k, hs⟩ := Option.isSome_iff_exists.mp hs
        rw [hs]
        exact exists_bind_pure_iff.mpr ((exists_mapValue_iff hi).mpr hrefers)
    · next hv =>
      constructor
      · rintro ⟨_, h⟩
        cases h
      · intro h
        obtain ⟨value, hvalue, -⟩ := h.value
        exact absurd hvalue (hv value)
  · next hk =>
    constructor
    · rintro ⟨_, h⟩
      cases h
    · intro h
      obtain ⟨key, hkey, -⟩ := h.key
      exact absurd hkey (hk key)

theorem exists_messageCategory_iff : (∃ c, messageCategory index fullName d = .ok c) ↔
    (∃ m, HasDeclaration files (messageReference d) (.message m)) ∧ RepeatsWellFormed files d := by
  unfold messageCategory RepeatsWellFormed
  rw [exists_bind_iff]
  simp only [resolveMessage_eq_ok_iff hi, and_assoc, exists_eq_left]
  refine and_congr_right fun ⟨m, hm⟩ => ?_
  -- there is one message under that name
  have hmessage := (message?_eq_some_iff_declared hi).mpr hm
  have hone (entry : MessageDescriptor) :
      HasDeclaration files (messageReference d) (.message entry) ↔ m = entry := by
    rw [← message?_eq_some_iff_declared hi, hmessage, Option.some.injEq]
  unfold messageReference at hmessage
  rw [hmessage]
  simp only [hone, forall_eq']
  split_ifs with h
  · rw [exists_bind_pure_iff, exists_mapCategory_iff hi]
    exact ⟨fun he _ _ => he, fun he => he h.2 h.1⟩
  · exact ⟨fun _ hr he => absurd ⟨he, hr⟩ h, fun _ => ⟨_, rfl⟩⟩

theorem exists_categoryOf_iff : (∃ c, categoryOf index fullName d = .ok c) ↔
    RefersToDeclared files d ∧ (IsMessageTyped d → RepeatsWellFormed files d) := by
  unfold categoryOf
  rw [exists_bind_iff, refersToDeclared_iff, ← exists_and_right]
  refine exists_congr fun t => ?_
  rw [fieldType_eq_ok_iff, and_assoc]
  refine and_congr_right fun ht => ?_
  rw [IsMessageTyped, ← ht]
  cases t with
  | message =>
    rw [ReferenceDeclared, exists_messageCategory_iff hi]
    exact and_congr_right fun _ => ⟨fun h _ => h, fun h => h (Or.inl rfl)⟩
  | group =>
    rw [ReferenceDeclared, exists_messageCategory_iff hi]
    exact and_congr_right fun _ => ⟨fun h _ => h, fun h => h (Or.inr rfl)⟩
  | scalar s =>
    cases s with
    | enumeration =>
      refine exists_bind_pure_iff.trans ((exists_resolveEnum_iff hi).trans ?_)
      exact (and_iff_left fun h => absurd h (by decide)).symm
    | _ => exact ⟨fun _ => ⟨trivial, fun h => absurd h (by decide)⟩, fun _ => ⟨_, rfl⟩⟩

/-! ### Fields and messages -/

variable {owner : TypeName} {proto3 : Bool}

theorem exists_field_iff : (∃ f, Field.ofDescriptor index owner proto3 d = .ok f) ↔
    d.name.isSome ∧ RefersToDeclared files d ∧
      (IsMessageTyped d → RepeatsWellFormed files d) := by
  unfold Field.ofDescriptor
  split
  · next fieldName hn =>
    rw [hn, Option.isSome_some, and_iff_right rfl]
    exact exists_bind_pure_iff.trans (exists_categoryOf_iff hi)
  · next hn =>
    constructor
    · rintro ⟨_, h⟩
      cases h
    · rintro ⟨h, -⟩
      obtain ⟨fieldName, h⟩ := Option.isSome_iff_exists.mp h
      exact absurd h (hn fieldName)

/-- **A message can be read if its fields are well formed.** -/
theorem exists_message_iff {file : FileDescriptor} {path : List String} {md : MessageDescriptor} :
    (∃ m, Message.ofDescriptor index file path md = .ok m) ↔
      ∀ d ∈ md.field, FieldWellFormed files md.oneof.length d := by
  simp only [message_ofDescriptor_eq_ok_iff]
  constructor
  · rintro ⟨_, fields, hfields, hstray, rfl⟩ d hd
    obtain ⟨f, hf, hread⟩ := exists_right_of_mem hfields hd
    obtain ⟨hnamed, hrefers, hentry⟩ := (exists_field_iff hi).mp ⟨f, hread⟩
    obtain ⟨form, hreads⟩ := ofDescriptor_ok hread
    refine ⟨hnamed, hrefers, hentry, fun hs i ho hpos => ?_⟩
    have hplace : oneofIndex d = some i.toInt.toNat :=
      oneofIndex_eq_some_iff.mpr ⟨hs, i, ho, by omega⟩
    have := strayMember?_eq_none_iff.mp hstray f hf _ (hreads.oneof ▸ hplace)
    omega
  · intro h
    have hread : ∀ d ∈ md.field, ∃ f, Field.ofDescriptor index
        (.ofReference (qualify (file.package.getD "") path))
        (file.syntaxName == some "proto3") d = .ok f := fun d hd =>
      (exists_field_iff hi).mpr ⟨(h d hd).named, (h d hd).refers, (h d hd).entry⟩
    obtain ⟨fields, hfields⟩ := exists_mapM_iff.mpr hread
    refine ⟨_, fields, mapM_eq_ok.mp hfields, strayMember?_eq_none_iff.mpr ?_, rfl⟩
    intro f hf place ho
    obtain ⟨d, hd, hread⟩ := exists_left_of_mem (mapM_eq_ok.mp hfields) hf
    obtain ⟨form, hreads⟩ := ofDescriptor_ok hread
    obtain ⟨hs, i, hidx, hplace⟩ := oneofIndex_eq_some_iff.mp (hreads.oneof.trans ho)
    have := (h d hd).oneof hs i hidx (by omega)
    omega

/-- The messages of a file can be read if the fields of all that are no entries are well formed. -/
theorem exists_fileMessages_iff {file : FileDescriptor} :
    (∃ ms, fileMessages index file = .ok ms) ↔
      ∀ chain m, Chain file.message chain m → (∀ o ∈ chain, ¬ o.isMapEntry) →
        ∀ d ∈ m.field, FieldWellFormed files m.oneof.length d := by
  unfold fileMessages
  rw [exists_mapM_iff]
  constructor
  · intro h chain m hc hchain
    exact (exists_message_iff hi).mp
      (h (chain.map ownName, m) (mem_walkMessages.mpr ⟨chain, hc, rfl, hchain⟩))
  · intro h e he
    obtain ⟨chain, hc, -, hchain⟩ := mem_walkMessages.mp he
    exact (exists_message_iff hi).mpr (h chain e.2 hc hchain)

end Indexed

/-! ### Files -/

/-- If names are not distinct, the first that is repeated is reported. -/
theorem ofFiles_eq_error_of_not_distinct (h : ¬ NamesDistinct files) :
    ∃ name s s' d d', ofFiles files requested = .error (.duplicateType name) ∧ s ≠ s' ∧
      DeclaresAt files s (name, d) ∧ DeclaresAt files s' (name, d') := by
  rw [← nodup_keys_iff] at h
  cases hname : Index.firstRepeated [] ((declarations files).map (·.1)) with
  | none => exact absurd (firstRepeated_eq_none_iff.mp hname).1 h
  | some name =>
    obtain ⟨s, s', d, d', hne, hs, hs'⟩ := exists_sites_of_firstRepeated hname
    have hindex : Index.ofFiles files = .error (.duplicateType name) := by
      unfold Index.ofFiles
      unfold declarations at hname
      simp only [hname]
    refine ⟨name, s, s', d, d', ?_, hne, hs, hs'⟩
    rw [ofFiles, hindex]
    rfl

/-- **Files have a schema exactly if they are well formed.** If two sites have one name, it is
reported that such a name is declared twice. -/
theorem ofFiles_ok_iff_wellFormed (files : List FileDescriptor) (requested : List String) :
    ((∃ s, ofFiles files requested = .ok s) ↔ WellFormed files) ∧
    (¬ NamesDistinct files → ∃ name s s' d d',
      ofFiles files requested = .error (.duplicateType name) ∧ s ≠ s' ∧
        DeclaresAt files s (name, d) ∧ DeclaresAt files s' (name, d')) := by
  refine ⟨?_, ofFiles_eq_error_of_not_distinct⟩
  simp only [ofFiles_eq_ok_iff_accepted, exists_and_left, exists_eq, and_true]
  constructor
  · rintro ⟨hn, hread⟩
    have hi : Index.ofFiles files = .ok (declarations files) := ofFiles_eq_ok_iff.mpr ⟨hn, rfl⟩
    exact ⟨nodup_keys_iff.mp hn, fun file hf => (exists_fileMessages_iff hi).mp (hread file hf)⟩
  · rintro ⟨hdistinct, hfields⟩
    have hn := nodup_keys_iff.mpr hdistinct
    have hi : Index.ofFiles files = .ok (declarations files) := ofFiles_eq_ok_iff.mpr ⟨hn, rfl⟩
    exact ⟨hn, fun file hf => (exists_fileMessages_iff hi).mpr (hfields file hf)⟩

end Schema

end Redaction
