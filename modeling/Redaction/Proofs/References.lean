import Redaction.Descriptor.Construct
import Redaction.Proofs.Declarations
import Redaction.Proofs.Loading

/-!
# What the fields of a schema refer to

A field refers to a message by its full name. The reference is looked up in the index, which has
every message that is declared, but a schema leaves out entry messages with all that is declared
inside them: these are *hidden*. So what a field refers to is declared, but need not be there.

* `isSome_message?_iff`: a schema has the messages that are visible.
* `isSome_of_target?`: what a field that was made refers to is in the index.
* `references_ofFiles`: whatever is referred to is declared, and all targets are there exactly if
  none of them is hidden.
* `exists_not_targetsLoaded`: a field may refer to the entry message of a map.

A type is named without the dot that references begin with. A full name that is declared with a dot
in front loses it in the schema but not in the index; `PlainNames` says that there is none.
-/

namespace Redaction.Schema

open Wire

variable {index : Index} {requested : List String} {files : List FileDescriptor} {s : Schema}
  {name : String} {type : TypeName}

/-! ### What is loaded -/

/-- The messages of a file have the names of those that the walk takes. -/
theorem mem_ids_fileMessages {file : FileDescriptor} {ms : List Message}
    (h : fileMessages index file = .ok ms) : type ∈ ms.map (·.id) ↔
      ∃ e ∈ walkMessages [] file.message,
        type = .ofReference (qualify (file.package.getD "") e.1) := by
  have hms := mapM_eq_ok.mp h
  rw [List.mem_map]
  constructor
  · rintro ⟨m, hm, rfl⟩
    obtain ⟨e, he, hd⟩ := exists_left_of_mem hms hm
    exact ⟨e, he, ofDescriptor_id hd⟩
  · rintro ⟨e, he, rfl⟩
    obtain ⟨m, hm, hd⟩ := exists_right_of_mem hms he
    exact ⟨m, hm, ofDescriptor_id hd⟩

/-- **The names of a schema** are those of the messages that the walk takes. -/
theorem mem_keys_addFiles : ∀ {files : List FileDescriptor} {s s' : Schema},
    addFiles index requested files s = .ok s' → (type ∈ s'.messages.map (·.1) ↔
      type ∈ s.messages.map (·.1) ∨ ∃ file ∈ files, ∃ e ∈ walkMessages [] file.message,
        type = .ofReference (qualify (file.package.getD "") e.1))
  | [], s, s', h => by
    rw [addFiles, Except.ok.injEq] at h
    simp [h]
  | file :: files, s, s', h => by
    obtain ⟨ms, hms, h⟩ := bind_eq_ok.mp h
    have hkeys : (ms.map fun m => (m.id, m)).map (·.1) = ms.map (·.id) := by
      rw [List.map_map]
      rfl
    rw [mem_keys_addFiles h, messages_addFile, Ordered.mem_keys_foldl, hkeys,
      mem_ids_fileMessages hms, List.exists_mem_cons_iff, or_assoc]

/-- **A message of the type is declared outside of entry messages.** A dot in front of its full name
is not part of the type. -/
def IsVisible (files : List FileDescriptor) (type : TypeName) : Prop :=
  ∃ name chain m, DeclaredAs files name chain m ∧ (∀ o ∈ chain, ¬ o.isMapEntry) ∧
    type = .ofReference name

/-- **A schema has the messages that are visible.** -/
theorem isSome_message?_iff (h : ofFiles files requested = .ok s) :
    (s.message? type).isSome ↔ IsVisible files type := by
  obtain ⟨index, -, h⟩ := ofFiles_ok h
  have hkeys : (s.message? type).isSome ↔ type ∈ s.messages.map (·.1) := by
    rw [message?, List.lookup_isSome_iff, List.mem_map]
    simp only [beq_iff_eq, @eq_comm _ type]
  rw [hkeys, mem_keys_addFiles h, List.map_nil, or_iff_right List.not_mem_nil]
  constructor
  · rintro ⟨file, hf, e, he, rfl⟩
    obtain ⟨chain, hc, hpath, hchain⟩ := mem_walkMessages.mp he
    exact ⟨_, chain, e.2, ⟨file, hf, hc, rfl⟩, hchain, by rw [hpath, List.nil_append]⟩
  · rintro ⟨name, chain, m, ⟨file, hf, hc, rfl⟩, hchain, rfl⟩
    exact ⟨file, hf, (chain.map ownName, m), mem_walkMessages.mpr ⟨chain, hc, rfl, hchain⟩, rfl⟩

/-- A schema has been made of the messages of every file. -/
theorem fileMessages_of_mem : ∀ {files : List FileDescriptor} {s s' : Schema},
    addFiles index requested files s = .ok s' → ∀ {file}, file ∈ files →
      ∃ ms, fileMessages index file = .ok ms
  | file :: files, s, s', h, f, hf => by
    obtain ⟨ms, hms, h⟩ := bind_eq_ok.mp h
    rcases List.mem_cons.mp hf with rfl | hf
    · exact ⟨ms, hms⟩
    · exact fileMessages_of_mem h hf

/-! ### What fields refer to -/

/-- The type of the values of a field, which for a map are those of its entries. -/
def reference (index : Index) (d : FieldDescriptor) : Kind TypeName :=
  match mapEntry? index d with
  | some entry => valueKind entry
  | none => kindOf d

/-- A message that is referred to is in the index. -/
def Resolves (index : Index) (element : ElementType) : Prop :=
  ∀ type, element.target? = some type → (index.message? type.text).isSome

variable {d : FieldDescriptor}

theorem resolves_scalar {kind : ScalarKind} : Resolves index (.scalar kind) := nofun

theorem resolves_resolveMessage (h : index.resolveMessage name d = .ok type) :
    Resolves index (.message type) := by
  unfold Index.resolveMessage at h
  dsimp only at h
  split_ifs at h with hm
  rw [Except.ok.injEq] at h
  subst h
  intro t ht
  rwa [← Option.some.inj ht]

theorem resolves_mapValue {element : ElementType} (h : mapValue index name d = .ok element) :
    Resolves index element := by
  obtain ⟨type, -, h⟩ := bind_eq_ok.mp h
  split at h
  · obtain ⟨t, ht, h⟩ := bind_eq_ok.mp h
    exact pure_eq_ok.mp h ▸ resolves_resolveMessage ht
  · obtain ⟨t, ht, h⟩ := bind_eq_ok.mp h
    exact pure_eq_ok.mp h ▸ resolves_resolveMessage ht
  · obtain ⟨_, -, h⟩ := bind_eq_ok.mp h
    exact pure_eq_ok.mp h ▸ resolves_scalar
  · exact pure_eq_ok.mp h ▸ resolves_scalar

theorem resolves_mapCategory {entryName : String} {entry : MessageDescriptor} {c : Category}
    (h : mapCategory index name entryName entry = .ok c) : Resolves index c.element := by
  unfold mapCategory at h
  dsimp only at h
  split at h
  · split at h
    · obtain ⟨type, -, h⟩ := bind_eq_ok.mp h
      split at h
      · obtain ⟨element, he, h⟩ := bind_eq_ok.mp h
        exact pure_eq_ok.mp h ▸ resolves_mapValue he
      · cases h
    · cases h
  · cases h

theorem resolves_messageCategory {c : Category} {form : Cardinality}
    (h : messageCategory index name d = .ok (c, form)) : Resolves index c.element := by
  obtain ⟨type, hr, h⟩ := bind_eq_ok.mp h
  have hmessage (h : (pure (Category.message type, Cardinality.singular) : Except Error _) =
      .ok (c, form)) : Resolves index c.element := by
    obtain ⟨rfl, -⟩ := Prod.mk.inj (pure_eq_ok.mp h)
    exact resolves_resolveMessage hr
  split at h
  · split_ifs at h
    · obtain ⟨c', hc, h⟩ := bind_eq_ok.mp h
      obtain ⟨rfl, -⟩ := Prod.mk.inj (pure_eq_ok.mp h)
      exact resolves_mapCategory hc
    · exact hmessage h
  · exact hmessage h

theorem resolves_categoryOf {c : Category} {form : Cardinality}
    (h : categoryOf index name d = .ok (c, form)) : Resolves index c.element := by
  obtain ⟨type, -, h⟩ := bind_eq_ok.mp h
  split at h
  · exact resolves_messageCategory h
  · exact resolves_messageCategory h
  · obtain ⟨_, -, h⟩ := bind_eq_ok.mp h
    obtain ⟨rfl, -⟩ := Prod.mk.inj (pure_eq_ok.mp h)
    exact resolves_scalar
  · obtain ⟨rfl, -⟩ := Prod.mk.inj (pure_eq_ok.mp h)
    exact resolves_scalar

variable {owner : TypeName} {proto3 : Bool} {f : Field}

/-- **The target of a field is in the index.** -/
theorem isSome_of_target? (h : Field.ofDescriptor index owner proto3 d = .ok f)
    (ht : f.target? = some type) : (index.message? type.text).isSome := by
  unfold Field.ofDescriptor at h
  split at h
  · obtain ⟨⟨c, form⟩, hc, h⟩ := bind_eq_ok.mp h
    rw [← pure_eq_ok.mp h] at ht
    exact resolves_categoryOf hc type ht
  · cases h

theorem KindFits.target?_eq_some_iff {element : ElementType} {kind : Kind TypeName}
    (h : KindFits element kind) : element.target? = some type ↔ kind = .message type := by
  cases h with
  | scalar k => exact ⟨nofun, nofun⟩
  | message t => rw [ElementType.target?, Option.some.injEq, Kind.message.injEq]

/-- **The target of a field is the message that its descriptor refers to.** -/
theorem target?_eq_some_iff (h : Field.ofDescriptor index owner proto3 d = .ok f) :
    f.target? = some type ↔ reference index d = .message type := by
  obtain ⟨form, hreads⟩ := ofDescriptor_ok h
  refine KindFits.target?_eq_some_iff ?_
  unfold reference
  cases hreads.category with
  | map he hk => rwa [he]
  | single he hk _ => rwa [he]

variable {file : FileDescriptor} {path : List String} {md : MessageDescriptor} {m : Message}

/-- The fields of a message are made from those of its descriptor. -/
theorem forall₂_ofDescriptor (h : Message.ofDescriptor index file path md = .ok m) :
    ∃ owner, List.Forall₂ (fun d f =>
      Field.ofDescriptor index owner (file.syntaxName == some "proto3") d = .ok f)
      md.field m.fields := by
  obtain ⟨fields, hf, -, rfl⟩ := message_ofDescriptor_eq_ok_iff.mp h
  exact ⟨_, hf⟩

/-! ### References and targets -/

/-- A message is declared under the name. -/
def IsDeclared (files : List FileDescriptor) (name : String) : Prop :=
  ∃ chain m, DeclaredAs files name chain m

/-- **What is declared under the name is hidden:** an entry message or inside one. -/
def IsHidden (files : List FileDescriptor) (name : String) : Prop :=
  ∃ chain m, DeclaredAs files name chain m ∧ ∃ o ∈ chain, o.isMapEntry

/-- **A field refers to the type,** one of a message that is not hidden. -/
def IsReferredTo (files : List FileDescriptor) (type : TypeName) : Prop :=
  ∃ name chain m, DeclaredAs files name chain m ∧ (∀ o ∈ chain, ¬ o.isMapEntry) ∧
    ∃ d ∈ m.field, reference (files.flatMap Index.ofFile) d = .message type

/-- No message is declared under a name that begins with a dot. -/
def PlainNames (files : List FileDescriptor) : Prop :=
  ∀ name, IsDeclared files name → name.toList.head? ≠ some '.'

theorem plainNames_of_keys
    (h : ∀ e ∈ files.flatMap Index.ofFile, e.1.toList.head? ≠ some '.') : PlainNames files := by
  rintro name ⟨chain, m, hd⟩
  exact h _ (message_mem_flatMap.mpr ⟨chain, hd⟩)

theorem PlainNames.of_subset {files' : List FileDescriptor} (h : files' ⊆ files)
    (hp : PlainNames files) : PlainNames files' := by
  rintro name ⟨chain, m, file, hf, hc⟩
  exact hp name ⟨chain, m, file, h hf, hc⟩

/-- **Every message that a field leads to is one of the schema.** -/
def TargetsLoaded (s : Schema) : Prop :=
  ∀ e ∈ s.messages, ∀ f ∈ e.2.fields, ∀ type, f.target? = some type → (s.message? type).isSome

/-- The target of a field is referred to. -/
theorem isReferredTo_of_target? (h : ofFiles files requested = .ok s)
    {e : TypeName × Message} (he : e ∈ s.messages) {f : Field} (hf : f ∈ e.2.fields)
    (ht : f.target? = some type) : IsReferredTo files type := by
  obtain ⟨index, hi, -⟩ := ofFiles_ok h
  obtain ⟨file, hfile, -, walked, hw, hd⟩ := mem_messages_ofFiles h hi he
  obtain ⟨-, rfl⟩ := ofFiles_eq_ok_iff.mp hi
  obtain ⟨chain, hc, -, hchain⟩ := mem_walkMessages.mp hw
  obtain ⟨owner, hfields⟩ := forall₂_ofDescriptor hd
  obtain ⟨d, hmem, hfd⟩ := exists_left_of_mem hfields hf
  exact ⟨_, chain, walked.2, ⟨file, hfile, hc, rfl⟩, hchain, d, hmem,
    (target?_eq_some_iff hfd).mp ht⟩

/-- **What is referred to is declared.** -/
theorem isDeclared_of_isReferredTo (h : ofFiles files requested = .ok s)
    (hr : IsReferredTo files type) : IsDeclared files type.text := by
  obtain ⟨index, hi, h⟩ := ofFiles_ok h
  obtain ⟨-, rfl⟩ := ofFiles_eq_ok_iff.mp hi
  obtain ⟨_, chain, m, ⟨file, hfile, hc, -⟩, hchain, d, hmem, hr⟩ := hr
  obtain ⟨ms, hms⟩ := fileMessages_of_mem h hfile
  have hw : (chain.map ownName, m) ∈ walkMessages [] file.message :=
    mem_walkMessages.mpr ⟨chain, hc, rfl, hchain⟩
  obtain ⟨message, -, hd⟩ := exists_right_of_mem (mapM_eq_ok.mp hms) hw
  obtain ⟨owner, hfields⟩ := forall₂_ofDescriptor hd
  obtain ⟨f, -, hf⟩ := exists_right_of_mem hfields hmem
  have hsome := isSome_of_target? hf ((target?_eq_some_iff hf).mpr hr)
  obtain ⟨n, hn⟩ := Option.isSome_iff_exists.mp hsome
  obtain ⟨chain', hc'⟩ := (message?_eq_some_iff hi).mp hn
  exact ⟨chain', n, hc'⟩

theorem ofReference_eq_self {name : String} (h : name.toList.head? ≠ some '.') :
    TypeName.ofReference name = ⟨name⟩ := by
  unfold TypeName.ofReference TypeName.dropDot
  split
  · next cs hcs => simp [hcs] at h
  · rw [String.ofList_toList]

/-- **A declared message is in the schema unless it is hidden,** if names are plain. -/
theorem isSome_message?_iff_not_isHidden (h : ofFiles files requested = .ok s)
    (hplain : PlainNames files) (hd : IsDeclared files type.text) :
    (s.message? type).isSome ↔ ¬ IsHidden files type.text := by
  obtain ⟨index, hi, -⟩ := ofFiles_ok h
  obtain ⟨chain, m, hd⟩ := hd
  rw [isSome_message?_iff h]
  constructor
  · rintro ⟨name, chain', m', hd', hchain, rfl⟩ ⟨c, n, hc, o, ho, hentry⟩
    rw [ofReference_eq_self (hplain name ⟨chain', m', hd'⟩)] at hc
    exact hchain o ((hc.unique hi hd').1 ▸ ho) hentry
  · intro hn
    refine ⟨type.text, chain, m, hd, fun o ho hentry => hn ⟨chain, m, hd, o, ho, hentry⟩, ?_⟩
    rw [ofReference_eq_self (hplain _ ⟨chain, m, hd⟩)]

/-- **What is referred to is the target of a field,** if names are plain. -/
theorem exists_target?_of_isReferredTo (h : ofFiles files requested = .ok s)
    (hplain : PlainNames files) (hr : IsReferredTo files type) :
    ∃ e ∈ s.messages, ∃ f ∈ e.2.fields, f.target? = some type := by
  obtain ⟨index, hi, -⟩ := ofFiles_ok h
  obtain ⟨name, chain, m, hd, hchain, d, hmem, hr⟩ := hr
  have hname := ofReference_eq_self (hplain name ⟨chain, m, hd⟩)
  have hsome := (isSome_message?_iff h).mpr ⟨name, chain, m, hd, hchain, hname.symm⟩
  obtain ⟨message, hmessage⟩ := Option.isSome_iff_exists.mp hsome
  have he := Ordered.mem_of_lookup hmessage
  -- The message of that name is made from the descriptor that is declared under it.
  obtain ⟨file, hfile, hid, walked, hw, hmade⟩ := mem_messages_ofFiles h hi he
  obtain ⟨chain', hc', hpath, -⟩ := mem_walkMessages.mp hw
  have hd' : DeclaredAs files (qualify (file.package.getD "") walked.1) chain' walked.2 :=
    ⟨file, hfile, hc', by rw [hpath, List.nil_append]⟩
  have hsame : name = qualify (file.package.getD "") walked.1 := by
    have heq := hid.trans (ofDescriptor_id hmade)
    rwa [ofReference_eq_self (hplain _ ⟨chain', walked.2, hd'⟩), TypeName.mk.injEq] at heq
  obtain ⟨-, rfl⟩ := hd.unique hi (hsame ▸ hd')
  obtain ⟨owner, hfields⟩ := forall₂_ofDescriptor hmade
  obtain ⟨f, hf, hfd⟩ := exists_right_of_mem hfields hmem
  obtain ⟨-, rfl⟩ := ofFiles_eq_ok_iff.mp hi
  exact ⟨_, he, f, hf, (target?_eq_some_iff hfd).mpr hr⟩

/-- **What files refer to is declared, or they have no schema.** The schema has what is visible of
it, so with plain names all targets are loaded exactly if nothing that is referred to is hidden. -/
theorem references_ofFiles (h : ofFiles files requested = .ok s) :
    (∀ type, IsReferredTo files type → IsDeclared files type.text) ∧
    (∀ type, (s.message? type).isSome ↔ IsVisible files type) ∧
    (PlainNames files →
      (TargetsLoaded s ↔ ∀ type, IsReferredTo files type → ¬ IsHidden files type.text)) := by
  refine ⟨fun type => isDeclared_of_isReferredTo h, fun type => isSome_message?_iff h,
    fun hplain => ?_⟩
  constructor
  · intro hloaded type hr
    obtain ⟨e, he, f, hf, ht⟩ := exists_target?_of_isReferredTo h hplain hr
    rw [← isSome_message?_iff_not_isHidden h hplain (isDeclared_of_isReferredTo h hr)]
    exact hloaded e he f hf type ht
  · intro hvisible e he f hf type ht
    have hr := isReferredTo_of_target? h he hf ht
    rw [isSome_message?_iff_not_isHidden h hplain (isDeclared_of_isReferredTo h hr)]
    exact hvisible type hr

/-! ### An entry message that is referred to -/

/-- A file with a map field and a field that refers to an entry of the map by itself. -/
def entryReference : FileDescriptor :=
  (FileDescriptor.named "a.proto" "a").withMessage
    ((((MessageDescriptor.named "M").withField (.map "tags" 1 ".a.M.TagsEntry")).withField
      (.message "last" 2 ".a.M.TagsEntry")).withNested
      (.mapEntryOf "TagsEntry" (.ofType "key" 1 (.scalar .string))
        (.ofType "value" 2 (.scalar .string))))

/-- The schema of that file. -/
def entrySchema : Schema := (ofFiles [entryReference] []).toOption.getD {}

theorem ofFiles_entryReference : ofFiles [entryReference] [] = .ok entrySchema :=
  eq_ok_of_toOption (by decide +kernel)

theorem not_targetsLoaded_entrySchema : ¬ TargetsLoaded entrySchema := by
  unfold TargetsLoaded
  decide +kernel

theorem plainNames_entryReference : PlainNames [entryReference] :=
  plainNames_of_keys (by decide +kernel)

theorem references_ofFiles_entryReference : ∃ s, ofFiles [entryReference] [] = .ok s ∧
    IsDeclared [entryReference] "a.M.TagsEntry" ∧ ¬ IsVisible [entryReference] ⟨"a.M.TagsEntry"⟩ ∧
    ∃ type, IsReferredTo [entryReference] type ∧ IsHidden [entryReference] type.text := by
  obtain ⟨hdeclared, hvisible, hloaded⟩ := references_ofFiles ofFiles_entryReference
  have htarget : ∃ e ∈ entrySchema.messages, ∃ f ∈ e.2.fields,
      f.target? = some ⟨"a.M.TagsEntry"⟩ := by decide +kernel
  obtain ⟨e, he, f, hf, ht⟩ := htarget
  refine ⟨entrySchema, ofFiles_entryReference,
    hdeclared _ (isReferredTo_of_target? ofFiles_entryReference he hf ht), ?_, ?_⟩
  · rw [← hvisible]
    decide +kernel
  · by_contra hnone
    refine not_targetsLoaded_entrySchema ((hloaded plainNames_entryReference).mpr ?_)
    exact fun type hr hh => hnone ⟨type, hr, hh⟩

/-- **A field may lead to a message that the schema has not,** although its reference is accepted:
the entry message of a map. -/
theorem exists_not_targetsLoaded :
    ∃ s, ofFiles [entryReference] [] = .ok s ∧ ¬ TargetsLoaded s :=
  ⟨entrySchema, ofFiles_entryReference, not_targetsLoaded_entrySchema⟩

end Redaction.Schema
