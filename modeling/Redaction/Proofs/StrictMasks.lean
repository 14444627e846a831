import Redaction.Proofs.Emission
import Redaction.Proofs.Modularity

/-!
# Strict masks only add errors

A mask override applies to singular scalars of its own kind only. On any other redacted field it is
ignored, and refused if masks are strict. So one run does what the other does and checks each field
that it comes to on top, which makes a failure of the first of them that is refused (`Reports`).

* `Field.Misfits`: the field has an override that does not apply to it.
* `emitted`: the fields of a message in the order in which its implementation comes to them.
* `Writable`: what a message needs so that nothing else can go wrong. Loading sees to the oneofs
  (`oneof_lt_of_ofDescriptor`), and that the names have identifiers is assumed (`Nameable`).
* `reports_emit`, `reports_generateFiles`: a message and a run report the first refused field.
* `generateFiles_strict`: what this means for the files (`FirstMisfit`). Messages that are left out
  have no redacted field, so none of theirs is refused.
* `exists_misfit_not_refused`: with names that begin with a dot a field may go unchecked.
-/

namespace Redaction

open Schema Code

/-! ### Overrides that do not apply -/

/-- **The kinds that an override is for.** -/
inductive Override.IsFor : Override → ScalarKind → Prop
  | string (mask : String) : IsFor (.string mask) .string
  | bytes (mask : String) : IsFor (.bytes mask) .bytes
  | int (mask : Int64) (width : IntWidth) : IsFor (.int mask) (.int width)
  | double (mask : Number.Double) (width : FloatWidth) : IsFor (.double mask) (.float width)
  | bool (mask : Bool) : IsFor (.bool mask) .bool
  | enum (mask : Int32) : IsFor (.enum mask) .enumeration

variable {f : Field} {v : Override} {kind : ScalarKind}

theorem isSome_overridden?_iff : (kind.overridden? v).isSome ↔ v.IsFor kind := by
  constructor
  · intro h
    cases kind <;> cases v <;> simp [ScalarKind.overridden?] at h <;> constructor
  · rintro (_ | _ | _ | _ | _ | _) <;> rfl

namespace Schema.Field

/-- **A redacted field with an override that does not apply to it:** the field is no singular
scalar, or one of a kind that the override is not for. -/
structure Misfits (f : Field) (v : Override) : Prop where
  redacted : f.isRedacted
  declared : f.override? = some v
  unfit : ¬ ∃ kind, f.cardinality = .singular ∧ f.category = .scalar kind ∧ v.IsFor kind

theorem form_eq_scalar_iff :
    f.form = .scalar kind ↔ f.cardinality = .singular ∧ f.category = .scalar kind := by
  unfold form
  split <;> simp_all

theorem isSome_overridden?_form_iff : (f.form.overridden? v).isSome ↔
    ∃ kind, f.cardinality = .singular ∧ f.category = .scalar kind ∧ v.IsFor kind := by
  simp only [← and_assoc, ← form_eq_scalar_iff]
  cases hf : f.form with
  | scalar kind =>
    rw [Form.overridden?, isSome_overridden?_iff]
    simp
  | _ => simp [Form.overridden?]

theorem inapplicable?_eq_some_iff : f.inapplicable? = some v ↔ f.Misfits v := by
  have hunfit : (f.form.overridden? v).isNone ↔
      ¬ ∃ kind, f.cardinality = .singular ∧ f.category = .scalar kind ∧ v.IsFor kind := by
    rw [← isSome_overridden?_form_iff]
    simp
  unfold inapplicable?
  constructor
  · intro h
    split_ifs at h with hr
    obtain ⟨hv, hu⟩ := Option.filter_eq_some_iff.mp h
    exact ⟨hr, hv, hunfit.mp hu⟩
  · rintro ⟨hr, hv, hu⟩
    rw [if_pos hr]
    exact Option.filter_eq_some_iff.mpr ⟨hv, hunfit.mpr hu⟩

end Schema.Field

/-- The failure of strict masks at a field, if there is one. -/
def refusal? (f : Field) : Option Failure :=
  f.inapplicable?.map fun v => .refused (.maskOverride f.fullName v.key f.form.name)

theorem refusal?_eq_some_iff {e : Failure} : refusal? f = some e ↔
    ∃ v, f.Misfits v ∧ e = .refused (.maskOverride f.fullName v.key f.form.name) := by
  rw [refusal?, Option.map_eq_some_iff]
  exact exists_congr fun v => and_congr Field.inapplicable?_eq_some_iff eq_comm

theorem refusal?_eq_none_iff : refusal? f = none ↔ ∀ v, ¬ f.Misfits v := by
  rw [refusal?, Option.map_eq_none_iff, Option.eq_none_iff_forall_ne_some]
  exact forall_congr' fun v => not_congr Field.inapplicable?_eq_some_iff

/-! ### The order of emission -/

/-- **The fields of a message in the order in which its implementation comes to them:** the members
of a oneof where the first of them is declared. -/
def emitted (m : Message) : List Field := (leaders [] m.fields).flatMap (group m)

theorem mem_emitted {m : Message} : f ∈ emitted m ↔ f ∈ m.fields := by
  unfold emitted
  rw [List.mem_flatMap]
  constructor
  · rintro ⟨g, hg, hf⟩
    unfold group at hf
    split at hf
    · exact (mem_membersOf.mp hf).1
    · rw [List.mem_singleton] at hf
      exact hf ▸ mem_of_mem_leaders hg
  · intro hf
    cases ho : f.oneof with
    | none => exact ⟨f, mem_leaders_of_none ho hf, by simp [group, ho]⟩
    | some index =>
      obtain ⟨g, hg, hi⟩ := exists_leader ho List.not_mem_nil hf
      exact ⟨g, hg, by simp [group, hi, mem_membersOf, hf, ho]⟩

/-! ### Names -/

/-- **The names of the message have identifiers:** each has one of the kind that the code of the
message makes of it. -/
structure Nameable (m : Message) : Prop where
  path : (messagePath? m).isSome
  places : ∀ f ∈ m.fields, f.oneof = none → (snakeIdentifier? f.name).isSome
  variants : ∀ f ∈ m.fields, f.oneof ≠ none → (camelIdentifier? f.name).isSome
  oneofs : ∀ name ∈ m.oneofs, (oneofPath? m name).isSome ∧ (snakeIdentifier? name).isSome

instance (m : Message) : Decidable (Nameable m) :=
  decidable_of_iff ((messagePath? m).isSome ∧
      (∀ f ∈ m.fields, f.oneof = none → (snakeIdentifier? f.name).isSome) ∧
      (∀ f ∈ m.fields, f.oneof ≠ none → (camelIdentifier? f.name).isSome) ∧
      ∀ name ∈ m.oneofs, (oneofPath? m name).isSome ∧ (snakeIdentifier? name).isSome)
    ⟨fun ⟨path, places, variants, oneofs⟩ => ⟨path, places, variants, oneofs⟩,
      fun h => ⟨h.path, h.places, h.variants, h.oneofs⟩⟩

theorem exists_named_ok {α : Type} {a? : Option α} (h : a?.isSome) : ∃ a, named a? = .ok a := by
  obtain ⟨a, ha⟩ := Option.isSome_iff_exists.mp h
  exact ⟨a, named_ok.mpr ha⟩

/-! ### One message -/

theorem reports_resolveMask (f : Field) :
    Reports (refusal? f) (resolveMask false f) (resolveMask true f) := by
  unfold resolveMask Field.resolve refusal?
  by_cases hr : f.isRedacted
  · refine ⟨some f.mask, by simp [hr, Except.mapError], ?_⟩
    cases hi : f.inapplicable? <;> simp [hr, Except.mapError]
  · have hi : f.inapplicable? = none := by simp [Field.inapplicable?, hr]
    exact ⟨none, by simp [hr, Except.mapError], by simp [hr, hi, Except.mapError]⟩

variable {required : Requirement} {m : Message}

theorem reports_fieldExpr (h : (snakeIdentifier? f.name).isSome) :
    Reports (refusal? f) (fieldExpr required false f) (fieldExpr required true f) := by
  refine (reports_resolveMask f).bind_ok fun mask => ?_
  cases mask with
  | some mask => exact ⟨_, rfl⟩
  | none =>
    refine exists_ok_bind (exists_named_ok h) fun place => ?_
    dsimp only
    split
    · exact ⟨_, rfl⟩
    · exact ⟨_, rfl⟩
    · split
      · exact ⟨_, rfl⟩
      · split_ifs <;> exact ⟨_, rfl⟩

theorem reports_armOf (h : (camelIdentifier? f.name).isSome) :
    Reports (refusal? f) (armOf required false f) (armOf required true f) := by
  refine .ok_bind (exists_named_ok h) fun variant => ?_
  refine (reports_resolveMask f).bind_ok fun mask => ?_
  cases mask <;> exact ⟨_, rfl⟩

/-- What a message needs so that its implementation can be written: identifiers for its names, and
the oneofs that its fields belong to. -/
structure Writable (m : Message) : Prop extends Nameable m where
  declares : ∀ f ∈ m.fields, ∀ index, f.oneof = some index → index < m.oneofs.length

theorem reports_oneofStatement (h : Writable m) {index : Nat} (hi : index < m.oneofs.length) :
    Reports ((membersOf m index).findSome? refusal?) (oneofStatement required false m index)
      (oneofStatement required true m index) := by
  obtain ⟨name, ho⟩ : ∃ name, m.oneofs[index]? = some name := ⟨_, List.getElem?_eq_getElem hi⟩
  obtain ⟨hpath, hplace⟩ := h.oneofs name (List.mem_of_getElem? ho)
  have harms : Reports ((membersOf m index).findSome? refusal?)
      ((membersOf m index).mapM (armOf required false))
      ((membersOf m index).mapM (armOf required true)) :=
    .mapM fun f hf => by
      obtain ⟨hf, hmember⟩ := mem_membersOf.mp hf
      exact reports_armOf (h.variants f hf (by simp [hmember]))
  unfold oneofStatement
  simp only [ho]
  exact .ok_bind (exists_named_ok hpath) fun path => .ok_bind (exists_named_ok hplace) fun place =>
    harms.bind_ok fun arms => ⟨_, rfl⟩

theorem reports_statements (h : Writable m) : ∀ {seen : List Nat} {fs : List Field}, fs ⊆ m.fields →
    Reports (((leaders seen fs).flatMap (group m)).findSome? refusal?)
      (statements required false m seen fs) (statements required true m seen fs)
  | _, [], _ => .of_ok ⟨[], rfl⟩
  | seen, f :: fs, hfs => by
    obtain ⟨hf, hfs⟩ := List.cons_subset.mp hfs
    unfold statements leaders
    cases ho : f.oneof with
    | none =>
      have hgroup : group m f = [f] := by simp [group, ho]
      rw [List.flatMap_cons, hgroup, List.findSome?_append, List.findSome?_singleton]
      refine (reports_fieldExpr (h.places f hf ho)).bind fun e _ => ?_
      exact (reports_statements h hfs).bind_ok fun rest => ⟨_, rfl⟩
    | some index =>
      have hgroup : group m f = membersOf m index := by simp [group, ho]
      dsimp only
      split_ifs
      · exact reports_statements h hfs
      · rw [List.flatMap_cons, hgroup, List.findSome?_append]
        refine (reports_oneofStatement h (h.declares f hf index ho)).bind fun s _ => ?_
        exact (reports_statements h hfs).bind_ok fun rest => ⟨_, rfl⟩

theorem reports_emit (h : Writable m) :
    Reports ((emitted m).findSome? refusal?) (emit required false m) (emit required true m) :=
  .ok_bind (exists_named_ok h.path) fun _ =>
    (reports_statements h (List.Subset.refl _)).bind_ok fun _ => ⟨_, rfl⟩

/-! ### Messages that are read -/

variable {files : List FileDescriptor} {file : FileDescriptor} {requested : List String}
  {o : Options} {index : Index}

/-- The fields of a message belong to oneofs that it has. -/
theorem oneof_lt_of_ofDescriptor {path : List String} {d : MessageDescriptor}
    (h : Message.ofDescriptor index file path d = .ok m) :
    ∀ f ∈ m.fields, ∀ place, f.oneof = some place → place < m.oneofs.length := by
  obtain ⟨fields, -, hstray, rfl⟩ := message_ofDescriptor_eq_ok_iff.mp h
  intro f hf place ho
  rw [Message.ofFields, List.length_map]
  exact strayMember?_eq_none_iff.mp hstray f hf place ho

/-- No field of the message has an override that does not apply to it. -/
def NoMisfit (m : Message) : Prop := ∀ f ∈ m.fields, ∀ v, ¬ f.Misfits v

theorem findSome?_emitted_eq_none_iff : (emitted m).findSome? refusal? = none ↔ NoMisfit m := by
  simp only [List.findSome?_eq_none_iff, mem_emitted, refusal?_eq_none_iff, NoMisfit]

/-- A message with a redacted field needs redaction. -/
theorem noMisfit_of_not_requires (ha : Accepted files) (hp : PlainNames files)
    (hm : m ∈ allMessages files) (hr : ¬ (Requirement.ofFiles files).requires m.id) :
    NoMisfit m := by
  intro f hf v hv
  exact hr ((Requirement.requires_ofFiles_iff ha hp).mpr
    ⟨m, hm, rfl, m, .refl, f, hf, hv.redacted⟩)

theorem writable_of_mem (hread : ∃ ms, fileMessages index file = .ok ms)
    (hm : m ∈ messagesIn index file) (hnames : Nameable m) : Writable m := by
  obtain ⟨a, chain, d, -, -, hd⟩ := (mem_messagesIn hread).mp hm
  exact { hnames with declares := oneof_lt_of_ofDescriptor hd }

/-! ### Runs -/

/-- The failure of strict masks at a file, if there is one. -/
def fileRefusal? (index : Index) (file : FileDescriptor) : Option Failure :=
  (messagesIn index file).findSome? fun m => (emitted m).findSome? refusal?

/-- The options with masks that are strict or not. -/
def Options.withStrict (o : Options) (strict : Bool) : Options := { o with strict }

section Run

variable (ha : Accepted files) (hp : PlainNames files)
  (hnames : ∀ m ∈ allMessages files, Nameable m)

include ha hp hnames

theorem reports_outputOf (hf : file ∈ files) :
    Reports (fileRefusal? (declarations files) file) (outputOf files (o.withStrict false) file)
      (outputOf files (o.withStrict true) file) := by
  have hmem : ∀ m ∈ messagesIn (declarations files) file, m ∈ allMessages files := fun m hm =>
    List.mem_flatMap.mpr ⟨file, hf, hm⟩
  -- messages that are left out have nothing to report
  have hfilter : fileRefusal? (declarations files) file =
      ((messagesIn (declarations files) file).filter
        ((Requirement.ofFiles files).requires ·.id)).findSome?
          fun m => (emitted m).findSome? refusal? := by
    refine (findSome?_filter fun m hm hr => ?_).symm
    exact findSome?_emitted_eq_none_iff.mpr (noMisfit_of_not_requires ha hp (hmem m hm) hr)
  rw [hfilter]
  unfold outputOf outputFrom
  refine Reports.bind_ok (.mapM fun m hm => ?_) fun impls => ⟨_, rfl⟩
  have hm := List.mem_of_mem_filter hm
  exact (reports_emit (writable_of_mem (ha.readable file hf) hm (hnames m (hmem m hm)))).bind_ok
    fun i => ⟨_, rfl⟩

theorem reports_generateFiles (requested : List String) (o : Options) :
    Reports ((files.filter (isRequested requested)).findSome? (fileRefusal? (declarations files)))
      (generateFiles files requested (o.withStrict false))
      (generateFiles files requested (o.withStrict true)) := by
  rw [generateFiles_eq requested ha hp, generateFiles_eq requested ha hp]
  refine Reports.bind_ok (.mapM fun file hf => ?_) fun outputs => ⟨_, rfl⟩
  exact reports_outputOf ha hp hnames (List.mem_of_mem_filter hf)

end Run

/-! ### The first override that does not apply -/

/-- **The first field with an override that does not apply to it:** in the first file that has one,
there in the first message by addresses, and there in the order of emission. -/
inductive FirstMisfit (index : Index) (files : List FileDescriptor) (f : Field) (v : Override) :
    Prop
  | intro {before after : List FileDescriptor} {file : FileDescriptor} {address : List Nat}
      {m : Message} {earlier later : List Field} :
      files = before ++ file :: after →
      (∀ other ∈ before, ∀ a n, DeclaredAt index other a n → NoMisfit n) →
      DeclaredAt index file address m →
      (∀ a n, a < address → DeclaredAt index file a n → NoMisfit n) →
      emitted m = earlier ++ f :: later →
      (∀ g ∈ earlier, ∀ w, ¬ g.Misfits w) →
      f.Misfits v → FirstMisfit index files f v

theorem FirstMisfit.declaredAt (h : FirstMisfit index files f v) :
    ∃ file ∈ files, ∃ a m, DeclaredAt index file a m ∧ f ∈ m.fields ∧ f.Misfits v := by
  obtain ⟨hfiles, -, hd, -, hfields, -, hv⟩ := h
  exact ⟨_, by simp [hfiles], _, _, hd, mem_emitted.mp (by simp [hfields]), hv⟩

theorem fileRefusal?_eq_none_iff (hread : ∃ ms, fileMessages index file = .ok ms) :
    fileRefusal? index file = none ↔ ∀ a m, DeclaredAt index file a m → NoMisfit m := by
  unfold fileRefusal?
  rw [List.findSome?_eq_none_iff]
  simp only [mem_messagesIn hread, findSome?_emitted_eq_none_iff, forall_exists_index]
  exact forall_comm

theorem firstMisfit_of_findSome? {e : Failure}
    (hread : ∀ file ∈ files, ∃ ms, fileMessages index file = .ok ms)
    (h : files.findSome? (fileRefusal? index) = some e) : ∃ f v, FirstMisfit index files f v ∧
      e = .refused (.maskOverride f.fullName v.key f.form.name) := by
  obtain ⟨before, file, after, hfiles, hfile, hbefore⟩ := List.findSome?_eq_some_iff.mp h
  have hread' : ∃ ms, fileMessages index file = .ok ms := hread file (by simp [hfiles])
  obtain ⟨places, hsorted, hmem, hmessages⟩ := exists_places hread'
  rw [fileRefusal?, ← hmessages, List.findSome?_map] at hfile
  obtain ⟨places₁, ⟨address, m⟩, places₂, hplaces, hm, hplaces₁⟩ :=
    List.findSome?_eq_some_iff.mp hfile
  obtain ⟨earlier, f, later, hfields, hf, hearlier⟩ := List.findSome?_eq_some_iff.mp hm
  obtain ⟨v, hv, he⟩ := refusal?_eq_some_iff.mp hf
  refine ⟨f, v, .intro hfiles (fun other ho => ?_) ((hmem address m).mp (by simp [hplaces]))
    (fun a n hlt hn => ?_) hfields (fun g hg => refusal?_eq_none_iff.mp (hearlier g hg)) hv, he⟩
  · exact (fileRefusal?_eq_none_iff (hread other (by simp [hfiles, ho]))).mp (hbefore other ho)
  · -- what has a smaller address stands before the message
    have hn := (hmem a n).mpr hn
    rw [hplaces] at hn hsorted
    have hn : (a, n) ∈ places₁ := by
      rcases List.mem_append.mp hn with hn | hn
      · exact hn
      · have hlater := (List.pairwise_cons.mp (List.pairwise_append.mp hsorted).2.1).1
        rcases List.mem_cons.mp hn with heq | hn
        · cases heq
          exact absurd hlt (lt_irrefl _)
        · exact absurd (hlater _ hn) (lt_asymm hlt)
    exact findSome?_emitted_eq_none_iff.mp (hplaces₁ _ hn)

/-- **Strict masks only add errors.** With plain names of which identifiers can be made, accepted
files have outputs if masks are not strict. If they are, the run fails exactly if a requested file
declares a message with an override that does not apply to its field; it reports the first of these,
and else has the same outputs. -/
theorem generateFiles_strict {s : Schema} (hp : PlainNames files)
    (hs : Schema.ofFiles files requested = .ok s)
    (hnames : ∀ e ∈ s.messages, Nameable e.2) (o : Options) :
    ∃ index outputs, Index.ofFiles files = .ok index ∧
      generateFiles files requested (o.withStrict false) = .ok outputs ∧
      ((∃ e, generateFiles files requested (o.withStrict true) = .error e) ↔
        ∃ file ∈ files, isRequested requested file ∧ ∃ a m, DeclaredAt index file a m ∧
          ∃ f ∈ m.fields, ∃ v, f.Misfits v) ∧
      (∀ e, generateFiles files requested (o.withStrict true) = .error e →
        ∃ f v, FirstMisfit index (files.filter (isRequested requested)) f v ∧
          e = .refused (.maskOverride f.fullName v.key f.form.name)) ∧
      ∀ outputs', generateFiles files requested (o.withStrict true) = .ok outputs' →
        outputs' = outputs := by
  obtain ⟨ha, rfl⟩ := ofFiles_eq_ok_iff_accepted.mp hs
  have hnames' : ∀ m ∈ allMessages files, Nameable m := fun m hm =>
    hnames (m.id, m) ((messages_schemaOf_perm requested ha hp).mem_iff.mpr (List.mem_map_of_mem hm))
  have hread : ∀ file ∈ files.filter (isRequested requested),
      ∃ ms, fileMessages (declarations files) file = .ok ms := fun file hf =>
    ha.readable file (List.mem_of_mem_filter hf)
  obtain ⟨outputs, hlenient, hstrict⟩ := reports_generateFiles ha hp hnames' requested o
  refine ⟨declarations files, outputs, ofFiles_eq_ok_iff.mpr ⟨ha.nodup, rfl⟩, hlenient, ?_⟩
  rw [hstrict]
  cases hfirst : (files.filter (isRequested requested)).findSome?
    (fileRefusal? (declarations files)) with
  | none =>
    refine ⟨⟨nofun, ?_⟩, nofun, fun outputs' h => (Except.ok.inj h).symm⟩
    rintro ⟨file, hf, hr, a, m, hd, f, hfm, v, hv⟩
    have hf : file ∈ files.filter (isRequested requested) := List.mem_filter.mpr ⟨hf, hr⟩
    have hnone := List.findSome?_eq_none_iff.mp hfirst file hf
    exact absurd hv ((fileRefusal?_eq_none_iff (hread file hf)).mp hnone a m hd f hfm v)
  | some e =>
    obtain ⟨f, v, hmisfit, rfl⟩ := firstMisfit_of_findSome? hread hfirst
    refine ⟨⟨fun _ => ?_, fun _ => ⟨_, rfl⟩⟩,
      fun e he => ⟨f, v, hmisfit, (Except.error.inj he).symm⟩, nofun⟩
    obtain ⟨file, hf, a, m, hd, hfm, hv⟩ := hmisfit.declaredAt
    obtain ⟨hf, hr⟩ := List.mem_filter.mp hf
    exact ⟨file, hf, hr, a, m, hd, f, hfm, v, hv⟩

/-- A file with overrides for integers on two texts. The first of them to be declared is the second
to be emitted, behind the members of the oneof. -/
def cards : FileDescriptor :=
  (FileDescriptor.named "cards.proto" "c").withMessage
    (((((MessageDescriptor.named "Card").withOneof "choice").withField
      ((textField "first" 1).inOneof 0)).withField
      ((textField "second" 2).redactedWith (.int 7))).withField
      (((textField "third" 3).redactedWith (.int 7)).inOneof 0))

theorem generateFiles_strict_cards : PlainNames [cards] ∧
    ∃ s, Schema.ofFiles [cards] ["cards.proto"] = .ok s ∧
      (∀ e ∈ s.messages, Nameable e.2) ∧
      ∃ index outputs f v, Index.ofFiles [cards] = .ok index ∧
        generateFiles [cards] ["cards.proto"] (usualOptions.withStrict false) = .ok outputs ∧
        generateFiles [cards] ["cards.proto"] (usualOptions.withStrict true) =
          .error (.refused (.maskOverride "c.Card.third" "int_mask" "string")) ∧
        FirstMisfit index [cards] f v ∧ f.fullName = "c.Card.third" := by
  have hp : PlainNames [cards] := plainNames_of_keys (by decide +kernel)
  have hs : (Schema.ofFiles [cards] ["cards.proto"]).toOption =
      some (schemaOf [cards] ["cards.proto"]) := by decide +kernel
  have hnames : ∀ e ∈ (schemaOf [cards] ["cards.proto"]).messages, Nameable e.2 := by
    decide +kernel
  have herror : generateFiles [cards] ["cards.proto"] (usualOptions.withStrict true) =
      .error (.refused (.maskOverride "c.Card.third" "int_mask" "string")) := by
    decide +kernel
  obtain ⟨index, outputs, hi, hlenient, -, hfirst, -⟩ :=
    generateFiles_strict hp (eq_ok_of_toOption hs) hnames usualOptions
  obtain ⟨f, v, hf, he⟩ := hfirst _ herror
  injection he with he
  injection he with hname
  exact ⟨hp, _, eq_ok_of_toOption hs, hnames, index, outputs, f, v, hi, hlenient, herror, hf,
    hname.symm⟩

/-! ### Names that begin with a dot -/

/-- A file whose package begins with a dot, with an override for integers on a text. -/
def misfitFile : FileDescriptor :=
  fileOfOne "dotted.proto" ".a" ((textField "first" 1).redactedWith (.int 7))

/-- That file, and one whose message has the same full name up to the dot. -/
def misfitFiles : List FileDescriptor := [misfitFile, plainFile]

/-- **Strict masks may miss an override of a message with a dotted name.** The schema has the other
message in its place. -/
theorem exists_misfit_not_refused :
    ∃ s index outputs, Schema.ofFiles misfitFiles ["dotted.proto"] = .ok s ∧
      (∀ e ∈ s.messages, Nameable e.2) ∧
      Index.ofFiles misfitFiles = .ok index ∧
      generateFiles misfitFiles ["dotted.proto"] (usualOptions.withStrict true) = .ok outputs ∧
      ∃ file ∈ misfitFiles, isRequested ["dotted.proto"] file ∧ ∃ a m, DeclaredAt index file a m ∧
        ∃ f ∈ m.fields, ∃ v, f.Misfits v := by
  have hok : (generateFiles misfitFiles ["dotted.proto"]
      (usualOptions.withStrict true)).toOption.isSome := by decide +kernel
  obtain ⟨outputs, hok⟩ := exists_ok_of_isSome hok
  have ha := accepted_of_generateFiles hok
  have hnames : ∀ e ∈ (schemaOf misfitFiles ["dotted.proto"]).messages, Nameable e.2 := by
    decide +kernel
  have hmisfit : ∃ m ∈ messagesIn (declarations misfitFiles) misfitFile,
      ∃ f ∈ m.fields, f.inapplicable? = some (.int 7) := by decide +kernel
  obtain ⟨m, hm, f, hf, hv⟩ := hmisfit
  have hfile : misfitFile ∈ misfitFiles := List.mem_cons_self
  obtain ⟨a, hd⟩ := (mem_messagesIn (ha.readable _ hfile)).mp hm
  exact ⟨_, _, outputs, ofFiles_eq_ok_iff_accepted.mpr ⟨ha, rfl⟩, hnames,
    ofFiles_eq_ok_iff.mpr ⟨ha.nodup, rfl⟩, hok, _, hfile, rfl, a, m, hd, f, hf, _,
    Field.inapplicable?_eq_some_iff.mp hv⟩

end Redaction
