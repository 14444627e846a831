import Redaction.Proofs.FileOrder

/-!
# More files change nothing for those that are there

Files may be loaded together with others, which may refer to them. If they can be loaded without
the others as well, then their references stay among themselves; so each of their messages is read
to the same, needs redaction or not as before, and gets the same implementation.

* `mem_allMessages_of_declared`: what the files declare is a message of theirs, and not of others.
* `reaches_append_iff`: messages that only lead to those of the files add nothing to what these
  reach.
* `outputOf_append`: each of the files has the same output.
* `generateFiles_append`: so whoever asks for outputs of the files gets the same outputs, or the
  same error.
-/

namespace Redaction

open Schema Code

variable {files others : List FileDescriptor} {file : FileDescriptor} {m : Message} {t : TypeName}
  {o : Options}

namespace Schema

/-! ### What is read -/

theorem declarations_append :
    declarations (files ++ others) = declarations files ++ declarations others :=
  List.flatMap_append

theorem within_append : (declarations files).Within (declarations (files ++ others)) := by
  intro name d hd
  rw [declarations_append, List.lookup_append, hd]
  rfl

theorem messagesIn_append (ha : Accepted files) (hf : file ∈ files) :
    messagesIn (declarations (files ++ others)) file = messagesIn (declarations files) file :=
  within_append.messagesIn (ha.readable file hf)

/-- The messages of the files come before those of the others. -/
theorem allMessages_append (ha : Accepted files) : allMessages (files ++ others) =
    allMessages files ++ others.flatMap (messagesIn (declarations (files ++ others))) := by
  unfold allMessages
  rw [List.flatMap_append, List.flatMap_congr fun file hf => messagesIn_append ha hf]

/-! ### Whose messages they are -/

/-- The names that files declare. -/
def declaredNames (files : List FileDescriptor) : List String := (declarations files).map (·.1)

/-- A message has a name that its files declare. -/
theorem text_mem_declaredNames {index : Index} (hp : PlainNames files)
    (hread : ∀ file ∈ files, ∃ ms, fileMessages index file = .ok ms)
    (hm : m ∈ files.flatMap (messagesIn index)) : m.id.text ∈ declaredNames files := by
  obtain ⟨file, hf, hm⟩ := List.mem_flatMap.mp hm
  have hplain : PlainNames [file] := hp.of_subset (by simpa using hf)
  have hname : m.id.text ∈ (Index.ofFile file).map (·.1) :=
    (names_messagesIn_sublist hplain (hread file hf)).subset
      (List.mem_map_of_mem (List.mem_map_of_mem hm))
  unfold declaredNames declarations
  rw [List.map_flatMap]
  exact List.mem_flatMap.mpr ⟨file, hf, hname⟩

/-- **What a field leads to has a name that the files declare.** -/
theorem target_mem_declaredNames (ha : Accepted files) (hm : m ∈ allMessages files) {f : Field}
    (hf : f ∈ m.fields) (ht : f.target? = some t) : t.text ∈ declaredNames files := by
  obtain ⟨file, hfile, hm⟩ := List.mem_flatMap.mp hm
  obtain ⟨a, chain, d, -, -, hd⟩ := (mem_messagesIn (ha.readable file hfile)).mp hm
  obtain ⟨owner, hfields⟩ := forall₂_ofDescriptor hd
  obtain ⟨fd, -, hfd⟩ := exists_left_of_mem hfields hf
  have hsome := isSome_of_target? hfd ht
  unfold Index.message? at hsome
  split at hsome
  · next n hn => exact List.mem_map.mpr ⟨_, Ordered.mem_of_lookup hn, rfl⟩
  · cases hsome

section Append

variable (ha : Accepted files) (ha' : Accepted (files ++ others))
  (hp : PlainNames (files ++ others))

include ha ha' hp

/-- **A message whose name the files declare is one of theirs.** -/
theorem mem_allMessages_of_declared (hm : m ∈ allMessages (files ++ others))
    (hd : m.id.text ∈ declaredNames files) : m ∈ allMessages files := by
  rw [allMessages_append ha, List.mem_append] at hm
  rcases hm with hm | hm
  · exact hm
  · have hread : ∀ file ∈ others,
        ∃ ms, fileMessages (declarations (files ++ others)) file = .ok ms := fun file hf =>
      ha'.readable file (List.mem_append_right _ hf)
    have hother := text_mem_declaredNames (hp.of_subset (List.subset_append_right _ _)) hread hm
    have hn := ha'.nodup
    rw [declarations_append, List.map_append] at hn
    exact absurd hother ((List.nodup_append.mp hn).2.2 _ hd _ · rfl)

/-- **The files reach what they reach without the others.** -/
theorem reaches_append_iff (hd : t.text ∈ declaredNames files) :
    Requirement.Reaches (allMessages (files ++ others)) t ↔
      Requirement.Reaches (allMessages files) t := by
  have hsub : allMessages files ⊆ allMessages (files ++ others) := by
    rw [allMessages_append ha]
    exact List.subset_append_left _ _
  constructor
  · rintro ⟨m, hm, rfl, n, hmn, ho⟩
    have hm := mem_allMessages_of_declared ha ha' hp hm hd
    -- a chain that starts at a message of the files stays among them
    have hchain : Relation.ReflTransGen (Requirement.LeadsTo (allMessages files)) m n ∧
        n ∈ allMessages files := by
      clear ho
      induction hmn with
      | refl => exact ⟨.refl, hm⟩
      | @tail b c _ hbc ih =>
        obtain ⟨hmb, hb⟩ := ih
        obtain ⟨hc, f, hf, ht⟩ := hbc
        have hc := mem_allMessages_of_declared ha ha' hp hc (target_mem_declaredNames ha hb hf ht)
        exact ⟨hmb.tail ⟨hc, f, hf, ht⟩, hc⟩
    exact ⟨m, hm, rfl, n, hchain.1, ho⟩
  · exact .mono hsub

theorem requires_append (hd : t.text ∈ declaredNames files) :
    (Requirement.ofFiles (files ++ others)).requires t =
      (Requirement.ofFiles files).requires t := by
  have hp' : PlainNames files := hp.of_subset (List.subset_append_left _ _)
  rw [Bool.eq_iff_iff, Requirement.requires_ofFiles_iff ha' hp,
    Requirement.requires_ofFiles_iff ha hp', reaches_append_iff ha ha' hp hd]

end Append

end Schema

/-! ### What is put out -/

section Append

variable (ha : Accepted files) (ha' : Accepted (files ++ others))
  (hp : PlainNames (files ++ others))

include ha ha' hp

theorem implText_append (hm : m ∈ allMessages files) :
    implText (.ofFiles (files ++ others)) o m = implText (.ofFiles files) o m := by
  have hagree : ∀ f ∈ m.fields, AgreeOn (.ofFiles (files ++ others)) (.ofFiles files) f :=
    fun f hf t ht => requires_append ha ha' hp (target_mem_declaredNames ha hm hf ht)
  unfold implText
  rw [emit_congr hagree]

/-- **Each of the files has the same output.** -/
theorem outputOf_append (hf : file ∈ files) :
    outputOf (files ++ others) o file = outputOf files o file := by
  have hmessages : ∀ m ∈ messagesIn (declarations files) file, m ∈ allMessages files :=
    fun m hm => List.mem_flatMap.mpr ⟨file, hf, hm⟩
  have hnames : ∀ m ∈ messagesIn (declarations files) file, m.id.text ∈ declaredNames files :=
    fun m hm => text_mem_declaredNames (hp.of_subset (List.subset_append_left _ _)) ha.readable
      (hmessages m hm)
  unfold outputOf outputFrom
  rw [messagesIn_append ha hf,
    List.filter_congr fun m hm => requires_append ha ha' hp (hnames m hm),
    mapM_congr fun m hm => implText_append ha ha' hp (hmessages m (List.mem_of_mem_filter hm))]

end Append

/-! ### Runs -/

variable {larger : List FileDescriptor} {requested : List String}

/-- A run depends on the requested files and their outputs only. -/
theorem generateFiles_congr (ha : Accepted files) (hp : PlainNames files) (ha' : Accepted larger)
    (hp' : PlainNames larger)
    (hfilter : larger.filter (isRequested requested) = files.filter (isRequested requested))
    (hout : ∀ file ∈ files, outputOf larger o file = outputOf files o file) :
    generateFiles larger requested o = generateFiles files requested o := by
  rw [generateFiles_eq requested ha' hp', generateFiles_eq requested ha hp, hfilter,
    mapM_congr fun file hf => hout file (List.mem_of_mem_filter hf)]

/-- Files with other names than those requested are not requested. -/
theorem filter_isRequested_eq_nil
    (hnames : ∀ file ∈ files, ∀ file' ∈ others, file.name.getD "" ≠ file'.name.getD "")
    (hrequested : ∀ name ∈ requested, ∃ file ∈ files, file.name.getD "" = name) :
    others.filter (isRequested requested) = [] := by
  rw [List.filter_eq_nil_iff]
  intro file' hf' hr
  unfold isRequested at hr
  rw [List.contains_iff_mem] at hr
  obtain ⟨file, hf, hname⟩ := hrequested _ hr
  exact hnames file hf file' hf' hname

/-- **More files change nothing for those that are there.** Files with plain names are loaded alone
and, before or behind others, in a larger list. Outputs that are requested of them are the same
there, or fail the same, and their messages need redaction there exactly if they need it alone. -/
theorem generateFiles_append {s : Schema}
    (hnames : ∀ file ∈ files, ∀ file' ∈ others, file.name.getD "" ≠ file'.name.getD "")
    (hp : PlainNames (files ++ others))
    (hs : Schema.ofFiles files requested = .ok s)
    (hs' : ∃ s', Schema.ofFiles (files ++ others) requested = .ok s')
    (hrequested : ∀ name ∈ requested, ∃ file ∈ files, file.name.getD "" = name) (o : Options) :
    ∀ larger ∈ [files ++ others, others ++ files],
      generateFiles larger requested o = generateFiles files requested o ∧
      ∃ s', Schema.ofFiles larger requested = .ok s' ∧ ∀ e ∈ s.messages,
        (Requirement.ofSchema s').requires e.1 = (Requirement.ofSchema s).requires e.1 := by
  obtain ⟨ha, rfl⟩ := ofFiles_eq_ok_iff_accepted.mp hs
  obtain ⟨s', hs'⟩ := hs'
  obtain ⟨ha', -⟩ := ofFiles_eq_ok_iff_accepted.mp hs'
  have hp' : PlainNames files := hp.of_subset (List.subset_append_left _ _)
  have hnil := filter_isRequested_eq_nil hnames hrequested
  have hrequires : ∀ e ∈ (schemaOf files requested).messages,
      (Requirement.ofFiles (files ++ others)).requires e.1 =
        (Requirement.ofFiles files).requires e.1 := by
    intro e he
    have he := (messages_schemaOf_perm requested ha hp').mem_iff.mp he
    obtain ⟨m, hm, rfl⟩ := List.mem_map.mp he
    exact requires_append ha ha' hp (text_mem_declaredNames hp' ha.readable hm)
  have hout : ∀ file ∈ files, outputOf (files ++ others) o file = outputOf files o file :=
    fun file hf => outputOf_append ha ha' hp hf
  rw [List.forall_mem_cons, List.forall_mem_singleton]
  constructor
  · refine ⟨generateFiles_congr ha hp' ha' hp ?_ hout, _,
      ofFiles_eq_ok_iff_accepted.mpr ⟨ha', rfl⟩, hrequires⟩
    rw [List.filter_append, hnil, List.append_nil]
  · -- the order of the files does not matter, so this follows from what has been shown
    have hperm : (files ++ others).Perm (others ++ files) := List.perm_append_comm
    have ha'' := ha'.of_perm hperm
    have hp'' : PlainNames (others ++ files) := hp.of_subset hperm.symm.subset
    refine ⟨generateFiles_congr ha hp' ha'' hp'' ?_ fun file hf => ?_, _,
      ofFiles_eq_ok_iff_accepted.mpr ⟨ha'', rfl⟩, ?_⟩
    · rw [List.filter_append, hnil, List.nil_append]
    · rw [outputOf_of_perm hperm ha' hp (List.mem_append_left _ hf), hout file hf]
    · intro e he
      rw [Requirement.ofSchema_schemaOf, ← Requirement.ofFiles_eq_of_perm hperm ha' hp,
        hrequires e he, Requirement.ofSchema_schemaOf]

theorem generateFiles_append_letters :
    (∀ file ∈ [people], ∀ file' ∈ [letters], file.name.getD "" ≠ file'.name.getD "") ∧
    PlainNames ([people] ++ [letters]) ∧
    (∀ name ∈ ["people.proto"], ∃ file ∈ [people], file.name.getD "" = name) ∧
    ∃ outputs, generateFiles [people] ["people.proto"] usualOptions = .ok outputs ∧
      outputs.map (·.name) = ["people.redact.rs"] ∧
      generateFiles [people, letters] ["people.proto"] usualOptions = .ok outputs ∧
      generateFiles [letters, people] ["people.proto"] usualOptions = .ok outputs := by
  have hdiffer : ∀ file ∈ [people], ∀ file' ∈ [letters],
      file.name.getD "" ≠ file'.name.getD "" := by
    simp [people, letters, FileDescriptor.named, FileDescriptor.withMessage]
  have hp : PlainNames ([people] ++ [letters]) := plainNames_of_keys (by decide +kernel)
  have hrequested : ∀ name ∈ ["people.proto"], ∃ file ∈ [people], file.name.getD "" = name := by
    simp [people, FileDescriptor.named, FileDescriptor.withMessage]
  have hs : (Schema.ofFiles [people] ["people.proto"]).toOption.isSome := by decide +kernel
  have hs' : (Schema.ofFiles ([people] ++ [letters]) ["people.proto"]).toOption.isSome := by
    decide +kernel
  have hnames : (generateFiles [people] ["people.proto"] usualOptions).toOption.map
      (·.map (·.name)) = some ["people.redact.rs"] := by decide +kernel
  obtain ⟨s, hs⟩ := exists_ok_of_isSome hs
  obtain ⟨outputs, hok, hnames⟩ := Option.map_eq_some_iff.mp hnames
  have hsame := generateFiles_append hdiffer hp hs (exists_ok_of_isSome hs') hrequested usualOptions
  rw [List.forall_mem_cons, List.forall_mem_singleton, eq_ok_of_toOption hok] at hsame
  exact ⟨hdiffer, hp, hrequested, outputs, eq_ok_of_toOption hok, hnames, hsame.1.1, hsame.2.1⟩

end Redaction
