import Redaction.Proofs.Assembly

/-!
# The order of files does not matter

Loading stops at the first name that is declared twice and reads one file after the other, and the
requirement comes from passes over all messages. None of this depends on the order of the files: the
index is read by names, which are distinct, and the messages stand in a table that is ordered by
name.

* `Accepted.of_perm`: files are accepted in every order or in none.
* `ofFiles_eq_of_perm`: the same messages need redaction.
* `outputOf_of_perm`: each file has the same output.
* `generateFiles_of_perm`: so the outputs are the same, in the order of the files.
-/

namespace Redaction

open Schema

variable {files files' : List FileDescriptor} {file : FileDescriptor} {o : Options}

namespace Schema

/-! ### Acceptance -/

theorem declarations_perm (h : files.Perm files') :
    (declarations files).Perm (declarations files') := h.flatMap_right _

theorem within_of_perm (h : files.Perm files') (hn : ((declarations files).map (·.1)).Nodup) :
    (declarations files).Within (declarations files') := by
  intro name d hd
  have hperm := declarations_perm h
  have hn' : ((declarations files').map (·.1)).Nodup := (hperm.map _).nodup_iff.mp hn
  have hmem := hperm.mem_iff.mp ((Ordered.lookup_eq_some_iff hn).mp hd)
  exact (Ordered.lookup_eq_some_iff hn').mpr hmem

/-- **Files that are accepted in one order are accepted in any other.** -/
theorem Accepted.of_perm (h : files.Perm files') (ha : Accepted files) : Accepted files' where
  nodup := ((declarations_perm h).map _).nodup_iff.mp ha.nodup
  readable file hf := by
    obtain ⟨ms, hms⟩ := ha.readable file (h.mem_iff.mpr hf)
    exact ⟨ms, (within_of_perm h ha.nodup).fileMessages _ hms⟩

/-! ### Messages -/

theorem messagesIn_of_perm (h : files.Perm files') (ha : Accepted files) (hf : file ∈ files) :
    messagesIn (declarations files') file = messagesIn (declarations files) file :=
  (within_of_perm h ha.nodup).messagesIn (ha.readable file hf)

theorem allMessages_perm (h : files.Perm files') (ha : Accepted files) :
    (allMessages files).Perm (allMessages files') := by
  have hsame : ∀ file ∈ files', messagesIn (declarations files') file =
      messagesIn (declarations files) file := fun file hf =>
    messagesIn_of_perm h ha (h.mem_iff.mpr hf)
  unfold allMessages
  rw [List.flatMap_congr hsame]
  exact h.flatMap_right _

/-- The table of the messages is the same. -/
theorem messages_schemaOf_of_perm {requested requested' : List String} (h : files.Perm files')
    (ha : Accepted files) (hp : PlainNames files) :
    (schemaOf files requested).messages = (schemaOf files' requested').messages := by
  refine Ordered.ofList_eq_of_perm ?_ ((allMessages_perm h ha).map _)
  rw [List.map_map]
  exact nodup_ids ha hp

end Schema

/-! ### Outputs -/

/-- **The same messages need redaction.** -/
theorem Requirement.ofFiles_eq_of_perm (h : files.Perm files') (ha : Accepted files)
    (hp : PlainNames files) : Requirement.ofFiles files = Requirement.ofFiles files' := by
  have hmessages : (schemaOf files []).messages = (schemaOf files' []).messages :=
    messages_schemaOf_of_perm h ha hp
  unfold Requirement.ofFiles Requirement.ofSchema Requirement.run Requirement.messagesOf
  rw [hmessages]

/-- **Each file has the same output.** -/
theorem outputOf_of_perm (h : files.Perm files') (ha : Accepted files) (hp : PlainNames files)
    (hf : file ∈ files) : outputOf files' o file = outputOf files o file := by
  unfold outputOf
  rw [messagesIn_of_perm h ha hf, Requirement.ofFiles_eq_of_perm h ha hp]

/-- **The order of files does not matter,** if names are plain: not for whether they are accepted,
not for what needs redaction, and for the outputs only so far as these come in the order of the
files. -/
theorem generateFiles_of_perm (h : files.Perm files') (hp : PlainNames files) :
    (∀ requested, (∃ s, Schema.ofFiles files requested = .ok s) ↔
      ∃ s, Schema.ofFiles files' requested = .ok s) ∧
    (∀ requested s s', Schema.ofFiles files requested = .ok s →
      Schema.ofFiles files' requested = .ok s' →
      Requirement.ofSchema s = Requirement.ofSchema s') ∧
    ∀ o, ∃ produced : FileDescriptor → Option OutputFile, ∀ requested outputs,
      generateFiles files requested o = .ok outputs →
        outputs = (files.filter (isRequested requested)).filterMap produced ∧
        generateFiles files' requested o =
          .ok ((files'.filter (isRequested requested)).filterMap produced) := by
  refine ⟨fun requested => ?_, fun requested s s' hs hs' => ?_, fun o => ?_⟩
  · simp only [ofFiles_eq_ok_iff_accepted, exists_and_left, exists_eq, and_true]
    exact ⟨.of_perm h, .of_perm h.symm⟩
  · obtain ⟨ha, rfl⟩ := ofFiles_eq_ok_iff_accepted.mp hs
    obtain ⟨-, rfl⟩ := ofFiles_eq_ok_iff_accepted.mp hs'
    exact Requirement.ofFiles_eq_of_perm h ha hp
  · refine ⟨produced files o, fun requested outputs hok => ?_⟩
    have ha := accepted_of_generateFiles hok
    obtain ⟨hall, houtputs⟩ := (generateFiles_eq_ok_iff ha hp).mp hok
    refine ⟨houtputs, (generateFiles_eq_ok_iff (ha.of_perm h) (hp.of_subset h.symm.subset)).mpr ?_⟩
    have hsame : ∀ file ∈ files'.filter (isRequested requested),
        outputOf files' o file = outputOf files o file := fun file hf =>
      outputOf_of_perm h ha hp (h.mem_iff.mpr (List.mem_of_mem_filter hf))
    constructor
    · intro file hf
      rw [hsame file hf]
      exact hall file (((h.filter _).mem_iff).mpr hf)
    · refine List.filterMap_congr fun file hf => ?_
      rw [produced, produced, hsame file hf]

theorem generateFiles_of_perm_letters : [people, letters].Perm [letters, people] ∧
    PlainNames [people, letters] ∧ ∃ p q,
      generateFiles [people, letters] ["letters.proto", "people.proto"] usualOptions = .ok [p, q] ∧
      generateFiles [letters, people] ["letters.proto", "people.proto"] usualOptions = .ok [q, p] ∧
      p.name = "people.redact.rs" ∧ q.name = "letters.redact.rs" := by
  have hperm : [people, letters].Perm [letters, people] := .swap _ _ _
  have hp : PlainNames [people, letters] := plainNames_of_keys (by decide +kernel)
  have hnames : (generateFiles [people, letters] ["letters.proto", "people.proto"]
      usualOptions).toOption.map (·.map (·.name)) =
        some ["people.redact.rs", "letters.redact.rs"] := by decide +kernel
  obtain ⟨outputs, hok, hnames⟩ := Option.map_eq_some_iff.mp hnames
  replace hok := eq_ok_of_toOption hok
  obtain ⟨produced, hproduced⟩ := (generateFiles_of_perm hperm hp).2.2 usualOptions
  obtain ⟨houtputs, hok'⟩ := hproduced _ _ hok
  rw [show [people, letters].filter (isRequested ["letters.proto", "people.proto"]) =
    [people, letters] from rfl] at houtputs
  rw [show [letters, people].filter (isRequested ["letters.proto", "people.proto"]) =
    [letters, people] from rfl] at hok'
  -- two outputs come from two files, so each of them produces one
  cases hpeople : produced people <;> cases hletters : produced letters <;>
    simp only [List.filterMap_cons, List.filterMap_nil, hpeople, hletters] at houtputs hok' <;>
    subst houtputs <;> simp at hnames
  next p q => exact ⟨hperm, hp, p, q, hok, hok', hnames⟩

end Redaction
