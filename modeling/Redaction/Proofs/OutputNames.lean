import Redaction.Proofs.Contents
import Redaction.Proofs.Scalars
import Redaction.Proofs.StoredOutputs

/-!
# Names of output files

The name of an output is made of the name of its source, of which the ending of schema files is
taken off if it is there. So two sources share an output if one of them is the other one without
this ending (`outputName_eq_iff`), and of two such outputs only one can be stored, as their
contents name their sources (`ofSource_ne`).

* `nodup_outputName_iff`: which sources have outputs with different names.
* `nodup_names_iff`: it is the same for the outputs of a run, and whether they can all be stored.
-/

namespace Redaction

variable {s t source : String} {sources : List String}

/-! ### Names -/

/-- The characters of a name without the ending of schema files, if it has it. -/
def stem (source : String) : List Char :=
  if schemaSuffix.isSuffixOf source.toList then
    source.toList.take (source.toList.length - schemaSuffix.length)
  else source.toList

theorem outputName_eq_stem (source : String) :
    outputName source = String.ofList (stem source ++ outputSuffix) := rfl

theorem stem_of_not_suffix (h : ¬ schemaSuffix <:+ s.toList) : stem s = s.toList := by
  rw [stem, if_neg fun hyes => h (List.isSuffixOf_iff_suffix.mp hyes)]

theorem stem_append_suffix (s : String) : stem (s ++ ".proto") = s.toList := by
  have hsuffix : (s ++ ".proto").toList = s.toList ++ schemaSuffix := String.toList_append
  rw [stem, hsuffix, if_pos (List.isSuffixOf_iff_suffix.mpr (List.suffix_append _ _))]
  simp

theorem exists_eq_append_suffix (h : schemaSuffix <:+ s.toList) : ∃ t, s = t ++ ".proto" := by
  obtain ⟨cs, hcs⟩ := h
  refine ⟨String.ofList cs, ?_⟩
  rw [← String.toList_inj, ← hcs, String.toList_append, String.toList_ofList]
  rfl

/-- **The second name is the first one with the ending of schema files,** which the first one does
not have. -/
def IsTwin (s t : String) : Prop := t = s ++ ".proto" ∧ ¬ schemaSuffix <:+ s.toList

/-- **Two sources share an output** if and only if they are one or they are twins. -/
theorem outputName_eq_iff : outputName s = outputName t ↔ s = t ∨ IsTwin s t ∨ IsTwin t s := by
  have hstem : outputName s = outputName t ↔ stem s = stem t := by
    rw [outputName_eq_stem, outputName_eq_stem, String.ofList_inj, List.append_left_inj]
  rw [hstem]
  constructor
  · intro h
    by_cases hs : schemaSuffix <:+ s.toList <;> by_cases ht : schemaSuffix <:+ t.toList
    · obtain ⟨s, rfl⟩ := exists_eq_append_suffix hs
      obtain ⟨t, rfl⟩ := exists_eq_append_suffix ht
      rw [stem_append_suffix, stem_append_suffix] at h
      exact Or.inl (congrArg (· ++ ".proto") (String.toList_injective h))
    · obtain ⟨s, rfl⟩ := exists_eq_append_suffix hs
      rw [stem_append_suffix, stem_of_not_suffix ht] at h
      exact Or.inr (Or.inr ⟨congrArg (· ++ ".proto") (String.toList_injective h), ht⟩)
    · obtain ⟨t, rfl⟩ := exists_eq_append_suffix ht
      rw [stem_append_suffix, stem_of_not_suffix hs] at h
      exact Or.inr (Or.inl ⟨congrArg (· ++ ".proto") (String.toList_injective h).symm, hs⟩)
    · rw [stem_of_not_suffix hs, stem_of_not_suffix ht] at h
      exact Or.inl (String.toList_injective h)
  · rintro (rfl | ⟨rfl, hs⟩ | ⟨rfl, ht⟩)
    · rfl
    · rw [stem_append_suffix, stem_of_not_suffix hs]
    · rw [stem_append_suffix, stem_of_not_suffix ht]

/-- **Sources have outputs with different names** if none of them is a twin of another. -/
theorem nodup_outputName_iff (h : sources.Nodup) :
    (sources.map outputName).Nodup ↔ ∀ s ∈ sources, ∀ t ∈ sources, ¬ IsTwin s t := by
  constructor
  · intro hnames s hs t ht htwin
    have heq : s = t := List.inj_on_of_nodup_map hnames hs ht
      (outputName_eq_iff.mpr (Or.inr (Or.inl htwin)))
    have hlength := congrArg String.length (heq.trans htwin.1)
    simp at hlength
  · intro hno
    refine List.Nodup.map_on (fun s hs t ht heq => ?_) h
    rcases outputName_eq_iff.mp heq with heq | htwin | htwin
    · exact heq
    · exact absurd htwin (hno s hs t ht)
    · exact absurd htwin (hno t ht s hs)

/-! ### Contents -/

/-- The output is made of a source and of the texts of implementations. -/
def IsOutputOf (source : String) (out : OutputFile) : Prop :=
  ∃ texts, texts ≠ [] ∧ out = ⟨outputName source, fileContent source texts⟩

/-- **Outputs of twins differ in their contents,** as their second lines name the sources. -/
theorem IsTwin.content_ne {f g : OutputFile} (h : IsTwin s t) (hf : IsOutputOf s f)
    (hg : IsOutputOf t g) : f.content ≠ g.content := by
  obtain ⟨texts, -, rfl⟩ := hf
  obtain ⟨texts', -, rfl⟩ := hg
  obtain ⟨rfl, -⟩ := h
  have hheader : ∃ head, ∀ source, header source = head ++ source ++ "\n" := ⟨_, fun _ => rfl⟩
  obtain ⟨head, hheader⟩ := hheader
  intro heq
  have hchars := congrArg String.toList heq
  rw [fileContent, fileContent, hheader, hheader] at hchars
  simp only [String.toList_append, List.append_assoc, List.append_cancel_left_eq] at hchars
  -- Behind the common part one line ends, and the other one goes on with the suffix.
  have hhead : some '\n' = some '.' := congrArg List.head? hchars
  exact absurd hhead (by decide)

/-! ### Runs -/

section Runs

variable {files : List FileDescriptor} {requested : List String} {o : Options}
  {outputs : List OutputFile}

theorem isOutputOf_of_fileOutput {schema : Schema} {required : Requirement} {file : Schema.File}
    {result : Option OutputFile} (h : fileOutput schema required o file = .ok result) :
    ∀ out ∈ result, IsOutputOf file.name out := by
  obtain ⟨texts, -, h⟩ := bind_eq_ok.mp h
  have hresult := pure_eq_ok.mp h
  intro out hout
  split_ifs at hresult with hempty
  · rw [← hresult] at hout
    cases hout
  · rw [← hresult, Option.mem_some] at hout
    exact ⟨texts, by simpa using hempty, hout.symm⟩

theorem exists_sources_filterMap {inputs : List Schema.File} {results : List (Option OutputFile)}
    (h : List.Forall₂ (fun file result => ∀ out ∈ result, IsOutputOf file.name out)
      inputs results) :
    ∃ sources, sources.Sublist (inputs.map (·.name)) ∧
      List.Forall₂ IsOutputOf sources (results.filterMap id) := by
  induction h with
  | nil => exact ⟨[], .slnil, .nil⟩
  | @cons file result _ _ hout _ ih =>
    obtain ⟨sources, hsources, hall⟩ := ih
    cases result with
    | none => exact ⟨sources, hsources.cons _, hall⟩
    | some out => exact ⟨file.name :: sources, hsources.cons_cons _, .cons (hout out rfl) hall⟩

/-- **The outputs of a run are those of some of its files,** in their order. -/
theorem exists_sources (h : generateFiles files requested o = .ok outputs) :
    ∃ sources : List String, sources.Sublist (files.map fun file => file.name.getD "") ∧
      List.Forall₂ IsOutputOf sources outputs := by
  obtain ⟨s, hs, h⟩ := bind_eq_ok.mp h
  obtain ⟨-, rfl⟩ := Schema.ofFiles_eq_ok_iff_accepted.mp (mapError_eq_ok.mp hs)
  obtain ⟨results, hresults, h⟩ := bind_eq_ok.mp h
  obtain ⟨sources, hsources, hall⟩ := exists_sources_filterMap
    ((mapM_eq_ok.mp hresults).imp fun _ _ => isOutputOf_of_fileOutput)
  have hfiles : (Schema.schemaOf files requested).files.map (·.name) =
      files.map fun file => file.name.getD "" := by
    rw [Schema.schemaOf, List.map_map]
    rfl
  rw [← pure_eq_ok.mp h]
  exact ⟨sources, hfiles ▸ hsources.trans (List.filter_sublist.map _), hall⟩

theorem names_eq_of_isOutputOf (h : List.Forall₂ IsOutputOf sources outputs) :
    outputs.map (·.name) = sources.map outputName := by
  induction h with
  | nil => rfl
  | cons hout _ ih =>
    obtain ⟨texts, -, rfl⟩ := hout
    rw [List.map_cons, List.map_cons, ih]

theorem nodup_names_iff (hsources : sources.Nodup) (h : List.Forall₂ IsOutputOf sources outputs) :
    (outputs.map (·.name)).Nodup ↔ ∀ s ∈ sources, ∀ t ∈ sources, ¬ IsTwin s t := by
  rw [names_eq_of_isOutputOf h, nodup_outputName_iff hsources]

open Build Builder

/-- Outputs that are all stored have different names: twins would be at one place. -/
theorem nodup_names_of_holds {fs : FileSystem} {dir : String} (hsources : sources.Nodup)
    (h : List.Forall₂ IsOutputOf sources outputs) (hholds : ∀ f ∈ outputs, Holds fs dir f) :
    (outputs.map (·.name)).Nodup := by
  rw [nodup_names_iff hsources h]
  intro s hs t ht htwin
  obtain ⟨f, hf, hfs⟩ := exists_right_of_mem h hs
  obtain ⟨g, hg, hgt⟩ := exists_right_of_mem h ht
  have hname : f.name = g.name := by
    obtain ⟨-, -, rfl⟩ := hfs
    obtain ⟨-, -, rfl⟩ := hgt
    exact outputName_eq_iff.mpr (Or.inr (Or.inl htwin))
  have hlocation : location dir f = location dir g := by
    rw [location, pathOf, hname]
    rfl
  have hbytes : Wire.textBytes f.content = Wire.textBytes g.content := by
    have hstored := hholds f hf
    rw [Holds, hlocation, hholds g hg] at hstored
    exact (Option.some.inj hstored).symm
  have hcontent : some f.content = some g.content :=
    (Wire.text?_eq_some_iff.mpr hbytes).symm.trans (Wire.text?_eq_some_iff.mpr rfl)
  exact htwin.content_ne hfs hgt (Option.some.inj hcontent)

/-- **Outputs have different names exactly if none of their sources are twins.** They are made of
different files, each with its own name in it; and a run that stores them keeps all of them exactly
if their names are different. -/
theorem names_generateFiles (hnames : (files.map fun file => file.name.getD "").Nodup)
    (h : generateFiles files requested o = .ok outputs) :
    ∃ sources : List String, sources.Sublist (files.map fun file => file.name.getD "") ∧
      List.Forall₂ IsOutputOf sources outputs ∧
      ((outputs.map (·.name)).Nodup ↔ ∀ s ∈ sources, ∀ t ∈ sources, ¬ IsTwin s t) ∧
      ∀ (b : Builder) (givenDir : Option String) (fs : FileSystem), b.outputs = .ok outputs →
        (b.generate givenDir fs).failure = none → (∀ f ∈ outputs, IsNormal f.name) →
        ∃ dir, b.outDir.or givenDir = some dir ∧
          ((∀ f ∈ outputs, Holds (b.generate givenDir fs).fs dir f) ↔
            (outputs.map (·.name)).Nodup) := by
  obtain ⟨sources, hsublist, hall⟩ := exists_sources h
  have hsources : sources.Nodup := hsublist.nodup hnames
  refine ⟨sources, hsublist, hall, nodup_names_iff hsources hall, ?_⟩
  intro b givenDir fs houtputs hok hnormal
  obtain ⟨dir, written, fs', hdir, hstores, hrun⟩ := exists_stores_of_generate houtputs hok
  rw [hrun]
  exact ⟨dir, hdir, nodup_names_of_holds hsources hall,
    fun hnodup => hstores.holds_of_nodup (nodup_place hnormal hnodup)⟩

theorem names_generateFiles_apart : ∃ outputs,
    generateFiles apartBuilder.files ["a.proto", "c.proto"] usualOptions = .ok outputs ∧
      outputs.map (·.name) = ["a.redact.rs", "c.redact.rs"] ∧
      ∃ sources, List.Forall₂ IsOutputOf sources outputs ∧
        ∀ s ∈ sources, ∀ t ∈ sources, ¬ IsTwin s t := by
  obtain ⟨outputs, hok, hnames⟩ := exists_outputs_of_outputNames run_builders.1
  obtain ⟨sources, -, hall, hiff, -⟩ := names_generateFiles (by decide) hok
  exact ⟨outputs, hok, hnames, sources, hall, hiff.mp (hnames ▸ by decide)⟩

/-- **Two files can have outputs of one name.** -/
theorem exists_outputs_of_one_name : ∃ files requested outputs,
    (files.map fun file => file.name.getD "").Nodup ∧
      generateFiles files requested usualOptions = .ok outputs ∧
      outputs.map (·.name) = ["a.redact.rs", "a.redact.rs", "c.redact.rs"] ∧
      ¬ (outputs.map (·.name)).Nodup := by
  obtain ⟨-, -, hnames, -⟩ := run_builders
  obtain ⟨outputs, hok, hnames⟩ := exists_outputs_of_outputNames hnames
  have hdistinct : (twinsBuilder.files.map fun file => file.name.getD "").Nodup := by decide
  refine ⟨twinsBuilder.files, _, outputs, hdistinct, hok, hnames, ?_⟩
  rw [hnames]
  decide

end Runs

end Redaction
