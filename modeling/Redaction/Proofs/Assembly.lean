import Redaction.Assembly
import Redaction.Proofs.DeclarationOrder

/-!
# What is put into output files

Each requested file gets the implementations of those of its own messages that need redaction, in
the order in which it declares them. Which other files are requested, or have output at all, has no
part in it.

* `generateFiles_eq`: the outputs of accepted files with plain names, file by file (`outputOf`).
* `Produces`: what the output of a file is, said of addresses in the file.
* `generateFiles_produces`: every output is what its file produces.
* `exists_not_produced`: names that begin with a dot break this. Two messages whose names differ in
  that dot alone have one name in the schema, and the last of them stands in the output of both.
-/

namespace Redaction

open Code Schema

variable {files : List FileDescriptor} {requested : List String} {o : Options}
  {outputs : List OutputFile} {file : FileDescriptor}

/-! ### The output for one file -/

/-- The output for a file of which the given messages have been read. -/
def outputFrom (required : Requirement) (o : Options) (file : FileDescriptor)
    (messages : List Message) : Except Failure (Option OutputFile) := do
  let impls ← (messages.filter (required.requires ·.id)).mapM (implText required o)
  return if impls.isEmpty then none
    else some ⟨outputName (file.name.getD ""), fileContent (file.name.getD "") impls⟩

/-- **The output for one of some files.** -/
def outputOf (files : List FileDescriptor) (o : Options) (file : FileDescriptor) :
    Except Failure (Option OutputFile) :=
  outputFrom (.ofFiles files) o file (messagesIn (declarations files) file)

/-- A file implements those of its own messages that need redaction. -/
theorem implemented_fileOf (required : Requirement) (ha : Accepted files) (hp : PlainNames files)
    (hf : file ∈ files) :
    implemented (schemaOf files requested) required (fileOf (declarations files) requested file) =
      (messagesIn (declarations files) file).filter (required.requires ·.id) := by
  unfold implemented fileOf
  rw [List.filter_map, List.filterMap_map]
  have hread : ∀ m ∈ (messagesIn (declarations files) file).filter (required.requires ·.id),
      (schemaOf files requested).message? m.id = some m := fun m hm =>
    message?_schemaOf ha hp (List.mem_flatMap.mpr ⟨file, hf, List.mem_of_mem_filter hm⟩)
  exact (List.filterMap_congr hread).trans List.filterMap_some

theorem fileOutput_fileOf (ha : Accepted files) (hp : PlainNames files) (hf : file ∈ files) :
    fileOutput (schemaOf files requested) (.ofFiles files) o
      (fileOf (declarations files) requested file) = outputOf files o file := by
  unfold fileOutput
  rw [implemented_fileOf _ ha hp hf]
  rfl

/-! ### The outputs of a run -/

theorem accepted_of_generateFiles (h : generateFiles files requested o = .ok outputs) :
    Accepted files := by
  obtain ⟨s, hs, -⟩ := bind_eq_ok.mp h
  exact (ofFiles_eq_ok_iff_accepted.mp (mapError_eq_ok.mp hs)).1

/-- **The outputs of accepted files** are those of the requested ones, in the order of the files. -/
theorem generateFiles_eq (requested : List String) (ha : Accepted files) (hp : PlainNames files) :
    generateFiles files requested o = (do
      let outputs ← (files.filter (isRequested requested)).mapM (outputOf files o)
      return outputs.filterMap id) := by
  have hs : Schema.ofFiles files requested = .ok (schemaOf files requested) :=
    ofFiles_eq_ok_iff_accepted.mpr ⟨ha, rfl⟩
  have hrequested : (schemaOf files requested).files.filter (·.generate) =
      (files.filter (isRequested requested)).map (fileOf (declarations files) requested) :=
    List.filter_map
  have houtputs : (files.filter (isRequested requested)).mapM
      (fileOutput (schemaOf files requested) (.ofFiles files) o ∘
        fileOf (declarations files) requested) =
      (files.filter (isRequested requested)).mapM (outputOf files o) :=
    mapM_congr fun file hf => fileOutput_fileOf ha hp (List.mem_of_mem_filter hf)
  unfold generateFiles
  rw [hs]
  show schemaOutputs (schemaOf files requested) o = _
  rw [schemaOutputs, hrequested, List.mapM_map, Requirement.ofSchema_schemaOf, houtputs]

/-- What a file adds to the outputs, if anything. -/
def produced (files : List FileDescriptor) (o : Options) (file : FileDescriptor) :
    Option OutputFile := (outputOf files o file).toOption.getD none

/-- **A run succeeds if every requested file has its output,** and puts these together. -/
theorem generateFiles_eq_ok_iff (ha : Accepted files) (hp : PlainNames files) :
    generateFiles files requested o = .ok outputs ↔
      (∀ file ∈ files.filter (isRequested requested), ∃ p, outputOf files o file = .ok p) ∧
        outputs = (files.filter (isRequested requested)).filterMap (produced files o) := by
  rw [generateFiles_eq requested ha hp, bind_eq_ok]
  simp only [mapM_eq_ok_iff_map none, pure_eq_ok]
  constructor
  · rintro ⟨_, ⟨hall, rfl⟩, rfl⟩
    exact ⟨hall, List.filterMap_map⟩
  · rintro ⟨hall, rfl⟩
    exact ⟨_, ⟨hall, rfl⟩, List.filterMap_map⟩

/-! ### What a file produces -/

/-- **The output that a file produces.** None if it declares no message that needs redaction;
otherwise the head and the implementations of all such messages, each once, by increasing addresses.
-/
inductive Produces (index : Index) (required : Requirement) (o : Options) (file : FileDescriptor) :
    Option OutputFile → Prop
  | nothing : (∀ a m, DeclaredAt index file a m → ¬ required.requires m.id) →
      Produces index required o file none
  | output {places : List (List Nat × Message)} {texts : List String} : places ≠ [] →
      places.Pairwise (fun p q => p.1 < q.1) →
      (∀ a m, (a, m) ∈ places ↔ DeclaredAt index file a m ∧ required.requires m.id) →
      List.Forall₂ (fun p text => implText required o p.2 = .ok text) places texts →
      Produces index required o file
        (some ⟨outputName (file.name.getD ""), fileContent (file.name.getD "") texts⟩)

/-- **A file produces one thing,** what is put together from its messages. -/
theorem produces_iff {index : Index} {required : Requirement} {p : Option OutputFile}
    (h : ∃ ms, fileMessages index file = .ok ms) :
    Produces index required o file p ↔
      outputFrom required o file (messagesIn index file) = .ok p := by
  obtain ⟨places, hsorted, hmem, hmessages⟩ := exists_places h
  let own := places.filter (required.requires ·.2.id)
  have hown : ∀ a m, (a, m) ∈ own ↔ DeclaredAt index file a m ∧ required.requires m.id := by
    intro a m
    rw [List.mem_filter, hmem]
  have hsorted : own.Pairwise fun p q => p.1 < q.1 := hsorted.filter _
  have hfrom : outputFrom required o file (messagesIn index file) = .ok p ↔ ∃ texts,
      List.Forall₂ (fun p text => implText required o p.2 = .ok text) own texts ∧
      (if texts.isEmpty then none
        else some ⟨outputName (file.name.getD ""), fileContent (file.name.getD "") texts⟩) = p := by
    rw [outputFrom, ← hmessages, List.filter_map, List.mapM_map, bind_eq_ok]
    simp only [mapM_eq_ok, pure_eq_ok]
    rfl
  rw [hfrom]
  clear_value own
  constructor
  · rintro (hnone | ⟨hne, hsorted', hmem', htexts⟩)
    · have : own = [] := List.eq_nil_iff_forall_not_mem.mpr fun ⟨a, m⟩ hm =>
        hnone a m ((hown a m).mp hm).1 ((hown a m).mp hm).2
      exact ⟨[], this ▸ .nil, rfl⟩
    · -- both lists have the same places by increasing addresses, so they are the same
      have : own = _ := hsorted.eq_of_mem_iff hsorted' fun ⟨a, m⟩ =>
        (hown a m).trans (hmem' a m).symm
      subst this
      cases htexts with
      | nil => exact absurd rfl hne
      | cons ht hts => exact ⟨_, .cons ht hts, rfl⟩
  · rintro ⟨texts, htexts, rfl⟩
    cases htexts with
    | nil => exact .nothing fun a m hd hm => List.not_mem_nil ((hown a m).mpr ⟨hd, hm⟩)
    | cons ht hts => exact .output (List.cons_ne_nil _ _) hsorted hown (.cons ht hts)

/-- **A message that needs redaction is declared in one place** of one file. -/
theorem existsUnique_declaredAt (ha : Accepted files) (hp : PlainNames files) {t : TypeName}
    (ht : (Requirement.ofFiles files).requires t) :
    ∃! p : FileDescriptor × List Nat × Message,
      p.1 ∈ files ∧ DeclaredAt (declarations files) p.1 p.2.1 p.2.2 ∧ p.2.2.id = t := by
  obtain ⟨m, hm, rfl, -⟩ := (Requirement.requires_ofFiles_iff ha hp).mp ht
  obtain ⟨file, hf, hm⟩ := List.mem_flatMap.mp hm
  have hfile := ha.readable file hf
  obtain ⟨a, hd⟩ := (mem_messagesIn hfile).mp hm
  refine ⟨(file, a, m), ⟨hf, hd, rfl⟩, ?_⟩
  rintro ⟨file', a', n⟩ ⟨hf', hd', hid⟩
  dsimp only at hf' hd' hid
  -- two declarations of one name are in one file, since names are distinct, and there at one place
  have hids := nodup_ids ha hp
  rw [allMessages, List.map_flatMap] at hids
  have hn : m.id ∈ (messagesIn (declarations files) file').map (·.id) :=
    hid ▸ List.mem_map_of_mem ((mem_messagesIn (ha.readable file' hf')).mpr ⟨a', hd'⟩)
  obtain rfl := eq_of_mem_flatMap hids hf hf' (List.mem_map_of_mem hm) hn
  obtain ⟨places, -, hmem, hmessages⟩ := exists_places hfile
  have hplaces := (List.nodup_flatMap.mp hids).1 file hf
  rw [← hmessages, List.map_map] at hplaces
  have := List.inj_on_of_nodup_map hplaces ((hmem a' n).mpr hd') ((hmem a m).mpr hd) hid
  rw [this]

/-- **What is put into output files,** if names are plain. Every file produces something or nothing,
and whatever is requested, the outputs are what the requested files produce, in the order of the
files. Each message that needs redaction is declared in one place, so its implementation is in the
output of one file and there once. -/
theorem generateFiles_produces (hp : PlainNames files) (o : Options) :
    ∃ produced : FileDescriptor → Option OutputFile, ∀ requested outputs,
      generateFiles files requested o = .ok outputs →
      ∃ index s, Index.ofFiles files = .ok index ∧ Schema.ofFiles files requested = .ok s ∧
        outputs = (files.filter (isRequested requested)).filterMap produced ∧
        (∀ file ∈ files, isRequested requested file →
          Produces index (.ofSchema s) o file (produced file)) ∧
        ∀ t, (Requirement.ofSchema s).requires t →
          ∃! p : FileDescriptor × List Nat × Message,
            p.1 ∈ files ∧ DeclaredAt index p.1 p.2.1 p.2.2 ∧ p.2.2.id = t := by
  refine ⟨produced files o, fun requested outputs h => ?_⟩
  have ha := accepted_of_generateFiles h
  obtain ⟨hall, houtputs⟩ := (generateFiles_eq_ok_iff ha hp).mp h
  refine ⟨_, _, ofFiles_eq_ok_iff.mpr ⟨ha.nodup, rfl⟩, ofFiles_eq_ok_iff_accepted.mpr ⟨ha, rfl⟩,
    houtputs, fun file hf hr => ?_, fun t ht => existsUnique_declaredAt ha hp ht⟩
  obtain ⟨p, hfile⟩ := hall file (List.mem_filter.mpr ⟨hf, hr⟩)
  have hproduced : produced files o file = p := by
    rw [produced, hfile]
    rfl
  rw [hproduced]
  exact (produces_iff (ha.readable file hf)).mpr hfile

/-- The options of a run that sets none. -/
def usualOptions : Options := ⟨Environment.usualRuntime, none, false⟩

/-- A field of type text. -/
def textField (name : String) (number : Int32) : FieldDescriptor :=
  .ofType name number (.scalar .string)

/-- A file with a message that needs redaction and one inside it that does not. -/
def people : FileDescriptor :=
  (FileDescriptor.named "people.proto" "a").withMessage
    (((MessageDescriptor.named "Person").withField (textField "name" 1).redacted).withNested
      ((MessageDescriptor.named "Note").withField (textField "text" 1)))

/-- A file whose message needs redaction because of that file. -/
def letters : FileDescriptor :=
  (FileDescriptor.named "letters.proto" "b").withMessage
    ((MessageDescriptor.named "Letter").withField (.message "sender" 1 ".a.Person"))

theorem generateFiles_produces_letters : PlainNames [people, letters] ∧
    ∃ outputs, generateFiles [people, letters] ["letters.proto"] usualOptions = .ok outputs ∧
      outputs.map (·.name) = ["letters.redact.rs"] ∧
      ∃ index s p, Index.ofFiles [people, letters] = .ok index ∧
        Schema.ofFiles [people, letters] ["letters.proto"] = .ok s ∧
        Produces index (.ofSchema s) usualOptions letters (some p) ∧ outputs = [p] := by
  have hp : PlainNames [people, letters] := plainNames_of_keys (by decide +kernel)
  have hnames : (generateFiles [people, letters] ["letters.proto"] usualOptions).toOption.map
      (·.map (·.name)) = some ["letters.redact.rs"] := by decide +kernel
  obtain ⟨outputs, hok, hnames⟩ := Option.map_eq_some_iff.mp hnames
  replace hok := eq_ok_of_toOption hok
  obtain ⟨produced, hproduced⟩ := generateFiles_produces hp usualOptions
  obtain ⟨index, s, hi, hs, houtputs, hproduces, -⟩ := hproduced _ _ hok
  -- one file is requested, so the outputs are what it produces
  rw [show [people, letters].filter (isRequested ["letters.proto"]) = [letters] from rfl,
    List.filterMap_eq_flatMap_toList, List.flatMap_singleton] at houtputs
  have hletters := hproduces letters (List.mem_cons_of_mem _ List.mem_cons_self) rfl
  cases hp' : produced letters with
  | none =>
    rw [houtputs, hp'] at hnames
    cases hnames
  | some p =>
    rw [hp'] at houtputs hletters
    exact ⟨hp, outputs, hok, hnames, index, s, p, hi, hs, hletters, houtputs⟩

/-! ### Names that begin with a dot -/

/-- A file with a message of one field. -/
def fileOfOne (name package : String) (f : FieldDescriptor) : FileDescriptor :=
  (FileDescriptor.named name package).withMessage ((MessageDescriptor.named "M").withField f)

/-- A file whose package begins with a dot. -/
def dottedFile : FileDescriptor := fileOfOne "dotted.proto" ".a" (textField "first" 1).redacted

/-- A file whose package is the same without the dot. -/
def plainFile : FileDescriptor := fileOfOne "plain.proto" "a" (textField "second" 1).redacted

/-- Both of them: their messages have the same full name up to the dot. -/
def dottedFiles : List FileDescriptor := [dottedFile, plainFile]

/-- **A file with a dotted name may not have the output that it produces.** The schema has one
message for both names, the last, and it is implemented in the place of the message that the file
declares. -/
theorem exists_not_produced :
    ∃ outputs index s, generateFiles dottedFiles ["dotted.proto"] usualOptions = .ok outputs ∧
      Index.ofFiles dottedFiles = .ok index ∧
      Schema.ofFiles dottedFiles ["dotted.proto"] = .ok s ∧
      ¬ ∃ produced : FileDescriptor → Option OutputFile,
        outputs = (dottedFiles.filter (isRequested ["dotted.proto"])).filterMap produced ∧
        ∀ file ∈ dottedFiles, isRequested ["dotted.proto"] file →
          Produces index (.ofSchema s) usualOptions file (produced file) := by
  have hok : (generateFiles dottedFiles ["dotted.proto"] usualOptions).toOption.isSome := by
    decide +kernel
  obtain ⟨outputs, hok⟩ := exists_ok_of_isSome hok
  have ha := accepted_of_generateFiles hok
  refine ⟨outputs, _, _, hok, ofFiles_eq_ok_iff.mpr ⟨ha.nodup, rfl⟩,
    ofFiles_eq_ok_iff_accepted.mpr ⟨ha, rfl⟩, ?_⟩
  rintro ⟨produced, houtputs, hproduces⟩
  have hfirst : dottedFile ∈ dottedFiles := List.mem_cons_self
  have hfrom := (produces_iff (ha.readable _ hfirst)).mp (hproduces _ hfirst rfl)
  have hne : (outputFrom (.ofFiles dottedFiles) usualOptions dottedFile
        (messagesIn (declarations dottedFiles) dottedFile)).toOption.map (·.toList) ≠
      (generateFiles dottedFiles ["dotted.proto"] usualOptions).toOption := by
    decide +kernel
  rw [show dottedFiles.filter (isRequested ["dotted.proto"]) = [dottedFile] from rfl,
    List.filterMap_eq_flatMap_toList, List.flatMap_singleton] at houtputs
  rw [hok, houtputs] at hne
  exact hne (congrArg (·.toOption.map (·.toList)) hfrom)

end Redaction
