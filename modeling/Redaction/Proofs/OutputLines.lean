import Redaction.Proofs.Assembly
import Redaction.Proofs.PrintableCode

/-!
# Output files line by line

A generated file begins with two comments, and each implementation is a line of its own behind an
empty one (`HasForm`). The second comment has the name of the schema file as it is, and what follows
a line end in that name is no part of the comment.

* `linesOf_fileContent`: the lines of a content of which the implementations are printable.
* `lines_generateFiles`: the lines of every output. They have the form if no line ends in the name.
* `exists_line_outside`: a file whose name makes a line that is neither comment nor implementation.
-/

namespace Redaction

open Code Schema

/-! ### Lines -/

/-- The lines of a text, the last of them behind the last line end. -/
def linesOf (s : String) : List String := (s.toList.splitOn '\n').map String.ofList

theorem linesOf_append (s t : String) : linesOf (s ++ "\n" ++ t) = linesOf s ++ linesOf t := by
  have hsplit : (s ++ "\n" ++ t).toList = s.toList ++ '\n' :: t.toList := by simp
  unfold linesOf
  rw [hsplit, List.splitOn, List.splitOnP_append_cons _ _ (by simp), List.map_append]
  rfl

theorem linesOf_eq_singleton {s : String} (h : '\n' ∉ s.toList) : linesOf s = [s] := by
  have hsplit : s.toList.splitOn '\n' = [s.toList] :=
    List.splitOnP_eq_singleton fun c hc => beq_eq_false_iff_ne.mpr fun heq => h (heq ▸ hc)
  rw [linesOf, hsplit, List.map_singleton, String.ofList_toList]

theorem linesOf_ne_nil (s : String) : linesOf s ≠ [] := by
  simp [linesOf, List.splitOn, List.splitOnP_ne_nil]

/-- A text is one line exactly if no line ends in it. -/
theorem length_linesOf_eq_one_iff {s : String} : (linesOf s).length = 1 ↔ '\n' ∉ s.toList := by
  refine ⟨fun h hmem => ?_, fun h => by rw [linesOf_eq_singleton h]; rfl⟩
  obtain ⟨before, after, hs⟩ := List.append_of_mem hmem
  have hsplit : s = String.ofList before ++ "\n" ++ String.ofList after := by
    rw [← String.toList_inj]
    simp [hs]
  have hbefore := List.length_pos_of_ne_nil (linesOf_ne_nil (String.ofList before))
  have hafter := List.length_pos_of_ne_nil (linesOf_ne_nil (String.ofList after))
  rw [hsplit, linesOf_append, List.length_append] at h
  omega

/-! ### Contents -/

/-- The first line of every output. -/
def generatedLine : String := "// @generated by protoc-gen-rust-redact 0.1.0. DO NOT EDIT."

/-- The comment that names the schema file. -/
def sourceComment (source : String) : String := "// source: " ++ source

theorem linesOf_blocks : ∀ {texts : List String}, (∀ t ∈ texts, '\n' ∉ t.toList) →
    linesOf (String.join (texts.map fun text => "\n" ++ text ++ "\n")) =
      texts.flatMap (["", ·]) ++ [""]
  | [], _ => by decide
  | t :: texts, h => by
    obtain ⟨ht, htexts⟩ := List.forall_mem_cons.mp h
    have hblock : String.join ((t :: texts).map fun text => "\n" ++ text ++ "\n") =
        "" ++ "\n" ++ (t ++ "\n" ++ String.join (texts.map fun text => "\n" ++ text ++ "\n")) := by
      rw [← String.toList_inj]
      simp
    rw [hblock, linesOf_append, linesOf_append, linesOf_blocks htexts, linesOf_eq_singleton ht,
      linesOf_eq_singleton (by simp)]
    rfl

theorem header_eq (source : String) :
    header source = generatedLine ++ "\n" ++ (sourceComment source ++ "\n") := by
  have hlines : "// @generated by protoc-gen-rust-redact 0.1.0. DO NOT EDIT.\n// source: " =
      generatedLine ++ "\n" ++ "// source: " := by decide
  unfold header sourceComment
  rw [hlines]
  simp only [String.append_assoc]

/-- **The lines of a content:** those of the two comments, and two for each implementation. -/
theorem linesOf_fileContent (source : String) {texts : List String}
    (h : ∀ t ∈ texts, '\n' ∉ t.toList) : linesOf (fileContent source texts) =
      generatedLine :: linesOf (sourceComment source) ++ texts.flatMap (["", ·]) ++ [""] := by
  have hfirst : '\n' ∉ generatedLine.toList := by decide
  rw [fileContent, header_eq, String.append_assoc, linesOf_append, linesOf_append,
    linesOf_blocks h, linesOf_eq_singleton hfirst]
  simp only [List.append_assoc, List.cons_append, List.nil_append]

/-! ### The form of a content -/

/-- The line is a comment. -/
def IsComment (line : String) : Prop := "//".toList <+: line.toList

instance (line : String) : Decidable (IsComment line) :=
  inferInstanceAs (Decidable ("//".toList <+: line.toList))

/-- **The content is two comments and implementations,** each of which is a line behind an empty
one. -/
structure HasForm (content : String) (texts : List String) : Prop where
  lines : ∃ first second, IsComment first ∧ IsComment second ∧
    linesOf content = first :: second :: texts.flatMap (["", ·]) ++ [""]

/-- The lines of a content behind the two comments that are not empty. -/
def implLines (content : String) : List String := ((linesOf content).drop 2).filter (· ≠ "")

theorem filter_flatMap_eq : ∀ {texts : List String}, (∀ t ∈ texts, t ≠ "") →
    (texts.flatMap (["", ·]) ++ [""]).filter (· ≠ "") = texts
  | [], _ => rfl
  | t :: texts, h => by
    obtain ⟨ht, htexts⟩ := List.forall_mem_cons.mp h
    simpa [ht] using filter_flatMap_eq htexts

/-- **A content of that form has its implementations back.** -/
theorem HasForm.implLines_eq {content : String} {texts : List String} (h : HasForm content texts)
    (hne : ∀ t ∈ texts, t ≠ "") : implLines content = texts := by
  obtain ⟨first, second, -, -, hlines⟩ := h.lines
  rw [implLines, hlines]
  exact filter_flatMap_eq hne

/-- **A content has the form exactly if no line ends in the name of its file.** -/
theorem hasForm_fileContent_iff {source : String} {texts : List String}
    (h : ∀ t ∈ texts, '\n' ∉ t.toList) :
    HasForm (fileContent source texts) texts ↔ '\n' ∉ source.toList := by
  have hlines := linesOf_fileContent source h
  have hsource : '\n' ∉ (sourceComment source).toList ↔ '\n' ∉ source.toList := by
    have hprefix : '\n' ∉ "// source: ".toList := by decide
    rw [sourceComment, String.toList_append, List.mem_append, not_or, and_iff_right hprefix]
  rw [← hsource]
  constructor
  · rintro ⟨first, second, -, -, hform⟩
    have hlength := congrArg List.length (hlines.symm.trans hform)
    simp only [List.length_append, List.length_cons] at hlength
    exact length_linesOf_eq_one_iff.mp (by omega)
  · intro hone
    rw [linesOf_eq_singleton hone] at hlines
    refine ⟨generatedLine, sourceComment source, by decide, ?_, hlines⟩
    exact ⟨" source: ".toList ++ source.toList, by simp [sourceComment]⟩

/-! ### Implementations -/

theorem exists_listChars_word_cons (s : String) (ts : List Token) :
    ∃ more, Token.listChars (.word s :: ts) = s.toList ++ more := by
  cases ts with
  | nil => exact ⟨[], by simp [Token.listChars, Token.chars]⟩
  | cons t ts => exact ⟨' ' :: Token.listChars (t :: ts), by simp [Token.listChars, Token.chars]⟩

/-- The text of an implementation begins with a word. -/
theorem implText_ne_empty {required : Requirement} {o : Options} {m : Message} {text : String}
    (h : implText required o m = .ok text) : text ≠ "" := by
  obtain ⟨i, -, h⟩ := bind_eq_ok.mp h
  obtain ⟨ts, hts⟩ : ∃ ts, i.tokens o.runtime o.log = .word "impl" :: ts := ⟨_, rfl⟩
  obtain ⟨more, hmore⟩ := exists_listChars_word_cons "impl" ts
  rw [← pure_eq_ok.mp h, Ne, ← String.toList_inj, Impl.text, Token.text, String.toList_ofList, hts,
    hmore]
  simp

/-! ### Outputs -/

variable {files : List FileDescriptor} {requested : List String} {o : Options}
  {outputs : List OutputFile}

/-- **What an output has, line by line:** the comments, of which the second may go over several
lines, and the given texts. -/
structure HasLines (source : String) (texts : List String) (content : String) : Prop where
  lines : linesOf content =
    generatedLine :: linesOf (sourceComment source) ++ texts.flatMap (["", ·]) ++ [""]
  form : HasForm content texts ↔ '\n' ∉ source.toList
  back : '\n' ∉ source.toList → implLines content = texts

theorem hasLines_fileContent {required : Requirement} {ms : List Message} {texts : List String}
    (ho : o.IsShown) (source : String)
    (h : List.Forall₂ (fun m text => implText required o m = .ok text) ms texts) :
    HasLines source texts (fileContent source texts) := by
  have hline : ∀ t ∈ texts, '\n' ∉ t.toList := fun t ht hmem => by
    obtain ⟨m, -, hm⟩ := exists_left_of_mem h ht
    exact absurd (isPrintable_text ho hm _ hmem) (by decide)
  have hne : ∀ t ∈ texts, t ≠ "" := fun t ht => by
    obtain ⟨m, -, hm⟩ := exists_left_of_mem h ht
    exact implText_ne_empty hm
  have hform : HasForm (fileContent source texts) texts ↔ _ := hasForm_fileContent_iff hline
  exact ⟨linesOf_fileContent source hline, hform, fun hs => (hform.mpr hs).implLines_eq hne⟩

/-- The output is made of a file of the schema and the texts of its implementations. -/
inductive MadeFrom (s : Schema) (o : Options) (out : OutputFile) (source : String)
    (texts : List String) : Prop
  | intro {file : Schema.File} : file ∈ s.files → file.generate → file.name = source →
      out.name = outputName source → texts ≠ [] →
      List.Forall₂ (fun m text => implText (.ofSchema s) o m = .ok text)
        (implemented s (.ofSchema s) file) texts →
      MadeFrom s o out source texts

theorem exists_madeFrom {s : Schema} {out : OutputFile} (ho : o.IsShown)
    (h : schemaOutputs s o = .ok outputs) (hout : out ∈ outputs) :
    ∃ source texts, MadeFrom s o out source texts ∧ HasLines source texts out.content := by
  obtain ⟨results, hresults, h⟩ := bind_eq_ok.mp h
  rw [← pure_eq_ok.mp h, List.mem_filterMap] at hout
  obtain ⟨result, hresult, rfl⟩ := hout
  obtain ⟨file, hf, hfile⟩ := exists_left_of_mem (mapM_eq_ok.mp hresults) hresult
  obtain ⟨hf, hg⟩ := List.mem_filter.mp hf
  obtain ⟨texts, htexts, hfile⟩ := bind_eq_ok.mp hfile
  have htexts := mapM_eq_ok.mp htexts
  have hfile := pure_eq_ok.mp hfile
  split_ifs at hfile with hempty
  obtain rfl := Option.some.inj hfile
  exact ⟨file.name, texts, .intro hf hg rfl rfl (by simpa using hempty) htexts,
    hasLines_fileContent ho _ htexts⟩

theorem schemaOutputs_of_generateFiles (h : generateFiles files requested o = .ok outputs) :
    Schema.ofFiles files requested = .ok (schemaOf files requested) ∧
      schemaOutputs (schemaOf files requested) o = .ok outputs := by
  obtain ⟨s, hs, h⟩ := bind_eq_ok.mp h
  replace hs := mapError_eq_ok.mp hs
  obtain ⟨-, rfl⟩ := ofFiles_eq_ok_iff_accepted.mp hs
  exact ⟨hs, h⟩

/-- **Every output is two comments and implementations, line by line,** if no line ends in the name
of its file. The implementations are those of the file, in their order, and the lines give them
back. If a line ends in the name, there are more lines between the comments and the first of them.
-/
theorem lines_generateFiles (ho : o.IsShown)
    (h : generateFiles files requested o = .ok outputs) :
    ∃ s, Schema.ofFiles files requested = .ok s ∧ ∀ out ∈ outputs, ∃ source texts,
      MadeFrom s o out source texts ∧ HasLines source texts out.content := by
  obtain ⟨hs, h⟩ := schemaOutputs_of_generateFiles h
  exact ⟨_, hs, fun out hout => exists_madeFrom ho h hout⟩

/-- A file with the given name, of which one message needs redaction. -/
def inkFile (name : String) : FileDescriptor := fileOfOne name "i" (textField "color" 1).redacted

theorem isShown_usualOptions : usualOptions.IsShown := ⟨by decide, by simp [usualOptions]⟩

theorem MadeFrom.source_inkFile {name source : String} {requested texts : List String}
    {out : OutputFile} (h : MadeFrom (schemaOf [inkFile name] requested) o out source texts) :
    source = name := by
  obtain ⟨hf, -, rfl, -⟩ := h
  rw [List.mem_singleton.mp hf]
  rfl

theorem lines_generateFiles_inkFile : ∃ outputs,
    generateFiles [inkFile "ink.proto"] ["ink.proto"] usualOptions = .ok outputs ∧
      outputs.length = 1 ∧ ∀ out ∈ outputs, ∃ texts, texts ≠ [] ∧ HasForm out.content texts ∧
        implLines out.content = texts := by
  have hlength : (generateFiles [inkFile "ink.proto"] ["ink.proto"] usualOptions).toOption.map
      (·.length) = some 1 := by decide +kernel
  obtain ⟨outputs, hok, hlength⟩ := Option.map_eq_some_iff.mp hlength
  replace hok := eq_ok_of_toOption hok
  obtain ⟨s, hs, hall⟩ := lines_generateFiles isShown_usualOptions hok
  obtain ⟨-, rfl⟩ := ofFiles_eq_ok_iff_accepted.mp hs
  refine ⟨outputs, hok, hlength, fun out hout => ?_⟩
  obtain ⟨source, texts, hmade, hlines⟩ := hall out hout
  obtain rfl := hmade.source_inkFile
  obtain ⟨-, -, -, -, hne, -⟩ := hmade
  have hname : '\n' ∉ "ink.proto".toList := by decide
  exact ⟨texts, hne, hlines.form.mpr hname, hlines.back hname⟩

/-- **A line that ends in the name of a file puts the rest of the name outside of the comments.** -/
theorem exists_line_outside : ∃ outputs,
    generateFiles [inkFile "a\nb.proto"] ["a\nb.proto"] usualOptions = .ok outputs ∧
      outputs.length = 1 ∧ ∀ out ∈ outputs, (linesOf out.content)[2]? = some "b.proto" ∧
        ¬ IsComment "b.proto" := by
  have hlength : (generateFiles [inkFile "a\nb.proto"] ["a\nb.proto"] usualOptions).toOption.map
      (·.length) = some 1 := by decide +kernel
  obtain ⟨outputs, hok, hlength⟩ := Option.map_eq_some_iff.mp hlength
  replace hok := eq_ok_of_toOption hok
  obtain ⟨-, hschema⟩ := schemaOutputs_of_generateFiles hok
  refine ⟨outputs, hok, hlength, fun out hout => ⟨?_, by decide⟩⟩
  obtain ⟨source, texts, hmade, hlines⟩ := exists_madeFrom isShown_usualOptions hschema hout
  obtain rfl := hmade.source_inkFile
  have hcomment : linesOf (sourceComment "a\nb.proto") = ["// source: a", "b.proto"] := by decide
  rw [hlines.lines, hcomment]
  rfl

end Redaction
