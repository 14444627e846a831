import Redaction.Build.Builder
import Redaction.Proofs.Assembly
import Redaction.Proofs.FileTree
import Redaction.Proofs.Refusals

/-!
# Storing the outputs of a builder

A run writes its outputs one after the other and skips those that are there already. What it leaves
is said by a relation with one rule for each way an output can go (`Stores`), and by the output that
could not be written if there is one (`StopsAt`).

* `Stores.changes`: only the places of the outputs are written, with directories around them.
* `Stores.holds`: the last output at a place is there in the end.
* `generate_idempotent`: a run that succeeds leaves all its outputs, and a second one does nothing.
* `generate_failure`: what a run leaves that does not succeed.
-/

namespace Redaction.Build.Builder

open FileSystem

variable {dir : String} {fs fs' fs₁ fs₂ : FileSystem} {f g : OutputFile}
  {outputs before rest written : List OutputFile} {fault : FileFault}

/-! ### Places -/

/-- The path of an output. -/
def pathOf (dir : String) (f : OutputFile) : String := joinPath dir f.name

/-- The location of an output. -/
def location (dir : String) (f : OutputFile) : Location := locationOf (pathOf dir f)

/-- Where an output is stored; two locations can be one place. -/
def place (dir : String) (f : OutputFile) : Location := plain (location dir f)

/-- The place is one of the outputs. -/
def IsPlaceOf (dir : String) (outputs : List OutputFile) (l : Location) : Prop :=
  ∃ f ∈ outputs, l = place dir f

/-- The place is the directory of one of the outputs, or one that this is in. -/
def IsAroundOf (dir : String) (outputs : List OutputFile) (l : Location) : Prop :=
  ∃ f ∈ outputs, IsAround (parent (location dir f)) l

theorem IsPlaceOf.mono {outputs' : List OutputFile} (h : outputs ⊆ outputs') (l : Location) :
    IsPlaceOf dir outputs l → IsPlaceOf dir outputs' l :=
  fun ⟨f, hf, hl⟩ => ⟨f, h hf, hl⟩

theorem IsAroundOf.mono {outputs' : List OutputFile} (h : outputs ⊆ outputs') (l : Location) :
    IsAroundOf dir outputs l → IsAroundOf dir outputs' l :=
  fun ⟨f, hf, hl⟩ => ⟨f, h hf, hl⟩

/-! ### Runs -/

/-- **The output is stored:** there is a file at its location with its content. -/
def Holds (fs : FileSystem) (dir : String) (f : OutputFile) : Prop :=
  fs.content? (location dir f) = some (Wire.textBytes f.content)

instance : Decidable (Holds fs dir f) := inferInstanceAs (Decidable (_ = _))

/-- **A run that stores outputs** in their order, and which of them it writes. -/
inductive Stores (dir : String) :
    FileSystem → List OutputFile → List OutputFile → FileSystem → Prop
  | nil {fs : FileSystem} : Stores dir fs [] [] fs
  | kept {fs fs' : FileSystem} {f : OutputFile} {rest written : List OutputFile} :
      Holds fs dir f → Stores dir fs rest written fs' → Stores dir fs (f :: rest) written fs'
  | wrote {fs fs₁ fs' : FileSystem} {f : OutputFile} {rest written : List OutputFile} :
      ¬ Holds fs dir f →
      fs.createFile (location dir f) (Wire.textBytes f.content) = ⟨fs₁, none⟩ →
      Stores dir fs₁ rest written fs' → Stores dir fs (f :: rest) (f :: written) fs'

/-- The output is not there, and a fault stops its being written. -/
structure StopsAt (dir : String) (fs : FileSystem) (f : OutputFile) (fault : FileFault)
    (fs' : FileSystem) : Prop where
  missing : ¬ Holds fs dir f
  stopped : fs.createFile (location dir f) (Wire.textBytes f.content) = ⟨fs', some fault⟩

theorem writeAll_cons (done : Outcome) : writeAll dir (f :: rest) done =
    if Holds done.fs dir f then
      writeAll dir rest { done with paths := done.paths ++ [pathOf dir f] }
    else
      match done.fs.createFile (location dir f) (Wire.textBytes f.content) with
      | ⟨fs, none⟩ =>
        writeAll dir rest
          { done with
            fs
            paths := done.paths ++ [pathOf dir f]
            changed := done.changed ++ [pathOf dir f] }
      | ⟨fs, some fault⟩ => { done with fs, failure := some (.refused (.file fault)) } := rfl

theorem writeAll_append (rest : List OutputFile) (h : Stores dir fs before written fs') :
    ∀ (paths changed : List String) (failure : Option Failure),
      writeAll dir (before ++ rest) ⟨fs, paths, changed, failure⟩ =
        writeAll dir rest ⟨fs', paths ++ before.map (pathOf dir),
          changed ++ written.map (pathOf dir), failure⟩ := by
  induction h with
  | nil => simp
  | kept hholds _ ih =>
    intro paths changed failure
    rw [List.cons_append, writeAll_cons, if_pos hholds, ih]
    simp
  | wrote hmissing hwrite _ ih =>
    intro paths changed failure
    rw [List.cons_append, writeAll_cons, if_neg hmissing, hwrite]
    simp [ih]

theorem writeAll_of_stores (h : Stores dir fs outputs written fs') :
    writeAll dir outputs ⟨fs, [], [], none⟩ =
      ⟨fs', outputs.map (pathOf dir), written.map (pathOf dir), none⟩ := by
  have hall := writeAll_append [] h [] [] none
  rwa [List.append_nil] at hall

theorem writeAll_of_stopsAt (h : Stores dir fs before written fs₁)
    (hstop : StopsAt dir fs₁ f fault fs₂) :
    writeAll dir (before ++ f :: rest) ⟨fs, [], [], none⟩ =
      ⟨fs₂, before.map (pathOf dir), written.map (pathOf dir), some (.refused (.file fault))⟩ := by
  rw [writeAll_append _ h, writeAll_cons, if_neg hstop.missing, hstop.stopped]
  rfl

/-- **A run goes through,** or there is a first output at which it stops. -/
theorem exists_stores_or_stopsAt (dir : String) : ∀ (outputs : List OutputFile) (fs : FileSystem),
    (∃ written fs', Stores dir fs outputs written fs') ∨
      ∃ before f after written fs₁ fault fs₂, outputs = before ++ f :: after ∧
        Stores dir fs before written fs₁ ∧ StopsAt dir fs₁ f fault fs₂
  | [], fs => Or.inl ⟨[], fs, .nil⟩
  | f :: rest, fs => by
    by_cases hholds : Holds fs dir f
    · rcases exists_stores_or_stopsAt dir rest fs with ⟨written, fs', h⟩ |
        ⟨before, g, after, written, fs₁, fault, fs₂, rfl, h, hstop⟩
      · exact Or.inl ⟨written, fs', .kept hholds h⟩
      · exact Or.inr ⟨f :: before, g, after, written, fs₁, fault, fs₂, rfl, .kept hholds h, hstop⟩
    · rcases hwrite : fs.createFile (location dir f) (Wire.textBytes f.content) with
        ⟨fs₁, _ | fault⟩
      · rcases exists_stores_or_stopsAt dir rest fs₁ with ⟨written, fs', h⟩ |
          ⟨before, g, after, written, fs₂, fault, fs₃, rfl, h, hstop⟩
        · exact Or.inl ⟨f :: written, fs', .wrote hholds hwrite h⟩
        · exact Or.inr ⟨f :: before, g, after, f :: written, fs₂, fault, fs₃, rfl,
            .wrote hholds hwrite h, hstop⟩
      · exact Or.inr ⟨[], f, rest, [], fs, fault, fs₁, rfl, .nil, hholds, hwrite⟩

/-! ### What a run leaves -/

/-- An output that is written is there, and no other place has changed. -/
theorem changes_of_createFile
    (h : fs.createFile (location dir f) (Wire.textBytes f.content) = ⟨fs', none⟩) :
    Changes (· = place dir f) (IsAround (parent (location dir f))) fs fs' ∧ Holds fs' dir f := by
  rcases createFile_spec fs (location dir f) (Wire.textBytes f.content) with
    ⟨hfault, _⟩ | ⟨_, hchanges, hcontent⟩
  · rw [h] at hfault
    exact absurd rfl hfault
  · rw [h] at hchanges hcontent
    exact ⟨hchanges, hcontent⟩

/-- A fault leaves all files as they were. -/
theorem StopsAt.changes (h : StopsAt dir fs f fault fs') :
    Changes nowhere (IsAround (parent (location dir f))) fs fs' := by
  rcases createFile_spec fs (location dir f) (Wire.textBytes f.content) with
    ⟨_, hchanges⟩ | ⟨hnone, _⟩
  · rw [h.stopped] at hchanges
    exact hchanges
  · rw [h.stopped] at hnone
    cases hnone

/-- **A run writes files only at the places of its outputs.** -/
theorem Stores.changes (h : Stores dir fs outputs written fs') :
    Changes (IsPlaceOf dir outputs) (IsAroundOf dir outputs) fs fs' := by
  induction h with
  | nil => exact .refl _ _ _
  | kept _ _ ih => exact ih.mono (IsPlaceOf.mono (by simp)) (IsAroundOf.mono (by simp))
  | @wrote fs fs₁ fs' f rest written _ hwrite _ ih =>
    have hfirst : Changes (IsPlaceOf dir (f :: rest)) (IsAroundOf dir (f :: rest)) fs fs₁ :=
      (changes_of_createFile hwrite).1.mono (fun l hl => ⟨f, by simp, hl⟩)
        fun l hl => ⟨f, by simp, hl⟩
    exact hfirst.trans (ih.mono (IsPlaceOf.mono (by simp)) (IsAroundOf.mono (by simp)))

/-- What is stored stays where no output is written. -/
theorem Holds.of_changes {made : Location → Prop} (h : Holds fs dir f)
    (hchanges : Changes (IsPlaceOf dir outputs) made fs fs')
    (hplace : ∀ g ∈ outputs, place dir g ≠ place dir f) : Holds fs' dir f := by
  refine hchanges.content? ?_ h
  rintro ⟨g, hg, heq⟩
  exact hplace g hg heq.symm

/-- The first output is there when the others are stored. -/
theorem Stores.of_cons (h : Stores dir fs (f :: rest) written fs') :
    ∃ fs₁ written₁, Holds fs₁ dir f ∧ Stores dir fs₁ rest written₁ fs' := by
  cases h with
  | kept hholds hrest => exact ⟨_, _, hholds, hrest⟩
  | wrote _ hwrite hrest => exact ⟨_, _, (changes_of_createFile hwrite).2, hrest⟩

/-- **The last output at a place** is there in the end. -/
theorem Stores.holds {earlier later : List OutputFile}
    (h : Stores dir fs (earlier ++ g :: later) written fs')
    (hlater : ∀ g' ∈ later, place dir g' ≠ place dir g) : Holds fs' dir g := by
  induction earlier generalizing fs written with
  | nil =>
    obtain ⟨fs₁, written₁, hholds, hrest⟩ := h.of_cons
    exact hholds.of_changes hrest.changes hlater
  | cons f earlier ih =>
    obtain ⟨fs₁, written₁, -, hrest⟩ := h.of_cons
    exact ih hrest

/-- Outputs at different places are all there in the end. -/
theorem Stores.holds_of_nodup (h : Stores dir fs outputs written fs')
    (hplaces : (outputs.map (place dir)).Nodup) : ∀ f ∈ outputs, Holds fs' dir f := by
  intro f hf
  obtain ⟨earlier, later, rfl⟩ := List.append_of_mem hf
  refine h.holds fun g hg hplace => ?_
  rw [List.map_append, List.map_cons] at hplaces
  have hnot := (List.nodup_cons.mp (List.nodup_append.mp hplaces).2.1).1
  exact hnot (hplace ▸ List.mem_map_of_mem hg)

theorem Stores.sublist (h : Stores dir fs outputs written fs') : written.Sublist outputs := by
  induction h with
  | nil => exact .slnil
  | kept _ _ ih => exact ih.cons _
  | wrote _ _ _ ih => exact ih.cons_cons _

/-- **Only outputs that were not there are written,** if all have places of their own. -/
theorem Stores.missing (h : Stores dir fs outputs written fs')
    (hplaces : (outputs.map (place dir)).Nodup) : ∀ f ∈ written, ¬ Holds fs dir f := by
  induction h with
  | nil => exact nofun
  | kept _ _ ih => exact ih (List.nodup_cons.mp hplaces).2
  | @wrote fs fs₁ fs' f rest written hmissing hwrite hrest ih =>
    obtain ⟨hfirst, hplaces⟩ := List.nodup_cons.mp hplaces
    intro g hg hholds
    rcases List.mem_cons.mp hg with rfl | hg
    · exact hmissing hholds
    · -- The first output was written at another place, so this one was there after it, too.
      have hne : place dir g ≠ place dir f := fun heq =>
        hfirst (heq ▸ List.mem_map_of_mem (hrest.sublist.subset hg))
      exact ih hplaces g hg ((changes_of_createFile hwrite).1.content? hne hholds)

/-- Where all outputs are there, a run does nothing. -/
theorem stores_of_holds : ∀ {outputs : List OutputFile}, (∀ f ∈ outputs, Holds fs dir f) →
    Stores dir fs outputs [] fs
  | [], _ => .nil
  | f :: rest, h =>
    have hrest : ∀ g ∈ rest, Holds fs dir g := fun g hg => h g (List.mem_cons_of_mem f hg)
    .kept (h f List.mem_cons_self) (stores_of_holds hrest)

/-! ### Names and places -/

/-- **A name is normal:** no part of it is empty, the directory itself or the one above. -/
def IsNormal (name : String) : Prop :=
  ∀ part ∈ name.toList.splitOn '/', part ≠ "".toList ∧ part ≠ ".".toList ∧ part ≠ "..".toList

instance {name : String} : Decidable (IsNormal name) :=
  inferInstanceAs (Decidable (∀ part ∈ _, _))

theorem locationOf_append_slash (a b : String) :
    locationOf (a ++ "/" ++ b) = locationOf a ++ locationOf b := by
  have hsplit : (a ++ "/" ++ b).toList = a.toList ++ '/' :: b.toList := by simp
  unfold locationOf
  rw [hsplit, List.splitOn, List.splitOnP_append_cons _ _ (by simp), List.map_append,
    List.filter_append]
  rfl

variable {name name' : String}

theorem locationOf_eq (h : IsNormal name) :
    locationOf name = (name.toList.splitOn '/').map String.ofList := by
  refine List.filter_eq_self.mpr fun part hpart => ?_
  obtain ⟨cs, hcs, rfl⟩ := List.mem_map.mp hpart
  obtain ⟨hempty, hself, -⟩ := h cs hcs
  have hne : ∀ s : String, cs ≠ s.toList → String.ofList cs ≠ s := fun s hne heq =>
    hne (by rw [← heq, String.toList_ofList])
  exact decide_eq_true ⟨hne _ hempty, hne _ hself⟩

theorem notMem_locationOf (h : IsNormal name) : ".." ∉ locationOf name := by
  rw [locationOf_eq h]
  intro hmem
  obtain ⟨cs, hcs, heq⟩ := List.mem_map.mp hmem
  refine (h cs hcs).2.2 ?_
  rw [← heq, String.toList_ofList]

theorem locationOf_injective (h : IsNormal name) (h' : IsNormal name')
    (heq : locationOf name = locationOf name') : name = name' := by
  rw [locationOf_eq h, locationOf_eq h'] at heq
  have hparts : name.toList.splitOn '/' = name'.toList.splitOn '/' :=
    List.map_injective_iff.mpr (fun _ _ => String.ofList_injective) heq
  have htexts := congrArg (List.intercalate ['/']) hparts
  rw [List.intercalate_splitOn, List.intercalate_splitOn] at htexts
  exact String.toList_injective htexts

/-- A normal name continues any directory. -/
theorem locationOf_joinPath (h : IsNormal name) :
    locationOf (joinPath dir name) = locationOf dir ++ locationOf name := by
  have hroot : name.toList.head? ≠ some '/' := by
    intro hhead
    obtain ⟨cs, hcs⟩ := List.head?_eq_some_iff.mp hhead
    have hempty : ([] : List Char) ∈ name.toList.splitOn '/' := by
      rw [hcs, List.splitOn, ← List.nil_append ('/' :: cs), List.splitOnP_append_cons _ _ (by simp)]
      exact List.mem_append_left _ (by simp)
    exact (h [] hempty).1 rfl
  unfold joinPath
  by_cases hdir : dir.isEmpty
  · rw [if_pos (Or.inl hdir)]
    obtain rfl := String.isEmpty_iff.mp hdir
    rfl
  · rw [if_neg (by simp [hdir, hroot])]
    by_cases hslash : dir.toList.getLast? = some '/'
    · rw [if_pos hslash]
      obtain ⟨above, habove⟩ := List.getLast?_eq_some_iff.mp hslash
      have hdir : dir = String.ofList above ++ "/" ++ "" := by
        rw [← String.toList_inj]
        simpa using habove
      have hroot : locationOf "" = [] := rfl
      rw [hdir, locationOf_append_slash, hroot, String.append_empty, locationOf_append_slash,
        List.append_nil]
    · rw [if_neg hslash, locationOf_append_slash]

theorem plain_append {l l' : Location} (h : ".." ∉ l') : plain (l ++ l') = plain l ++ l' := by
  unfold plain
  rw [List.foldl_append]
  generalize l.foldl follow [] = here
  induction l' generalizing here with
  | nil => simp
  | cons name rest ih =>
    obtain ⟨hname, hrest⟩ := not_or.mp (List.mem_cons.not.mp h)
    rw [List.foldl_cons, follow_eq_append (Ne.symm hname), ih hrest]
    simp

/-- **Outputs with different normal names have different places,** whatever the directory is. -/
theorem nodup_place (hnormal : ∀ f ∈ outputs, IsNormal f.name)
    (hnames : (outputs.map (·.name)).Nodup) : (outputs.map (place dir)).Nodup := by
  have hplace : ∀ f ∈ outputs, place dir f = plain (locationOf dir) ++ locationOf f.name :=
    fun f hf => by
      rw [place, location, pathOf, locationOf_joinPath (hnormal f hf),
        plain_append (notMem_locationOf (hnormal f hf))]
  refine List.Nodup.map_on (fun f hf g hg heq => ?_) hnames.of_map
  rw [hplace f hf, hplace g hg] at heq
  have hname := locationOf_injective (hnormal f hf) (hnormal g hg) (List.append_cancel_left heq)
  exact List.inj_on_of_nodup_map hnames hf hg hname

variable {b : Builder} {givenDir : Option String} {out : Outcome}

/-! ### Two builders -/

/-- A file whose only message needs redaction. -/
def colorFile (name package : String) : FileDescriptor :=
  fileOfOne name package (textField "color" 1).redacted

/-- A builder of which the first two outputs have one name. -/
def twinsBuilder : Builder :=
  { files := [colorFile "a.proto" "p", colorFile "a" "q", colorFile "c.proto" "r"]
    outDir := some "out"
    options := usualOptions }

/-- The builder without the second of them. -/
def apartBuilder : Builder := twinsBuilder.generateOnly ["a.proto", "c.proto"]

/-- A tree with other content where the first output is stored. -/
def staleTree : FileSystem := (createFile {} ["out", "a.redact.rs"] [1, 2, 3]).fs

/-- A tree with a directory where the last output is stored. -/
def occupiedTree : FileSystem := (createDirectories {} ["out", "c.redact.rs"]).fs

/-- The names of the outputs, if there are any. -/
def outputNames (b : Builder) : Option (List String) := b.outputs.toOption.map (·.map (·.name))

/-- Which of the outputs are stored below `out`. -/
def storedOutputs (b : Builder) (fs : FileSystem) : Option (List Bool) :=
  b.outputs.toOption.map (·.map fun f => decide (Holds fs "out" f))

-- decided together, as most of it is computed for all of them
theorem run_builders :
    outputNames apartBuilder = some ["a.redact.rs", "c.redact.rs"] ∧
      (apartBuilder.generate none staleTree).failure = none ∧
      outputNames twinsBuilder = some ["a.redact.rs", "a.redact.rs", "c.redact.rs"] ∧
      (twinsBuilder.generate none occupiedTree).failure = some (.refused (.file .isDirectory)) ∧
      storedOutputs twinsBuilder (twinsBuilder.generate none occupiedTree).fs =
        some [false, true, false] := by
  decide +kernel

theorem exists_outputs_of_outputNames {names : List String} (h : outputNames b = some names) :
    ∃ outputs, b.outputs = .ok outputs ∧ outputs.map (·.name) = names := by
  obtain ⟨outputs, houtputs, hnames⟩ := Option.map_eq_some_iff.mp h
  exact ⟨outputs, eq_ok_of_toOption houtputs, hnames⟩

/-! ### Generation -/

theorem generate_eq (hdir : b.outDir.or givenDir = some dir) (houtputs : b.outputs = .ok outputs) :
    b.generate givenDir fs = writeAll dir outputs ⟨fs, [], [], none⟩ := by
  rw [generate, hdir, houtputs]

/-- A run that succeeds has an output directory and stores all outputs in it. -/
theorem exists_stores_of_generate (houtputs : b.outputs = .ok outputs)
    (hok : (b.generate givenDir fs).failure = none) :
    ∃ dir written fs', b.outDir.or givenDir = some dir ∧ Stores dir fs outputs written fs' ∧
      b.generate givenDir fs = ⟨fs', outputs.map (pathOf dir), written.map (pathOf dir), none⟩ := by
  cases hdir : b.outDir.or givenDir with
  | none =>
    rw [generate, hdir] at hok
    cases hok
  | some dir =>
    rw [generate_eq hdir houtputs] at hok ⊢
    rcases exists_stores_or_stopsAt dir outputs fs with ⟨written, fs', h⟩ |
      ⟨before, f, after, written, fs₁, fault, fs₂, rfl, h, hstop⟩
    · exact ⟨dir, written, fs', rfl, h, writeAll_of_stores h⟩
    · rw [writeAll_of_stopsAt h hstop] at hok
      cases hok

/-- **A run that succeeds leaves all its outputs at their paths and no other file changed,** and
writes none that was there. The same run after it writes nothing. -/
theorem generate_idempotent (houtputs : b.outputs = .ok outputs)
    (hnames : (outputs.map (·.name)).Nodup) (hnormal : ∀ f ∈ outputs, IsNormal f.name)
    (hrun : b.generate givenDir fs = out) (hok : out.failure = none) :
    ∃ (dir : String) (written : List OutputFile), b.outDir.or givenDir = some dir ∧
      out.paths = outputs.map (pathOf dir) ∧ (∀ f ∈ outputs, Holds out.fs dir f) ∧
      Changes (IsPlaceOf dir outputs) (IsAroundOf dir outputs) fs out.fs ∧
      out.changed = written.map (pathOf dir) ∧ written.Sublist outputs ∧
      (∀ f ∈ written, ¬ Holds fs dir f) ∧
      b.generate givenDir out.fs = { out with changed := [] } := by
  subst hrun
  obtain ⟨dir, written, fs', hdir, h, hrun⟩ := exists_stores_of_generate houtputs hok
  have hplaces : (outputs.map (place dir)).Nodup := nodup_place hnormal hnames
  have hholds : ∀ f ∈ outputs, Holds fs' dir f := h.holds_of_nodup hplaces
  have hagain : b.generate givenDir fs' = ⟨fs', outputs.map (pathOf dir), [], none⟩ := by
    rw [generate_eq hdir houtputs]
    exact writeAll_of_stores (stores_of_holds hholds)
  rw [hrun]
  exact ⟨dir, written, hdir, rfl, hholds, h.changes, rfl, h.sublist, h.missing hplaces, hagain⟩

theorem generate_idempotent_apart : ∃ outputs out, apartBuilder.outputs = .ok outputs ∧
    outputs.map (·.name) = ["a.redact.rs", "c.redact.rs"] ∧
    apartBuilder.generate none staleTree = out ∧
    out.paths = outputs.map (pathOf "out") ∧ (∀ f ∈ outputs, Holds out.fs "out" f) ∧
    apartBuilder.generate none out.fs = { out with changed := [] } := by
  obtain ⟨hnames, hok, -⟩ := run_builders
  obtain ⟨outputs, houtputs, hnames⟩ := exists_outputs_of_outputNames hnames
  have hnormal : ∀ name ∈ outputs.map (·.name), IsNormal name := by
    rw [hnames]
    decide
  obtain ⟨dir, written, hdir, hpaths, hholds, -, -, -, -, hagain⟩ :=
    generate_idempotent houtputs (hnames ▸ by decide)
      (fun f hf => hnormal _ (List.mem_map_of_mem hf)) rfl hok
  obtain rfl : "out" = dir := Option.some.inj hdir
  exact ⟨outputs, _, houtputs, hnames, rfl, hpaths, hholds, hagain⟩

/-- **What a run leaves that fails.** If the failure is not the fault of a file, this is what there
was. Otherwise a first output could not be written: those before it have been stored, so that the
last one at each place is there, and no other file has changed. -/
theorem generate_failure {failure : Failure} (hrun : b.generate givenDir fs = out)
    (hfailure : out.failure = some failure) :
    ((∀ fault, failure ≠ .refused (.file fault)) → out.fs = fs) ∧
      ∀ fault, failure = .refused (.file fault) → ∃ dir before f after written fs₁,
        b.outDir.or givenDir = some dir ∧ b.outputs = .ok (before ++ f :: after) ∧
        Stores dir fs before written fs₁ ∧ StopsAt dir fs₁ f fault out.fs ∧
        Changes (IsPlaceOf dir before) (IsAroundOf dir (before ++ [f])) fs out.fs ∧
        (∀ earlier g later, before = earlier ++ g :: later →
          (∀ g' ∈ later, place dir g' ≠ place dir g) → Holds out.fs dir g) ∧
        ∀ g ∈ after, ¬ IsPlaceOf dir before (place dir g) → ∀ content,
          out.fs.entryAt? (place dir g) = some (.file content) ↔
            fs.entryAt? (place dir g) = some (.file content) := by
  subst hrun
  cases hdir : b.outDir.or givenDir with
  | none =>
    rw [generate, hdir] at hfailure ⊢
    obtain rfl := Option.some.inj hfailure
    exact ⟨fun _ => rfl, nofun⟩
  | some dir =>
    cases houtputs : b.outputs with
    | error e =>
      rw [generate, hdir, houtputs] at hfailure ⊢
      obtain rfl := Option.some.inj hfailure
      exact ⟨fun _ => rfl, fun fault heq => absurd (heq ▸ houtputs) (outputs_ne_fileFault b fault)⟩
    | ok outputs =>
      rw [generate_eq hdir houtputs] at hfailure ⊢
      rcases exists_stores_or_stopsAt dir outputs fs with ⟨written, fs', h⟩ |
        ⟨before, f, after, written, fs₁, fault, fs₂, rfl, h, hstop⟩
      · rw [writeAll_of_stores h] at hfailure
        cases hfailure
      · rw [writeAll_of_stopsAt h hstop] at hfailure ⊢
        obtain rfl := Option.some.inj hfailure
        refine ⟨fun hne => absurd rfl (hne fault), fun fault' heq => ?_⟩
        obtain rfl : fault = fault' := Error.file.inj (Failure.refused.inj heq)
        have hchanges : Changes (IsPlaceOf dir before) (IsAroundOf dir (before ++ [f])) fs fs₂ :=
          (h.changes.mono (fun _ h => h) (IsAroundOf.mono (by simp))).trans
            (hstop.changes.mono (fun _ h => h.elim) fun l hl => ⟨f, by simp, hl⟩)
        refine ⟨dir, before, f, after, written, fs₁, rfl, rfl, h, hstop, hchanges, ?_, ?_⟩
        · intro earlier g later hsplit hlater
          subst hsplit
          exact hstop.changes.content? id (h.holds hlater)
        · exact fun g _ hplace content => (hchanges (place dir g)).file_iff hplace

theorem generate_failure_twins : ∃ dir before f after,
    twinsBuilder.outputs = .ok (before ++ f :: after) ∧
      (twinsBuilder.generate none occupiedTree).failure = some (.refused (.file .isDirectory)) ∧
      Changes (IsPlaceOf dir before) (IsAroundOf dir (before ++ [f])) occupiedTree
        (twinsBuilder.generate none occupiedTree).fs := by
  obtain ⟨-, -, -, hfailure, -⟩ := run_builders
  obtain ⟨-, hfile⟩ := generate_failure rfl hfailure
  obtain ⟨dir, before, f, after, written, fs₁, -, houtputs, -, -, hchanges, -⟩ := hfile _ rfl
  exact ⟨dir, before, f, after, houtputs, hfailure, hchanges⟩

/-- **An output that was stored can be lost before the one that fails.** -/
theorem exists_stored_output_lost : ∃ outputs, twinsBuilder.outputs = .ok outputs ∧
    (twinsBuilder.generate none occupiedTree).failure = some (.refused (.file .isDirectory)) ∧
    outputs.map (fun f => decide (Holds (twinsBuilder.generate none occupiedTree).fs "out" f)) =
      [false, true, false] := by
  obtain ⟨-, -, -, hfailure, hstored⟩ := run_builders
  obtain ⟨outputs, houtputs, hstored⟩ := Option.map_eq_some_iff.mp hstored
  exact ⟨outputs, eq_ok_of_toOption houtputs, hfailure, hstored⟩

end Redaction.Build.Builder
