import Mathlib.Data.List.Infix
import Redaction.Build.FileSystem
import Redaction.Proofs.OrderedTables

/-!
# What is written into a tree of files

An operation on a tree changes files only where it writes them, and directories only by making them
where nothing was. This is said entry by entry (`Change`), for whole trees (`Changes`), and as it
composes, an operation is described by what its steps may change.

* `entry?_eq_some_iff`: what is at the end of a walk. All that is on the way are directories, so
  after any change what is there can still be reached.
* `createDirectories_spec`: directories are made around a location; if no fault stops this, the
  location is a directory in the end.
* `createFile_spec`: a file is written at its location and nowhere else, and there only if no fault
  stops the operation.
-/

namespace Redaction.Build.FileSystem

variable {fs fs' fs'' : FileSystem} {l : Location} {content : Wire.Bytes} {e : Entry}

/-! ### Walks -/

theorem follow_eq_append {here : Location} {name : String} (h : name ≠ "..") :
    follow here name = here ++ [name] := if_neg h

/-- The entries on the way to a location are directories. -/
def LeadsTo (fs : FileSystem) (l : Location) : Prop :=
  ∀ p, p <+: l → p ≠ l → fs.entryAt? (plain p) = some .directory

theorem walk?_eq_some_iff : ∀ {names : List String} {here : Location},
    fs.walk? here names = some e ↔
      (∀ p, p <+: names → p ≠ names → fs.entryAt? (p.foldl follow here) = some .directory) ∧
        fs.entryAt? (names.foldl follow here) = some e
  | [], here => by
    have hno : ∀ p, p <+: ([] : List String) → p ≠ [] →
        fs.entryAt? (p.foldl follow here) = some .directory :=
      fun p hp hne => absurd (List.prefix_nil.mp hp) hne
    rw [walk?, and_iff_right hno, List.foldl_nil]
  | name :: rest, here => by
    have ih := @walk?_eq_some_iff rest (follow here name)
    rw [walk?]
    constructor
    · intro h
      split at h
      · next hdir =>
        obtain ⟨hall, hend⟩ := ih.mp h
        refine ⟨fun p hp hne => ?_, hend⟩
        cases p with
        | nil => exact hdir
        | cons x p =>
          obtain ⟨rfl, hrest⟩ := List.cons_prefix_cons.mp hp
          exact hall p hrest fun h => hne (congrArg _ h)
      · cases h
    · rintro ⟨hall, hend⟩
      have hdir : fs.entryAt? here = some .directory :=
        hall [] (List.nil_prefix) (List.cons_ne_nil _ _).symm
      simp only [hdir]
      refine ih.mpr ⟨fun p hp hne => ?_, hend⟩
      exact hall (name :: p) (List.cons_prefix_cons.mpr ⟨rfl, hp⟩)
        fun h => hne (List.cons.inj h).2

/-- **What is at a location** that can be reached is what is at its plain form. -/
theorem entry?_eq_some_iff :
    fs.entry? l = some e ↔ fs.LeadsTo l ∧ fs.entryAt? (plain l) = some e := walk?_eq_some_iff

theorem entry?_of_leadsTo (h : fs.LeadsTo l) : fs.entry? l = fs.entryAt? (plain l) :=
  Option.ext fun _ => entry?_eq_some_iff.trans (and_iff_right h)

theorem content?_eq_some_iff : fs.content? l = some content ↔
    fs.LeadsTo l ∧ fs.entryAt? (plain l) = some (.file content) := by
  rw [← entry?_eq_some_iff, content?]
  split
  · next c h => rw [h, Option.some.injEq, Option.some.injEq, Entry.file.injEq]
  · next h =>
    constructor
    · intro hnone
      cases hnone
    · exact fun hfile => absurd hfile (h content)

theorem leadsTo_append_iff {name : String} :
    fs.LeadsTo (l ++ [name]) ↔ fs.entry? l = some .directory := by
  rw [entry?_eq_some_iff]
  constructor
  · intro h
    have hbelow : ∀ p, p <+: l → fs.entryAt? (plain p) = some .directory := fun p hp => by
      refine h p (hp.trans (List.prefix_append _ _)) fun heq => ?_
      have hle := hp.length_le
      rw [heq, List.length_append, List.length_singleton] at hle
      omega
    exact ⟨fun p hp _ => hbelow p hp, hbelow l List.prefix_rfl⟩
  · rintro ⟨hway, hend⟩ p hp hne
    rcases List.prefix_concat_iff.mp hp with heq | hp
    · exact absurd heq hne
    · by_cases heq : p = l
      · rw [heq]
        exact hend
      · exact hway p hp heq

theorem leadsTo_of_parent (h : fs.entry? (parent l) = some .directory) : fs.LeadsTo l := by
  rcases List.eq_nil_or_concat l with rfl | ⟨above, name, rfl⟩
  · exact fun p hp hne => absurd (List.prefix_nil.mp hp) hne
  · rw [List.concat_eq_append] at h ⊢
    rw [parent, List.dropLast_concat] at h
    exact leadsTo_append_iff.mpr h

/-! ### Changes -/

/-- **What may become of an entry** where a file may be written, or a directory be made. A directory
stays one, and a directory is only made where nothing was. -/
inductive Change (written made : Prop) : Option Entry → Option Entry → Prop
  | same {e : Option Entry} : Change written made e e
  | wrote {e : Option Entry} {content : Wire.Bytes} : written → e ≠ some .directory →
      Change written made e (some (.file content))
  | built : made → Change written made none (some .directory)

namespace Change

variable {written made written' made' : Prop} {a b c : Option Entry}

theorem trans (h : Change written made a b) (h' : Change written made b c) :
    Change written made a c := by
  cases h with
  | same => exact h'
  | wrote hw hne =>
    cases h' with
    | same => exact .wrote hw hne
    | wrote hw' _ => exact .wrote hw' hne
  | built hm =>
    cases h' with
    | same => exact .built hm
    | wrote _ hne => exact absurd rfl hne

theorem mono (h : Change written made a b) (hw : written → written') (hm : made → made') :
    Change written' made' a b := by
  cases h with
  | same => exact .same
  | wrote h hne => exact .wrote (hw h) hne
  | built h => exact .built (hm h)

theorem directory (h : Change written made (some .directory) b) : b = some .directory := by
  cases h with
  | same => rfl
  | wrote _ hne => exact absurd rfl hne

/-- Where no file is written, there are the same files. -/
theorem file_iff (h : Change written made a b) (hw : ¬ written) :
    b = some (.file content) ↔ a = some (.file content) := by
  cases h with
  | same => exact Iff.rfl
  | wrote h _ => exact absurd h hw
  | built => simp

end Change

/-- **The second tree is the first** up to files written at some locations and directories made at
others. -/
def Changes (written made : Location → Prop) (fs fs' : FileSystem) : Prop :=
  ∀ l, Change (written l) (made l) (fs.entryAt? l) (fs'.entryAt? l)

/-- No location. -/
def nowhere : Location → Prop := fun _ => False

namespace Changes

variable {written made written' made' : Location → Prop}

theorem refl (written made : Location → Prop) (fs : FileSystem) : Changes written made fs fs :=
  fun _ => .same

theorem trans (h : Changes written made fs fs') (h' : Changes written made fs' fs'') :
    Changes written made fs fs'' := fun l => (h l).trans (h' l)

theorem mono (h : Changes written made fs fs') (hw : ∀ l, written l → written' l)
    (hm : ∀ l, made l → made' l) : Changes written' made' fs fs' :=
  fun l => (h l).mono (hw l) (hm l)

/-- What can be reached can be reached after a change. -/
theorem leadsTo (h : Changes written made fs fs') (hl : fs.LeadsTo l) : fs'.LeadsTo l := by
  intro p hp hne
  have hchange := h (plain p)
  rw [hl p hp hne] at hchange
  exact hchange.directory

theorem isDirectory (h : Changes written made fs fs') (hl : fs.entry? l = some .directory) :
    fs'.entry? l = some .directory := by
  obtain ⟨hway, hend⟩ := entry?_eq_some_iff.mp hl
  have hchange := h (plain l)
  rw [hend] at hchange
  exact entry?_eq_some_iff.mpr ⟨h.leadsTo hway, hchange.directory⟩

/-- **A file stays as it is** where none is written. -/
theorem content? (h : Changes written made fs fs') (hw : ¬ written (plain l))
    (hl : fs.content? l = some content) : fs'.content? l = some content := by
  obtain ⟨hway, hend⟩ := content?_eq_some_iff.mp hl
  exact content?_eq_some_iff.mpr ⟨h.leadsTo hway, ((h (plain l)).file_iff hw).mpr hend⟩

end Changes

theorem entryAt?_put (fs : FileSystem) (l x : Location) (e : Entry) :
    (fs.put l e).entryAt? x = if x = plain l ∧ x ≠ [] then some e else fs.entryAt? x := by
  unfold entryAt? put
  by_cases hnil : x = []
  · subst hnil
    simp
  · have hempty : x.isEmpty = false := by simpa using hnil
    simp only [hempty, Bool.false_eq_true, if_false, Ordered.lookup_insert, ne_eq, hnil,
      not_false_eq_true, and_true]

/-- An entry put at a location is there, unless the location is the root. -/
theorem entryAt?_put_self (h : fs.entryAt? (plain l) ≠ some .directory) :
    (fs.put l e).entryAt? (plain l) = some e := by
  have hne : plain l ≠ [] := by
    intro hnil
    rw [hnil] at h
    exact h rfl
  rw [entryAt?_put, if_pos ⟨rfl, hne⟩]

theorem changes_put_file (content : Wire.Bytes) (h : fs.entryAt? (plain l) ≠ some .directory) :
    Changes (· = plain l) nowhere fs (fs.put l (.file content)) := by
  intro x
  by_cases hx : x = plain l
  · subst hx
    rw [entryAt?_put_self h]
    exact .wrote rfl h
  · rw [entryAt?_put, if_neg fun h => hx h.1]
    exact .same

theorem changes_put_directory (h : fs.entryAt? (plain l) = none) :
    Changes nowhere (· = plain l) fs (fs.put l .directory) := by
  have hne : fs.entryAt? (plain l) ≠ some .directory := by
    rw [h]
    exact nofun
  intro x
  by_cases hx : x = plain l
  · subst hx
    rw [entryAt?_put_self hne, h]
    exact .built rfl
  · rw [entryAt?_put, if_neg fun h => hx h.1]
    exact .same

/-! ### Directories -/

/-- The location is one on the way to another, or that other. -/
def IsAround (l x : Location) : Prop := ∃ p, p <+: l ∧ x = plain p

theorem createBelow_spec : ∀ {names : List String} {above : Location} {built : Bool}
    {fs : FileSystem}, fs.entry? above = some .directory →
    Changes nowhere (IsAround (above ++ names)) fs (createBelow above built names fs).fs ∧
      ((createBelow above built names fs).fault = none →
        entry? (createBelow above built names fs).fs (above ++ names) = some .directory)
  | [], above, built, fs, h => by
    rw [List.append_nil, createBelow]
    exact ⟨.refl _ _ _, fun _ => h⟩
  | name :: rest, above, built, fs, h => by
    have hassoc : above ++ name :: rest = (above ++ [name]) ++ rest := by simp
    have hway : fs.LeadsTo (above ++ [name]) := leadsTo_append_iff.mpr h
    rw [createBelow]
    by_cases hlong : isLongName name
    · rw [if_pos hlong]
      exact ⟨.refl _ _ _, nofun⟩
    · rw [if_neg hlong]
      split
      · next hdir =>
        rw [hassoc]
        exact createBelow_spec hdir
      · exact ⟨.refl _ _ _, nofun⟩
      · next hnone =>
        rw [entry?_of_leadsTo hway] at hnone
        have hput := changes_put_directory hnone
        have hdir : entry? (fs.put (above ++ [name]) .directory) (above ++ [name]) =
            some .directory := by
          refine entry?_eq_some_iff.mpr ⟨hput.leadsTo hway, entryAt?_put_self ?_⟩
          rw [hnone]
          exact nofun
        obtain ⟨hchanges, hend⟩ := @createBelow_spec rest _ true _ hdir
        have hmade : ∀ x, x = plain (above ++ [name]) → IsAround ((above ++ [name]) ++ rest) x :=
          fun x hx => ⟨_, List.prefix_append _ _, hx⟩
        rw [hassoc]
        exact ⟨(hput.mono (fun _ h => h) hmade).trans hchanges, hend⟩

/-- **Directories are made around a location,** and it is one of them unless a fault stops this. -/
theorem createDirectories_spec (fs : FileSystem) (l : Location) :
    Changes nowhere (IsAround l) fs (fs.createDirectories l).fs ∧
      ((fs.createDirectories l).fault = none →
        entry? (fs.createDirectories l).fs l = some .directory) := by
  unfold createDirectories
  split
  · exact ⟨.refl _ _ _, nofun⟩
  · have hroot : fs.entry? [] = some .directory := rfl
    exact createBelow_spec hroot

/-! ### Files -/

theorem writeTo_spec (content : Wire.Bytes) (hway : fs.LeadsTo l) :
    ((fs.writeTo l content).fault ≠ none ∧ (fs.writeTo l content).fs = fs) ∨
      ((fs.writeTo l content).fault = none ∧
        Changes (· = plain l) nowhere fs (fs.writeTo l content).fs ∧
        (fs.writeTo l content).fs.content? l = some content) := by
  unfold writeTo
  split
  · exact Or.inl ⟨nofun, rfl⟩
  · split_ifs with hlong hdir
    · exact Or.inl ⟨nofun, rfl⟩
    · exact Or.inl ⟨nofun, rfl⟩
    · right
      rw [entry?_of_leadsTo hway] at hdir
      have hput := changes_put_file content hdir
      exact ⟨rfl, hput, content?_eq_some_iff.mpr ⟨hput.leadsTo hway, entryAt?_put_self hdir⟩⟩

/-- **How the writing of a file ends.** A fault leaves all files as they were; otherwise the file is
there and no other one has changed. In both cases directories may have been made around it. -/
theorem createFile_spec (fs : FileSystem) (l : Location) (content : Wire.Bytes) :
    ((fs.createFile l content).fault ≠ none ∧
        Changes nowhere (IsAround (parent l)) fs (fs.createFile l content).fs) ∨
      ((fs.createFile l content).fault = none ∧
        Changes (· = plain l) (IsAround (parent l)) fs (fs.createFile l content).fs ∧
        (fs.createFile l content).fs.content? l = some content) := by
  obtain ⟨hmade, hend⟩ := createDirectories_spec fs (parent l)
  unfold createFile Effect.andThen
  split_ifs with hfault
  · left
    refine ⟨fun hnone => ?_, hmade⟩
    rw [hnone] at hfault
    cases hfault
  · have hnone : (fs.createDirectories (parent l)).fault = none := by simpa using hfault
    have hway := leadsTo_of_parent (hend hnone)
    rcases writeTo_spec content hway with ⟨hfault, heq⟩ | ⟨hok, hwrote, hcontent⟩
    · left
      rw [heq]
      exact ⟨hfault, hmade⟩
    · right
      refine ⟨hok, (hmade.mono (fun _ h => h.elim) fun _ h => h).trans ?_, hcontent⟩
      exact hwrote.mono (fun _ h => h) fun _ h => h.elim

end Redaction.Build.FileSystem
