import Mathlib.Data.List.Nodup
import Redaction.Proofs.OptionSteps
import Redaction.Proofs.PathTexts

/-!
# Which path a crate has

Generated code reaches two other crates: the runtime library and, if it is to log, the logging
library. The path of either comes from the manifest, else from a variable of the environment
(`Environment.Names`); what is left to do when neither gives one differs.

* A dependency is a package by its own name, by the name that it was changed from, or by what the
  workspace has under that name (`Manifest.DependsOn`). The last one that is the package counts, and
  before the consuming package itself (`Manifest.Has`, `Manifest.find?_eq_some_iff`).
* The crate found is written behind `::`, and has a path if that text is one (`FoundCrate.Written`).
* The logging library found by `auto` and the runtime library follow these rules
  (`Options.auto_by_precedence`).
-/

namespace Redaction

open Code

/-! ### The last item of a list -/

section Lists

variable {α β κ : Type} [BEq κ]

theorem lookup_filterMap {f : α → Option (κ × β)} (k : κ) (as : List α) :
    (as.filterMap f).lookup k =
      as.findSome? fun a => (f a).bind fun p => if k == p.1 then some p.2 else none := by
  induction as with
  | nil => rfl
  | cons a as ih =>
    rw [List.filterMap_cons, List.findSome?_cons]
    cases f a with
    | none => exact ih
    | some p =>
      obtain ⟨k', b⟩ := p
      cases hk : k == k' with
      | true => simp [List.lookup_cons, hk]
      | false => simpa [List.lookup_cons, hk] using ih

theorem findSome?_reverse_eq_some_iff {f : α → Option β} {as : List α} {b : β} :
    as.reverse.findSome? f = some b ↔
      ∃ front a back, as = front ++ a :: back ∧ f a = some b ∧ ∀ x ∈ back, f x = none := by
  rw [List.findSome?_eq_some_iff]
  constructor
  · rintro ⟨back, a, front, has, ha, hback⟩
    refine ⟨front.reverse, a, back.reverse, ?_, ha, fun x hx => hback x (List.mem_reverse.mp hx)⟩
    rw [← List.reverse_reverse as, has]
    simp
  · rintro ⟨front, a, back, rfl, ha, hback⟩
    refine ⟨back.reverse, a, front.reverse, by simp, ha, fun x hx => ?_⟩
    exact hback x (List.mem_reverse.mp hx)

end Lists

namespace Manifest

variable {m : Manifest} {d : Dependency} {package name : String} {found : FoundCrate}
  {inTest : Bool}

/-! ### What a dependency is -/

/-- **The package that a dependency is:** its own, or the one that the workspace has for that. -/
inductive Means (m : Manifest) (d : Dependency) : String → Prop
  | direct : d.fromWorkspace = false → Means m d (packageOf d)
  | inherited {w : Dependency} : d.fromWorkspace = true → w ∈ m.workspaceDependencies →
      w.name = packageOf d → Means m d (packageOf w)
  | unlisted : d.fromWorkspace = true → (∀ w ∈ m.workspaceDependencies, w.name ≠ packageOf d) →
      Means m d (packageOf d)

/-- **The consuming package depends on a package.** What asks for the consuming package itself is no
dependency. -/
structure DependsOn (m : Manifest) (package : String) (d : Dependency) : Prop where
  isOther : m.package ≠ some (packageOf d)
  means : m.Means d package

theorem nodup_workspace (h : m.isValid) : (m.workspaceDependencies.map (·.name)).Nodup :=
  of_decide_eq_true (List.all_eq_true.mp h _ (by simp))

theorem workspacePackage?_eq_none_iff :
    m.workspacePackage? name = none ↔ ∀ w ∈ m.workspaceDependencies, w.name ≠ name := by
  simp [workspacePackage?]

theorem exists_of_workspacePackage? (h : m.workspacePackage? name = some package) :
    ∃ w ∈ m.workspaceDependencies, w.name = name ∧ packageOf w = package := by
  obtain ⟨w, hw, rfl⟩ := Option.map_eq_some_iff.mp h
  exact ⟨w, List.mem_reverse.mp (List.mem_of_find?_eq_some hw), by simpa using List.find?_some hw,
    rfl⟩

/-- Names are distinct, so that any entry of the workspace with a name is the one that counts. -/
theorem workspacePackage?_eq_some_iff (h : m.isValid) : m.workspacePackage? name = some package ↔
    ∃ w ∈ m.workspaceDependencies, w.name = name ∧ packageOf w = package := by
  refine ⟨exists_of_workspacePackage?, ?_⟩
  rintro ⟨w, hw, rfl, rfl⟩
  cases hfound : m.workspacePackage? w.name with
  | none => exact absurd rfl (workspacePackage?_eq_none_iff.mp hfound w hw)
  | some package =>
    obtain ⟨w', hw', hname, rfl⟩ := exists_of_workspacePackage? hfound
    rw [List.inj_on_of_nodup_map (nodup_workspace h) hw' hw hname]

theorem means_iff (h : m.isValid) : m.Means d package ↔ package =
    if d.fromWorkspace then (m.workspacePackage? (packageOf d)).getD (packageOf d)
    else packageOf d := by
  constructor
  · rintro (hd | ⟨hd, hw, hname⟩ | ⟨hd, hnone⟩)
    · rw [if_neg (by simp [hd])]
    · rw [if_pos hd, (workspacePackage?_eq_some_iff h).mpr ⟨_, hw, hname, rfl⟩]
      rfl
    · rw [if_pos hd, workspacePackage?_eq_none_iff.mpr hnone]
      rfl
  · rintro rfl
    cases hd : d.fromWorkspace with
    | false => exact .direct hd
    | true =>
      cases hworkspace : m.workspacePackage? (packageOf d) with
      | none => exact .unlisted hd (workspacePackage?_eq_none_iff.mp hworkspace)
      | some p =>
        obtain ⟨w, hw, hname, rfl⟩ := (workspacePackage?_eq_some_iff h).mp hworkspace
        exact .inherited hd hw hname

theorem resolve_eq_some_iff (h : m.isValid) : m.resolve d = some (package, found) ↔
    m.DependsOn package d ∧ found = .named (crateName d.name) := by
  unfold resolve
  by_cases hself : m.package = some (packageOf d)
  · rw [if_pos hself]
    exact iff_of_false (by simp) fun hd => hd.1.isOther hself
  · rw [if_neg hself]
    simp only [Option.some.injEq, Prod.mk.injEq]
    rw [eq_comm, ← means_iff h]
    exact ⟨fun ⟨hp, hf⟩ => ⟨⟨hself, hp⟩, hf.symm⟩, fun ⟨hd, hf⟩ => ⟨hd.means, hf.symm⟩⟩

/-! ### What the manifest has -/

/-- **The manifest has a package:** the last of the dependencies that are this package counts, and
without one the consuming package, which is a crate like others for a test of its own. -/
inductive Has (m : Manifest) (inTest : Bool) (package : String) : FoundCrate → Prop
  | dependency {front back : List Dependency} {d : Dependency} :
      m.allDependencies = front ++ d :: back → m.DependsOn package d →
      (∀ d' ∈ back, ¬ m.DependsOn package d') → Has m inTest package (.named (crateName d.name))
  | itself : (∀ d ∈ m.allDependencies, ¬ m.DependsOn package d) → m.package = some package →
      inTest = false → Has m inTest package .itself
  | tested : (∀ d ∈ m.allDependencies, ¬ m.DependsOn package d) → m.package = some package →
      inTest = true → Has m inTest package (.named (crateName package))

/-- What the manifest has for a package by a dependency alone. -/
def foundBy (m : Manifest) (package : String) (d : Dependency) : Option FoundCrate :=
  (m.resolve d).bind fun p => if package == p.1 then some p.2 else none

theorem foundBy_eq_some_iff (h : m.isValid) : m.foundBy package d = some found ↔
    m.DependsOn package d ∧ found = .named (crateName d.name) := by
  rw [← resolve_eq_some_iff h, foundBy, Option.bind_eq_some_iff]
  constructor
  · rintro ⟨⟨package', found'⟩, hresolve, hfound⟩
    rw [Option.ite_none_right_eq_some, beq_iff_eq] at hfound
    obtain ⟨rfl, hfound⟩ := hfound
    exact hresolve.trans (congrArg (fun c => some (package, c)) (Option.some.inj hfound))
  · exact fun hresolve => ⟨_, hresolve, by simp⟩

theorem foundBy_eq_none_iff (h : m.isValid) :
    m.foundBy package d = none ↔ ¬ m.DependsOn package d := by
  rw [Option.eq_none_iff_forall_ne_some]
  simp only [ne_eq, foundBy_eq_some_iff h, not_and]
  exact ⟨fun hall hd => hall _ hd rfl, fun hd _ hd' => absurd hd' hd⟩

theorem lookup_own : (m.own inTest).reverse.lookup package = some found ↔
    m.package = some package ∧ found = if inTest then .named (crateName package) else .itself := by
  unfold own
  split
  · next hnone => simp [hnone]
  · next name hname =>
    rw [hname]
    by_cases heq : package = name
    · subst heq
      simp [eq_comm]
    · rw [List.reverse_singleton, List.lookup_cons, beq_eq_false_iff_ne.mpr heq]
      simp [Ne.symm heq]

/-- Dependencies are asked from the last one on, and then the consuming package. -/
theorem find?_eq : m.find? inTest package =
    (m.allDependencies.reverse.findSome? (m.foundBy package)).or
      ((m.own inTest).reverse.lookup package) := by
  rw [find?, packages, List.reverse_append, List.lookup_append, ← List.filterMap_reverse,
    lookup_filterMap]
  rfl

theorem lookup_dependencies_eq_none_iff (h : m.isValid) :
    m.allDependencies.reverse.findSome? (m.foundBy package) = none ↔
      ∀ d ∈ m.allDependencies, ¬ m.DependsOn package d := by
  simp only [List.findSome?_eq_none_iff, List.mem_reverse, foundBy_eq_none_iff h]

/-- **The crate found** is the one that the manifest has for the package. -/
theorem find?_eq_some_iff (h : m.isValid) :
    m.find? inTest package = some found ↔ m.Has inTest package found := by
  rw [find?_eq, Option.or_eq_some_iff, findSome?_reverse_eq_some_iff,
    lookup_dependencies_eq_none_iff h, lookup_own]
  simp only [foundBy_eq_some_iff h, foundBy_eq_none_iff h]
  constructor
  · rintro (⟨front, d, back, hall, ⟨hd, rfl⟩, hback⟩ | ⟨hnone, hpackage, rfl⟩)
    · exact .dependency hall hd hback
    · cases inTest with
      | false => exact .itself hnone hpackage rfl
      | true => exact .tested hnone hpackage rfl
  · rintro (⟨hall, hd, hback⟩ | ⟨hnone, hpackage, rfl⟩ | ⟨hnone, hpackage, rfl⟩)
    · exact .inl ⟨_, _, _, hall, ⟨hd, rfl⟩, hback⟩
    · exact .inr ⟨hnone, hpackage, rfl⟩
    · exact .inr ⟨hnone, hpackage, rfl⟩

/-- **No crate is found** for a package that is neither a dependency nor the consuming package. -/
theorem find?_eq_none_iff (h : m.isValid) : m.find? inTest package = none ↔
    (∀ d ∈ m.allDependencies, ¬ m.DependsOn package d) ∧ m.package ≠ some package := by
  have hown : (m.own inTest).reverse.lookup package = none ↔ m.package ≠ some package := by
    rw [Option.eq_none_iff_forall_ne_some]
    simp only [ne_eq, lookup_own, not_and]
    exact ⟨fun hall hpackage => hall _ hpackage rfl, fun hne _ hpackage => absurd hpackage hne⟩
  rw [find?_eq, Option.or_eq_none_iff, lookup_dependencies_eq_none_iff h, hown]

end Manifest

/-! ### Crates and environments -/

namespace FoundCrate

variable {found : FoundCrate} {path : Path} {f : Failure}

/-- **The path of a crate found.** A crate with a name has one if `::` and the name are a path. -/
inductive Written : FoundCrate → Path → Prop
  | itself : Written .itself .ownCrate
  | named {name : String} : Path.ofText? ("::" ++ name) = some (.ofCrate name) →
      Written (.named name) (.ofCrate name)

theorem path_eq_ok_iff : found.path = .ok path ↔ found.Written path := by
  unfold FoundCrate.path
  split
  · exact ⟨fun h => Except.ok.inj h ▸ .itself, fun h => by cases h; rfl⟩
  · split_ifs with hname
    · have htext := Path.ofText?_colons_eq_some_iff.mpr hname
      exact ⟨fun h => Except.ok.inj h ▸ .named htext, fun h => by cases h; rfl⟩
    · refine ⟨(nomatch ·), fun h => ?_⟩
      cases h with
      | named htext => exact absurd (Path.ofText?_colons_eq_some_iff.mp htext) hname

theorem path_eq_error_iff :
    found.path = .error f ↔ (∀ path, ¬ found.Written path) ∧ f = .unnameable := by
  simp only [← path_eq_ok_iff]
  unfold FoundCrate.path
  split
  · simp
  · split_ifs <;> simp [eq_comm]

end FoundCrate

namespace Environment

variable {e : Environment} {package : String} {found : FoundCrate}

/-- **The manifest, if it can be read, has a package.** -/
def Reaches (e : Environment) (package : String) (found : FoundCrate) : Prop :=
  ∃ m, e.manifest = some m ∧ m.isValid ∧ m.Has e.inTest package found

/-- **There is no manifest that can be read and has a package.** -/
def Lacks (e : Environment) (package : String) : Prop :=
  ∀ m, e.manifest = some m → m.isValid →
    (∀ d ∈ m.allDependencies, ¬ m.DependsOn package d) ∧ m.package ≠ some package

theorem find?_eq_some_iff : e.find? package = some found ↔ e.Reaches package found := by
  unfold find?
  rw [Option.bind_eq_some_iff]
  simp only [Option.filter_eq_some_iff, and_assoc]
  refine exists_congr fun m => and_congr_right fun _ => and_congr_right fun h => ?_
  exact Manifest.find?_eq_some_iff h

theorem find?_eq_none_iff : e.find? package = none ↔ e.Lacks package := by
  unfold find?
  rw [Option.bind_eq_none_iff]
  simp only [Option.filter_eq_some_iff, and_imp]
  refine forall_congr' fun m => imp_congr_right fun _ => imp_congr_right fun h => ?_
  exact Manifest.find?_eq_none_iff h

/-- **The path that a package has by precedence:** that of the crate in the manifest, else what its
variable writes. -/
inductive Names (e : Environment) (package : String) (value : Option String) : Path → Prop
  | ofManifest {found : FoundCrate} {path : Path} : e.Reaches package found → found.Written path →
      Names e package value path
  | ofVariable {text : String} {path : Path} : e.Lacks package → value = some text →
      e.readPath? text = some path → Names e package value path

/-- **The manifest has the package, under a name of which there is no path.** -/
def Misnames (e : Environment) (package : String) : Prop :=
  ∃ found, e.Reaches package found ∧ ∀ path, ¬ found.Written path

variable {value : Option String} {path : Path} {f : Failure}

/-! A package is in the manifest, as one crate, or it is not. -/

theorem not_lacks (h : e.find? package = some found) : ¬ e.Lacks package := fun hlacks => by
  rw [find?_eq_none_iff.mpr hlacks] at h
  cases h

theorem not_reaches (h : e.Lacks package) : ¬ e.Reaches package found := fun hreaches =>
  not_lacks (find?_eq_some_iff.mpr hreaches) h

theorem eq_of_reaches {found' : FoundCrate} (h : e.find? package = some found)
    (hreaches : e.Reaches package found') : found' = found :=
  Option.some.inj ((find?_eq_some_iff.mpr hreaches).symm.trans h)

theorem names_iff_written (h : e.find? package = some found) :
    e.Names package value path ↔ found.Written path := by
  constructor
  · rintro (⟨hreaches, hwritten⟩ | ⟨hlacks, -, -⟩)
    · exact eq_of_reaches h hreaches ▸ hwritten
    · exact absurd hlacks (not_lacks h)
  · exact .ofManifest (find?_eq_some_iff.mp h)

theorem names_iff_bind (h : e.Lacks package) :
    e.Names package value path ↔ value.bind e.readPath? = some path := by
  rw [Option.bind_eq_some_iff]
  constructor
  · rintro (⟨hreaches, -⟩ | ⟨-, hvalue, htext⟩)
    · exact absurd hreaches (not_reaches h)
    · exact ⟨_, hvalue, htext⟩
  · rintro ⟨text, hvalue, htext⟩
    exact .ofVariable h hvalue htext

theorem misnames_iff (h : e.find? package = some found) :
    e.Misnames package ↔ ∀ path, ¬ found.Written path := by
  constructor
  · rintro ⟨found', hreaches, hno⟩
    exact eq_of_reaches h hreaches ▸ hno
  · exact fun hno => ⟨found, find?_eq_some_iff.mp h, hno⟩

theorem not_misnames (h : e.Lacks package) : ¬ e.Misnames package := by
  rintro ⟨found, hreaches, -⟩
  exact not_reaches h hreaches

/-! ### The two libraries -/

theorem runtimePath_eq_ok_iff : e.runtimePath = .ok path ↔
    e.Names "protoredact" e.runtimeCrate path ∨
      e.Lacks "protoredact" ∧ e.runtimeCrate.bind e.readPath? = none ∧ path = usualRuntime := by
  unfold runtimePath
  split
  · next found hfound =>
    rw [FoundCrate.path_eq_ok_iff, names_iff_written hfound]
    exact (or_iff_left fun h => not_lacks hfound h.1).symm
  · next hnone =>
    have hlacks := find?_eq_none_iff.mp hnone
    rw [names_iff_bind hlacks]
    cases e.runtimeCrate.bind e.readPath? with
    | none => simp [hlacks, eq_comm]
    | some p => simp

theorem runtimePath_eq_error_iff :
    e.runtimePath = .error f ↔ e.Misnames "protoredact" ∧ f = .unnameable := by
  unfold runtimePath
  split
  · next found hfound => rw [FoundCrate.path_eq_error_iff, misnames_iff hfound]
  · next hnone =>
    exact iff_of_false (by simp) fun h => not_misnames (find?_eq_none_iff.mp hnone) h.1

/-- **Why the logging library is not found:** its variable is asked for and writes no path, or
nothing says where it is, or the manifest has a name for it of which there is no path. -/
inductive LogFailure (e : Environment) : Failure → Prop
  | notPath {text : String} : e.Lacks "slog" → e.logCrate = some text → e.readPath? text = none →
      LogFailure e (.refused (.invalidParameter "PROTOREDACT_SLOG_CRATE" (.notPath text)))
  | noLogCrate : e.Lacks "slog" → e.logCrate = none →
      LogFailure e (.refused (.invalidParameter "slog_crate" .noLogCrate))
  | unnameable : e.Misnames "slog" → LogFailure e .unnameable

end Environment

namespace Options

variable {e : Environment} {path : Path} {f : Failure}

theorem detectLog_eq_ok_iff : detectLog e = .ok path ↔ e.Names "slog" e.logCrate path := by
  unfold detectLog
  split
  · next found hfound => rw [FoundCrate.path_eq_ok_iff, Environment.names_iff_written hfound]
  · next hnone =>
    rw [Environment.names_iff_bind (Environment.find?_eq_none_iff.mp hnone)]
    cases e.logCrate with
    | none => simp [invalid]
    | some text =>
      show readPath e _ text = _ ↔ e.readPath? text = _
      unfold readPath
      cases e.readPath? text <;> simp [invalid]

theorem detectLog_eq_error_iff : detectLog e = .error f ↔ e.LogFailure f := by
  constructor
  · intro h
    unfold detectLog at h
    split at h
    · next found hfound =>
      obtain ⟨hno, rfl⟩ := FoundCrate.path_eq_error_iff.mp h
      exact .unnameable ((Environment.misnames_iff hfound).mpr hno)
    · next hnone =>
      have hlacks := Environment.find?_eq_none_iff.mp hnone
      split at h
      · next text hvalue =>
        unfold readPath at h
        split at h
        · cases h
        · next htext =>
          rw [← Except.error.inj h]
          exact .notPath hlacks hvalue htext
      · next hvalue =>
        rw [← Except.error.inj h]
        exact .noLogCrate hlacks hvalue
  · rintro (⟨hlacks, hvalue, htext⟩ | ⟨hlacks, hvalue⟩ | ⟨found, hreaches, hno⟩)
    · simp only [detectLog, Environment.find?_eq_none_iff.mpr hlacks, hvalue, readPath, htext]
      rfl
    · simp only [detectLog, Environment.find?_eq_none_iff.mpr hlacks, hvalue]
      rfl
    · simp only [detectLog, Environment.find?_eq_some_iff.mpr hreaches]
      exact FoundCrate.path_eq_error_iff.mpr ⟨hno, rfl⟩

theorem set_auto (e : Environment) (o : Options) : set e "slog_crate" (some "auto") o =
    (detectLog e).map fun path => { o with log := some path } := by
  rw [set_eq]
  show ((detectLog e).map _).map _ = _
  cases detectLog e <;> rfl

/-- **The logging library by `auto` and the runtime library follow one precedence:** the crate that
the manifest has for the package, else the path in its variable. If neither is there, the logging
library is refused, and so is a variable that writes no path; the runtime library has its usual
path then. A crate whose name is none of a path ends the run. -/
theorem auto_by_precedence (e : Environment) :
    (∀ o o', set e "slog_crate" (some "auto") o = .ok o' ↔
        ∃ path, e.Names "slog" e.logCrate path ∧ o' = { o with log := some path }) ∧
      (∀ o f, set e "slog_crate" (some "auto") o = .error f ↔ e.LogFailure f) ∧
      (∀ path, e.runtimePath = .ok path ↔ e.Names "protoredact" e.runtimeCrate path ∨
        e.Lacks "protoredact" ∧ e.runtimeCrate.bind e.readPath? = none ∧
          path = Environment.usualRuntime) ∧
      ∀ f, e.runtimePath = .error f ↔ e.Misnames "protoredact" ∧ f = .unnameable := by
  refine ⟨fun o o' => ?_, fun o f => ?_, fun _ => Environment.runtimePath_eq_ok_iff,
    fun _ => Environment.runtimePath_eq_error_iff⟩
  · rw [set_auto, map_eq_ok]
    exact exists_congr fun path => and_congr detectLog_eq_ok_iff eq_comm
  · rw [set_auto, ← detectLog_eq_error_iff]
    cases detectLog e <;> simp [Except.map]

/-- Two dependencies are the logging library: one that the workspace has, and one for development
that was renamed. The one that has its name is not. -/
def renamedEnvironment : Environment where
  logCrate := some "my_log::slog"
  manifest := some {
    package := some "app"
    dependencies := [⟨"slog", some "not-slog", false⟩, ⟨"lg", none, true⟩]
    devDependencies := [⟨"my-slog", some "slog", false⟩]
    workspaceDependencies := [⟨"lg", some "slog", false⟩] }

theorem auto_by_precedence_renamed :
    renamedEnvironment.Reaches "slog" (.named "my_slog") ∧
      set renamedEnvironment "slog_crate" (some "auto") ⟨Environment.usualRuntime, none, false⟩ =
        .ok ⟨Environment.usualRuntime, some (.ofCrate "my_slog"), false⟩ := by
  have hreaches : renamedEnvironment.Reaches "slog" (.named "my_slog") :=
    Environment.find?_eq_some_iff.mp (by decide)
  refine ⟨hreaches, ((auto_by_precedence renamedEnvironment).1 _ _).mpr ⟨_, ?_, rfl⟩⟩
  exact .ofManifest hreaches (.named (Path.ofText?_colons_eq_some_iff.mpr (by decide)))

example : detectLog { logCrate := some "logs<u8>::slog" } =
    .ok ⟨false, [⟨"logs", ["<", "u8", ">"]⟩, ⟨"slog", []⟩]⟩ := by decide +kernel

/-- **The logging library has no usual path:** without a manifest and a variable, `auto` is refused.
And a crate can have a name of which there is no path. -/
theorem exists_auto_refused :
    (∃ e o, Environment.Lacks e "slog" ∧ e.logCrate = none ∧
      set e "slog_crate" (some "auto") o =
        .error (.refused (.invalidParameter "slog_crate" .noLogCrate)) ∧
      set e "slog_crate" (some "auto") o ≠ .ok { o with log := some (.ofCrate "slog") }) ∧
    ∃ e o, Environment.Reaches e "slog" (.named "fn") ∧
      set e "slog_crate" (some "auto") o = .error .unnameable := by
  let o : Options := ⟨Environment.usualRuntime, none, false⟩
  refine ⟨⟨{}, o, fun _ h => (nomatch h), rfl, rfl, (nomatch ·)⟩, ?_⟩
  refine ⟨{ manifest := some { dependencies := [⟨"fn", some "slog", false⟩] } }, o, ?_, rfl⟩
  exact Environment.find?_eq_some_iff.mp (by decide)

end Options

end Redaction
