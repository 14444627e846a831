import Mathlib.Data.List.Induction
import Redaction.Options.Settings
import Redaction.Proofs.Results

/-!
# Options, step by step

A key and a value say what one option is to be, or why not (`readSetting`); what the options are
before has no part in it. So setting an option changes that option alone, and a refused step, even
one that works on options in place (`assign`), changes none. After any steps, an option is what the
last step for its key wrote that was not refused (`get?_run`).

The pairs of a parameter are those in front of a comma and those behind it (`readParameter_append`),
so that a parameter is processed piece by piece; the first pair that is refused ends it
(`setAll_eq_error_iff`).
-/

namespace Redaction.Options

open Code

variable {e : Environment} {o o' : Options} {f : Failure}

/-! ### One option -/

/-- **One option and what it is set to.** -/
inductive Setting where
  | runtime (path : Path)
  | log (path : Path)
  | strict (b : Bool)
deriving DecidableEq

/-- The key of the option. -/
def Setting.key : Setting → String
  | runtime _ => "runtime_crate"
  | log _ => "slog_crate"
  | strict _ => "strict_masks"

/-- The options with one of them as it is set. -/
def Setting.apply (s : Setting) (o : Options) : Options :=
  match s with
  | runtime path => { o with runtime := path }
  | log path => { o with log := some path }
  | strict b => { o with strict := b }

/-- **What the option with a key is set to,** if there is one and it is set. -/
def get? (o : Options) (key : String) : Option Setting :=
  match key with
  | "runtime_crate" => some (.runtime o.runtime)
  | "slog_crate" => o.log.map .log
  | "strict_masks" => some (.strict o.strict)
  | _ => none

/-- The logging library that a value names, or that is found. -/
def readLog (e : Environment) (value : String) : Except Failure Path :=
  if value = "auto" then detectLog e else readPath e "slog_crate" value

/-- Whether masks are to be strict. -/
def readStrict : Option String → Except Failure Bool
  | none | some "true" => .ok true
  | some "false" => .ok false
  | some other => invalid "strict_masks" (.notBoolean other)

/-- **What a key and a value set,** or why they are refused. -/
def readSetting (e : Environment) (key : String) (value : Option String) : Except Failure Setting :=
  match key with
  | "runtime_crate" => (required key value >>= readPath e key).map .runtime
  | "slog_crate" => (required key value >>= readLog e).map .log
  | "strict_masks" => (readStrict value).map .strict
  | _ => invalid key .unknownOption

variable {key : String} {value : Option String}

theorem readSetting_of_unknown (hruntime : key ≠ "runtime_crate") (hlog : key ≠ "slog_crate")
    (hstrict : key ≠ "strict_masks") : readSetting e key value = invalid key .unknownOption := by
  rw [readSetting]
  · exact hruntime
  · exact hlog
  · exact hstrict

/-- **What is refused, and what is set, does not depend on the options before.** -/
theorem set_eq (e : Environment) (key : String) (value : Option String) (o : Options) :
    set e key value o = (readSetting e key value).map (·.apply o) := by
  unfold set
  split
  · rw [readSetting]
    cases required "runtime_crate" value with
    | error f => rfl
    | ok text =>
      show readPath e "runtime_crate" text >>= _ = ((readPath e "runtime_crate" text).map _).map _
      cases readPath e "runtime_crate" text <;> rfl
  · rw [readSetting]
    cases required "slog_crate" value with
    | error f => rfl
    | ok text =>
      show (if text = "auto" then _ else _) = ((readLog e text).map _).map _
      unfold readLog
      split_ifs
      · cases detectLog e <;> rfl
      · cases readPath e "slog_crate" text <;> rfl
  · rw [readSetting]
    split
    · rfl
    · rfl
    · rfl
    · next hne hne' =>
      rw [readStrict]
      · rfl
      · exact hne
      · exact hne'
  · next hruntime hlog hstrict =>
    rw [readSetting_of_unknown hruntime hlog hstrict]
    rfl

theorem readSetting_of_set_error (h : set e key value o = .error f) :
    readSetting e key value = .error f := by
  rw [set_eq] at h
  cases hread : readSetting e key value with
  | error g =>
    rw [hread] at h
    exact congrArg _ (Except.error.inj h)
  | ok s =>
    rw [hread] at h
    cases h

theorem key_of_readSetting {s : Setting} (h : readSetting e key value = .ok s) : s.key = key := by
  unfold readSetting at h
  split at h
  · obtain ⟨a, -, rfl⟩ := map_eq_ok.mp h
    rfl
  · obtain ⟨a, -, rfl⟩ := map_eq_ok.mp h
    rfl
  · obtain ⟨a, -, rfl⟩ := map_eq_ok.mp h
    rfl
  · cases h

/-- **One option changes,** and the others do not. -/
theorem get?_apply (s : Setting) (o : Options) (key : String) :
    (s.apply o).get? key = if key = s.key then some s else o.get? key := by
  by_cases hkey : key = s.key
  · subst hkey
    rw [if_pos rfl]
    cases s <;> rfl
  · rw [if_neg hkey]
    cases s <;> unfold get? <;> split <;> first | rfl | exact absurd rfl hkey

/-- What a key and a value set is what the option with that key is then set to. -/
theorem exists_readSetting_of_set (h : set e key value o = .ok o') :
    ∃ s, readSetting e key value = .ok s ∧ o'.get? key = some s ∧
      ∀ k ≠ key, o'.get? k = o.get? k := by
  rw [set_eq, map_eq_ok] at h
  obtain ⟨s, hs, rfl⟩ := h
  have hkey : s.key = key := key_of_readSetting hs
  refine ⟨s, hs, ?_, fun k hk => ?_⟩
  · rw [get?_apply, if_pos hkey.symm]
  · rw [get?_apply, if_neg (hkey ▸ hk)]

/-! ### Steps in place -/

/-- **Sets one option in place.** -/
def assign (e : Environment) (key : String) (value : Option String) :
    ExceptT Failure (StateM Options) Unit := do
  match key with
  | "runtime_crate" =>
    let path ← liftM (required key value >>= readPath e key)
    modify fun o => { o with runtime := path }
  | "slog_crate" =>
    let path ← liftM (required key value >>= readLog e)
    modify fun o => { o with log := some path }
  | "strict_masks" =>
    let b ← liftM (readStrict value)
    modify fun o => { o with strict := b }
  | _ => liftM (invalid key .unknownOption : Except Failure Unit)

/-- **A refused step changes nothing,** though it works in place. -/
theorem run_assign (e : Environment) (key : String) (value : Option String) (o : Options) :
    (assign e key value).run.run o =
      match set e key value o with
      | .ok o' => (.ok (), o')
      | .error f => (.error f, o) := by
  rw [set_eq]
  unfold assign
  split
  · rw [readSetting]
    cases required "runtime_crate" value >>= readPath e "runtime_crate" <;> rfl
  · rw [readSetting]
    cases required "slog_crate" value >>= readLog e <;> rfl
  · rw [readSetting]
    cases readStrict value <;> rfl
  · next hruntime hlog hstrict =>
    rw [readSetting_of_unknown hruntime hlog hstrict]
    rfl

/-- **The options after steps,** some of which may be refused. -/
def run (e : Environment) (steps : List (String × Option String)) (o : Options) : Options :=
  steps.foldl (fun o step => ((assign e step.1 step.2).run.run o).2) o

/-- What a step writes for a key, unless it is refused or has another key. -/
def written? (e : Environment) (key : String) (step : String × Option String) : Option Setting :=
  if step.1 = key then (readSetting e step.1 step.2).toOption else none

/-- A step writes for its key, and for no other. -/
theorem get?_assign (e : Environment) (step : String × Option String) (o : Options)
    (key : String) :
    (((assign e step.1 step.2).run.run o).2).get? key = (written? e key step).or (o.get? key) := by
  rw [run_assign, set_eq, written?]
  cases h : readSetting e step.1 step.2 with
  | error f => split_ifs <;> rfl
  | ok s =>
    show (s.apply o).get? key = _
    rw [get?_apply, key_of_readSetting h]
    by_cases hkey : key = step.1
    · rw [if_pos hkey, if_pos hkey.symm]
      rfl
    · rw [if_neg hkey, if_neg (Ne.symm hkey)]
      rfl

/-- **An option is what the last step for its key wrote that was not refused,** and without such a
step what it was before. -/
theorem get?_run (e : Environment) (steps : List (String × Option String)) (o : Options)
    (key : String) :
    (run e steps o).get? key = (steps.reverse.findSome? (written? e key)).or (o.get? key) := by
  induction steps using List.reverseRecOn with
  | nil => rfl
  | append_singleton steps step ih =>
    have hrun : run e (steps ++ [step]) o =
        ((assign e step.1 step.2).run.run (run e steps o)).2 := List.foldl_concat ..
    rw [hrun, get?_assign, ih, List.reverse_concat, List.findSome?_cons]
    cases written? e key step <;> rfl

/-! ### Parameters -/

/-- A comma separates the pairs in front of it from those behind it. -/
theorem readParameter_append (a b : String) :
    readParameter (a ++ "," ++ b) = readParameter a ++ readParameter b := by
  have hsplit : (a ++ "," ++ b).toList.splitOn ',' =
      a.toList.splitOn ',' ++ b.toList.splitOn ',' := by
    rw [String.toList_append, String.toList_append, List.append_assoc]
    exact List.splitOnP_append_cons _ _ (beq_self_eq_true _)
  rw [readParameter, hsplit, List.map_append, List.filter_append, List.map_append]
  rfl

theorem setAll_append (ps qs : List (String × Option String)) (o : Options) :
    setAll e (ps ++ qs) o = setAll e ps o >>= setAll e qs := by
  induction ps generalizing o with
  | nil => rfl
  | cons p ps ih =>
    rw [List.cons_append, setAll, setAll, bind_assoc]
    exact congrArg _ (funext fun o' => ih o')

/-- **Processing ends at the first pair that is refused,** with its error. -/
theorem setAll_eq_error_iff {pairs : List (String × Option String)} :
    setAll e pairs o = .error f ↔ ∃ front key value back o', pairs = front ++ (key, value) :: back ∧
      setAll e front o = .ok o' ∧ set e key value o' = .error f := by
  constructor
  · intro h
    induction pairs generalizing o with
    | nil => cases h
    | cons p pairs ih =>
      rw [setAll] at h
      cases hset : set e p.1 p.2 o with
      | error g =>
        rw [hset] at h
        obtain rfl : g = f := Except.error.inj h
        exact ⟨[], p.1, p.2, pairs, o, rfl, rfl, hset⟩
      | ok next =>
        rw [hset] at h
        obtain ⟨front, key, value, back, o', rfl, hfront, herror⟩ := ih h
        refine ⟨p :: front, key, value, back, o', rfl, ?_, herror⟩
        rw [setAll, hset]
        exact hfront
  · rintro ⟨front, key, value, back, o', rfl, hfront, herror⟩
    rw [setAll_append, hfront]
    show setAll e ((key, value) :: back) o' = .error f
    rw [setAll, herror]
    rfl

theorem ofParameter_append (a b : String) : ofParameter e (some (a ++ "," ++ b)) =
    ofParameter e (some a) >>= setAll e (readParameter b) := by
  unfold ofParameter
  rw [bind_assoc]
  refine congrArg _ (funext fun o => ?_)
  show setAll e (readParameter (a ++ "," ++ b)) o = setAll e (readParameter a) o >>= _
  rw [readParameter_append, setAll_append]

/-- **A parameter is processed piece by piece, and options step by step:** a comma separates pairs
that are set on top of each other until the first one is refused; a refused step changes nothing,
any other changes the option of its key alone; and after steps, each option is what the last step
for its key wrote that was not refused, or what it was before. -/
theorem pairs_and_steps (e : Environment) :
    (∀ a b, ofParameter e (some (a ++ "," ++ b)) =
        ofParameter e (some a) >>= setAll e (readParameter b)) ∧
      (∀ pairs o f, setAll e pairs o = .error f ↔
        ∃ front key value back o', pairs = front ++ (key, value) :: back ∧
          setAll e front o = .ok o' ∧ set e key value o' = .error f) ∧
      (∀ key value o f, set e key value o = .error f →
        readSetting e key value = .error f ∧ (assign e key value).run.run o = (.error f, o)) ∧
      (∀ key value o o', set e key value o = .ok o' →
        (assign e key value).run.run o = (.ok (), o') ∧
          ∃ s, readSetting e key value = .ok s ∧ o'.get? key = some s ∧
            ∀ k ≠ key, o'.get? k = o.get? k) ∧
      ∀ steps o key, (run e steps o).get? key =
        (steps.reverse.findSome? (written? e key)).or (o.get? key) := by
  refine ⟨ofParameter_append, fun _ _ _ => setAll_eq_error_iff, fun key value o f h => ⟨?_, ?_⟩,
    fun key value o o' h => ⟨?_, ?_⟩, get?_run e⟩
  · exact readSetting_of_set_error h
  · rw [run_assign, h]
  · rw [run_assign, h]
  · exact exists_readSetting_of_set h

/-- Masks are made strict, and two steps are refused. -/
theorem pairs_and_steps_strict :
    ofParameter {} (some ("strict_masks" ++ "," ++ "strict_masks=yes,log")) =
        .error (.refused (.invalidParameter "strict_masks" (.notBoolean "yes"))) ∧
      (run {} [("strict_masks", none), ("log", none), ("strict_masks", some "yes")]
        ⟨Environment.usualRuntime, none, false⟩).get? "strict_masks" = some (.strict true) ∧
      (assign {} "strict_masks" none).run.run ⟨Environment.usualRuntime, none, false⟩ =
        (.ok (), ⟨Environment.usualRuntime, none, true⟩) ∧
      (assign {} "strict_masks" (some "yes")).run.run ⟨Environment.usualRuntime, none, true⟩ =
        (.error (.refused (.invalidParameter "strict_masks" (.notBoolean "yes"))),
          ⟨Environment.usualRuntime, none, true⟩) := by
  obtain ⟨hparameter, -, hrefused, haccepted, hrun⟩ := pairs_and_steps {}
  refine ⟨?_, ?_, (haccepted _ _ _ _ rfl).1, (hrefused _ _ _ _ rfl).2⟩
  · rw [hparameter]
    rfl
  · rw [hrun]
    rfl

example : (ofParameter {} (some "runtime_crate=logs<u8>")).map (·.runtime) =
    .ok ⟨false, [⟨"logs", ["<", "u8", ">"]⟩]⟩ := by decide +kernel

end Redaction.Options
