import Redaction.Proofs.Results
import Redaction.Proofs.Varints
import Redaction.Wire.Scalars

/-!
# What readers read

A reader takes the bytes of a value from the front of all that is left. `Reads` says which bytes
these are: the *forms* of the value. So a reader looks at nothing behind the form that it takes.

* `Reads.bind`, `Reads.map`: readers one after the other.
* `Run`: forms of steps one after the other, each of which changes a state.
* `repeatUntil_eq_ok_iff`, `reads_delimited`: a loop reads the runs of its step.
-/

namespace Redaction.Wire

variable {α β σ : Type}

/-! ### Forms -/

/-- **The reader reads the forms.** It gives a value exactly if a form of the value stands in front,
and leaves what follows. -/
def Reads (r : Reader α) (form : α → Bytes → Prop) : Prop :=
  ∀ bytes a rest, r bytes = .ok (a, rest) ↔ ∃ p, form a p ∧ bytes = p ++ rest

theorem Reads.append {r : Reader α} {form : α → Bytes → Prop} (h : Reads r form) {a : α} {p : Bytes}
    (hp : form a p) (rest : Bytes) : r (p ++ rest) = .ok (a, rest) :=
  (h _ a rest).mpr ⟨p, hp, rfl⟩

/-- Bytes of which nothing is left are a form of the value that is read. -/
theorem Reads.form_of_eq {r : Reader α} {form : α → Bytes → Prop} (h : Reads r form) {a : α}
    {p : Bytes} (hp : r p = .ok (a, [])) : form a p := by
  obtain ⟨q, hq, rfl⟩ := (h p a []).mp hp
  rwa [List.append_nil]

/-- Two forms in front of the same bytes are forms of one value, with the same behind them. -/
theorem Reads.unique {r : Reader α} {form : α → Bytes → Prop} (h : Reads r form) {a b : α}
    {p q x y : Bytes} (hp : form a p) (hq : form b q) (he : p ++ x = q ++ y) : a = b ∧ x = y := by
  have ha := h.append hp x
  rw [he, h.append hq y, Except.ok.injEq, Prod.mk.injEq] at ha
  exact ⟨ha.1.symm, ha.2.symm⟩

theorem Reads.bind {r : Reader α} {form : α → Bytes → Prop} (hr : Reads r form)
    {next : α → Reader β} {then_ : α → β → Bytes → Prop} (hn : ∀ a, Reads (next a) (then_ a)) :
    Reads (fun bytes => r bytes >>= fun x => next x.1 x.2)
      fun b p => ∃ a q q', form a q ∧ then_ a b q' ∧ p = q ++ q' := by
  intro bytes b rest
  rw [bind_eq_ok]
  constructor
  · rintro ⟨⟨a, middle⟩, h, hb⟩
    obtain ⟨q, hq, rfl⟩ := (hr _ _ _).mp h
    obtain ⟨q', hq', rfl⟩ := (hn a _ _ _).mp hb
    exact ⟨q ++ q', ⟨a, q, q', hq, hq', rfl⟩, (List.append_assoc ..).symm⟩
  · rintro ⟨_, ⟨a, q, q', hq, hq', rfl⟩, rfl⟩
    refine ⟨(a, q' ++ rest), ?_, (hn a).append hq' rest⟩
    rw [List.append_assoc]
    exact hr.append hq _

theorem Reads.map {r : Reader α} {form : α → Bytes → Prop} (hr : Reads r form) (f : α → β) :
    Reads (r.map f) fun b p => ∃ a, form a p ∧ f a = b := by
  intro bytes b rest
  rw [Reader.map, bind_eq_ok]
  constructor
  · rintro ⟨⟨a, rest'⟩, h, hb⟩
    obtain ⟨p, hp, rfl⟩ := (hr _ _ _).mp h
    obtain ⟨rfl, rfl⟩ := Prod.mk.inj (pure_eq_ok.mp hb)
    exact ⟨p, ⟨a, hp, rfl⟩, rfl⟩
  · rintro ⟨p, ⟨a, hp, rfl⟩, rfl⟩
    exact ⟨(a, rest), hr.append hp rest, rfl⟩

/-- The bytes are a payload with its length in front. -/
def Prefixed (payload bytes : Bytes) : Prop :=
  ∃ l, Varint.Spells payload.length l ∧ bytes = l ++ payload

/-- A payload is written with its length in front. -/
theorem prefixed_write {payload : Bytes} (h : payload.length < 2 ^ 64) :
    Prefixed payload (Varint.write payload.length ++ payload) :=
  ⟨_, Varint.spells_write h, rfl⟩

/-! ### Lengths and payloads -/

theorem reads_readVarint : Reads readVarint Varint.Spells := by
  intro bytes n rest
  rw [← Varint.read_eq_some_iff, readVarint]
  cases Varint.read bytes with
  | none => simp [refuse]
  | some r => simp

theorem reads_take (n : Nat) :
    Reads (take n) fun payload p => p = payload ∧ payload.length = n := by
  intro bytes payload rest
  unfold take
  split_ifs with h
  · simp only [refuse, reduceCtorEq, false_iff]
    rintro ⟨p, ⟨rfl, hp⟩, rfl⟩
    rw [List.length_append] at h
    omega
  · rw [Except.ok.injEq, Prod.mk.injEq]
    constructor
    · rintro ⟨rfl, rfl⟩
      exact ⟨_, ⟨rfl, List.length_take_of_le (Nat.not_lt.mp h)⟩,
        (List.take_append_drop n bytes).symm⟩
    · rintro ⟨p, ⟨rfl, rfl⟩, rfl⟩
      exact ⟨List.take_left, List.drop_left⟩

theorem reads_readPayload : Reads readPayload Prefixed := by
  intro bytes payload rest
  refine (reads_readVarint.bind reads_take bytes payload rest).trans ?_
  constructor
  · rintro ⟨_, ⟨n, l, _, hl, ⟨rfl, rfl⟩, rfl⟩, rfl⟩
    exact ⟨_, ⟨l, hl, rfl⟩, rfl⟩
  · rintro ⟨_, ⟨l, hl, rfl⟩, rfl⟩
    exact ⟨_, ⟨_, l, payload, hl, ⟨rfl, rfl⟩, rfl⟩, rfl⟩

/-- What follows its length is the only payload that does. -/
theorem Prefixed.eq {a b q : Bytes} (ha : Prefixed a q) (hb : Prefixed b q) : a = b :=
  (reads_readPayload.unique ha hb (x := []) (y := []) rfl).1

/-! ### Runs -/

/-- **Forms of steps one after the other,** each of which takes one state to the next. -/
inductive Run (form : σ → σ → Bytes → Prop) : σ → σ → Bytes → Prop
  | done {s : σ} : Run form s s []
  | step {s t u : σ} {p bytes : Bytes} : form s t p → Run form t u bytes → Run form s u (p ++ bytes)

variable {form : σ → σ → Bytes → Prop}

theorem Run.single {s t : σ} {p : Bytes} (h : form s t p) : Run form s t p := by
  simpa using Run.step h .done

theorem Run.append {s t u : σ} {a b : Bytes} (ha : Run form s t a) (hb : Run form t u b) :
    Run form s u (a ++ b) := by
  induction ha with
  | done => exact hb
  | step h _ ih =>
    rw [List.append_assoc]
    exact .step h (ih hb)

/-! ### Loops -/

variable {step : σ → Reader σ}

theorem exists_run_of_repeatUntil (hstep : ∀ s, Reads (step s) (form s))
    (hne : ∀ {s t p}, form s t p → p ≠ []) {stop rounds : Nat} {s t : σ} {bytes rest : Bytes}
    (hr : bytes.length < rounds) (h : repeatUntil step stop rounds s bytes = .ok (t, rest)) :
    ∃ body, Run form s t body ∧ bytes = body ++ rest ∧ rest.length = stop := by
  induction rounds generalizing s bytes with
  | zero => omega
  | succ rounds ih =>
    unfold repeatUntil at h
    split_ifs at h with h1 h2
    · cases h
    · obtain ⟨rfl, rfl⟩ := Prod.mk.inj (Except.ok.inj h)
      exact ⟨[], .done, rfl, h2⟩
    · obtain ⟨⟨s', rest'⟩, hs, hloop⟩ := bind_eq_ok.mp h
      obtain ⟨p, hp, rfl⟩ := (hstep s _ _ _).mp hs
      have hlen : 0 < p.length := List.length_pos_iff.mpr (hne hp)
      rw [List.length_append] at hr
      obtain ⟨body, hrun, rfl, hstop⟩ := ih (by omega) hloop
      exact ⟨p ++ body, .step hp hrun, (List.append_assoc ..).symm, hstop⟩

theorem Run.repeatUntil_eq (hstep : ∀ s, Reads (step s) (form s))
    (hne : ∀ {s t p}, form s t p → p ≠ []) {s t : σ} {body : Bytes} (h : Run form s t body)
    (rest : Bytes) {rounds : Nat} (hr : (body ++ rest).length < rounds) :
    repeatUntil step rest.length rounds s (body ++ rest) = .ok (t, rest) := by
  induction h generalizing rounds with
  | done =>
    obtain ⟨rounds, rfl⟩ := Nat.exists_eq_succ_of_ne_zero (show rounds ≠ 0 by omega)
    simp [repeatUntil]
  | @step s s' t p body hp _ ih =>
    obtain ⟨rounds, rfl⟩ := Nat.exists_eq_succ_of_ne_zero (show rounds ≠ 0 by omega)
    have hlen : 0 < p.length := List.length_pos_iff.mpr (hne hp)
    rw [List.append_assoc, List.length_append] at hr
    have hle : rest.length ≤ (body ++ rest).length := by simp
    rw [List.append_assoc, repeatUntil, List.length_append, if_neg (by omega), if_neg (by omega),
      (hstep s).append hp]
    exact ih (by omega)

/-- **A loop reads the runs of its step** up to the place where it is to stop, given enough
rounds. -/
theorem repeatUntil_eq_ok_iff (hstep : ∀ s, Reads (step s) (form s))
    (hne : ∀ {s t p}, form s t p → p ≠ []) {stop rounds : Nat} {s t : σ} {bytes rest : Bytes}
    (hr : bytes.length < rounds) :
    repeatUntil step stop rounds s bytes = .ok (t, rest) ↔
      ∃ body, Run form s t body ∧ bytes = body ++ rest ∧ rest.length = stop := by
  constructor
  · exact exists_run_of_repeatUntil hstep hne hr
  · rintro ⟨body, h, rfl, rfl⟩
    exact h.repeatUntil_eq hstep hne rest hr

/-- **A delimited loop** reads the runs of its step with their length in front. -/
theorem reads_delimited (hstep : ∀ s, Reads (step s) (form s))
    (hne : ∀ {s t p}, form s t p → p ≠ []) (s : σ) :
    Reads (delimited step s) fun t p => ∃ body, Prefixed body p ∧ Run form s t body := by
  intro bytes t rest
  rw [delimited, bind_eq_ok]
  constructor
  · rintro ⟨⟨n, bytes'⟩, hn, h⟩
    obtain ⟨l, hl, rfl⟩ := (reads_readVarint _ _ _).mp hn
    dsimp only at h
    split_ifs at h with hlen
    · cases h
    · obtain ⟨body, hrun, rfl, hstop⟩ :=
        (repeatUntil_eq_ok_iff hstep hne (Nat.lt_succ_self _)).mp h
      rw [List.length_append] at hlen hstop
      obtain rfl : body.length = n := by omega
      exact ⟨l ++ body, ⟨body, ⟨l, hl, rfl⟩, hrun⟩, (List.append_assoc ..).symm⟩
  · rintro ⟨_, ⟨body, ⟨l, hl, rfl⟩, hrun⟩, rfl⟩
    refine ⟨(body.length, body ++ rest), ?_, ?_⟩
    · rw [List.append_assoc]
      exact reads_readVarint.append hl _
    · dsimp only
      rw [if_neg (by simp), List.length_append, Nat.add_sub_cancel_left]
      exact hrun.repeatUntil_eq hstep hne rest (by simp)

end Redaction.Wire
