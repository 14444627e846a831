import Mathlib.Data.List.Forall2

/-!
# Computations that succeed

A computation that may fail has a result exactly if each of its steps has one; over a list, exactly
if the step has one for every item (`mapM_eq_ok`). One computation refines another if the second
succeeds, with the same result, whenever the first does (`Refines`).

A computation may check what another does not. Step by step and item by item, the first failure that
is to be reported ends it (`Reports`).
-/

namespace Redaction

variable {ε α β : Type}

theorem bind_eq_ok {x : Except ε α} {f : α → Except ε β} {b : β} :
    x >>= f = .ok b ↔ ∃ a, x = .ok a ∧ f a = .ok b := by
  cases x with
  | error e => simp [bind, Except.bind]
  | ok a => simp [bind, Except.bind]

theorem pure_eq_ok {a b : α} : (pure a : Except ε α) = .ok b ↔ a = b := by
  simp [pure, Except.pure]

theorem map_eq_ok {x : Except ε α} {f : α → β} {b : β} :
    x.map f = .ok b ↔ ∃ a, x = .ok a ∧ f a = b := by
  cases x with
  | error => simp [Except.map]
  | ok => simp [Except.map]

theorem mapError_eq_ok {ε' : Type} {x : Except ε α} {f : ε → ε'} {a : α} :
    x.mapError f = .ok a ↔ x = .ok a := by
  cases x with
  | error => simp [Except.mapError]
  | ok => simp [Except.mapError]

theorem eq_ok_of_toOption {x : Except ε α} {a : α} (h : x.toOption = some a) : x = .ok a := by
  cases x with
  | error e => cases h
  | ok b => exact congrArg Except.ok (Option.some.inj h)

theorem exists_ok_of_isSome {x : Except ε α} (h : x.toOption.isSome) : ∃ a, x = .ok a := by
  obtain ⟨a, ha⟩ := Option.isSome_iff_exists.mp h
  exact ⟨a, eq_ok_of_toOption ha⟩

theorem mapM_eq_ok {f : α → Except ε β} : ∀ {as : List α} {bs : List β},
    as.mapM f = .ok bs ↔ List.Forall₂ (fun a b => f a = .ok b) as bs
  | [], bs => by
    rw [List.mapM_nil, pure_eq_ok, List.forall₂_nil_left_iff]
    exact eq_comm
  | a :: as, bs => by
    rw [List.mapM_cons, List.forall₂_cons_left_iff, bind_eq_ok]
    constructor
    · rintro ⟨b, hb, h⟩
      obtain ⟨bs', hbs, h⟩ := bind_eq_ok.mp h
      exact ⟨b, bs', hb, mapM_eq_ok.mp hbs, (pure_eq_ok.mp h).symm⟩
    · rintro ⟨b, bs', hb, hbs, rfl⟩
      exact ⟨b, hb, bind_eq_ok.mpr ⟨bs', mapM_eq_ok.mpr hbs, rfl⟩⟩

theorem mapM_congr {f g : α → Except ε β} : ∀ {as : List α}, (∀ a ∈ as, f a = g a) →
    as.mapM f = as.mapM g
  | [], _ => rfl
  | a :: as, h => by
    obtain ⟨ha, has⟩ := List.forall_mem_cons.mp h
    rw [List.mapM_cons, List.mapM_cons, ha, mapM_congr has]

/-! ### Whether there is a result -/

theorem exists_bind_iff {x : Except ε α} {f : α → Except ε β} :
    (∃ b, x >>= f = .ok b) ↔ ∃ a, x = .ok a ∧ ∃ b, f a = .ok b := by
  simp only [bind_eq_ok]
  constructor
  · rintro ⟨b, a, ha, hb⟩
    exact ⟨a, ha, b, hb⟩
  · rintro ⟨a, ha, b, hb⟩
    exact ⟨b, a, ha, hb⟩

/-- What cannot fail behind does not matter. -/
theorem exists_bind_pure_iff {x : Except ε α} {f : α → β} :
    (∃ b, x >>= (fun a => pure (f a)) = .ok b) ↔ ∃ a, x = .ok a := by
  rw [exists_bind_iff]
  exact exists_congr fun a => and_iff_left ⟨f a, rfl⟩

theorem exists_mapM_iff {f : α → Except ε β} : ∀ {as : List α},
    (∃ bs, as.mapM f = .ok bs) ↔ ∀ a ∈ as, ∃ b, f a = .ok b
  | [] => ⟨fun _ a ha => absurd ha List.not_mem_nil, fun _ => ⟨[], rfl⟩⟩
  | a :: as => by
    rw [List.mapM_cons, exists_bind_iff, List.forall_mem_cons, ← exists_mapM_iff]
    simp only [exists_bind_pure_iff, exists_and_right]

/-! ### Computations that refine each other -/

/-- **If the first computation succeeds, so does the second,** with the same result. -/
def Refines (x y : Except ε α) : Prop := ∀ a, x = .ok a → y = .ok a

theorem Refines.refl (x : Except ε α) : Refines x x := fun _ h => h

theorem Refines.bind {x y : Except ε α} {f g : α → Except ε β} (h : Refines x y)
    (hf : ∀ a, x = .ok a → Refines (f a) (g a)) : Refines (x >>= f) (y >>= g) := by
  intro b hb
  obtain ⟨a, ha, hb⟩ := bind_eq_ok.mp hb
  exact bind_eq_ok.mpr ⟨a, h a ha, hf a ha b hb⟩

theorem Refines.mapM {f g : α → Except ε β} {as : List α} (h : ∀ a ∈ as, Refines (f a) (g a)) :
    Refines (as.mapM f) (as.mapM g) := by
  intro bs hbs
  rw [mapM_eq_ok] at hbs ⊢
  induction hbs with
  | nil => exact .nil
  | cons hab _ ih =>
    exact .cons (h _ List.mem_cons_self _ hab) (ih fun a ha => h a (List.mem_cons_of_mem _ ha))

/-! ### Computations with checks -/

/-- **The first computation succeeds, and the second reports a failure,** or has the same result if
there is none to report. -/
def Reports (failure? : Option ε) (x y : Except ε α) : Prop :=
  ∃ a, x = .ok a ∧ y = failure?.elim (.ok a) .error

theorem Reports.of_ok {x : Except ε α} (h : ∃ a, x = .ok a) : Reports none x x := by
  obtain ⟨a, rfl⟩ := h
  exact ⟨a, rfl, rfl⟩

theorem exists_ok_bind {x : Except ε α} {f : α → Except ε β} (h : ∃ a, x = .ok a)
    (hf : ∀ a, ∃ b, f a = .ok b) : ∃ b, x >>= f = .ok b := by
  obtain ⟨a, ha⟩ := h
  obtain ⟨b, hb⟩ := hf a
  exact ⟨b, bind_eq_ok.mpr ⟨a, ha, hb⟩⟩

theorem Reports.bind {e e' : Option ε} {x y : Except ε α} {f g : α → Except ε β}
    (h : Reports e x y) (hf : ∀ a, x = .ok a → Reports e' (f a) (g a)) :
    Reports (e.or e') (x >>= f) (y >>= g) := by
  obtain ⟨a, rfl, rfl⟩ := h
  obtain ⟨b, hb, hg⟩ := hf a rfl
  refine ⟨b, hb, ?_⟩
  cases e with
  | none => exact hg
  | some e => rfl

/-- What succeeds before reports nothing. -/
theorem Reports.ok_bind {e : Option ε} {x : Except ε α} {f g : α → Except ε β}
    (h : ∃ a, x = .ok a) (hf : ∀ a, Reports e (f a) (g a)) : Reports e (x >>= f) (x >>= g) := by
  obtain ⟨a, rfl⟩ := h
  exact hf a

/-- What cannot fail behind reports nothing. -/
theorem Reports.bind_ok {e : Option ε} {x y : Except ε α} {f : α → Except ε β}
    (h : Reports e x y) (hf : ∀ a, ∃ b, f a = .ok b) : Reports e (x >>= f) (y >>= f) := by
  rw [← @Option.or_none _ e]
  exact h.bind fun a _ => .of_ok (hf a)

/-- The first failure of a list is that of the first item that has one. -/
theorem Reports.mapM {e : α → Option ε} {f g : α → Except ε β} : ∀ {as : List α},
    (∀ a ∈ as, Reports (e a) (f a) (g a)) → Reports (as.findSome? e) (as.mapM f) (as.mapM g)
  | [], _ => .of_ok ⟨[], rfl⟩
  | a :: as, h => by
    obtain ⟨ha, has⟩ := List.forall_mem_cons.mp h
    have hcons : (a :: as).findSome? e = (e a).or (as.findSome? e) := by
      rw [List.findSome?_cons]
      cases e a <;> rfl
    rw [List.mapM_cons, List.mapM_cons, hcons]
    exact ha.bind fun _ _ => (mapM has).bind_ok fun _ => ⟨_, rfl⟩

/-! ### Lists related item by item -/

theorem exists_right_of_mem {R : α → β → Prop} {as : List α} {bs : List β}
    (h : List.Forall₂ R as bs) {a : α} (ha : a ∈ as) : ∃ b ∈ bs, R a b := by
  induction h with
  | nil => cases ha
  | @cons _ b _ bs hab _ ih =>
    rcases List.mem_cons.mp ha with rfl | ha
    · exact ⟨b, List.mem_cons_self, hab⟩
    · obtain ⟨b', hb', h⟩ := ih ha
      exact ⟨b', List.mem_cons_of_mem _ hb', h⟩

theorem exists_left_of_mem {R : α → β → Prop} {as : List α} {bs : List β}
    (h : List.Forall₂ R as bs) {b : β} (hb : b ∈ bs) : ∃ a ∈ as, R a b :=
  exists_right_of_mem (List.Forall₂.flip h) hb

/-- **A list of computations succeeds if each of them does,** and has their results. -/
theorem mapM_eq_ok_iff_map {f : α → Except ε β} (d : β) {as : List α} {bs : List β} :
    as.mapM f = .ok bs ↔
      (∀ a ∈ as, ∃ b, f a = .ok b) ∧ bs = as.map fun a => (f a).toOption.getD d := by
  rw [mapM_eq_ok]
  constructor
  · intro h
    refine ⟨fun a ha => ?_, ?_⟩
    · obtain ⟨b, -, hb⟩ := exists_right_of_mem h ha
      exact ⟨b, hb⟩
    · induction h with
      | nil => rfl
      | cons hab _ ih => rw [List.map_cons, hab, ← ih]; rfl
  · rintro ⟨hall, rfl⟩
    rw [List.forall₂_map_right_iff, List.forall₂_same]
    intro a ha
    obtain ⟨b, hb⟩ := hall a ha
    rw [hb]
    rfl

/-- Lists that are related to the same list are related to each other along it. -/
theorem forall₂_zip_of_forall₂ {γ : Type} {R : α → β → Prop} {S : γ → β → Prop} :
    ∀ {as : List α} {bs : List β} {cs : List γ}, List.Forall₂ R as bs → List.Forall₂ S cs bs →
      List.Forall₂ (fun a r => R a r.1 ∧ S r.2 r.1) as (bs.zip cs)
  | _, _, _, .nil, .nil => .nil
  | _, _, _, .cons hab habs, .cons hcb hcbs =>
    .cons ⟨hab, hcb⟩ (forall₂_zip_of_forall₂ habs hcbs)

/-- Relations between lists compose, item by item. -/
theorem forall₂_trans {γ : Type} {R : α → β → Prop} {S : β → γ → Prop} {T : α → γ → Prop}
    (hT : ∀ a b c, R a b → S b c → T a c) : ∀ {as : List α} {bs : List β} {cs : List γ},
    List.Forall₂ R as bs → List.Forall₂ S bs cs → List.Forall₂ T as cs
  | _, _, _, .nil, .nil => .nil
  | _, _, _, .cons hab habs, .cons hbc hbcs => .cons (hT _ _ _ hab hbc) (forall₂_trans hT habs hbcs)

/-- The item at the place of the first partner with a property is related to that partner, and may
be replaced by another that is. -/
theorem forall₂_findIdx? {R : α → β → Prop} {p : β → Bool} {as : List α} {bs : List β}
    (h : List.Forall₂ R as bs) {b : β} {i : Nat} (hb : bs.find? p = some b)
    (hi : bs.findIdx? p = some i) (d : α) :
    R (as.getD i d) b ∧ ∀ a, R a b → List.Forall₂ R (as.set i a) bs := by
  induction h generalizing i with
  | nil => cases hb
  | @cons a c as bs hac hrest ih =>
    rw [List.find?_cons] at hb
    rw [List.findIdx?_cons] at hi
    cases hp : p c with
    | true =>
      rw [hp, Option.some.injEq] at hb
      rw [hp, if_pos rfl, Option.some.injEq] at hi
      subst hb hi
      exact ⟨hac, fun a ha => .cons ha hrest⟩
    | false =>
      rw [hp] at hb
      rw [hp, if_neg Bool.false_ne_true, Option.map_eq_some_iff] at hi
      obtain ⟨j, hj, rfl⟩ := hi
      obtain ⟨hget, hset⟩ := ih hb hj
      exact ⟨by rwa [List.getD_cons_succ], fun a ha => .cons hac (hset a ha)⟩

/-- What has no result may be left out of a search. -/
theorem findSome?_filter {α β : Type} {p : α → Bool} {e : α → Option β} : ∀ {as : List α},
    (∀ a ∈ as, ¬ p a → e a = none) → (as.filter p).findSome? e = as.findSome? e
  | [], _ => rfl
  | a :: as, h => by
    obtain ⟨ha, has⟩ := List.forall_mem_cons.mp h
    rw [List.filter_cons, List.findSome?_cons, ← findSome?_filter has]
    split_ifs with hp
    · rw [List.findSome?_cons]
    · rw [ha hp]

/-- The first item with a key is the only one, if keys are distinct. -/
theorem find?_eq_some_of_nodup {κ : Type} [DecidableEq κ] {key : α → κ} {l : List α}
    (h : (l.map key).Nodup) {a : α} (ha : a ∈ l) : l.find? (key · == key a) = some a := by
  induction l with
  | nil => cases ha
  | cons x l ih =>
    obtain ⟨hx, hl⟩ := List.nodup_cons.mp h
    rw [List.find?_cons]
    rcases List.mem_cons.mp ha with rfl | ha
    · rw [beq_self_eq_true]
    · have hne : key x ≠ key a := fun he => hx (List.mem_map.mpr ⟨a, ha, he.symm⟩)
      rw [beq_eq_false_iff_ne.mpr hne]
      exact ih hl ha

end Redaction
