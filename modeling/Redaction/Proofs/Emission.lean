import Mathlib.Tactic.SplitIfs
import Redaction.Code.Emission
import Redaction.Proofs.Results

/-!
# What an implementation consists of

The inversion of `emit`, one function at a time: the body has one statement for each field that does
not stand behind another field of its oneof (`leaders`), in their order. It is the insertion of the
field, or the choice between all members of its oneof (`group`), with an alternative for each.

An unredacted field is rendered by `accessExpr` at the place that the identifier of its name gives,
a redacted one by the constant of its mask. The statements here say so for any schema, whether masks
are strict or not.

Of all the message types that need redaction, `emit` asks for the targets of the fields only
(`emit_congr`).
-/

namespace Redaction.Code

open Schema

variable {required : Requirement} {strict : Bool} {m : Message} {f : Field}

/-! ### Leaders and their groups -/

/-- The fields that a statement stands for: those outside of a oneof, and the first of each oneof
that is not in `seen`. -/
def leaders : List Nat → List Field → List Field
  | _, [] => []
  | seen, f :: fs =>
    match f.oneof with
    | some index => if seen.contains index then leaders seen fs else f :: leaders (index :: seen) fs
    | none => f :: leaders seen fs

/-- The members of the oneof at a place. -/
def membersOf (m : Message) (index : Nat) : List Field := m.fields.filter (·.oneof == some index)

/-- The fields that share a statement with a leader. -/
def group (m : Message) (f : Field) : List Field :=
  match f.oneof with
  | some index => membersOf m index
  | none => [f]

theorem mem_membersOf {index : Nat} :
    f ∈ membersOf m index ↔ f ∈ m.fields ∧ f.oneof = some index := by
  simp [membersOf]

theorem mem_of_mem_leaders : ∀ {seen : List Nat} {fs : List Field}, f ∈ leaders seen fs → f ∈ fs
  | seen, g :: fs, h => by
    unfold leaders at h
    split at h
    · split_ifs at h
      · exact List.mem_cons_of_mem _ (mem_of_mem_leaders h)
      · rcases List.mem_cons.mp h with rfl | h
        · exact List.mem_cons_self
        · exact List.mem_cons_of_mem _ (mem_of_mem_leaders h)
    · rcases List.mem_cons.mp h with rfl | h
      · exact List.mem_cons_self
      · exact List.mem_cons_of_mem _ (mem_of_mem_leaders h)

/-- A field outside of a oneof leads itself. -/
theorem mem_leaders_of_none (hf : f.oneof = none) :
    ∀ {seen : List Nat} {fs : List Field}, f ∈ fs → f ∈ leaders seen fs
  | seen, g :: fs, h => by
    unfold leaders
    rcases List.mem_cons.mp h with rfl | h
    · rw [hf]; exact List.mem_cons_self
    · split
      · split_ifs
        · exact mem_leaders_of_none hf h
        · exact List.mem_cons_of_mem _ (mem_leaders_of_none hf h)
      · exact List.mem_cons_of_mem _ (mem_leaders_of_none hf h)

/-- Every oneof that has not been seen has a leader. -/
theorem exists_leader {index : Nat} (hf : f.oneof = some index) :
    ∀ {seen : List Nat} {fs : List Field}, index ∉ seen → f ∈ fs →
      ∃ g ∈ leaders seen fs, g.oneof = some index
  | seen, g :: fs, hs, h => by
    unfold leaders
    split
    · next i hi =>
      split_ifs with hc
      -- `g` stands behind the leader of another oneof, so it is not `f`
      · rcases List.mem_cons.mp h with rfl | h
        · rw [hf, Option.some.injEq] at hi
          subst hi
          simp [hs] at hc
        · exact exists_leader hf hs h
      · by_cases hii : i = index
        · exact ⟨g, List.mem_cons_self, hii ▸ hi⟩
        · rcases List.mem_cons.mp h with rfl | h
          · rw [hf, Option.some.injEq] at hi
            exact absurd hi.symm hii
          · have hs' : index ∉ i :: seen := by
              simp only [List.mem_cons, not_or]
              exact ⟨fun he => hii he.symm, hs⟩
            obtain ⟨g', hg', ho⟩ := exists_leader hf hs' h
            exact ⟨g', List.mem_cons_of_mem _ hg', ho⟩
    · next hi =>
      rcases List.mem_cons.mp h with rfl | h
      · rw [hf] at hi; cases hi
      · obtain ⟨g', hg', ho⟩ := exists_leader hf hs h
        exact ⟨g', List.mem_cons_of_mem _ hg', ho⟩

/-! ### Fields -/

theorem resolveMask_ok {o : Option Mask} (h : resolveMask strict f = .ok o) :
    o = if f.isRedacted then some f.mask else none := by
  unfold resolveMask Field.resolve at h
  by_cases hr : f.isRedacted
  · simp only [hr, Bool.not_true, Bool.false_eq_true, if_false] at h
    split at h
    · simp [Except.mapError] at h
    · simp only [Except.mapError, Except.ok.injEq] at h
      rw [if_pos hr, h]
  · simp only [hr, Bool.not_false, if_true, Except.mapError, Except.ok.injEq] at h
    rw [if_neg hr, h]

theorem named_ok {α : Type} {o : Option α} {a : α} : named o = .ok a ↔ o = some a := by
  cases o <;> simp [named]

/-- What renders the value of an unredacted field at a place. -/
def accessExpr (f : Field) (place : String) (r : Renderer) : Expr :=
  match f.cardinality, f.category.element with
  | .repeated, _ => .items place r
  | .map, _ => .entries place r
  | .singular, .message _ => .optional place r
  | .singular, .scalar _ =>
    if f.explicitPresence then .optional place r else .render r (.field place)

/-- **The value of a field outside of a oneof.** -/
theorem fieldExpr_ok {e : Expr} (h : fieldExpr required strict f = .ok e) :
    (f.isRedacted ∧ e = .constant (.ofMask f.mask)) ∨
    (¬ f.isRedacted ∧ ∃ place, snakeIdentifier? f.name = some place ∧
      e = accessExpr f place (.ofElement required f.category.element)) := by
  obtain ⟨o, ho, h⟩ := bind_eq_ok.mp h
  rw [resolveMask_ok ho] at h
  by_cases hr : f.isRedacted
  · rw [if_pos hr] at h
    exact Or.inl ⟨hr, (pure_eq_ok.mp h).symm⟩
  · rw [if_neg hr] at h
    obtain ⟨place, hp, h⟩ := bind_eq_ok.mp h
    refine Or.inr ⟨hr, place, named_ok.mp hp, ?_⟩
    unfold accessExpr
    cases hc : f.cardinality with
    | repeated => rw [hc] at h; exact (pure_eq_ok.mp h).symm
    | map => rw [hc] at h; exact (pure_eq_ok.mp h).symm
    | singular =>
      rw [hc] at h
      cases he : f.category.element with
      | message t => rw [he] at h; exact (pure_eq_ok.mp h).symm
      | scalar k =>
        rw [he] at h
        dsimp only at h ⊢
        split_ifs at h ⊢ <;> exact (pure_eq_ok.mp h).symm

/-- **The alternative of a member of a oneof.** -/
theorem armOf_ok {a : Arm} (h : armOf required strict f = .ok a) :
    camelIdentifier? f.name = some a.variant ∧ a.key = f.jsonName ∧
      a.value = if f.isRedacted then .constant (.ofMask f.mask)
        else .render (.ofElement required f.category.element) .bound := by
  obtain ⟨variant, hv, h⟩ := bind_eq_ok.mp h
  obtain ⟨o, ho, h⟩ := bind_eq_ok.mp h
  rw [resolveMask_ok ho] at h
  by_cases hr : f.isRedacted
  · rw [if_pos hr] at h
    rw [← pure_eq_ok.mp h, if_pos hr]
    exact ⟨named_ok.mp hv, rfl, rfl⟩
  · rw [if_neg hr] at h
    rw [← pure_eq_ok.mp h, if_neg hr]
    exact ⟨named_ok.mp hv, rfl, rfl⟩

/-! ### Statements -/

/-- A statement is the one that stands for a leader. -/
inductive IsStatement (required : Requirement) (strict : Bool) (m : Message) (f : Field) :
    Statement → Prop
  | field {e : Expr} : f.oneof = none → fieldExpr required strict f = .ok e →
      IsStatement required strict m f (.insert f.jsonName e)
  | oneof {index : Nat} {name place : String} {path : List String} {arms : List Arm} :
      f.oneof = some index → m.oneofs[index]? = some name → snakeIdentifier? name = some place →
      List.Forall₂ (fun g a => armOf required strict g = .ok a) (membersOf m index) arms →
      IsStatement required strict m f (.choose place path arms)

/-- The statement for a oneof that the message has chooses between the members. -/
theorem oneofStatement_eq_ok {index : Nat} {st : Statement}
    (h : oneofStatement required strict m index = .ok st) : ∃ name path place arms,
      m.oneofs[index]? = some name ∧ oneofPath? m name = some path ∧
      snakeIdentifier? name = some place ∧
      List.Forall₂ (fun g a => armOf required strict g = .ok a) (membersOf m index) arms ∧
      st = .choose place path arms := by
  unfold oneofStatement at h
  cases ho : m.oneofs[index]? with
  | none => simp [ho, throw, throwThe, MonadExceptOf.throw] at h
  | some name =>
    simp only [ho] at h
    obtain ⟨path, hpath, h⟩ := bind_eq_ok.mp h
    obtain ⟨place, hplace, h⟩ := bind_eq_ok.mp h
    obtain ⟨arms, harms, h⟩ := bind_eq_ok.mp h
    exact ⟨name, path, place, arms, rfl, named_ok.mp hpath, named_ok.mp hplace, mapM_eq_ok.mp harms,
      (pure_eq_ok.mp h).symm⟩

/-- The statement that is made for a leader. -/
def statementOf (required : Requirement) (strict : Bool) (m : Message) (f : Field) :
    Except Failure Statement :=
  match f.oneof with
  | some index => oneofStatement required strict m index
  | none => do return .insert f.jsonName (← fieldExpr required strict f)

/-- **The statements are those of the leaders,** in their order. -/
theorem statements_eq_mapM : ∀ {seen : List Nat} {fs : List Field},
    statements required strict m seen fs = (leaders seen fs).mapM (statementOf required strict m)
  | _, [] => rfl
  | seen, f :: fs => by
    unfold statements leaders
    cases ho : f.oneof with
    | none =>
      dsimp only
      rw [List.mapM_cons, statementOf, ho, statements_eq_mapM, bind_assoc]
      simp only [pure_bind]
    | some index =>
      dsimp only
      split_ifs
      · exact statements_eq_mapM
      · rw [List.mapM_cons, statementOf, ho, statements_eq_mapM]

theorem isStatement_of_statementOf {st : Statement}
    (h : statementOf required strict m f = .ok st) : IsStatement required strict m f st := by
  unfold statementOf at h
  cases ho : f.oneof with
  | some index =>
    rw [ho] at h
    obtain ⟨name, path, place, arms, hname, -, hplace, harms, rfl⟩ := oneofStatement_eq_ok h
    exact .oneof ho hname hplace harms
  | none =>
    rw [ho] at h
    obtain ⟨e, he, h⟩ := bind_eq_ok.mp h
    rw [← pure_eq_ok.mp h]
    exact .field ho he

theorem body_of_emit {i : Impl} (h : emit required strict m = .ok i) :
    (leaders [] m.fields).mapM (statementOf required strict m) = .ok i.body := by
  obtain ⟨target, -, h⟩ := bind_eq_ok.mp h
  obtain ⟨body, hb, h⟩ := bind_eq_ok.mp h
  rw [← pure_eq_ok.mp h, ← statements_eq_mapM]
  exact hb

/-- **One statement for each leader,** in their order. -/
theorem emit_ok {i : Impl} (h : emit required strict m = .ok i) :
    List.Forall₂ (IsStatement required strict m) (leaders [] m.fields) i.body :=
  (mapM_eq_ok.mp (body_of_emit h)).imp fun _ _ hf => isStatement_of_statementOf hf

/-! ### What is asked of the requirement -/

variable {required' : Requirement}

/-- The requirements agree on the message type that the field leads to. -/
def AgreeOn (required required' : Requirement) (f : Field) : Prop :=
  ∀ t, f.target? = some t → required.requires t = required'.requires t

theorem ofElement_congr (h : AgreeOn required required' f) :
    Renderer.ofElement required f.category.element =
      Renderer.ofElement required' f.category.element := by
  unfold AgreeOn Field.target? Category.target? at h
  cases he : f.category.element with
  | scalar k => rfl
  | message t =>
    rw [he] at h
    unfold Renderer.ofElement
    dsimp only
    rw [h t rfl]

theorem fieldExpr_congr (h : AgreeOn required required' f) :
    fieldExpr required strict f = fieldExpr required' strict f := by
  unfold fieldExpr
  rw [ofElement_congr h]

theorem armOf_congr (h : AgreeOn required required' f) :
    armOf required strict f = armOf required' strict f := by
  unfold armOf
  rw [ofElement_congr h]

theorem oneofStatement_congr (h : ∀ f ∈ m.fields, AgreeOn required required' f) (index : Nat) :
    oneofStatement required strict m index = oneofStatement required' strict m index := by
  have harms : (membersOf m index).mapM (armOf required strict) =
      (membersOf m index).mapM (armOf required' strict) :=
    mapM_congr fun f hf => armOf_congr (h f (mem_membersOf.mp hf).1)
  unfold membersOf at harms
  unfold oneofStatement
  dsimp only
  rw [harms]

theorem statementOf_congr (h : ∀ f ∈ m.fields, AgreeOn required required' f) (hf : f ∈ m.fields) :
    statementOf required strict m f = statementOf required' strict m f := by
  unfold statementOf
  split
  · exact oneofStatement_congr h _
  · rw [fieldExpr_congr (h f hf)]

/-- **An implementation depends on the requirement only through the targets of the fields.** -/
theorem emit_congr (h : ∀ f ∈ m.fields, AgreeOn required required' f) :
    emit required strict m = emit required' strict m := by
  have hstatements : (leaders [] m.fields).mapM (statementOf required strict m) =
      (leaders [] m.fields).mapM (statementOf required' strict m) :=
    mapM_congr fun f hf => statementOf_congr h (mem_of_mem_leaders hf)
  unfold emit
  rw [statements_eq_mapM, statements_eq_mapM, hstatements]

end Redaction.Code
