import Redaction.Proofs.Emission

/-!
# Names in generated code are identifiers

The code of an implementation has the names of fields and variants, and those that paths to types
consist of. Each that `emit` makes out of declarations is an identifier or a raw one
(`isName_of_emit`). The paths to the two libraries come from options, and are as these give them.
-/

namespace Redaction.Code

open Schema

/-- **An identifier,** or one in its raw form. -/
inductive IsName : String → Prop
  | plain {s : String} : isIdentifier s.toList → IsName s
  | raw {s : String} : isIdentifier s.toList → IsName ("r#" ++ s)

variable {name : String} {required : Requirement} {strict : Bool} {m : Message} {f : Field}

/-! ### Names of declarations -/

theorem isName_identifier? {s : String} (h : identifier? s = some name) : IsName name := by
  unfold identifier? at h
  split_ifs at h with hs
  exact Option.some.inj h ▸ .plain hs

theorem isName_snakeIdentifier? {s : String} (h : snakeIdentifier? s = some name) :
    IsName name := by
  have hplain : ∀ k ∈ plainKeywords, isIdentifier (k ++ "_").toList := by decide
  unfold snakeIdentifier? at h
  dsimp only at h
  split_ifs at h with hp hr
  · exact Option.some.inj h ▸ .plain (hplain _ hp)
  · exact Option.some.inj h ▸ .raw (isIdentifier_of_mem_rawKeywords _ hr)
  · exact isName_identifier? h

theorem isName_camelIdentifier? {s : String} (h : camelIdentifier? s = some name) :
    IsName name := by
  unfold camelIdentifier? at h
  dsimp only at h
  split_ifs at h
  · exact Option.some.inj h ▸ .plain (by decide)
  · exact isName_identifier? h

/-- Results of a partial function have what it gives to each of its results. -/
theorem forall_mem_of_mapM {α β : Type} {g : α → Option β} {p : β → Prop}
    (hg : ∀ a b, g a = some b → p b) : ∀ {as : List α} {bs : List β},
      as.mapM g = some bs → ∀ b ∈ bs, p b
  | [], bs, h => by
    rw [← Option.some.inj h]
    exact fun b hb => absurd hb List.not_mem_nil
  | a :: as, bs, h => by
    rw [List.mapM_cons] at h
    obtain ⟨b, hb, h⟩ := Option.bind_eq_some_iff.mp h
    obtain ⟨bs', hbs, h⟩ := Option.bind_eq_some_iff.mp h
    rw [← Option.some.inj h]
    exact List.forall_mem_cons.mpr ⟨hg a b hb, forall_mem_of_mapM hg hbs⟩

theorem isName_typePath? {parents path : List String} {s : String}
    (h : typePath? parents s = some path) : ∀ name ∈ path, IsName name := by
  obtain ⟨modules, hmodules, h⟩ := Option.bind_eq_some_iff.mp h
  obtain ⟨last, hlast, h⟩ := Option.bind_eq_some_iff.mp h
  rw [← Option.some.inj h]
  exact List.forall_mem_append.mpr
    ⟨forall_mem_of_mapM (fun _ _ => isName_snakeIdentifier?) hmodules,
      List.forall_mem_singleton.mpr (isName_camelIdentifier? hlast)⟩

/-! ### Names of implementations -/

/-- The names in an access. -/
def Access.names : Access → List String
  | field name => [name]
  | bound => []

/-- The names in an expression. -/
def Expr.names : Expr → List String
  | constant _ => []
  | render _ access => access.names
  | items field _ | entries field _ | optional field _ => [field]

/-- The names in an alternative. -/
def Arm.names (a : Arm) : List String := a.variant :: a.value.names

/-- The names in a statement. -/
def Statement.names : Statement → List String
  | insert _ value => value.names
  | choose field enumPath arms => field :: enumPath ++ arms.flatMap Arm.names

/-- **The names in an implementation.** -/
def Impl.names (i : Impl) : List String := i.target ++ i.body.flatMap Statement.names

theorem names_accessExpr (place : String) (r : Renderer) :
    (accessExpr f place r).names = [place] := by
  unfold accessExpr
  split
  · rfl
  · rfl
  · rfl
  · split_ifs <;> rfl

theorem isName_fieldExpr {e : Expr} (h : fieldExpr required strict f = .ok e) :
    ∀ name ∈ e.names, IsName name := by
  rcases fieldExpr_ok h with ⟨-, rfl⟩ | ⟨-, place, hplace, rfl⟩
  · exact fun name hname => absurd hname List.not_mem_nil
  · rw [names_accessExpr]
    exact List.forall_mem_singleton.mpr (isName_snakeIdentifier? hplace)

theorem isName_armOf {a : Arm} (h : armOf required strict f = .ok a) :
    ∀ name ∈ a.names, IsName name := by
  obtain ⟨hvariant, -, hvalue⟩ := armOf_ok h
  have hnone : a.value.names = [] := by
    rw [hvalue]
    split_ifs <;> rfl
  rw [Arm.names, hnone]
  exact List.forall_mem_singleton.mpr (isName_camelIdentifier? hvariant)

theorem isName_oneofStatement {index : Nat} {st : Statement}
    (h : oneofStatement required strict m index = .ok st) : ∀ name ∈ st.names, IsName name := by
  obtain ⟨oneof, path, place, arms, -, hpath, hplace, harms, rfl⟩ := oneofStatement_eq_ok h
  refine List.forall_mem_append.mpr ⟨List.forall_mem_cons.mpr
    ⟨isName_snakeIdentifier? hplace, isName_typePath? hpath⟩, fun name hname => ?_⟩
  obtain ⟨a, ha, hname⟩ := List.mem_flatMap.mp hname
  obtain ⟨f, -, harm⟩ := exists_left_of_mem harms ha
  exact isName_armOf harm name hname

theorem isName_statementOf {st : Statement} (h : statementOf required strict m f = .ok st) :
    ∀ name ∈ st.names, IsName name := by
  unfold statementOf at h
  split at h
  · exact isName_oneofStatement h
  · obtain ⟨e, he, h⟩ := bind_eq_ok.mp h
    rw [← pure_eq_ok.mp h]
    exact isName_fieldExpr he

/-- **The names in an implementation are identifiers.** -/
theorem isName_of_emit {i : Impl} (h : emit required strict m = .ok i) :
    ∀ name ∈ i.names, IsName name := by
  refine List.forall_mem_append.mpr ⟨?_, fun name hname => ?_⟩
  · obtain ⟨target, htarget, h⟩ := bind_eq_ok.mp h
    obtain ⟨body, -, h⟩ := bind_eq_ok.mp h
    rw [← pure_eq_ok.mp h]
    exact isName_typePath? (named_ok.mp htarget)
  · obtain ⟨st, hst, hname⟩ := List.mem_flatMap.mp hname
    obtain ⟨f, -, hf⟩ := exists_left_of_mem (mapM_eq_ok.mp (body_of_emit h)) hst
    exact isName_statementOf hf name hname

end Redaction.Code
