import Mathlib.Data.List.Basic
import Redaction.Proofs.Emission
import Redaction.Proofs.Reachability

/-!
# Plain forms hold no redacted field

The code of a message renders the messages in its fields by their own implementations or by their
plain forms, which know nothing of redaction. Which of the two depends on the marks of `Requirement`
alone, so with `requires_iff_reaches` it depends on whether the target reaches a redacted field.

* `Statement.Shows`: the statement renders the value of a field through a renderer.
* `exists_shows`: every unredacted field is shown, by the renderer of its element.
* `mem_renderers`: every renderer in an implementation is that of an unredacted field.
* `emit_shows_targets`: the plain form is used exactly for targets that are not well known and reach
  no redacted field, in whatever kind of field the target stands.
-/

namespace Redaction.Code

open Schema Requirement

variable {required : Requirement} {strict : Bool} {m : Message} {f : Field} {i : Impl}

/-! ### The renderers of an implementation -/

/-- What an expression renders values with, if it is not a constant. -/
def Expr.renderer? : Expr → Option Renderer
  | constant _ => none
  | render r _ | items _ r | entries _ r | optional _ r => some r

/-- The expressions whose values a statement may add. -/
def Statement.values : Statement → List Expr
  | insert _ value => [value]
  | choose _ _ arms => arms.map (·.value)

/-- **All that an implementation renders values with.** -/
def Impl.renderers (i : Impl) : List Renderer :=
  i.body.flatMap fun st => st.values.filterMap Expr.renderer?

/-- **The statement renders the value of the field through `r`:** what is at the place of the field,
or what the alternative of the field binds. -/
inductive Statement.Shows (m : Message) (f : Field) (r : Renderer) : Statement → Prop
  | place {place : String} : f.oneof = none → snakeIdentifier? f.name = some place →
      Shows m f r (.insert f.jsonName (accessExpr f place r))
  | alternative {index : Nat} {name place : String} {path : List String} {arms : List Arm}
      {a : Arm} :
      f.oneof = some index → m.oneofs[index]? = some name → snakeIdentifier? name = some place →
      a ∈ arms → camelIdentifier? f.name = some a.variant → a.key = f.jsonName →
      a.value = .render r .bound → Shows m f r (.choose place path arms)

theorem renderer?_accessExpr (f : Field) (place : String) (r : Renderer) :
    (accessExpr f place r).renderer? = some r := by
  unfold accessExpr
  split
  · rfl
  · rfl
  · rfl
  · split_ifs <;> rfl

/-- Every unredacted field is shown, by the renderer of its element. -/
theorem exists_shows (h : emit required strict m = .ok i) (hf : f ∈ m.fields)
    (hr : ¬ f.isRedacted) :
    ∃ st ∈ i.body, Statement.Shows m f (.ofElement required f.category.element) st := by
  have hall := emit_ok h
  cases ho : f.oneof with
  | none =>
    obtain ⟨st, hst, his⟩ := exists_right_of_mem hall (mem_leaders_of_none ho hf)
    refine ⟨st, hst, ?_⟩
    cases his with
    | oneof hi => rw [ho] at hi; cases hi
    | field _ he =>
      rcases fieldExpr_ok he with ⟨hr', -⟩ | ⟨-, place, hp, rfl⟩
      · exact absurd hr' hr
      · exact .place ho hp
  | some index =>
    obtain ⟨g, hg, hgo⟩ := exists_leader ho (List.not_mem_nil : index ∉ []) hf
    obtain ⟨st, hst, his⟩ := exists_right_of_mem hall hg
    refine ⟨st, hst, ?_⟩
    cases his with
    | field hi => rw [hgo] at hi; cases hi
    | oneof hi hn hp harms =>
      rw [hgo, Option.some.injEq] at hi
      subst hi
      obtain ⟨a, ha, harm⟩ := exists_right_of_mem harms (mem_membersOf.mpr ⟨hf, ho⟩)
      obtain ⟨hv, hk, hval⟩ := armOf_ok harm
      rw [if_neg hr] at hval
      exact .alternative ho hn hp ha hv hk hval

/-- Every renderer is that of an unredacted field. -/
theorem mem_renderers (h : emit required strict m = .ok i) {r : Renderer} (hr : r ∈ i.renderers) :
    ∃ f ∈ m.fields, ¬ f.isRedacted ∧ r = .ofElement required f.category.element := by
  simp only [Impl.renderers, List.mem_flatMap, List.mem_filterMap] at hr
  obtain ⟨st, hst, e, he, hr⟩ := hr
  obtain ⟨f, hf, his⟩ := exists_left_of_mem (emit_ok h) hst
  cases his with
  | field _ hfe =>
    rw [Statement.values, List.mem_singleton] at he
    subst he
    rcases fieldExpr_ok hfe with ⟨-, rfl⟩ | ⟨hred, place, -, rfl⟩
    · cases hr
    · rw [renderer?_accessExpr, Option.some.injEq] at hr
      exact ⟨f, mem_of_mem_leaders hf, hred, hr.symm⟩
  | oneof _ _ _ harms =>
    obtain ⟨a, ha, rfl⟩ := List.mem_map.mp he
    obtain ⟨g, hg, harm⟩ := exists_left_of_mem harms ha
    have hval := (armOf_ok harm).2.2
    rw [hval] at hr
    split_ifs at hr with hred
    · cases hr
    · exact ⟨g, (mem_membersOf.mp hg).1, hred, (Option.some.inj hr).symm⟩

/-! ### Plain forms and implementations -/

theorem ofKind_ne {kind : ScalarKind} {t : TypeName} :
    Renderer.ofKind kind ≠ .plain t ∧ Renderer.ofKind kind ≠ .redact t := by
  unfold Renderer.ofKind
  constructor <;> split <;> nofun

theorem ofWellKnown_ne {known : WellKnown} {t : TypeName} :
    Renderer.ofWellKnown known ≠ .plain t ∧ Renderer.ofWellKnown known ≠ .redact t := by
  unfold Renderer.ofWellKnown
  constructor <;> split <;> first | exact ofKind_ne.1 | exact ofKind_ne.2 | nofun

/-- An element is rendered by a plain form or an implementation exactly if it is a message that is
not well known; which of the two, is up to the marks. -/
theorem ofElement_cases (required : Requirement) (e : ElementType) :
    (∃ t, e = .message t ∧ WellKnown.ofName? t = none ∧
      Renderer.ofElement required e = if required.requires t then .redact t else .plain t) ∨
    ((∀ t, e = .message t → WellKnown.ofName? t ≠ none) ∧
      ∀ t, Renderer.ofElement required e ≠ .plain t ∧ Renderer.ofElement required e ≠ .redact t) := by
  cases e with
  | scalar kind => exact Or.inr ⟨nofun, fun t => ofKind_ne⟩
  | message u =>
    unfold Renderer.ofElement
    dsimp only
    cases hk : WellKnown.ofName? u with
    | none => exact Or.inl ⟨u, rfl, hk, rfl⟩
    | some known =>
      refine Or.inr ⟨?_, fun t => ofWellKnown_ne⟩
      rintro t ⟨⟩
      rw [hk]
      nofun

theorem ofElement_eq_plain {e : ElementType} {t : TypeName} :
    Renderer.ofElement required e = .plain t ↔
      e = .message t ∧ WellKnown.ofName? t = none ∧ ¬ required.requires t := by
  rcases ofElement_cases required e with ⟨u, rfl, hk, h⟩ | ⟨hmessage, hne⟩
  · rw [h, ElementType.message.injEq]
    constructor
    · intro h
      split_ifs at h with hq
      obtain rfl := Renderer.plain.inj h
      exact ⟨rfl, hk, hq⟩
    · rintro ⟨rfl, -, hq⟩
      exact if_neg hq
  · constructor
    · exact fun h => absurd h (hne t).1
    · rintro ⟨he, hn, -⟩
      exact absurd hn (hmessage t he)

theorem ofElement_eq_redact {e : ElementType} {t : TypeName} :
    Renderer.ofElement required e = .redact t ↔
      e = .message t ∧ WellKnown.ofName? t = none ∧ required.requires t := by
  rcases ofElement_cases required e with ⟨u, rfl, hk, h⟩ | ⟨hmessage, hne⟩
  · rw [h, ElementType.message.injEq]
    constructor
    · intro h
      split_ifs at h with hq
      obtain rfl := Renderer.redact.inj h
      exact ⟨rfl, hk, hq⟩
    · rintro ⟨rfl, -, hq⟩
      exact if_pos hq
  · constructor
    · exact fun h => absurd h (hne t).2
    · rintro ⟨he, hn, -⟩
      exact absurd hn (hmessage t he)

theorem target?_eq_some {t : TypeName} : f.target? = some t ↔ f.category.element = .message t := by
  unfold Field.target? Category.target? ElementType.target?
  cases f.category.element <;> simp

/-- **Targets and how they are rendered.** In the implementation of a message,

* every unredacted field with a target is shown through one renderer, which is the plain form of the
  target if that is not well known and reaches no redacted field, and the implementation of the
  target if that is not well known and reaches one;
* nothing else is rendered by plain forms and implementations: a plain form is only used for a type
  that is not well known and reaches no redacted field, an implementation only for a type that needs
  redaction. -/
theorem emit_shows_targets (s : Schema) {strict : Bool} {m : Message} {i : Impl}
    (h : emit (ofSchema s) strict m = .ok i) :
    (∀ f ∈ m.fields, ¬ f.isRedacted → ∀ t, f.target? = some t →
      ∃ st ∈ i.body, ∃ r, Statement.Shows m f r st ∧
        (∀ u, r = .plain u ↔
          u = t ∧ WellKnown.ofName? t = none ∧ ¬ Reaches (messagesOf s) t) ∧
        (∀ u, r = .redact u ↔
          u = t ∧ WellKnown.ofName? t = none ∧ Reaches (messagesOf s) t)) ∧
    ∀ r ∈ i.renderers, ∀ t,
      (r = .plain t → WellKnown.ofName? t = none ∧ ¬ Reaches (messagesOf s) t) ∧
      (r = .redact t → WellKnown.ofName? t = none ∧ (ofSchema s).requires t) := by
  constructor
  · intro f hf hr t ht
    obtain ⟨st, hst, hshows⟩ := exists_shows h hf hr
    rw [target?_eq_some] at ht
    refine ⟨st, hst, _, hshows, fun u => ?_, fun u => ?_⟩
    · rw [ofElement_eq_plain, ht, requires_iff_reaches, ElementType.message.injEq]
      constructor
      · rintro ⟨rfl, hn, hu⟩; exact ⟨rfl, hn, hu⟩
      · rintro ⟨rfl, hn, hu⟩; exact ⟨rfl, hn, hu⟩
    · rw [ofElement_eq_redact, ht, requires_iff_reaches, ElementType.message.injEq]
      constructor
      · rintro ⟨rfl, hn, hu⟩; exact ⟨rfl, hn, hu⟩
      · rintro ⟨rfl, hn, hu⟩; exact ⟨rfl, hn, hu⟩
  · intro r hr t
    obtain ⟨f, -, -, rfl⟩ := mem_renderers h hr
    rw [ofElement_eq_plain, ofElement_eq_redact, ← requires_iff_reaches]
    exact ⟨fun h => h.2, fun h => h.2⟩

/-! ### A box with notes and keys -/

/-- A field that leads to a message type. -/
def targetField (name target : String) (cardinality : Cardinality) : Field :=
  { name, fullName := name, jsonName := name, category := .message ⟨target⟩, cardinality
    explicitPresence := false, oneof := none, rules := none }

/-- A message type with one text, which may be redacted. -/
def textMessage (name : String) (redact : Bool) : Message :=
  { id := ⟨name⟩, file := "box", path := [name], nested := [], oneofs := []
    fields := [{
      name := "text", fullName := "text", jsonName := "text", category := .scalar .string
      cardinality := .singular, explicitPresence := false, oneof := none
      rules := some { redact } }] }

/-- A message type that leads to texts of both kinds. -/
def boxMessage : Message :=
  { id := ⟨"Box"⟩, file := "box", path := ["Box"], nested := [], oneofs := []
    fields := [targetField "note" "Note" .singular, targetField "keys" "Key" .repeated] }

def boxSchema : Schema :=
  { messages := [(⟨"Box"⟩, boxMessage), (⟨"Key"⟩, textMessage "Key" true),
      (⟨"Note"⟩, textMessage "Note" false)] }

def boxImpl : Impl :=
  { target := ["Box"]
    body := [.insert "note" (.optional "note" (.plain ⟨"Note"⟩)),
      .insert "keys" (.items "keys" (.redact ⟨"Key"⟩))] }

/-- The plain form of the note is in use, so the note reaches no redacted field; the keys have an
implementation, so they need redaction. -/
theorem emit_shows_targets_box :
    emit (ofSchema boxSchema) false boxMessage = .ok boxImpl ∧
      ¬ Reaches (messagesOf boxSchema) ⟨"Note"⟩ ∧ (ofSchema boxSchema).requires ⟨"Key"⟩ := by
  have h : emit (ofSchema boxSchema) false boxMessage = .ok boxImpl := by decide +kernel
  have hs := (emit_shows_targets boxSchema h).2
  have hnote : Renderer.plain ⟨"Note"⟩ ∈ boxImpl.renderers := by
    simp [Impl.renderers, boxImpl, Statement.values, Expr.renderer?]
  have hkey : Renderer.redact ⟨"Key"⟩ ∈ boxImpl.renderers := by
    simp [Impl.renderers, boxImpl, Statement.values, Expr.renderer?]
  exact ⟨h, ((hs _ hnote _).1 rfl).2, ((hs _ hkey _).2 rfl).2⟩

end Redaction.Code
