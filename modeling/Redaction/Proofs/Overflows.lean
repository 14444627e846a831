import Redaction.Proofs.Documents
import Redaction.Proofs.Durations
import Redaction.Proofs.Instances

/-!
# Documents that overflow

A document has a duration in it that overflows if a value does that is shown: one in a row of the
message that is not redacted, at any depth (`Overflows`). A build that checks for overflow ends when
it renders such a document, and any other build gives it.

Rendering is then the same in both builds up to a condition under which it has no result (`EndsIf`).
The rules for sequences of such steps are those that a proof about rendering goes by.
-/

namespace Redaction

/-! ### Outcomes under a condition -/

/-- **The outcome is a value, unless a condition holds** under which there is none. -/
inductive EndsIf {α : Type} (P : Prop) (a : α) : Option α → Prop
  | ends : P → EndsIf P a none
  | gives : ¬ P → EndsIf P a (some a)

namespace EndsIf

variable {α β : Type} {P Q : Prop} {a : α} {b : β} {x : Option α}

theorem eq_none_iff (h : EndsIf P a x) : x = none ↔ P := by
  cases h with
  | ends hP => exact iff_of_true rfl hP
  | gives hP => exact iff_of_false (by simp) hP

theorem eq_some (h : EndsIf P a x) (hP : ¬ P) : x = some a := by
  cases h with
  | ends h => exact absurd h hP
  | gives _ => rfl

theorem unique {y : Option α} (h : EndsIf P a x) (h' : EndsIf P a y) : x = y := by
  cases h with
  | ends hP => exact (h'.eq_none_iff.mpr hP).symm
  | gives hP => exact (h'.eq_some hP).symm

theorem congr (h : EndsIf P a x) (hPQ : P ↔ Q) : EndsIf Q a x := by rwa [← propext hPQ]

theorem map (h : EndsIf P a x) (f : α → β) : EndsIf P (f a) (x.map f) := by
  cases h with
  | ends hP => exact .ends hP
  | gives hP => exact .gives hP

/-- A second step ends the whole as the first one does. -/
theorem bind (h : EndsIf P a x) {f : α → Option β} (hf : EndsIf Q b (f a)) :
    EndsIf (P ∨ Q) b (x.bind f) := by
  cases h with
  | ends hP => exact .ends (Or.inl hP)
  | gives hP => exact hf.congr (by simp [hP])

/-- Over a list, one item is enough to end the whole. -/
theorem mapM {f : α → Option β} {g : α → β} {R : α → Prop} :
    ∀ {as : List α}, (∀ a ∈ as, EndsIf (P ∧ R a) (g a) (f a)) →
      EndsIf (P ∧ ∃ a ∈ as, R a) (as.map g) (as.mapM f)
  | [], _ => .gives (by simp)
  | a :: as, h => by
    obtain ⟨ha, has⟩ := List.forall_mem_cons.mp h
    have hcons : (a :: as).mapM f = (f a).bind fun b => (as.mapM f).map (b :: ·) := by
      rw [List.mapM_cons, Option.bind_eq_bind]
      congr 1
      funext b
      cases as.mapM f <;> rfl
    rw [hcons, List.map_cons]
    exact (ha.bind ((mapM has).map (g a :: ·))).congr (by simp [and_or_left])

end EndsIf

/-! ### Durations -/

theorem Render.Duration.endsIf_json? (o : Render.Overflow) (d : Render.Duration) :
    EndsIf (o = .panics ∧ d.overflows) d.json (d.json? o) := by
  unfold Render.Duration.json?
  split_ifs with h
  · exact .ends h
  · exact .gives h

/-! ### Documents -/

namespace Document

open Schema Wire

/-- **The row shows the value** as one of the element, because no field that it is in is redacted.
-/
inductive RowShows : Slot → Row → Value → ElementType → Prop
  | field {s : Slot} {f : Schema.Field} {v : Value} : ¬ f.isRedacted → v ∈ s.parts →
      RowShows s (.field f) v f.category.element
  | oneof {number : Nat} {v : Value} {alternatives : List (Nat × Schema.Field)}
      {f : Schema.Field} : alternatives.lookup number = some f → ¬ f.isRedacted →
      RowShows (.member number v) (.oneof alternatives) v f.category.element

variable (rows : TypeName → List Row)

/-- **The value shows a duration that overflows,** as itself or in one of its rows. -/
inductive Overflows : Value → ElementType → Prop
  | duration {slots : List Slot} {type : TypeName} : WellKnown.ofName? type = some .duration →
      (Render.Duration.ofSlots slots).overflows → Overflows (.message slots) (.message type)
  | row {slots : List Slot} {type : TypeName} {s : Slot} {row : Row} {v : Value}
      {element : ElementType} : WellKnown.ofName? type = none → (s, row) ∈ slots.zip (rows type) →
      RowShows s row v element → Overflows v element → Overflows (.message slots) (.message type)

/-- The row shows a value with a duration that overflows. -/
def RowOverflows (s : Slot) (row : Row) : Prop :=
  ∃ v element, RowShows s row v element ∧ Overflows rows v element

/-- A row of the message does. -/
def RowsOverflow (slots : List Slot) (rs : List Row) : Prop :=
  ∃ r ∈ slots.zip rs, RowOverflows rows r.1 r.2

variable {rows} {s : Slot} {slots : List Slot} {type : TypeName} {f : Schema.Field}

theorem not_overflows_datum (d : Datum) (element : ElementType) :
    ¬ Overflows rows (.datum d) element := nofun

theorem overflows_wellKnown_iff {known : WellKnown} (hk : WellKnown.ofName? type = some known) :
    Overflows rows (.message slots) (.message type) ↔
      known = .duration ∧ (Render.Duration.ofSlots slots).overflows := by
  constructor
  · rintro (⟨hd, hover⟩ | ⟨hnone, -, -, -⟩)
    · exact ⟨Option.some.inj (hk.symm.trans hd), hover⟩
    · rw [hk] at hnone; cases hnone
  · rintro ⟨rfl, hover⟩
    exact .duration hk hover

/-- No other well-known message does. -/
theorem not_overflows_wellKnown {known : WellKnown} (hk : WellKnown.ofName? type = some known)
    (hne : known ≠ .duration) (v : Value) : ¬ Overflows rows v (.message type) := by
  cases v with
  | datum d => exact not_overflows_datum d _
  | message slots => exact fun h => hne ((overflows_wellKnown_iff hk).mp h).1

theorem overflows_message_iff (hk : WellKnown.ofName? type = none) :
    Overflows rows (.message slots) (.message type) ↔ RowsOverflow rows slots (rows type) := by
  constructor
  · rintro (⟨hd, -⟩ | ⟨-, hmem, hshows, hover⟩)
    · rw [hk] at hd; cases hd
    · exact ⟨_, hmem, _, _, hshows, hover⟩
  · rintro ⟨r, hmem, v, element, hshows, hover⟩
    exact .row hk hmem hshows hover

theorem not_rowsOverflow_nil (rs : List Row) : ¬ RowsOverflow rows [] rs := by
  simp [RowsOverflow]

theorem rowsOverflow_cons_iff {row : Row} {rs : List Row} :
    RowsOverflow rows (s :: slots) (row :: rs) ↔
      RowOverflows rows s row ∨ RowsOverflow rows slots rs := by
  simp [RowsOverflow]

theorem rowOverflows_field_iff : RowOverflows rows s (.field f) ↔
    ¬ f.isRedacted ∧ ∃ v ∈ s.parts, Overflows rows v f.category.element := by
  constructor
  · rintro ⟨v, element, ⟨hf, hv⟩, hover⟩
    exact ⟨hf, v, hv, hover⟩
  · rintro ⟨hf, v, hv, hover⟩
    exact ⟨v, _, .field hf hv, hover⟩

/-- A oneof with no member set shows nothing. -/
theorem not_rowOverflows_unchosen (alternatives : List (Nat × Schema.Field)) :
    ¬ RowOverflows rows .absent (.oneof alternatives) := by
  rintro ⟨v, element, hshows, -⟩
  cases hshows

theorem rowOverflows_oneof_iff {number : Nat} {v : Value}
    {alternatives : List (Nat × Schema.Field)} (h : alternatives.lookup number = some f) :
    RowOverflows rows (.member number v) (.oneof alternatives) ↔
      ¬ f.isRedacted ∧ Overflows rows v f.category.element := by
  constructor
  · rintro ⟨v, element, hshows, hover⟩
    cases hshows with
    | oneof hlookup hf =>
      obtain rfl := Option.some.inj (h.symm.trans hlookup)
      exact ⟨hf, hover⟩
  · rintro ⟨hf, hover⟩
    exact ⟨v, _, .oneof h hf, hover⟩

end Document

end Redaction
