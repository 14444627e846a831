import Mathlib.Data.Set.Basic
import Mathlib.Logic.Relation
import Mathlib.Order.Bounds.Defs
import Redaction.Proofs.OrderedTables
import Redaction.Requirement

/-!
# The messages that need redaction are those that reach a redacted field

The messages of a schema are a graph: a field of a message type leads from its message to the one
with that name, if there is one. `Reaches` says that a chain of such steps ends in a message with a
redacted field, `Closed` that a set of names has all owners of redacted fields and whatever leads
into it.

* `Settles` is the loop over the passes without a bound on their number; `settles_run` says that it
  ends, after at most one pass more than there are messages.
* `isLeast_types`: the marks at its end are the least closed set.
* `requires_iff_reaches`: a name is marked exactly if its message reaches a redacted field.

A pass sees the marks that it has made itself, so how far the marks get in one pass depends on the
order of the messages. What holds in any order is that a pass loses no mark, stays below every
closed set, and marks something unless the marks are `Stable`.
-/

namespace Redaction.Requirement

open Schema

variable {messages : List Message} {marked settled : List TypeName}

/-! ### The graph of the messages -/

/-- A field of the first message leads to the second, which is one of `messages`. -/
def LeadsTo (messages : List Message) (m n : Message) : Prop :=
  n ∈ messages ∧ ∃ f ∈ m.fields, f.target? = some n.id

/-- **A message of that name reaches a redacted field:** a chain of fields, which may be empty,
leads from it to a message that has one. -/
def Reaches (messages : List Message) (type : TypeName) : Prop :=
  ∃ m ∈ messages, m.id = type ∧
    ∃ n, Relation.ReflTransGen (LeadsTo messages) m n ∧ ∃ f ∈ n.fields, f.isRedacted

/-- A set of names with every message that has a redacted field, and with every message that has a
field whose target is in the set. -/
structure Closed (messages : List Message) (marks : Set TypeName) : Prop where
  owner : ∀ m ∈ messages, (∃ f ∈ m.fields, f.isRedacted) → m.id ∈ marks
  back : ∀ m ∈ messages, (∃ f ∈ m.fields, ∃ t ∈ marks, f.target? = some t) → m.id ∈ marks

/-- Every message that leads to a mark is marked. -/
def Stable (messages : List Message) (marked : List TypeName) : Prop :=
  ∀ m ∈ messages, (∃ f ∈ m.fields, ∃ t ∈ marked, f.target? = some t) → m.id ∈ marked

/-- **The loop over the passes:** it starts from `marked`, ends with `settled`, and takes so many
passes, of which the last marks nothing. -/
inductive Settles (messages : List Message) : List TypeName → List TypeName → Nat → Prop
  | stable {marked : List TypeName} : Stable messages marked → Settles messages marked marked 1
  | again {marked settled : List TypeName} {n : Nat} : ¬ Stable messages marked →
      Settles messages (pass messages marked) settled n → Settles messages marked settled (n + 1)

/-! ### One message -/

theorem ownsRedacted_iff {m : Message} : ownsRedacted m ↔ ∃ f ∈ m.fields, f.isRedacted := by
  simp [ownsRedacted]

theorem reaches_iff {m : Message} :
    reaches marked m ↔ ∃ f ∈ m.fields, ∃ t ∈ marked, f.target? = some t := by
  simp only [reaches, List.any_eq_true, Option.any_eq_true, List.contains_iff_mem]
  constructor
  · rintro ⟨f, hf, t, ht, hm⟩; exact ⟨f, hf, t, hm, ht⟩
  · rintro ⟨f, hf, t, hm, ht⟩; exact ⟨f, hf, t, ht, hm⟩

theorem mem_mark {m : Message} {t : TypeName} :
    t ∈ mark marked m ↔ t ∈ marked ∨ t = m.id ∧ reaches marked m := by
  unfold mark
  split_ifs with h1 h2
  · rw [List.contains_iff_mem] at h1
    constructor
    · exact Or.inl
    · rintro (h | ⟨rfl, -⟩)
      · exact h
      · exact h1
  · rw [Ordered.mem_add, or_comm]; simp [h2]
  · simp [h2]

/-- A message that leads to no mark, or is marked, changes nothing. -/
theorem mark_eq_self {m : Message} (h : reaches marked m → m.id ∈ marked) :
    mark marked m = marked := by
  unfold mark
  split_ifs with h1 h2
  · rfl
  · rw [List.contains_iff_mem] at h1
    exact absurd (h h2) h1
  · rfl

/-! ### One pass -/

theorem subset_pass : ∀ (ms : List Message) (marked : List TypeName), marked ⊆ pass ms marked
  | [], _ => fun _ h => h
  | m :: ms, marked => fun t h => by
    rw [pass, List.foldl_cons]
    exact subset_pass ms (mark marked m) (mem_mark.mpr (Or.inl h))

/-- What leads to a mark is marked by a pass. -/
theorem id_mem_pass : ∀ (ms : List Message) (marked : List TypeName) {m : Message}, m ∈ ms →
    reaches marked m → m.id ∈ pass ms marked
  | n :: ms, marked, m, hm, h => by
    rw [pass, List.foldl_cons]
    rcases List.mem_cons.mp hm with rfl | hm
    · exact subset_pass ms _ (mem_mark.mpr (Or.inr ⟨rfl, h⟩))
    · refine id_mem_pass ms (mark marked n) hm ?_
      obtain ⟨f, hf, t, ht, hft⟩ := reaches_iff.mp h
      exact reaches_iff.mpr ⟨f, hf, t, mem_mark.mpr (Or.inl ht), hft⟩

/-- **A pass stays below every closed set.** -/
theorem pass_subset_closed {marks : Set TypeName} (hc : Closed messages marks) :
    ∀ (ms : List Message) (marked : List TypeName), ms ⊆ messages → (∀ t ∈ marked, t ∈ marks) →
      ∀ t ∈ pass ms marked, t ∈ marks
  | [], _, _, h => h
  | m :: ms, marked, hms, h => by
    rw [pass, List.foldl_cons]
    refine pass_subset_closed hc ms (mark marked m) (fun n hn => hms (List.mem_cons_of_mem _ hn)) ?_
    intro t ht
    rcases mem_mark.mp ht with ht | ⟨rfl, hr⟩
    · exact h t ht
    · obtain ⟨f, hf, u, hu, hfu⟩ := reaches_iff.mp hr
      exact hc.back m (hms List.mem_cons_self) ⟨f, hf, u, h u hu, hfu⟩

theorem pass_eq_self_of_stable (h : Stable messages marked) :
    ∀ ms ⊆ messages, pass ms marked = marked
  | [], _ => rfl
  | m :: ms, hms => by
    have hm : mark marked m = marked :=
      mark_eq_self fun hr => h m (hms List.mem_cons_self) (reaches_iff.mp hr)
    rw [pass, List.foldl_cons, hm]
    exact pass_eq_self_of_stable h ms fun n hn => hms (List.mem_cons_of_mem _ hn)

/-- **A pass marks nothing exactly if the marks are stable.** -/
theorem pass_eq_self_iff : pass messages marked = marked ↔ Stable messages marked := by
  constructor
  · intro h m hm hr
    have := id_mem_pass messages marked hm (reaches_iff.mpr hr)
    rwa [h] at this
  · exact fun h => pass_eq_self_of_stable h messages (List.Subset.refl _)

/-! ### The loop -/

/-- The messages without a mark. -/
def unmarked (messages : List Message) (marked : List TypeName) : List Message :=
  messages.filter fun m => m.id ∉ marked

/-- A pass over marks that are not stable leaves fewer messages without a mark. -/
theorem length_unmarked_pass (h : ¬ Stable messages marked) :
    (unmarked messages (pass messages marked)).length < (unmarked messages marked).length := by
  simp only [Stable, not_forall] at h
  obtain ⟨m, hm, hr, hmark⟩ := h
  have hpass := id_mem_pass messages marked hm (reaches_iff.mpr hr)
  -- a pass loses no mark, so what has none after it had none before
  have hsub : unmarked messages (pass messages marked) =
      (unmarked messages marked).filter fun m => m.id ∉ pass messages marked := by
    unfold unmarked
    rw [List.filter_filter]
    refine List.filter_congr fun n _ => ?_
    by_cases hn : n.id ∈ marked
    · simp [hn, subset_pass messages marked hn]
    · simp [hn]
  rw [hsub, List.length_filter_lt_length_iff_exists]
  exact ⟨m, List.mem_filter.mpr ⟨hm, by simpa using hmark⟩, by simpa using hpass⟩

/-- A bound above the number of unmarked messages is never reached. -/
theorem settles_settle : ∀ (n : Nat) (marked : List TypeName),
    (unmarked messages marked).length < n →
      Settles messages marked (settle messages n marked).1 (settle messages n marked).2 ∧
        (settle messages n marked).2 ≤ (unmarked messages marked).length + 1
  | n + 1, marked, hn => by
    unfold settle
    by_cases h : pass messages marked = marked
    · simp only [h, if_true]
      exact ⟨.stable (pass_eq_self_iff.mp h), by omega⟩
    · have hs : ¬ Stable messages marked := fun hs => h (pass_eq_self_iff.mpr hs)
      have hlt := length_unmarked_pass hs
      obtain ⟨hset, hle⟩ := settles_settle n (pass messages marked) (by omega)
      simp only [h, if_false]
      exact ⟨.again hs hset, by omega⟩

theorem Settles.subset {n : Nat} (h : Settles messages marked settled n) : marked ⊆ settled := by
  induction h with
  | stable => exact List.Subset.refl _
  | again _ _ ih => exact List.Subset.trans (subset_pass messages _) ih

theorem Settles.isStable {n : Nat} (h : Settles messages marked settled n) :
    Stable messages settled := by
  induction h with
  | stable h => exact h
  | again _ _ ih => exact ih

theorem Settles.subset_closed {n : Nat} {marks : Set TypeName} (hc : Closed messages marks)
    (h : Settles messages marked settled n) (hm : ∀ t ∈ marked, t ∈ marks) :
    ∀ t ∈ settled, t ∈ marks := by
  induction h with
  | stable => exact hm
  | again _ _ ih => exact ih (pass_subset_closed hc messages _ (List.Subset.refl _) hm)

/-! ### The marks of a schema -/

variable (s : Schema)

/-- **The loop ends,** after at most one pass more than there are messages. -/
theorem settles_run :
    Settles (messagesOf s) (owners (messagesOf s)) (ofSchema s).types (run s).2 ∧
      (run s).2 ≤ s.messages.length + 1 := by
  have hle : (unmarked (messagesOf s) (owners (messagesOf s))).length ≤ (messagesOf s).length :=
    List.length_filter_le _ _
  obtain ⟨h, hn⟩ := settles_settle ((messagesOf s).length + 1) (owners (messagesOf s))
    (Nat.lt_succ_of_le hle)
  refine ⟨h, le_trans hn ?_⟩
  simp only [messagesOf, List.length_map] at hle ⊢
  omega

theorem mem_owners {t : TypeName} :
    t ∈ owners messages ↔ ∃ m ∈ messages, (∃ f ∈ m.fields, f.isRedacted) ∧ m.id = t := by
  simp only [owners, List.mem_map, List.mem_filter, ownsRedacted_iff, and_assoc]

theorem requires_iff_mem {r : Requirement} {t : TypeName} : r.requires t ↔ t ∈ r.types := by
  simp [requires]

/-- **The marks are the least closed set.** -/
theorem isLeast_types :
    IsLeast {marks | Closed (messagesOf s) marks} {t | (ofSchema s).requires t} := by
  have h := (settles_run s).1
  simp only [requires_iff_mem]
  refine ⟨⟨fun m hm ho => ?_, fun m hm hb => h.isStable m hm hb⟩, fun marks hc => ?_⟩
  · exact h.subset (mem_owners.mpr ⟨m, hm, ho, rfl⟩)
  · refine h.subset_closed hc fun t ht => ?_
    obtain ⟨m, hm, ho, rfl⟩ := mem_owners.mp ht
    exact hc.owner m hm ho

theorem closed_reaches : Closed messages {t | Reaches messages t} where
  owner m hm ho := ⟨m, hm, rfl, m, .refl, ho⟩
  back := by
    rintro m hm ⟨f, hf, t, ⟨n, hn, rfl, o, hno, ho⟩, hft⟩
    exact ⟨m, hm, rfl, o, .head ⟨hn, f, hf, hft⟩ hno, ho⟩

/-- What reaches a redacted field is in every closed set. -/
theorem Closed.mem_of_reaches {marks : Set TypeName} (hc : Closed messages marks) {t : TypeName}
    (h : Reaches messages t) : t ∈ marks := by
  obtain ⟨m, hm, rfl, n, hmn, ho⟩ := h
  -- the induction goes back along the chain, from the owner to the first message
  induction hmn using Relation.ReflTransGen.head_induction_on with
  | refl => exact hc.owner n hm ho
  | head hab _ ih =>
    obtain ⟨hb, f, hf, hft⟩ := hab
    exact hc.back _ hm ⟨f, hf, _, ih hb, hft⟩

/-- **A message type needs redaction exactly if it reaches a redacted field.** -/
theorem requires_iff_reaches {t : TypeName} :
    (ofSchema s).requires t ↔ Reaches (messagesOf s) t :=
  ⟨fun h => (isLeast_types s).2 closed_reaches h, fun h => (isLeast_types s).1.mem_of_reaches h⟩

/-- **The marking of a schema.** The loop over the passes ends, after at most one pass more than
there are messages; what it has marked then are the names of the messages from which a chain of
fields ends in a message with a redacted field, which is the least closed set. -/
theorem marking_reaches_and_isLeast :
    (∃ n ≤ s.messages.length + 1,
      Settles (messagesOf s) (owners (messagesOf s)) (ofSchema s).types n) ∧
    (∀ t, (ofSchema s).requires t ↔ Reaches (messagesOf s) t) ∧
    IsLeast {marks | Closed (messagesOf s) marks} {t | (ofSchema s).requires t} :=
  ⟨⟨(run s).2, (settles_run s).2, (settles_run s).1⟩, fun _ => requires_iff_reaches s,
    isLeast_types s⟩

end Redaction.Requirement
