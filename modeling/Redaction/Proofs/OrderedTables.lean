import Mathlib.Data.List.Sort
import Mathlib.Data.String.Basic
import Redaction.Ordered
import Redaction.Schema.TypeName

/-!
# Ordered tables

What the operations on ordered tables do to the members of lists and tables.

* `mem_add`: the members of an ordered list; nothing is asked of the order of the list.
* `sorted_insert`, `sorted_ofList`: the keys of a table increase, so that a key is there once.
* `perm_ofList`: of entries with distinct keys none is lost.
* `ofList_eq_of_perm`, `perm_of_ofList_eq`: such entries have one table, in whatever order they
  come, and other entries another one.
* `ofList_eq_mergeSort`: the table of such entries is what sorting them by their keys gives.
* `lookup_insert`: reading after an insertion; nothing is asked of the order of the list.
* `lookup_eq_some_iff`: what is read under a key is the entry that is there.
-/

namespace Redaction.Ordered

variable {α β : Type} [LT α]

/-! ### Order -/

/-- **The keys increase.** -/
def Sorted (table : List (α × β)) : Prop := table.Pairwise fun a b => a.1 < b.1

section Order

variable [IsStrictTotalOrder α (· < ·)]

theorem Sorted.nodup {table : List (α × β)} (h : Sorted table) : (table.map (·.1)).Nodup := by
  refine List.pairwise_map.mpr (h.imp fun {a b} hab he => ?_)
  rw [he] at hab
  exact irrefl_of (· < ·) b.1 hab

/-- Ordered tables with the same entries are the same. -/
theorem Sorted.eq_of_perm {a b : List (α × β)} (ha : Sorted a) (hb : Sorted b) (h : a.Perm b) :
    a = b :=
  List.Perm.eq_of_pairwise (fun _ _ _ _ hxy hyx => absurd hyx (asymm_of (· < ·) hxy)) ha hb h

end Order

/-! ### Insertion -/

variable [DecidableLT α] [DecidableEq α]

theorem mem_add {k x : α} {l : List α} : x ∈ add k l ↔ x = k ∨ x ∈ l := by
  induction l with
  | nil => simp [add]
  | cons y l ih =>
    unfold add
    split_ifs with h1 h2
    · simp
    · subst h2; simp
    · rw [List.mem_cons, ih, List.mem_cons, or_left_comm]

theorem mem_of_mem_insert {k : α} {v : β} {e : α × β} {table : List (α × β)}
    (h : e ∈ insert k v table) : e = (k, v) ∨ e ∈ table := by
  induction table with
  | nil => exact Or.inl (List.mem_singleton.mp h)
  | cons x table ih =>
    unfold insert at h
    split_ifs at h
    · exact List.mem_cons.mp h
    · rcases List.mem_cons.mp h with rfl | h
      · exact Or.inl rfl
      · exact Or.inr (List.mem_cons_of_mem _ h)
    · rcases List.mem_cons.mp h with rfl | h
      · exact Or.inr List.mem_cons_self
      · rcases ih h with rfl | h
        · exact Or.inl rfl
        · exact Or.inr (List.mem_cons_of_mem _ h)

/-- No key is lost, and one may be new. -/
theorem mem_keys_insert {k x : α} {v : β} {table : List (α × β)} :
    x ∈ (insert k v table).map (·.1) ↔ x = k ∨ x ∈ table.map (·.1) := by
  induction table with
  | nil => simp [insert]
  | cons e table ih =>
    unfold insert
    split_ifs with h1 h2
    · rw [List.map_cons, List.mem_cons]
    · subst h2
      rw [List.map_cons, List.map_cons, List.mem_cons]
      exact or_self_left.symm
    · rw [List.map_cons, List.mem_cons, ih, List.map_cons, List.mem_cons, or_left_comm]

/-- A new key is added to what is there. -/
theorem perm_insert {k : α} {v : β} {table : List (α × β)} (h : k ∉ table.map (·.1)) :
    (insert k v table).Perm ((k, v) :: table) := by
  induction table with
  | nil => exact .refl _
  | cons x table ih =>
    rw [List.map_cons, List.mem_cons, not_or] at h
    unfold insert
    rw [if_neg h.1]
    split_ifs
    · exact .refl _
    · exact ((ih h.2).cons x).trans (.swap (k, v) x table)

theorem sorted_insert [IsStrictTotalOrder α (· < ·)] {k : α} {v : β} {table : List (α × β)}
    (h : Sorted table) : Sorted (insert k v table) := by
  induction table with
  | nil => exact List.pairwise_singleton _ _
  | cons x table ih =>
    obtain ⟨hx, ht⟩ := List.pairwise_cons.mp h
    unfold insert
    split_ifs with h1 h2
    · refine List.pairwise_cons.mpr ⟨fun e he => ?_, h⟩
      rcases List.mem_cons.mp he with rfl | he
      · exact h1
      · exact trans_of (· < ·) h1 (hx e he)
    · subst h2
      exact List.pairwise_cons.mpr ⟨hx, ht⟩
    · refine List.pairwise_cons.mpr ⟨fun e he => ?_, ih ht⟩
      rcases mem_of_mem_insert he with rfl | he
      · exact (trichotomous_of (· < ·) k x.1).resolve_left h1 |>.resolve_left h2
      · exact hx e he

/-! ### Tables of lists -/

theorem mem_of_mem_foldl {e : α × β} {entries table : List (α × β)}
    (h : e ∈ entries.foldl (fun table e => insert e.1 e.2 table) table) :
    e ∈ table ∨ e ∈ entries := by
  induction entries generalizing table with
  | nil => exact Or.inl h
  | cons x entries ih =>
    rcases ih h with h | h
    · rcases mem_of_mem_insert h with rfl | h
      · exact Or.inr List.mem_cons_self
      · exact Or.inl h
    · exact Or.inr (List.mem_cons_of_mem _ h)

theorem mem_keys_foldl {x : α} {entries table : List (α × β)} :
    x ∈ (entries.foldl (fun table e => insert e.1 e.2 table) table).map (·.1) ↔
      x ∈ table.map (·.1) ∨ x ∈ entries.map (·.1) := by
  induction entries generalizing table with
  | nil => simp
  | cons e entries ih =>
    rw [List.foldl_cons, ih, mem_keys_insert, List.map_cons, List.mem_cons, or_comm (a := x = e.1),
      or_assoc]

theorem sorted_foldl [IsStrictTotalOrder α (· < ·)] {entries table : List (α × β)}
    (h : Sorted table) : Sorted (entries.foldl (fun table e => insert e.1 e.2 table) table) := by
  induction entries generalizing table with
  | nil => exact h
  | cons e entries ih => exact ih (sorted_insert h)

/-- **A table is ordered.** -/
theorem sorted_ofList [IsStrictTotalOrder α (· < ·)] (entries : List (α × β)) :
    Sorted (ofList entries) := sorted_foldl List.Pairwise.nil

theorem perm_foldl {entries table : List (α × β)} (h : ((entries ++ table).map (·.1)).Nodup) :
    (entries.foldl (fun table e => insert e.1 e.2 table) table).Perm (entries ++ table) := by
  induction entries generalizing table with
  | nil => exact .refl _
  | cons e entries ih =>
    rw [List.cons_append, List.map_cons, List.map_append, List.nodup_cons, List.mem_append,
      not_or] at h
    have hperm : (entries ++ insert e.1 e.2 table).Perm (e :: (entries ++ table)) :=
      ((perm_insert h.1.2).append_left entries).trans List.perm_middle
    refine (ih ((hperm.map (·.1)).nodup_iff.mpr ?_)).trans hperm
    rw [List.map_cons, List.map_append, List.nodup_cons, List.mem_append, not_or]
    exact h

/-- Entries with distinct keys are all there. -/
theorem perm_ofList {entries : List (α × β)} (h : (entries.map (·.1)).Nodup) :
    (ofList entries).Perm entries := by
  rw [← List.append_nil entries] at h
  exact (perm_foldl h).trans (by rw [List.append_nil])

/-- **The order in which entries come does not matter** if their keys are distinct. -/
theorem ofList_eq_of_perm [IsStrictTotalOrder α (· < ·)] {a b : List (α × β)}
    (ha : (a.map (·.1)).Nodup) (h : a.Perm b) : ofList a = ofList b := by
  have hb : (b.map (·.1)).Nodup := (h.map (·.1)).nodup_iff.mp ha
  exact (sorted_ofList a).eq_of_perm (sorted_ofList b)
    (((perm_ofList ha).trans h).trans (perm_ofList hb).symm)

/-- Entries with distinct keys that have one table are the same. -/
theorem perm_of_ofList_eq {a b : List (α × β)} (ha : (a.map (·.1)).Nodup)
    (hb : (b.map (·.1)).Nodup) (h : ofList a = ofList b) : a.Perm b :=
  (perm_ofList ha).symm.trans (h ▸ perm_ofList hb)

/-- The table of entries with distinct texts as keys is what sorting gives. -/
theorem ofList_eq_mergeSort {entries : List (String × β)} (h : (entries.map (·.1)).Nodup) :
    ofList entries = entries.mergeSort fun a b => a.1 ≤ b.1 := by
  have hperm := List.mergeSort_perm entries fun a b => a.1 ≤ b.1
  have hle : (entries.mergeSort fun a b => a.1 ≤ b.1).Pairwise fun a b => a.1 ≤ b.1 := by
    simpa using @List.pairwise_mergeSort _ (fun a b : String × β => decide (a.1 ≤ b.1))
      (fun a b c => by simpa using le_trans) (fun a b => by simpa using le_total a.1 b.1) entries
  have hne := List.pairwise_map.mp ((hperm.map (·.1)).nodup_iff.mpr h)
  exact (sorted_ofList entries).eq_of_perm
    ((hle.and hne).imp fun h => lt_of_le_of_ne h.1 h.2) ((perm_ofList h).trans hperm.symm)

/-! ### Reading a key -/

omit [LT α] [DecidableLT α] in
theorem lookup_cons_eq_ite [BEq α] [LawfulBEq α] (e : α × β) (table : List (α × β)) (x : α) :
    (e :: table).lookup x = if x = e.1 then some e.2 else table.lookup x := by
  rw [List.lookup_cons]
  by_cases hx : x = e.1
  · rw [beq_iff_eq.mpr hx, if_pos hx]
  · rw [beq_eq_false_iff_ne.mpr hx, if_neg hx]

/-- **An insertion changes what is read under its key** and nothing else. -/
theorem lookup_insert [BEq α] [LawfulBEq α] (k x : α) (v : β) (table : List (α × β)) :
    (insert k v table).lookup x = if x = k then some v else table.lookup x := by
  induction table with
  | nil => rw [insert, lookup_cons_eq_ite]
  | cons e table ih =>
    unfold insert
    by_cases h1 : k < e.1
    · rw [if_pos h1, lookup_cons_eq_ite]
    · by_cases h2 : k = e.1
      · rw [if_neg h1, if_pos h2, lookup_cons_eq_ite, lookup_cons_eq_ite, h2]
        split_ifs <;> rfl
      · have hne (hx : x = e.1) : x ≠ k := fun h => h2 (h.symm.trans hx)
        rw [if_neg h1, if_neg h2, lookup_cons_eq_ite, lookup_cons_eq_ite, ih]
        split_ifs with hx hk
        · exact absurd hk (hne hx)
        · rfl
        · rfl
        · rfl

omit [LT α] [DecidableLT α] in
/-- What is read is an entry of the table. -/
theorem mem_of_lookup {table : List (α × β)} {k : α} {v : β} (h : table.lookup k = some v) :
    (k, v) ∈ table := by
  obtain ⟨l₁, l₂, rfl, -⟩ := List.lookup_eq_some_iff.mp h
  exact List.mem_append_right _ List.mem_cons_self

omit [LT α] [DecidableLT α] in
/-- Reading a key of a table with distinct keys gives the entry that is there. -/
theorem lookup_eq_some_iff {table : List (α × β)} (h : (table.map (·.1)).Nodup) {k : α} {v : β} :
    table.lookup k = some v ↔ (k, v) ∈ table := by
  induction table with
  | nil => simp
  | cons e table ih =>
    obtain ⟨he, ht⟩ := List.nodup_cons.mp h
    rw [List.lookup_cons, List.mem_cons]
    by_cases hk : k = e.1
    · subst hk
      have hne : (e.1, v) ∉ table := fun hm => he (List.mem_map.mpr ⟨_, hm, rfl⟩)
      simp only [beq_self_eq_true, Option.some.injEq, hne, or_false, Prod.ext_iff, true_and]
      exact eq_comm
    · have hb : (k == e.1) = false := beq_eq_false_iff_ne.mpr hk
      simp only [hb, ih ht, Prod.ext_iff, hk, false_and, false_or]

/-! ### The order of names -/

instance : IsStrictTotalOrder TypeName (· < ·) where
  irrefl a := lt_irrefl a.text
  trans a b c hab hbc := lt_trans (b := b.text) hab hbc
  trichotomous a b hab hba := by
    cases a; cases b
    exact congrArg _ (le_antisymm (not_lt.mp hba) (not_lt.mp hab))

end Redaction.Ordered
