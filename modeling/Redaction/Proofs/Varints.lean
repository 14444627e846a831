import Mathlib.Algebra.Group.Nat.Defs
import Mathlib.Data.Nat.Basic
import Mathlib.Tactic.SplitIfs
import Redaction.Wire.Varint

/-!
# Varints and their spellings

A number has more than one spelling, since groups of zeros may follow its highest group. `Spells`
says which bytes are read as a number: at most ten groups, with a sum below `2 ^ 64`.

* `read_eq_some_iff`: what is read is what the first bytes spell.
* `spells_write`: a number below `2 ^ 64` is written as one of its spellings.
* `Spells.length_write_le`: no spelling is shorter than the one that is written.
-/

namespace Redaction.Wire.Varint

/-! ### Groups -/

/-- The bytes are the groups of a number, the lowest first, and only the last has its top bit
clear. -/
inductive Groups : Nat → Bytes → Prop
  | last {b : UInt8} : b < 0x80 → Groups b.toNat [b]
  | more {b : UInt8} {n : Nat} {bytes : Bytes} : ¬ b < 0x80 → Groups n bytes →
      Groups (b.toNat - 0x80 + 0x80 * n) (b :: bytes)

/-- **The bytes spell the number.** -/
structure Spells (n : Nat) (bytes : Bytes) : Prop where
  groups : Groups n bytes
  length_le : bytes.length ≤ 10
  lt : n < 2 ^ 64

theorem Groups.ne_nil {n : Nat} {bytes : Bytes} (h : Groups n bytes) : bytes ≠ [] := by
  cases h <;> simp

theorem Groups.length_pos {n : Nat} {bytes : Bytes} (h : Groups n bytes) : 0 < bytes.length :=
  List.length_pos_iff.mpr h.ne_nil

/-- So many groups have room for so much. -/
theorem Groups.lt {n : Nat} {bytes : Bytes} (h : Groups n bytes) : n < 128 ^ bytes.length := by
  induction h with
  | @last b hb =>
    simpa using UInt8.lt_iff_toNat_lt.mp hb
  | @more b n bytes _ _ ih =>
    have hb := b.toNat_lt
    rw [List.length_cons, Nat.pow_succ]
    omega

/-! ### Reading -/

theorem pow_room {room : Nat} (h : room ≠ 0) : ∃ k, 128 ^ (room + 1) = 128 ^ k * 128 * 128 ∧
    128 ^ room = 128 ^ k * 128 ∧ 0 < 128 ^ k := by
  obtain ⟨k, rfl⟩ := Nat.exists_eq_succ_of_ne_zero h
  exact ⟨k, by rw [Nat.pow_succ, Nat.pow_succ], Nat.pow_succ 128 k, Nat.pow_pos (by omega)⟩

/-- What is read with some room are groups that fit into it, the last of them being one bit. -/
theorem groups_of_readWithin {room : Nat} {bytes rest : Bytes} {n : Nat}
    (h : readWithin room bytes = some (n, rest)) :
    ∃ p, (Groups n p ∧ p.length ≤ room ∧ 64 * n < 128 ^ room) ∧ bytes = p ++ rest := by
  induction room generalizing bytes n with
  | zero => cases h
  | succ room ih =>
    cases bytes with
    | nil => cases h
    | cons b tail =>
      rw [readWithin] at h
      split_ifs at h with h1 h2
      · rw [Option.some.injEq, Prod.mk.injEq] at h
        obtain ⟨rfl, rfl⟩ := h
        have hb : b.toNat < 128 := UInt8.lt_iff_toNat_lt.mp h1
        refine ⟨[b], ⟨.last h1, by simp, ?_⟩, rfl⟩
        by_cases hroom : room = 0
        · have hb2 : b.toNat < 2 :=
            UInt8.lt_iff_toNat_lt.mp (UInt8.not_le.mp fun h => h2 ⟨hroom, h⟩)
          subst hroom
          omega
        · obtain ⟨k, hpow, -, hpos⟩ := pow_room hroom
          omega
      · obtain ⟨⟨m, r⟩, hm, h⟩ := Option.map_eq_some_iff.mp h
        rw [Prod.mk.injEq] at h
        obtain ⟨rfl, rfl⟩ := h
        obtain ⟨p, ⟨hp, hl, hlt⟩, rfl⟩ := ih hm
        refine ⟨b :: p, ⟨.more h1 hp, by simpa using hl, ?_⟩, rfl⟩
        have := hp.length_pos
        obtain ⟨k, hpow, hpow', -⟩ := pow_room (show room ≠ 0 by omega)
        have := b.toNat_lt
        omega

/-- Groups are read with any room that they fit into. -/
theorem readWithin_of_groups {room : Nat} {p rest : Bytes} {n : Nat} (h : Groups n p)
    (hl : p.length ≤ room) (hn : 64 * n < 128 ^ room) :
    readWithin room (p ++ rest) = some (n, rest) := by
  induction h generalizing room with
  | @last b hb =>
    cases room with
    | zero => cases hl
    | succ room =>
      have hroom : ¬ (room = 0 ∧ 2 ≤ b) := by
        rintro ⟨rfl, h2⟩
        have : 2 ≤ b.toNat := UInt8.le_iff_toNat_le.mp h2
        omega
      rw [List.singleton_append, readWithin, if_pos hb, if_neg hroom]
  | @more b m p hb h ih =>
    cases room with
    | zero => cases hl
    | succ room =>
      rw [List.length_cons] at hl
      have := h.length_pos
      obtain ⟨k, hpow, hpow', -⟩ := pow_room (show room ≠ 0 by omega)
      rw [List.cons_append, readWithin, if_neg hb, ih (by omega) (by omega)]
      rfl

/-- **What is read is what the first bytes spell.** -/
theorem read_eq_some_iff {bytes rest : Bytes} {n : Nat} :
    read bytes = some (n, rest) ↔ ∃ p, Spells n p ∧ bytes = p ++ rest := by
  unfold read
  constructor
  · intro h
    obtain ⟨p, ⟨h, hl, hn⟩, hp⟩ := groups_of_readWithin h
    exact ⟨p, ⟨h, hl, by omega⟩, hp⟩
  · rintro ⟨p, ⟨h, hl, hn⟩, rfl⟩
    exact readWithin_of_groups h hl (by omega)

/-! ### Writing -/

theorem groups_write (n : Nat) : Groups n (write n) := by
  induction n using Nat.strongRecOn with
  | ind n ih =>
    rw [write]
    split_ifs with h
    · have hn : n.toUInt8.toNat = n := by simp; omega
      have hlt : n.toUInt8 < 0x80 := by rw [UInt8.lt_iff_toNat_lt, hn]; exact h
      simpa [hn] using Groups.last hlt
    · have hn : (n % 0x80 + 0x80).toUInt8.toNat = n % 0x80 + 0x80 := by simp; omega
      have hle : ¬ (n % 0x80 + 0x80).toUInt8 < 0x80 := by
        rw [UInt8.lt_iff_toNat_lt, hn]
        exact Nat.not_lt.mpr (Nat.le_add_left _ _)
      have := Groups.more hle (ih (n / 0x80) (by omega))
      rwa [hn, Nat.add_sub_cancel, Nat.mod_add_div] at this

/-- **A number is written in as few groups as have room for it.** -/
theorem length_write_le_iff {n k : Nat} (hk : 0 < k) : (write n).length ≤ k ↔ n < 128 ^ k := by
  constructor
  · intro h
    exact lt_of_lt_of_le (groups_write n).lt (Nat.pow_le_pow_right (by omega) h)
  · intro h
    induction k generalizing n with
    | zero => omega
    | succ k ih =>
      rw [write]
      split_ifs with hn
      · simp
      · have hk : 0 < k := by
          rcases Nat.eq_zero_or_pos k with rfl | hk
          · omega
          · exact hk
        have := ih hk (n := n / 0x80) (by rw [Nat.pow_succ] at h; omega)
        simpa using this

/-- **A number of 64 bits is written as one of its spellings.** -/
theorem spells_write {n : Nat} (h : n < 2 ^ 64) : Spells n (write n) :=
  ⟨groups_write n, (length_write_le_iff (by omega)).mpr (by omega), h⟩

theorem length_write_pos (n : Nat) : 0 < (write n).length := (groups_write n).length_pos

/-- **No spelling is shorter than the one that is written,** of a number or of a larger one. -/
theorem Spells.length_write_le {m n : Nat} {p : Bytes} (h : Spells n p) (hm : m ≤ n) :
    (write m).length ≤ p.length :=
  (length_write_le_iff h.groups.length_pos).mpr (lt_of_le_of_lt hm h.groups.lt)

theorem Spells.length_pos {n : Nat} {p : Bytes} (h : Spells n p) : 0 < p.length :=
  h.groups.length_pos

end Redaction.Wire.Varint
