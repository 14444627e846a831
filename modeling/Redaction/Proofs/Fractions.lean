import Mathlib.Algebra.Order.Ring.Rat
import Mathlib.Tactic.LinearCombination
import Mathlib.Tactic.Positivity
import Redaction.Proofs.Digits
import Redaction.Render.TimeReader

/-!
# Fractions of a second

Nanoseconds are written as no digits or as 3, 6 or 9 of them behind a point. The digits stand for
just these nanoseconds (`fractionValue_fractionDigits`), no fewer of them would do
(`length_fractionDigits_le`), and a reader tells them apart from what stands behind them
(`fraction?_fraction`).
-/

namespace Redaction.Render

open Number

variable {n : Nat} {ds : List Char}

/-- The numbers of digits that a fraction may have. -/
def fractionWidths : List Nat := [0, 3, 6, 9]

/-- How many digits nanoseconds are written with. -/
def fractionWidth (n : Nat) : Nat :=
  if n = 0 then 0 else if n % 1000000 = 0 then 3 else if n % 1000 = 0 then 6 else 9

/-- The digits that nanoseconds are written with, without the point. -/
def fractionDigits (n : Nat) : List Char := (fraction n).tail

theorem mem_fractionWidths {k : Nat} :
    k ∈ fractionWidths ↔ k = 0 ∨ k = 3 ∨ k = 6 ∨ k = 9 := by
  simp [fractionWidths]

theorem fractionWidth_mem (n : Nat) : fractionWidth n ∈ fractionWidths := by
  unfold fractionWidth
  split_ifs <;> decide

/-- Behind the digits there would be nothing but zeros. -/
theorem dvd_of_fractionWidth (n : Nat) : 10 ^ (9 - fractionWidth n) ∣ n := by
  unfold fractionWidth
  split_ifs with h h' h''
  · rw [h]
    exact Nat.dvd_zero _
  · exact Nat.dvd_of_mod_eq_zero h'
  · exact Nat.dvd_of_mod_eq_zero h''
  · exact Nat.one_dvd n

/-- Behind fewer digits there would be more than zeros. -/
theorem fractionWidth_le {k : Nat} (hn : n < 10 ^ 9) (hk : k ∈ fractionWidths)
    (h : 10 ^ (9 - k) ∣ n) : fractionWidth n ≤ k := by
  have hmod := Nat.mod_eq_zero_of_dvd h
  unfold fractionWidth
  rcases mem_fractionWidths.mp hk with rfl | rfl | rfl | rfl <;> split_ifs <;> omega

theorem fraction_eq (n : Nat) : fraction n = if fractionWidth n = 0 then [] else
    '.' :: paddedDigits (fractionWidth n) (n / 10 ^ (9 - fractionWidth n)) := by
  unfold fraction fractionWidth
  split_ifs <;> simp_all

/-- A fraction of no digits is zero. -/
theorem eq_zero_of_fractionWidth (h : fractionWidth n = 0) : n = 0 := by
  unfold fractionWidth at h
  split_ifs at h
  assumption

theorem fractionDigits_eq_nil_iff (n : Nat) : fractionDigits n = [] ↔ fractionWidth n = 0 := by
  rw [fractionDigits, fraction_eq]
  split_ifs with h
  · simp [h]
  · obtain ⟨places, hplaces⟩ := Nat.exists_eq_succ_of_ne_zero h
    have hlength := lt_length_paddedDigits places (n / 10 ^ (9 - fractionWidth n))
    rw [hplaces] at hlength ⊢
    refine iff_of_false (fun hnil => ?_) (Nat.succ_ne_zero _)
    rw [List.tail_cons] at hnil
    rw [hnil] at hlength
    exact absurd hlength (Nat.not_lt_zero _)

theorem length_fractionDigits (hn : n < 10 ^ 9) :
    (fractionDigits n).length = fractionWidth n := by
  rw [fractionDigits, fraction_eq]
  split_ifs with h
  · exact h.symm
  · refine length_paddedDigits (Nat.pos_of_ne_zero h) ?_
    rcases mem_fractionWidths.mp (fractionWidth_mem n) with hw | hw | hw | hw <;>
      rw [hw] at h ⊢ <;> omega

theorem isDigit_of_mem_fractionDigits {c : Char} (hc : c ∈ fractionDigits n) : c.isDigit := by
  rw [fractionDigits, fraction_eq] at hc
  split_ifs at hc
  · exact absurd hc List.not_mem_nil
  · exact isDigit_of_mem_paddedDigits hc

theorem ofDigitChars_fractionDigits (n : Nat) :
    Nat.ofDigitChars 10 (fractionDigits n) 0 * 10 ^ (9 - fractionWidth n) = n := by
  rw [fractionDigits, fraction_eq]
  split_ifs with h
  · simp [eq_zero_of_fractionWidth h]
  · rw [List.tail_cons, ofDigitChars_paddedDigits]
    exact Nat.div_mul_cancel (dvd_of_fractionWidth n)

/-- The nanoseconds that so many digits stand for. -/
theorem fractionValue_eq_iff (hds : ds.length ≤ 9) :
    fractionValue ds = n / 10 ^ 9 ↔ Nat.ofDigitChars 10 ds 0 * 10 ^ (9 - ds.length) = n := by
  have hpow : (10 : ℚ) ^ 9 = 10 ^ ds.length * 10 ^ (9 - ds.length) := by
    rw [← pow_add, Nat.add_sub_cancel' hds]
  have hwidth : (10 : ℚ) ^ ds.length ≠ 0 := by positivity
  have hzeros : (10 : ℚ) ^ (9 - ds.length) ≠ 0 := by positivity
  rw [fractionValue, hpow, div_eq_div_iff hwidth (mul_ne_zero hwidth hzeros),
    ← Nat.cast_inj (R := ℚ)]
  push_cast
  constructor
  · intro h
    exact mul_left_cancel₀ hwidth (by linear_combination h)
  · intro h
    linear_combination (10 : ℚ) ^ ds.length * h

/-- **The digits stand for the nanoseconds.** -/
theorem fractionValue_fractionDigits (hn : n < 10 ^ 9) :
    fractionValue (fractionDigits n) = n / 10 ^ 9 := by
  have hlength := length_fractionDigits hn
  have hle : fractionWidth n ≤ 9 := by
    rcases mem_fractionWidths.mp (fractionWidth_mem n) with h | h | h | h <;> omega
  rw [fractionValue_eq_iff (hlength ▸ hle), hlength]
  exact ofDigitChars_fractionDigits n

/-- **No fewer digits stand for the nanoseconds,** of those that a fraction may have. -/
theorem length_fractionDigits_le (hn : n < 10 ^ 9) (hds : ds.length ∈ fractionWidths)
    (h : fractionValue ds = n / 10 ^ 9) : (fractionDigits n).length ≤ ds.length := by
  have hle : ds.length ≤ 9 := by
    rcases mem_fractionWidths.mp hds with h | h | h | h <;> omega
  rw [length_fractionDigits hn]
  exact fractionWidth_le hn hds (Dvd.intro_left _ ((fractionValue_eq_iff hle).mp h))

/-- **A fraction is read** up to a character behind it that can be no part of it. -/
theorem fraction?_fraction {c : Char} (hpoint : c ≠ '.') (hc : ¬ c.isDigit) (cs : List Char) :
    fraction? (fraction n ++ c :: cs) = some (fractionDigits n, c :: cs) := by
  have hnil := fractionDigits_eq_nil_iff n
  have hdigits := @isDigit_of_mem_fractionDigits n
  rw [fractionDigits, fraction_eq] at hnil hdigits ⊢
  split_ifs at hnil hdigits ⊢ with h
  · simp [fraction?, hpoint]
  · rw [List.tail_cons] at hnil hdigits ⊢
    have hrest : (c :: cs).head?.all (!·.isDigit) := by simpa using hc
    obtain ⟨htake, hdrop⟩ := span_digits (fun _ => hdigits) hrest
    simp [fraction?, htake, hdrop, hnil, h]

end Redaction.Render
