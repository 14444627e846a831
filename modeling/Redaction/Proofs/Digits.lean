import Mathlib.Algebra.Order.Group.Nat
import Mathlib.Data.List.Basic
import Mathlib.Tactic.SplitIfs
import Redaction.Number.Decimal

/-!
# Digits

Decimal digits with or without zeros in front, as numbers are written with. They are told apart from
what stands behind them (`span_digits`) and read back (`ofDigitChars_digitsOf`,
`ofDigitChars_paddedDigits`), so different numbers have different digits (`digitsOf_injective`).
-/

namespace Redaction.Number

variable {m n width : Nat} {c : Char}

/-! ### Digits in front of a text -/

/-- The longest part in front whose characters have a property, and what is behind it. -/
theorem span_append {p : Char → Bool} {as bs : List Char} (has : ∀ c ∈ as, p c)
    (hbs : ∀ c, bs.head? = some c → ¬ p c) :
    (as ++ bs).takeWhile p = as ∧ (as ++ bs).dropWhile p = bs := by
  rw [List.takeWhile_append_of_pos has, List.dropWhile_append_of_pos has]
  cases bs with
  | nil => simp
  | cons b bs => simp [hbs b rfl]

/-- Digits and what is behind them are told apart. -/
theorem span_digits {ds suffix : List Char} (hds : ∀ d ∈ ds, d.isDigit)
    (hsuffix : suffix.head?.all (!·.isDigit)) :
    (ds ++ suffix).takeWhile Char.isDigit = ds ∧ (ds ++ suffix).dropWhile Char.isDigit = suffix :=
  span_append hds fun c hc => by simpa [hc] using hsuffix

/-! ### The digits of a number -/

theorem isDigit_of_mem_digitsOf (h : c ∈ digitsOf n) : c.isDigit :=
  Nat.isDigit_of_mem_toDigits (by decide) (by decide) h

theorem digitsOf_ne_nil : digitsOf n ≠ [] := Nat.toDigits_ne_nil

/-- Only the digits of zero begin with a zero. -/
theorem head?_digitsOf : ∀ {n : Nat}, 0 < n → (digitsOf n).head? ≠ some '0'
  | n, hn => by
    unfold digitsOf
    rw [Nat.toDigits_eq_if (by decide)]
    split_ifs with h
    · simp [hn.ne']
    · rw [List.head?_append_of_ne_nil _ Nat.toDigits_ne_nil]
      exact head?_digitsOf (Nat.div_pos (not_lt.mp h) (by decide))

/-- **Digits are read back.** -/
theorem ofDigitChars_digitsOf (n : Nat) : Nat.ofDigitChars 10 (digitsOf n) 0 = n :=
  Nat.ofDigitChars_toDigits (by decide) (by decide)

theorem digitsOf_injective (h : digitsOf m = digitsOf n) : m = n := by
  have := congrArg (Nat.ofDigitChars 10 · 0) h
  simpa only [ofDigitChars_digitsOf] using this

/-- A number has more digits than the powers of ten that it reaches. -/
theorem lt_length_digitsOf {j : Nat} (h : 10 ^ j ≤ n) : j < (digitsOf n).length := by
  by_contra hle
  rcases Nat.eq_zero_or_pos j with rfl | hj
  · exact hle (List.length_pos_of_ne_nil digitsOf_ne_nil)
  · exact absurd ((Nat.length_toDigits_le_iff (by decide) hj).mp (not_lt.mp hle)) (not_lt.mpr h)

/-- **A power of ten puts zeros behind the digits.** -/
theorem digitsOf_mul_pow (hn : 0 < n) : ∀ k : Nat,
    digitsOf (n * 10 ^ k) = digitsOf n ++ List.replicate k '0'
  | 0 => by rw [pow_zero, mul_one, List.replicate_zero, List.append_nil]
  | k + 1 => by
    have hpos : 0 < n * 10 ^ k := Nat.mul_pos hn (Nat.pow_pos (by decide))
    have hmul : n * 10 ^ (k + 1) = n * 10 ^ k * 10 := by rw [pow_succ, mul_assoc]
    rw [hmul, digitsOf, Nat.toDigits_of_base_le (by decide) (Nat.le_mul_of_pos_left 10 hpos),
      Nat.mul_div_cancel _ (by decide), Nat.mul_mod_left, List.replicate_succ',
      ← List.append_assoc, ← digitsOf_mul_pow hn k]
    rfl

/-! ### Digits with zeros in front -/

theorem isDigit_of_mem_paddedDigits (h : c ∈ paddedDigits width n) : c.isDigit := by
  unfold paddedDigits List.leftpad at h
  rcases List.mem_append.mp h with h | h
  · rw [List.eq_of_mem_replicate h]
    rfl
  · exact isDigit_of_mem_digitsOf h

theorem lt_length_paddedDigits (places n : Nat) :
    places < (paddedDigits (places + 1) n).length := by
  rw [paddedDigits, List.length_leftpad]
  exact lt_max_of_lt_left (Nat.lt_succ_self places)

/-- There are as many digits as asked for if the number has no more. -/
theorem length_paddedDigits (hwidth : 0 < width) (h : n < 10 ^ width) :
    (paddedDigits width n).length = width := by
  rw [paddedDigits, List.length_leftpad]
  exact max_eq_left ((Nat.length_toDigits_le_iff (by decide) hwidth).mpr h)

/-- **Zeros in front do not change what is read.** -/
theorem ofDigitChars_paddedDigits (width n : Nat) :
    Nat.ofDigitChars 10 (paddedDigits width n) 0 = n := by
  rw [paddedDigits, List.leftpad, Nat.ofDigitChars_append, Nat.ofDigitChars_replicate_zero,
    Nat.mul_zero, ofDigitChars_digitsOf]

end Redaction.Number
