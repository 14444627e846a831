import Redaction.Json.Text
import Redaction.Proofs.ExactValues
import Redaction.Proofs.JsonNumbers
import Redaction.Render.Scalar

/-!
# Doubles that are integers

A double that is an integer shows as that integer if its magnitude is below `2 ^ 53`. From there on
it shows as a double, which has a fraction: up to `10 ^ 16` the digits are still those of the
integer, because it is even, so that no decimal with fewer digits rounds to it
(`digits_shortest_of_exponent_one`), and `.0` stands behind them. From `10 ^ 16` on there is an
exponent (`le_order_shortest`).
-/

namespace Redaction

open Number

variable {f : Format} {s : Scaled} {d : Decimal} {tie : Tie} {i : Interval} {n j : Nat}

namespace Number

/-! ### Magnitudes that are integers -/

/-- The value of a magnitude that is an integer, in units. -/
theorem value_interval_of_nonneg (hf : f.lowest ≤ 0) (he : 0 ≤ s.exponent) :
    (f.interval s.mantissa s.exponent).value =
      (f.interval s.mantissa s.exponent).unit * (s.mantissa * 2 ^ s.exponent.toNat) := by
  have hgap : (s.exponent - f.lowest).toNat = s.exponent.toNat + f.lowest.natAbs := by omega
  have hunit : (2 - f.lowest).toNat = 2 + f.lowest.natAbs := by omega
  show s.mantissa * 2 ^ (s.exponent - f.lowest).toNat * 4 =
    2 ^ (2 - f.lowest).toNat * (s.mantissa * 2 ^ s.exponent.toNat)
  rw [hgap, hunit, pow_add, pow_add]
  ring

theorem unit_pos (mantissa : Nat) (exponent : Int) : 0 < (f.interval mantissa exponent).unit :=
  Nat.two_pow_pos _

/-- **A decimal next to an integer on a grid** reaches the powers of ten that the integer
reaches. -/
theorem le_order_of_onGrid (hunit : 0 < i.unit) (hvalue : i.value = i.unit * n) (hn : 10 ^ j ≤ n)
    (h : i.onGrid tie d.exponent = some d.digits) : (j : Int) ≤ d.order := by
  have hlength : 0 < (digitsOf d.digits).length := List.length_pos_of_ne_nil digitsOf_ne_nil
  unfold Decimal.order
  by_cases hj : (j : Int) ≤ d.exponent
  · omega
  -- The grid is finer than the power of ten, which is on it and below the integer.
  have hexp : 10 ^ (j - d.exponent).toNat * 10 ^ d.exponent.toNat =
      10 ^ j * 10 ^ (-d.exponent).toNat := by
    rw [← pow_add, ← pow_add]
    congr 1
    omega
  have hfloor : 10 ^ (j - d.exponent).toNat ≤
      i.value * Nat.pow 10 (-d.exponent).toNat / (i.unit * Nat.pow 10 d.exponent.toNat) := by
    have hpow : 0 < Nat.pow 10 d.exponent.toNat := Nat.pow_pos (by decide)
    refine (Nat.le_div_iff_mul_le (Nat.mul_pos hunit hpow)).mpr ?_
    rw [hvalue]
    show 10 ^ (j - d.exponent).toNat * (i.unit * 10 ^ d.exponent.toNat) ≤
      i.unit * n * 10 ^ (-d.exponent).toNat
    rw [mul_left_comm, hexp, mul_assoc i.unit]
    exact Nat.mul_le_mul_left _ (Nat.mul_le_mul_right _ hn)
  have hdigits : 10 ^ (j - d.exponent).toNat ≤ d.digits := by
    rcases Interval.eq_or_eq_succ_of_onGrid h with heq | heq <;> omega
  have := lt_length_digitsOf hdigits
  omega

/-- The shortest decimal of an integer reaches the powers of ten that the integer reaches. -/
theorem le_order_shortest (hf : f.lowest ≤ 0) (he : 0 ≤ s.exponent) (hs : s.mantissa ≠ 0)
    (hn : 10 ^ j ≤ s.mantissa * 2 ^ s.exponent.toNat) : (j : Int) ≤ (f.shortest tie s).order :=
  le_order_of_onGrid (unit_pos _ _) (value_interval_of_nonneg hf he) hn (f.onGrid_shortest hf hs)

/-! ### Even numbers -/

/-- What rounds to an even number with the exponent one is no further from it than one. -/
theorem near_of_holds (hf : f.lowest ≤ 0) (he : s.exponent = 1) {step c : Nat}
    (h : (f.interval s.mantissa s.exponent).holds 1
      ((f.interval s.mantissa s.exponent).unit * step) c) :
    s.mantissa * 2 ≤ c * step + 1 ∧ c * step ≤ s.mantissa * 2 + 1 := by
  rw [he] at h
  generalize hi : f.interval s.mantissa 1 = i at h
  obtain ⟨gap, hgap⟩ : ∃ gap, Nat.pow 2 (1 - f.lowest).toNat = gap := ⟨_, rfl⟩
  have hpos : 0 < gap * 2 := Nat.mul_pos (hgap ▸ Nat.two_pow_pos _) (by decide)
  have hunit : i.unit = gap * 2 := by
    rw [← hi, ← hgap]
    show 2 ^ (2 - f.lowest).toNat = 2 ^ (1 - f.lowest).toNat * 2
    rw [← pow_succ]
    congr 1
    omega
  have hlow : s.mantissa * gap * 4 ≤ i.low + gap * 2 := by
    rw [← hi]
    unfold Format.interval
    dsimp only
    rw [hgap]
    split_ifs <;> omega
  have hhigh : i.high = s.mantissa * gap * 4 + gap * 2 := by
    rw [← hi, ← hgap]
    rfl
  obtain ⟨hle, hge⟩ := Interval.le_of_holds h
  rw [mul_one, hunit] at hle hge
  constructor
  · refine Nat.le_of_mul_le_mul_left (c := gap * 2) ?_ hpos
    calc gap * 2 * (s.mantissa * 2) = s.mantissa * gap * 4 := by ring
      _ ≤ c * (gap * 2 * step) + gap * 2 := by omega
      _ = gap * 2 * (c * step + 1) := by ring
  · refine Nat.le_of_mul_le_mul_left (c := gap * 2) ?_ hpos
    calc gap * 2 * (c * step) = c * (gap * 2 * step) := by ring
      _ ≤ s.mantissa * gap * 4 + gap * 2 := by omega
      _ = gap * 2 * (s.mantissa * 2 + 1) := by ring

/-- **The shortest decimal of an even number with the exponent one** is the number, without zeros
at its end. -/
theorem digits_shortest_of_exponent_one (hf : f.lowest ≤ 0) (hs : s.mantissa ≠ 0)
    (he : s.exponent = 1) : 0 ≤ (f.shortest tie s).exponent ∧
      (f.shortest tie s).digits * 10 ^ (f.shortest tie s).exponent.toNat = s.mantissa * 2 := by
  have hvalue : (f.interval s.mantissa s.exponent).value =
      (f.interval s.mantissa s.exponent).unit * (s.mantissa * 2) := by
    have := value_interval_of_nonneg (s := s) hf (by omega)
    rwa [he] at this ⊢
  have hunits : (f.interval s.mantissa s.exponent).onGrid tie 0 = some (s.mantissa * 2) := by
    have hdvd : (f.interval s.mantissa s.exponent).unit * Nat.pow 10 (0 : Int).toNat ∣
        (f.interval s.mantissa s.exponent).value * Nat.pow 10 (-(0 : Int)).toNat := by
      rw [hvalue]
      exact Nat.mul_dvd_mul (Nat.dvd_mul_right _ _) (dvd_refl 1)
    rw [Interval.onGrid_of_dvd (bounds_interval hs _) (unit_pos _ _) hdvd, hvalue]
    show some ((f.interval s.mantissa s.exponent).unit * (s.mantissa * 2) * 1 /
      ((f.interval s.mantissa s.exponent).unit * 1)) = _
    rw [mul_one, mul_one, Nat.mul_div_cancel_left _ (unit_pos _ _)]
  have hnonneg : 0 ≤ (f.shortest tie s).exponent :=
    f.exponent_shortest_nonneg hs (by rw [hunits]; rfl)
  refine ⟨hnonneg, ?_⟩
  have hhit := @Format.onGrid_shortest f tie hf s hs
  generalize f.shortest tie s = d at hnonneg hhit
  obtain ⟨k, hk⟩ := Int.eq_ofNat_of_zero_le hnonneg
  rw [hk] at hhit
  rw [hk, Int.toNat_natCast]
  cases k with
  | zero =>
    have hdigits : some (s.mantissa * 2) = some d.digits := hunits.symm.trans hhit
    rw [← Option.some.inj hdigits, pow_zero, mul_one]
  | succ k =>
    -- A multiple of ten is even, and there is no other even number next to this one.
    have hholds := Interval.holds_of_onGrid hhit
    have hneg : (-((k + 1 : Nat) : Int)).toNat = 0 := by omega
    rw [hneg, Int.toNat_natCast] at hholds
    obtain ⟨hle, hge⟩ : s.mantissa * 2 ≤ d.digits * 10 ^ (k + 1) + 1 ∧
        d.digits * 10 ^ (k + 1) ≤ s.mantissa * 2 + 1 := near_of_holds hf he hholds
    have heven : d.digits * 10 ^ (k + 1) = d.digits * 10 ^ k * 5 * 2 := by ring
    omega

/-! ### Decimals without places -/

theorem positional_of_nonneg (he : 0 ≤ d.exponent) (hd : 0 < d.digits) :
    d.positional = digitsOf (d.digits * 10 ^ d.exponent.toNat) := by
  rw [Decimal.positional, if_pos he, digitsOf_mul_pow hd]

theorem order_of_nonneg (he : 0 ≤ d.exponent) (hd : 0 < d.digits) :
    d.order = (digitsOf (d.digits * 10 ^ d.exponent.toNat)).length - 1 := by
  rw [Decimal.order, digitsOf_mul_pow hd, List.length_append, List.length_replicate]
  omega

end Number

/-! ### Texts -/

namespace Json

/-- **A decimal without places below `10 ^ 16`** is written as the integer that it is, with a
fraction of zero. -/
theorem decimalText_of_lt (he : 0 ≤ d.exponent) (hd : 0 < d.digits)
    (hlt : d.digits * 10 ^ d.exponent.toNat < 10 ^ 16) :
    decimalText d = digitsOf (d.digits * 10 ^ d.exponent.toNat) ++ ['.', '0'] := by
  have hlength : (digitsOf (d.digits * 10 ^ d.exponent.toNat)).length ≤ 16 :=
    (Nat.length_toDigits_le_iff (by decide) (by decide)).mpr hlt
  have hpos : 0 < (digitsOf (d.digits * 10 ^ d.exponent.toNat)).length :=
    List.length_pos_of_ne_nil digitsOf_ne_nil
  have horder := order_of_nonneg he hd
  rw [decimalText, if_pos (Or.inr (by omega)), withFraction, positional_of_nonneg he hd, if_pos he]

/-- A decimal of a larger order has an exponent. -/
theorem decimalText_of_le_order (hd : 0 < d.digits) (horder : 16 ≤ d.order) :
    decimalText d = d.scientific := by
  rw [decimalText, if_neg (by omega)]

theorem mem_scientific (d : Decimal) : 'e' ∈ d.scientific := by
  simp [Decimal.scientific]

theorem notMem_integerText (n : Int) : 'e' ∉ integerText n := by
  unfold integerText
  have hdigits : 'e' ∉ digitsOf n.natAbs :=
    fun hmem => absurd (isDigit_of_mem_digitsOf hmem) (by decide)
  split_ifs
  · exact List.not_mem_cons_of_ne_of_not_mem (by decide) hdigits
  · exact hdigits

/-- The sign and the digits of an integer other than zero. -/
theorem integerText_of_value {n : Int} (hvalue : s.value = (n : ℚ)) (hn : n ≠ 0) :
    integerText n = (if s.negative then ['-'] else []) ++ digitsOf n.natAbs := by
  have hsign : n < 0 ↔ s.negative := by
    have hnonneg := s.magnitude_nonneg
    have hzero : (n : ℚ) ≠ 0 := Int.cast_ne_zero.mpr hn
    rw [← Int.cast_lt_zero (R := ℚ), ← hvalue]
    rw [← hvalue] at hzero
    unfold Scaled.value at hzero ⊢
    split_ifs at hzero ⊢ with h
    · exact iff_of_true (neg_lt_zero.mpr (hnonneg.lt_of_ne' (neg_ne_zero.mp hzero))) h
    · exact iff_of_false (not_lt.mpr hnonneg) h
  unfold integerText
  by_cases h : n < 0
  · rw [if_pos h, if_pos (hsign.mp h)]
    rfl
  · rw [if_neg h, if_neg (hsign.not.mp h), List.nil_append]

end Json

namespace Render

open Json

variable {x : Double} {n : Int}

/-- An integer of `2 ^ 53` or more has a positive exponent. -/
theorem exponent_pos_of_value (hs : Number.double.IsCanonical s) (hvalue : s.value = (n : ℚ))
    (hn : 2 ^ 53 ≤ n.natAbs) :
    0 < s.exponent ∧ n.natAbs = s.mantissa * 2 ^ s.exponent.toNat := by
  have hmagnitude : s.magnitude = (n.natAbs : ℚ) := by
    rw [← s.abs_value, hvalue, Nat.cast_natAbs, Int.cast_abs]
  have hpos : 0 < s.exponent := by
    by_contra hle
    have hpow : (2 : ℚ) ^ s.exponent ≤ 1 := zpow_le_one_of_nonpos₀ (by norm_num) (not_lt.mp hle)
    have hcast : (n.natAbs : ℚ) ≤ s.mantissa := by
      rw [← hmagnitude]
      exact mul_le_of_le_one_right (Nat.cast_nonneg _) hpow
    exact absurd (hs.lt.trans_le hn) (not_lt.mpr (Nat.cast_le.mp hcast))
  rw [s.magnitude_of_nonneg hpos.le, Nat.cast_inj] at hmagnitude
  exact ⟨hpos, hmagnitude.symm⟩

/-- Below `10 ^ 16` the exponent is one. -/
theorem exponent_eq_one (hs : Number.double.IsCanonical s) (hpos : 0 < s.exponent)
    (hlt : s.mantissa * 2 ^ s.exponent.toNat < 10 ^ 16) : s.exponent = 1 := by
  have hlowest : Number.double.lowest < s.exponent := lt_trans (by decide) hpos
  have hfull : 2 ^ 52 ≤ s.mantissa := hs.le hlowest
  by_contra hne
  have hpow : 2 ^ 2 ≤ 2 ^ s.exponent.toNat := Nat.pow_le_pow_right (by decide) (by omega)
  have hlarge : 2 ^ 52 * 2 ^ 2 ≤ s.mantissa * 2 ^ s.exponent.toNat := Nat.mul_le_mul hfull hpow
  exact absurd (hlarge.trans_lt hlt) (by decide)

theorem double_of_lt (h : x.integral = some n) (hn : n.natAbs < 2 ^ 53) :
    double x = .integer n := by
  unfold double
  rw [h]
  exact if_pos hn

theorem double_of_le (h : x.integral = some n) (hn : 2 ^ 53 ≤ n.natAbs) :
    double x = .ofDouble x := by
  unfold double
  rw [h]
  exact if_neg (not_lt.mpr hn)

theorem ofDouble_of_decode (hs : x.decode = some s) : Json.ofDouble x = .number x :=
  if_pos (Option.isSome_iff_exists.mpr ⟨s, hs⟩)

theorem doubleText_of_decode (hs : x.decode = some s) : doubleText x =
    (if s.negative then ['-'] else []) ++ decimalText (Number.double.shortest .even s) := by
  rw [doubleText, hs]

theorem mantissa_ne_zero (h : 2 ^ 53 ≤ s.mantissa * 2 ^ s.exponent.toNat) : s.mantissa ≠ 0 := by
  intro hzero
  rw [hzero, Nat.zero_mul] at h
  exact absurd h (by decide)

/-- Below `10 ^ 16` a fraction of zero stands behind the digits of the integer. -/
theorem doubleText_of_lt (hs : x.decode = some s) (hvalue : s.value = (n : ℚ))
    (hn : 2 ^ 53 ≤ n.natAbs) (hlt : n.natAbs < 10 ^ 16) :
    doubleText x = integerText n ++ ['.', '0'] := by
  have hcanonical : Number.double.IsCanonical s := isCanonical_of_decode hs
  obtain ⟨hpos, habs⟩ := exponent_pos_of_value hcanonical hvalue hn
  have hmantissa : s.mantissa ≠ 0 := mantissa_ne_zero (habs ▸ hn)
  have hone : s.exponent = 1 := exponent_eq_one hcanonical hpos (habs ▸ hlt)
  obtain ⟨he, hproduct⟩ :=
    @digits_shortest_of_exponent_one Number.double s .even (by decide) hmantissa hone
  have htwice : n.natAbs = s.mantissa * 2 := by
    rw [habs, hone]
    rfl
  rw [← htwice] at hproduct
  rw [doubleText_of_decode hs, decimalText_of_lt he (Format.shortest_pos (by decide) hmantissa)
    (hproduct ▸ hlt), hproduct, integerText_of_value hvalue (by omega), List.append_assoc]

/-- From `10 ^ 16` on there is an exponent. -/
theorem mem_doubleText_of_le (hs : x.decode = some s) (hvalue : s.value = (n : ℚ))
    (hle : 10 ^ 16 ≤ n.natAbs) : 'e' ∈ doubleText x := by
  have hn : 2 ^ 53 ≤ n.natAbs := le_trans (by decide) hle
  obtain ⟨hpos, habs⟩ := exponent_pos_of_value (isCanonical_of_decode hs) hvalue hn
  have hmantissa : s.mantissa ≠ 0 := mantissa_ne_zero (habs ▸ hn)
  have horder : (16 : Nat) ≤ (Number.double.shortest .even s).order :=
    le_order_shortest (by decide) hpos.le hmantissa (habs ▸ hle)
  rw [doubleText_of_decode hs,
    decimalText_of_le_order (Format.shortest_pos (by decide) hmantissa) horder]
  exact List.mem_append_right _ (mem_scientific _)

/-- **A double that is an integer shows as the integer** if its magnitude is below `2 ^ 53`; else
as a double, with `.0` behind the digits of the integer below `10 ^ 16`, and with an exponent from
there on. -/
theorem chars_double_of_integral (h : x.value? = some (n : ℚ)) :
    (n.natAbs < 2 ^ 53 → double x = .integer n ∧ chars (double x) = integerText n) ∧
      (2 ^ 53 ≤ n.natAbs → double x = .number x ∧
        (n.natAbs < 10 ^ 16 → chars (double x) = integerText n ++ ['.', '0'])) ∧
      ('e' ∈ chars (double x) ↔ 10 ^ 16 ≤ n.natAbs) := by
  have hintegral : x.integral = some n := Double.integral_eq_some_iff.mpr h
  obtain ⟨s, hs, hvalue⟩ := Option.map_eq_some_iff.mp h
  rcases Nat.lt_or_ge n.natAbs (2 ^ 53) with hn | hn
  · rw [double_of_lt hintegral hn]
    exact ⟨fun _ => ⟨rfl, rfl⟩, fun hle => absurd hn (not_lt.mpr hle),
      iff_of_false (notMem_integerText n) (by omega)⟩
  · rw [(double_of_le hintegral hn).trans (ofDouble_of_decode hs)]
    refine ⟨fun hlt => absurd hlt (not_lt.mpr hn),
      fun _ => ⟨rfl, doubleText_of_lt hs hvalue hn⟩, fun hmem => ?_, mem_doubleText_of_le hs hvalue⟩
    by_contra hlt
    have hpoint : chars (.number x) = integerText n ++ ['.', '0'] :=
      doubleText_of_lt hs hvalue hn (not_le.mp hlt)
    rw [hpoint, List.mem_append] at hmem
    exact hmem.elim (notMem_integerText n) (by decide)

/-- The negative zero, and `-(2 ^ 53)`. -/
theorem chars_double_of_integral_minus :
    (⟨0x8000000000000000⟩ : Double).value? = some ((0 : Int) : ℚ) ∧
      double ⟨0x8000000000000000⟩ = .integer 0 ∧
      (⟨0xC340000000000000⟩ : Double).value? = some ((-9007199254740992 : Int) : ℚ) ∧
      chars (double ⟨0xC340000000000000⟩) =
        integerText (-9007199254740992) ++ ['.', '0'] ∧
      'e' ∉ chars (double ⟨0xC340000000000000⟩) := by
  have hzero : (⟨0x8000000000000000⟩ : Double).value? = some ((0 : Int) : ℚ) :=
    Double.integral_eq_some_iff.mp (by decide +kernel)
  have hedge : (⟨0xC340000000000000⟩ : Double).value? = some ((-9007199254740992 : Int) : ℚ) :=
    Double.integral_eq_some_iff.mp (by decide)
  obtain ⟨-, hlarge, hexponent⟩ := chars_double_of_integral hedge
  exact ⟨hzero, ((chars_double_of_integral hzero).1 (by decide)).1, hedge,
    (hlarge (by decide)).2 (by decide), hexponent.not.mpr (by decide)⟩

/-- The double `2 ^ 53` shows with a fraction. -/
theorem exists_integral_with_fraction : ∃ (x : Double) (n : Int), x.value? = some (n : ℚ) ∧
    'e' ∉ chars (double x) ∧ chars (double x) ≠ integerText n ∧
      String.ofList (chars (double x)) = "9007199254740992.0" := by
  refine ⟨⟨0x4340000000000000⟩, 2 ^ 53, Double.integral_eq_some_iff.mp (by decide), ?_, ?_, ?_⟩
  all_goals decide +kernel

end Render

end Redaction
