import Mathlib.Algebra.Order.Field.Power
import Mathlib.Data.Nat.Cast.Field
import Mathlib.Data.Rat.Cast.Order
import Mathlib.Tactic.Linarith
import Mathlib.Tactic.Positivity
import Mathlib.Tactic.Ring
import Redaction.Number.Binary

/-!
# The numbers that doubles are

A finite double is a rational number (`Scaled.value`), and only the two zeros are the same one
(`Double.eq_of_value?`): a mantissa is at most one bit longer than the fraction and as long as that
unless the exponent is the smallest one (`Format.IsCanonical`), so that a magnitude has one mantissa
and one exponent, and these with the sign give the bits back (`bits_of_decode`).

* `integral_eq_some_iff`: what is taken for an integer is one.
* `value?_ofInteger`: an integer below `2 ^ 53` is the double nearest to it.
-/

namespace Redaction.Number

variable {f : Format} {s t : Scaled} {bits : Nat} {n : Int}

/-! ### Values -/

/-- The magnitude of a number. -/
def Scaled.magnitude (s : Scaled) : ℚ := s.mantissa * 2 ^ s.exponent

/-- **The number that a sign, a mantissa and an exponent stand for.** -/
def Scaled.value (s : Scaled) : ℚ := if s.negative then -s.magnitude else s.magnitude

/-- **The number that a double is,** if it is finite. -/
def Double.value? (x : Double) : Option ℚ := x.decode.map Scaled.value

theorem Scaled.magnitude_nonneg (s : Scaled) : 0 ≤ s.magnitude := by
  unfold magnitude
  positivity

theorem Scaled.abs_value (s : Scaled) : |s.value| = s.magnitude := by
  unfold value
  split_ifs
  · rw [abs_neg, abs_of_nonneg s.magnitude_nonneg]
  · exact abs_of_nonneg s.magnitude_nonneg

theorem Scaled.magnitude_of_nonneg (h : 0 ≤ s.exponent) :
    s.magnitude = ((s.mantissa * 2 ^ s.exponent.toNat : Nat) : ℚ) := by
  obtain ⟨k, hk⟩ := Int.eq_ofNat_of_zero_le h
  rw [magnitude, hk, zpow_natCast, Int.toNat_natCast]
  push_cast
  rfl

theorem Scaled.magnitude_of_neg (h : s.exponent < 0) :
    s.magnitude = s.mantissa / (2 ^ (-s.exponent).toNat : Nat) := by
  obtain ⟨k, hk⟩ := Int.eq_ofNat_of_zero_le (neg_nonneg.mpr h.le)
  have hexp : s.exponent = -(k : Int) := by omega
  rw [magnitude, hexp, neg_neg, zpow_neg, zpow_natCast, Int.toNat_natCast, div_eq_mul_inv]
  push_cast
  rfl

/-! ### Integers -/

/-- The natural number that a magnitude is, if it is one. -/
def Scaled.natural (s : Scaled) : Option Nat :=
  if 0 ≤ s.exponent then some (s.mantissa * Nat.pow 2 s.exponent.toNat)
  else if s.mantissa % Nat.pow 2 (-s.exponent).toNat = 0 then
    some (s.mantissa / Nat.pow 2 (-s.exponent).toNat)
  else none

theorem Scaled.natural_eq_some_iff {m : Nat} : s.natural = some m ↔ s.magnitude = (m : ℚ) := by
  unfold natural
  split_ifs with he hdvd
  · rw [magnitude_of_nonneg he, Nat.cast_inj, Option.some.injEq]
    rfl
  · have hpow : ((2 ^ (-s.exponent).toNat : Nat) : ℚ) ≠ 0 := by positivity
    have hdiv : ((s.mantissa / 2 ^ (-s.exponent).toNat : Nat) : ℚ) =
        s.mantissa / (2 ^ (-s.exponent).toNat : Nat) :=
      Nat.cast_div (Nat.dvd_of_mod_eq_zero hdvd) hpow
    rw [magnitude_of_neg (not_le.mp he), ← hdiv, Nat.cast_inj, Option.some.injEq]
    rfl
  · refine iff_of_false nofun fun heq => hdvd ?_
    have hpow : ((2 ^ (-s.exponent).toNat : Nat) : ℚ) ≠ 0 := by positivity
    rw [magnitude_of_neg (not_le.mp he), div_eq_iff hpow, ← Nat.cast_mul, Nat.cast_inj] at heq
    rw [heq]
    exact Nat.mul_mod_left _ _

theorem Scaled.integral_eq_some_iff_natural : s.integral = some n ↔
    ∃ m : Nat, s.natural = some m ∧ (if s.negative then -(m : Int) else m) = n := by
  unfold integral natural
  dsimp only
  split_ifs <;> simp

/-- **What is taken for an integer is one.** -/
theorem Scaled.integral_eq_some_iff : s.integral = some n ↔ s.value = (n : ℚ) := by
  rw [integral_eq_some_iff_natural]
  simp only [natural_eq_some_iff]
  unfold value
  constructor
  · rintro ⟨m, hm, rfl⟩
    split_ifs
    · rw [hm, Int.cast_neg, Int.cast_natCast]
    · rw [hm, Int.cast_natCast]
  · intro h
    have hcast : s.magnitude = ((if s.negative then -n else n : Int) : ℚ) := by
      split_ifs at h ⊢
      · rw [Int.cast_neg, ← h, neg_neg]
      · exact h
    have hnonneg : 0 ≤ (if s.negative then -n else n : Int) := by
      exact_mod_cast hcast ▸ s.magnitude_nonneg
    obtain ⟨m, hm⟩ := Int.eq_ofNat_of_zero_le hnonneg
    refine ⟨m, by rw [hcast, hm, Int.cast_natCast], ?_⟩
    split_ifs at hm ⊢ <;> omega

theorem Double.integral_eq_some_iff {x : Double} :
    x.integral = some n ↔ x.value? = some (n : ℚ) := by
  unfold integral value?
  cases x.decode with
  | none => simp
  | some s => simpa using Scaled.integral_eq_some_iff

/-! ### Mantissas and exponents -/

/-- **The mantissa and the exponent of a number of a format:** the mantissa is as long as the format
allows, unless the exponent is the smallest one. -/
structure Format.IsCanonical (f : Format) (s : Scaled) : Prop where
  lowest_le : f.lowest ≤ s.exponent
  lt : s.mantissa < 2 ^ (f.fractionBits + 1)
  le : f.lowest < s.exponent → 2 ^ f.fractionBits ≤ s.mantissa

theorem Format.fraction_lt (f : Format) (bits : Nat) : f.fraction bits < 2 ^ f.fractionBits :=
  Nat.mod_lt _ (Nat.two_pow_pos _)

theorem isCanonical_of_decode (h : f.decode bits = some s) : f.IsCanonical s := by
  have hfraction := f.fraction_lt bits
  have hpow : 2 ^ (f.fractionBits + 1) = 2 ^ f.fractionBits + 2 ^ f.fractionBits := by
    rw [pow_succ, mul_two]
  unfold Format.decode at h
  dsimp only at h
  split_ifs at h with htop hzero
  · obtain rfl := Option.some.inj h
    refine ⟨le_rfl, ?_, fun hlt => absurd hlt (lt_irrefl _)⟩
    dsimp only
    omega
  · obtain rfl := Option.some.inj h
    refine ⟨?_, ?_, fun _ => Nat.le_add_right _ _⟩
    · dsimp only
      omega
    · rw [hpow]
      exact Nat.add_lt_add_left hfraction _

/-- A magnitude other than zero has one mantissa and one exponent. -/
theorem Format.IsCanonical.eq_of_magnitude_le (hs : f.IsCanonical s) (ht : f.IsCanonical t)
    (hle : s.exponent ≤ t.exponent) (h : s.magnitude = t.magnitude) :
    s.mantissa = t.mantissa ∧ s.exponent = t.exponent := by
  obtain ⟨k, hk⟩ := Int.eq_ofNat_of_zero_le (sub_nonneg.mpr hle)
  have hexp : t.exponent = s.exponent + k := by omega
  have hmantissa : s.mantissa = t.mantissa * 2 ^ k := by
    have hne : (2 : ℚ) ^ s.exponent ≠ 0 := by positivity
    rw [Scaled.magnitude, Scaled.magnitude, hexp, zpow_add₀ (by norm_num), zpow_natCast,
      mul_left_comm, mul_comm] at h
    exact_mod_cast mul_left_cancel₀ hne h
  cases k with
  | zero => exact ⟨by simpa using hmantissa, by omega⟩
  | succ k =>
    -- The second mantissa is full, so the first one is too long.
    have hfull : 2 ^ f.fractionBits ≤ t.mantissa := ht.le (by have := hs.lowest_le; omega)
    have hlong : 2 ^ f.fractionBits * 2 ≤ t.mantissa * 2 ^ (k + 1) :=
      Nat.mul_le_mul hfull (by rw [pow_succ]; exact Nat.le_mul_of_pos_left 2 (Nat.two_pow_pos k))
    have hlt := hs.lt
    rw [pow_succ, hmantissa] at hlt
    exact absurd hlt (not_lt.mpr hlong)

theorem Format.IsCanonical.eq_of_magnitude (hs : f.IsCanonical s) (ht : f.IsCanonical t)
    (h : s.magnitude = t.magnitude) : s.mantissa = t.mantissa ∧ s.exponent = t.exponent := by
  rcases le_total s.exponent t.exponent with hle | hle
  · exact hs.eq_of_magnitude_le ht hle h
  · obtain ⟨hm, he⟩ := ht.eq_of_magnitude_le hs hle h.symm
    exact ⟨hm.symm, he.symm⟩

/-! ### Bits -/

theorem signBit_eq (f : Format) : f.signBit = 2 ^ f.fractionBits * 2 ^ f.exponentBits :=
  pow_add 2 f.fractionBits f.exponentBits

/-- Bits are a sign, an exponent and a fraction. -/
theorem bits_eq_fields (h : bits < 2 * f.signBit) :
    bits = (if f.isNegative bits then f.signBit else 0) +
      (f.exponentField bits * 2 ^ f.fractionBits + f.fraction bits) := by
  have hsign : bits / f.signBit = if f.isNegative bits then 1 else 0 := by
    have hlt : bits / f.signBit < 2 := Nat.div_lt_of_lt_mul (by rwa [mul_comm])
    unfold Format.isNegative
    rcases Nat.lt_succ_iff_lt_or_eq.mp hlt with hzero | hone
    · simp [Nat.lt_one_iff.mp hzero]
    · simp [hone]
  have hhigh : bits / 2 ^ f.fractionBits =
      2 ^ f.exponentBits * (bits / f.signBit) + f.exponentField bits := by
    rw [signBit_eq, ← Nat.div_div_eq_div_mul]
    exact (Nat.div_add_mod _ _).symm
  calc bits = 2 ^ f.fractionBits * (bits / 2 ^ f.fractionBits) + f.fraction bits :=
        (Nat.div_add_mod _ _).symm
    _ = 2 ^ f.fractionBits * 2 ^ f.exponentBits * (bits / f.signBit) +
        (f.exponentField bits * 2 ^ f.fractionBits + f.fraction bits) := by rw [hhigh]; ring
    _ = _ := by
      rw [hsign, ← signBit_eq]
      split_ifs
      · rw [mul_one]
      · rw [mul_zero]

/-- **The bits of a finite number,** from its sign, mantissa and exponent. -/
theorem bits_of_decode (hbits : bits < 2 * f.signBit) (h : f.decode bits = some s) :
    bits = (if s.negative then f.signBit else 0) +
      ((s.exponent - f.lowest).toNat * 2 ^ f.fractionBits + s.mantissa) := by
  have hfields := bits_eq_fields hbits
  unfold Format.decode at h
  dsimp only at h
  split_ifs at h with htop hzero
  · obtain rfl := Option.some.inj h
    rw [hzero] at hfields
    dsimp only
    rwa [sub_self, Int.toNat_zero]
  · obtain rfl := Option.some.inj h
    obtain ⟨e, he⟩ := Nat.exists_eq_succ_of_ne_zero hzero
    have hexp : (f.lowest + ((f.exponentField bits : Int) - 1) - f.lowest).toNat = e := by omega
    rw [he, Nat.succ_mul, add_assoc] at hfields
    dsimp only
    rwa [hexp]

/-- **Doubles that are the same number** are the same, but for the two zeros. -/
theorem Double.eq_of_value? {x y : Double} {q : ℚ} (hx : x.value? = some q)
    (hy : y.value? = some q) (hq : q ≠ 0) : x = y := by
  obtain ⟨s, hs, rfl⟩ := Option.map_eq_some_iff.mp hx
  obtain ⟨t, ht, hvalue⟩ := Option.map_eq_some_iff.mp hy
  have hmagnitude : s.magnitude = t.magnitude := by
    rw [← s.abs_value, ← t.abs_value, hvalue]
  obtain ⟨hmantissa, hexponent⟩ :=
    (isCanonical_of_decode hs).eq_of_magnitude (isCanonical_of_decode ht) hmagnitude
  have hsign : s.negative = t.negative := by
    have hpos : 0 < s.magnitude := by
      rw [← s.abs_value]
      exact abs_pos.mpr hq
    unfold Scaled.value at hvalue
    rw [← hmagnitude] at hvalue
    cases hns : s.negative <;> cases hnt : t.negative <;> simp [hns, hnt] at hvalue ⊢ <;> linarith
  have hbits : x.bits.toNat = y.bits.toNat := by
    rw [bits_of_decode x.bits.toNat_lt hs, bits_of_decode y.bits.toNat_lt ht, hmantissa, hexponent,
      hsign]
  exact congrArg Double.mk (UInt64.toNat_inj.mp hbits)

/-- The number whose bits are a sign, an exponent that is not the smallest, and a fraction. -/
theorem Format.decode_fields {negative : Bool} {e m : Nat} (he : 0 < e) (htop : e < f.topField)
    (hm : m < 2 ^ f.fractionBits) :
    f.decode ((if negative then f.signBit else 0) + (e * 2 ^ f.fractionBits + m)) =
      some ⟨negative, 2 ^ f.fractionBits + m, f.lowest + ((e : Int) - 1)⟩ := by
  have hlt : e < 2 ^ f.exponentBits := htop.trans_le (Nat.sub_le _ _)
  generalize hbits : (if negative then f.signBit else 0) + (e * 2 ^ f.fractionBits + m) = bits
  have hparts : bits = 2 ^ f.fractionBits * (2 ^ f.exponentBits * negative.toNat + e) + m := by
    rw [← hbits, signBit_eq]
    cases negative
    · rw [if_neg nofun, Bool.toNat_false]
      ring
    · rw [if_pos rfl, Bool.toNat_true]
      ring
  have hhigh : bits / 2 ^ f.fractionBits = 2 ^ f.exponentBits * negative.toNat + e := by
    rw [hparts, Nat.mul_add_div (Nat.two_pow_pos _), Nat.div_eq_of_lt hm, Nat.add_zero]
  have hfraction : f.fraction bits = m := by
    rw [hparts]
    exact (Nat.mul_add_mod _ _ _).trans (Nat.mod_eq_of_lt hm)
  have hfield : f.exponentField bits = e := by
    show bits / 2 ^ f.fractionBits % 2 ^ f.exponentBits = e
    rw [hhigh, Nat.mul_add_mod, Nat.mod_eq_of_lt hlt]
  have hnegative : f.isNegative bits = negative := by
    unfold isNegative
    rw [signBit_eq, ← Nat.div_div_eq_div_mul, hhigh, Nat.mul_add_div (Nat.two_pow_pos _),
      Nat.div_eq_of_lt hlt, Nat.add_zero]
    cases negative <;> rfl
  unfold decode
  dsimp only
  rw [hfield, hfraction, hnegative, if_neg htop.ne, if_neg he.ne']
  rfl

/-! ### Doubles of integers -/

/-- The double nearest to an integer. -/
def Double.ofInteger (n : Int) : Double := .ofDecimal (n < 0) n.natAbs 0

theorem floorLog_one {k : Nat} (hk : k ≠ 0) : floorLog k 1 = k.log2 := by
  have hle : 2 ^ k.log2 ≤ k := Nat.log2_self_le hk
  have hlog : ((k.log2 : Int) - (Nat.log2 1 : Nat)) = k.log2 := by
    rw [show Nat.log2 1 = 0 from by decide]
    exact sub_zero _
  unfold floorLog
  dsimp only
  rw [hlog, Int.toNat_natCast, if_neg]
  have hneg : (-(k.log2 : Int)).toNat = 0 := by omega
  rw [hneg, one_mul]
  exact not_lt.mpr (hle.trans (Nat.le_mul_of_pos_right k (Nat.two_pow_pos 0)))

theorem roundDiv_one (k : Nat) : roundDiv k 1 = k := by
  unfold roundDiv
  rw [Nat.mod_one, Nat.div_one]
  rfl

/-- A number that a mantissa can be has a full one at the exponent of its highest bit. -/
theorem mantissa_bounds {k : Nat} (hk : k ≠ 0) (hlog : k.log2 ≤ 52) :
    2 ^ 52 ≤ k * 2 ^ (52 - k.log2) ∧ k * 2 ^ (52 - k.log2) < 2 ^ 53 := by
  constructor
  · calc 2 ^ 52 = 2 ^ k.log2 * 2 ^ (52 - k.log2) := by
          rw [← pow_add, Nat.add_sub_cancel' hlog]
      _ ≤ k * 2 ^ (52 - k.log2) := Nat.mul_le_mul_right _ (Nat.log2_self_le hk)
  · calc k * 2 ^ (52 - k.log2) < 2 ^ (k.log2 + 1) * 2 ^ (52 - k.log2) :=
          Nat.mul_lt_mul_of_pos_right Nat.lt_log2_self (Nat.two_pow_pos _)
      _ = 2 ^ 53 := by
          rw [← pow_add]
          congr 1
          omega

theorem lowest_double : double.lowest = -1074 := by decide

/-- The bits of a natural number that a mantissa can be. -/
theorem nearest_double {k : Nat} (hk : k ≠ 0) (hlog : k.log2 ≤ 52) :
    double.nearest k 1 = (k.log2 + 1022) * 2 ^ 52 + k * 2 ^ (52 - k.log2) := by
  have hlt := (mantissa_bounds hk hlog).2
  have hinfinity : double.infinity = 2047 * 2 ^ 52 := by decide
  have hexp : max double.lowest (floorLog k 1 - double.fractionBits) = (k.log2 : Int) - 52 := by
    rw [floorLog_one hk, lowest_double]
    show max (-1074) ((k.log2 : Int) - 52) = _
    exact max_eq_right (by omega)
  unfold Format.nearest
  dsimp only
  rw [if_neg hk, hexp, lowest_double, hinfinity]
  have hneg : (-((k.log2 : Int) - 52)).toNat = 52 - k.log2 := by omega
  have hpos : ((k.log2 : Int) - 52).toNat = 0 := by omega
  have hfield : ((k.log2 : Int) - 52 - -1074).toNat = k.log2 + 1022 := by omega
  rw [hneg, hpos, hfield]
  show min ((k.log2 + 1022) * 2 ^ 52 + roundDiv (k * 2 ^ (52 - k.log2)) 1) _ = _
  rw [roundDiv_one]
  exact min_eq_left (by omega)

/-- The sign, mantissa and exponent of the double of such a number. -/
theorem decode_ofInteger (hk : n.natAbs ≠ 0) (hlog : n.natAbs.log2 ≤ 52) :
    (Double.ofInteger n).decode =
      some ⟨n < 0, n.natAbs * 2 ^ (52 - n.natAbs.log2), (n.natAbs.log2 : Int) - 52⟩ := by
  obtain ⟨hle, hlt⟩ := mantissa_bounds hk hlog
  have hsigned : double.nearestSigned (n < 0) n.natAbs 1 =
      (if decide (n < 0) then double.signBit else 0) + ((n.natAbs.log2 + 1023) * 2 ^ 52 +
        (n.natAbs * 2 ^ (52 - n.natAbs.log2) - 2 ^ 52)) := by
    unfold Format.nearestSigned
    rw [nearest_double hk hlog]
    omega
  have hsign : (if decide (n < 0) then double.signBit else 0) ≤ 2 ^ 63 := by
    split_ifs <;> decide
  have hbits : (Double.ofInteger n).bits.toNat = double.nearestSigned (n < 0) n.natAbs 1 := by
    show (double.nearestSigned (n < 0) (n.natAbs * 1) 1).toUInt64.toNat = _
    rw [mul_one, hsigned]
    refine UInt64.toNat_ofNat_of_lt ?_
    show _ < 2 ^ 64
    omega
  have hdecode := @Format.decode_fields double (n < 0) (n.natAbs.log2 + 1023)
    (n.natAbs * 2 ^ (52 - n.natAbs.log2) - 2 ^ 52) (Nat.succ_pos _)
    (by show _ < 2047; omega) (by show _ < 2 ^ 52; omega)
  unfold Double.decode
  rw [hbits, hsigned]
  refine hdecode.trans ?_
  have hmantissa : 2 ^ double.fractionBits + (n.natAbs * 2 ^ (52 - n.natAbs.log2) - 2 ^ 52) =
      n.natAbs * 2 ^ (52 - n.natAbs.log2) := Nat.add_sub_cancel' hle
  have hexponent : double.lowest + (((n.natAbs.log2 + 1023 : Nat) : Int) - 1) =
      (n.natAbs.log2 : Int) - 52 := by
    rw [lowest_double]
    omega
  rw [hmantissa, hexponent]

/-- **The double of an integer that a mantissa can be** is the integer. -/
theorem Double.value?_ofInteger (hn : n.natAbs < 2 ^ 53) :
    (Double.ofInteger n).value? = some (n : ℚ) := by
  by_cases hzero : n = 0
  · subst hzero
    exact Double.integral_eq_some_iff.mp (by decide +kernel)
  have hk : n.natAbs ≠ 0 := Int.natAbs_ne_zero.mpr hzero
  have hlog : n.natAbs.log2 ≤ 52 := Nat.le_of_lt_succ ((Nat.log2_lt hk).mpr hn)
  have hmagnitude : ((n.natAbs * 2 ^ (52 - n.natAbs.log2) : Nat) : ℚ) *
      2 ^ ((n.natAbs.log2 : Int) - 52) = n.natAbs := by
    have hexp : ((52 - n.natAbs.log2 : Nat) : Int) + ((n.natAbs.log2 : Int) - 52) = 0 := by omega
    rw [Nat.cast_mul, Nat.cast_pow, Nat.cast_ofNat, ← zpow_natCast, mul_assoc,
      ← zpow_add₀ (by norm_num), hexp, zpow_zero, mul_one]
  rw [value?, decode_ofInteger hk hlog, Option.map_some, Scaled.value, Scaled.magnitude]
  dsimp only
  rw [hmagnitude, Nat.cast_natAbs, Int.cast_abs, Option.some.injEq]
  by_cases hneg : n < 0
  · rw [if_pos (decide_eq_true hneg), abs_of_neg (Int.cast_lt_zero.mpr hneg), neg_neg]
  · rw [if_neg (by simpa using hneg), abs_of_nonneg (Int.cast_nonneg (not_lt.mp hneg))]

end Redaction.Number
