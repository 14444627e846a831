import Mathlib.Algebra.Order.Group.Nat
import Mathlib.Tactic.Ring
import Mathlib.Tactic.SplitIfs
import Redaction.Number.Shortest

/-!
# Shortest decimals are found

The search for the shortest decimal of a magnitude comes to an end with a hit, because the last grid
has the magnitude itself: a power of ten is a multiple of a power of two. So the decimal rounds to
the magnitude (`roundsTo_shortest`). The interval of a magnitude other than zero has no zero in it
(`Interval.Bounds`), so a hit is positive (`Format.shortest_pos`).
-/

namespace Redaction.Number

variable {f : Format} {tie : Tie} {i : Interval} {k : Int} {c : Nat}

namespace Interval

/-- **The interval is around its value,** above zero. -/
structure Bounds (i : Interval) : Prop where
  low_pos : 0 < i.low
  low_lt : i.low < i.value
  lt_high : i.value < i.high

theorem le_of_holds {factor step : Nat} (h : i.holds factor step c) :
    i.low * factor ≤ c * step ∧ c * step ≤ i.high * factor := by
  unfold holds at h
  split_ifs at h
  · exact (Bool.and_eq_true_iff.mp h).imp of_decide_eq_true of_decide_eq_true
  · exact (Bool.and_eq_true_iff.mp h).imp (fun h => (of_decide_eq_true h).le)
      fun h => (of_decide_eq_true h).le

theorem pos_of_holds (hi : i.Bounds) {factor step : Nat} (hfactor : 0 < factor)
    (h : i.holds factor step c) : 0 < c :=
  Nat.pos_of_mul_pos_right ((Nat.mul_pos hi.low_pos hfactor).trans_le (le_of_holds h).1)

theorem holds_of_onGrid (h : i.onGrid tie k = some c) :
    i.holds (Nat.pow 10 (-k).toNat) (i.unit * Nat.pow 10 k.toNat) c := by
  unfold onGrid at h
  dsimp only at h
  split at h
  · next h₁ h₂ =>
    split_ifs at h <;> (obtain rfl := Option.some.inj h; assumption)
  · next h₁ _ => exact Option.some.inj h ▸ h₁
  · next _ h₂ => exact Option.some.inj h ▸ h₂
  · cases h

theorem onGrid_pos (hi : i.Bounds) (h : i.onGrid tie k = some c) : 0 < c :=
  pos_of_holds hi (Nat.pow_pos (by decide)) (holds_of_onGrid h)

/-- A hit is one of the value's two neighbours on the grid. -/
theorem eq_or_eq_succ_of_onGrid (h : i.onGrid tie k = some c) :
    c = i.value * Nat.pow 10 (-k).toNat / (i.unit * Nat.pow 10 k.toNat) ∨
      c = i.value * Nat.pow 10 (-k).toNat / (i.unit * Nat.pow 10 k.toNat) + 1 := by
  unfold onGrid at h
  dsimp only at h
  split at h
  · have hc := Option.some.inj h
    split_ifs at hc <;> omega
  · exact Or.inl (Option.some.inj h).symm
  · exact Or.inr (Option.some.inj h).symm
  · cases h

/-- **A grid that the value lies on is hit there.** -/
theorem onGrid_of_dvd (hi : i.Bounds) (hunit : 0 < i.unit)
    (h : i.unit * Nat.pow 10 k.toNat ∣ i.value * Nat.pow 10 (-k).toNat) :
    i.onGrid tie k =
      some (i.value * Nat.pow 10 (-k).toNat / (i.unit * Nat.pow 10 k.toNat)) := by
  have hfactor : 0 < Nat.pow 10 (-k).toNat := Nat.pow_pos (by decide)
  have hholds : i.holds (Nat.pow 10 (-k).toNat) (i.unit * Nat.pow 10 k.toNat)
      (i.value * Nat.pow 10 (-k).toNat / (i.unit * Nat.pow 10 k.toNat)) := by
    have hlow := Nat.mul_lt_mul_of_pos_right hi.low_lt hfactor
    have hhigh := Nat.mul_lt_mul_of_pos_right hi.lt_high hfactor
    unfold holds
    rw [Nat.div_mul_cancel h]
    split_ifs
    · exact Bool.and_eq_true_iff.mpr ⟨decide_eq_true hlow.le, decide_eq_true hhigh.le⟩
    · exact Bool.and_eq_true_iff.mpr ⟨decide_eq_true hlow, decide_eq_true hhigh⟩
  have hrest : i.value * Nat.pow 10 (-k).toNat % (i.unit * Nat.pow 10 k.toNat) = 0 :=
    Nat.mod_eq_zero_of_dvd h
  unfold onGrid
  dsimp only
  rw [hholds, hrest, mul_zero]
  split <;> simp_all [hunit.ne']

/-- **The search ends with a hit** if one of its grids has one. -/
theorem onGrid_search : ∀ {n : Nat} {k : Int}, (∃ j < n, (i.onGrid tie (k - j)).isSome) →
    i.onGrid tie (i.search tie n k).exponent = some (i.search tie n k).digits
  | 0, k, ⟨j, hj, _⟩ => absurd hj (Nat.not_lt_zero j)
  | n + 1, k, ⟨j, hj, hgrid⟩ => by
    unfold search
    cases hk : i.onGrid tie k with
    | some c => exact hk
    | none =>
      refine onGrid_search ?_
      cases j with
      | zero => simp [hk] at hgrid
      | succ j =>
        refine ⟨j, Nat.lt_of_succ_lt_succ hj, ?_⟩
        rwa [show k - 1 - (j : Int) = k - ((j + 1 : Nat) : Int) by push_cast; ring]

/-- **The search ends no later than at a grid with a hit.** -/
theorem le_exponent_search : ∀ {n j : Nat} {k : Int}, j < n → (i.onGrid tie (k - j)).isSome →
    k - j ≤ (i.search tie n k).exponent
  | 0, j, k, hj, _ => absurd hj (Nat.not_lt_zero j)
  | n + 1, j, k, hj, hgrid => by
    unfold search
    cases hk : i.onGrid tie k with
    | some c =>
      dsimp only
      omega
    | none =>
      cases j with
      | zero => simp [hk] at hgrid
      | succ j =>
        have hnext : k - ((j + 1 : Nat) : Int) = k - 1 - (j : Int) := by push_cast; ring
        rw [hnext] at hgrid ⊢
        exact le_exponent_search (Nat.lt_of_succ_lt_succ hj) hgrid

end Interval

/-! ### Magnitudes -/

theorem bounds_interval {mantissa : Nat} (hm : mantissa ≠ 0) (exponent : Int) :
    (f.interval mantissa exponent).Bounds := by
  unfold Format.interval
  dsimp only
  generalize hgap : Nat.pow 2 (exponent - f.lowest).toNat = gap
  have hpos : 0 < gap := hgap ▸ Nat.pow_pos (by decide)
  have hvalue : gap * 4 ≤ mantissa * gap * 4 :=
    Nat.mul_le_mul_right 4 (Nat.le_mul_of_pos_left gap (Nat.pos_of_ne_zero hm))
  refine ⟨?_, ?_, Nat.lt_add_of_pos_right (Nat.mul_pos hpos (by decide))⟩
  · dsimp only
    split_ifs <;> omega
  · dsimp only
    split_ifs <;> omega

/-- The value of a magnitude lies on the finest grid of the search. -/
theorem unit_dvd_value (hf : f.lowest ≤ 0) (mantissa : Nat) (exponent : Int) :
    (f.interval mantissa exponent).unit * Nat.pow 10 (-(f.lowest.natAbs : Int)).toNat ∣
      (f.interval mantissa exponent).value * Nat.pow 10 (-(-(f.lowest.natAbs : Int))).toNat := by
  have hneg : (-(f.lowest.natAbs : Int)).toNat = 0 := by omega
  have hunit : (2 - f.lowest).toNat = 2 + f.lowest.natAbs := by omega
  have hpow : Nat.pow 2 (2 + f.lowest.natAbs) ∣ 4 * Nat.pow 10 f.lowest.natAbs := by
    refine Dvd.intro (Nat.pow 5 f.lowest.natAbs) ?_
    show 2 ^ (2 + f.lowest.natAbs) * 5 ^ f.lowest.natAbs = 4 * 10 ^ f.lowest.natAbs
    rw [pow_add, mul_assoc, ← mul_pow]
    rfl
  unfold Format.interval
  dsimp only
  rw [hneg, hunit, neg_neg, Int.toNat_natCast, show Nat.pow 10 0 = 1 from rfl, Nat.mul_one,
    Nat.mul_assoc]
  exact hpow.mul_left _

/-- **The shortest decimal of a magnitude other than zero is a hit.** -/
theorem Format.onGrid_shortest (hf : f.lowest ≤ 0) {s : Scaled} (hs : s.mantissa ≠ 0) :
    (f.interval s.mantissa s.exponent).onGrid tie (f.shortest tie s).exponent =
      some (f.shortest tie s).digits := by
  unfold Format.shortest
  rw [if_neg hs]
  refine Interval.onGrid_search
    ⟨_ + f.lowest.natAbs, Nat.add_lt_add_right (Nat.lt_succ_self _) _, ?_⟩
  rw [Nat.cast_add, sub_add_cancel_left,
    Interval.onGrid_of_dvd (bounds_interval hs s.exponent) (Nat.two_pow_pos _)
      (unit_dvd_value hf s.mantissa s.exponent)]
  rfl

/-- It has a digit other than zero. -/
theorem Format.shortest_pos (hf : f.lowest ≤ 0) {s : Scaled} (hs : s.mantissa ≠ 0) :
    0 < (f.shortest tie s).digits :=
  Interval.onGrid_pos (bounds_interval hs s.exponent) (f.onGrid_shortest hf hs)

/-- A magnitude with a hit on the grid of integers has a shortest decimal without places. -/
theorem Format.exponent_shortest_nonneg {s : Scaled} (hs : s.mantissa ≠ 0)
    (h : ((f.interval s.mantissa s.exponent).onGrid tie 0).isSome) :
    0 ≤ (f.shortest tie s).exponent := by
  unfold Format.shortest
  rw [if_neg hs]
  dsimp only
  generalize (Nat.toDigits 10 ((f.interval s.mantissa s.exponent).value /
    (f.interval s.mantissa s.exponent).unit)).length = places
  have hle := @Interval.le_exponent_search tie (f.interval s.mantissa s.exponent)
    (places + 1 + f.lowest.natAbs) places places (by omega) (by rwa [sub_self])
  rwa [sub_self] at hle

/-! ### Rounding -/

/-- **The decimal is one that rounds to the magnitude:** it lies in the interval around it, or is
zero as the magnitude is. -/
def Decimal.RoundsTo (d : Decimal) (f : Format) (s : Scaled) : Prop :=
  if s.mantissa = 0 then d.digits = 0
  else (f.interval s.mantissa s.exponent).holds (Nat.pow 10 (-d.exponent).toNat)
    ((f.interval s.mantissa s.exponent).unit * Nat.pow 10 d.exponent.toNat) d.digits

theorem roundsTo_shortest (hf : f.lowest ≤ 0) (s : Scaled) :
    (f.shortest tie s).RoundsTo f s := by
  unfold Decimal.RoundsTo
  split_ifs with hs
  · rw [Format.shortest, if_pos hs]
  · exact Interval.holds_of_onGrid (f.onGrid_shortest hf hs)

/-- The decimal without a positive power of ten. -/
def Decimal.expanded (d : Decimal) : Decimal :=
  if 0 ≤ d.exponent then ⟨d.digits * 10 ^ d.exponent.toNat, 0⟩ else d

theorem Decimal.RoundsTo.expanded {d : Decimal} {s : Scaled} (h : d.RoundsTo f s) :
    d.expanded.RoundsTo f s := by
  unfold Decimal.expanded
  split_ifs with hd
  · unfold RoundsTo at h ⊢
    split_ifs at h ⊢
    · rw [h, Nat.zero_mul]
    · have hneg : (-d.exponent).toNat = 0 := by omega
      rw [hneg] at h
      generalize f.interval s.mantissa s.exponent = i at h ⊢
      have hproduct : d.digits * 10 ^ d.exponent.toNat * (i.unit * Nat.pow 10 0) =
          d.digits * (i.unit * Nat.pow 10 d.exponent.toNat) := by
        show _ * (i.unit * 10 ^ 0) = d.digits * (i.unit * 10 ^ d.exponent.toNat)
        ring
      unfold Interval.holds at h ⊢
      simp only [neg_zero, Int.toNat_zero, hproduct]
      exact h
  · exact h

end Redaction.Number
