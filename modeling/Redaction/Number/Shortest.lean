import Redaction.Number.Binary
import Redaction.Number.Decimal

/-!
# The shortest decimal of a binary number

The reals that round to a magnitude `m * 2 ^ q` are an interval around it, which holds its ends when
`m` is even. Of the decimals in that interval the shortest is taken, and of those with equally many
digits the nearest to the magnitude.

The search goes over the grids of multiples of `10 ^ k`, from coarse to fine. If a point of a grid
lies in the interval then so does one of the magnitude's two neighbours on that grid, so only these
two are tested (`Interval.onGrid`). The first grid with a hit gives the answer; its point does not
end in a zero digit, because then the grid before it would have been hit.
-/

namespace Redaction.Number

/-- Where a magnitude goes that is half-way between two decimals of the same length. -/
inductive Tie where
  | up
  | even
deriving DecidableEq

/-- A magnitude and the ends of its interval, in units of `1 / unit`. -/
structure Interval where
  low : Nat
  value : Nat
  high : Nat
  unit : Nat
  closed : Bool

/-- **The interval of the reals that round to a magnitude.** The gap below a power of two is half as
wide as the gap above it, except at the smallest exponent. -/
def Format.interval (f : Format) (mantissa : Nat) (exponent : Int) : Interval :=
  let gap := Nat.pow 2 (exponent - f.lowest).toNat
  let value := mantissa * gap * 4
  let below := if mantissa = Nat.pow 2 f.fractionBits ∧ f.lowest < exponent then gap else gap * 2
  ⟨value - below, value, value + gap * 2, Nat.pow 2 (2 - f.lowest).toNat, mantissa % 2 == 0⟩

namespace Interval

/-- Whether `c * step` lies in the interval, whose ends are multiplied by `factor`. -/
def holds (i : Interval) (factor step c : Nat) : Bool :=
  let x := c * step
  if i.closed then i.low * factor ≤ x && x ≤ i.high * factor
  else i.low * factor < x && x < i.high * factor

/-- The multiple of `10 ^ k` in the interval that is nearest to the value, counted in `10 ^ k`. -/
def onGrid (i : Interval) (tie : Tie) (k : Int) : Option Nat :=
  let factor := Nat.pow 10 (-k).toNat
  let step := i.unit * Nat.pow 10 k.toNat
  let c := i.value * factor / step
  let rest := i.value * factor % step
  let upper := if tie = .up ∨ c % 2 = 1 then step ≤ 2 * rest else step < 2 * rest
  match i.holds factor step c, i.holds factor step (c + 1) with
  | true, true => some (if upper then c + 1 else c)
  | true, false => some c
  | false, true => some (c + 1)
  | false, false => none

/-- The first hit on the grids of `10 ^ k`, `10 ^ (k - 1)`, …, `n` of them. -/
def search (i : Interval) (tie : Tie) : Nat → Int → Decimal
  | 0, k => ⟨0, k⟩
  | n + 1, k =>
    match i.onGrid tie k with
    | some c => ⟨c, k⟩
    | none => search i tie n (k - 1)

end Interval

/-- **The shortest decimal of a magnitude.** The coarsest grid has one point above the value, and
the finest has the value itself, because a power of two is a multiple of a power of ten. -/
def Format.shortest (f : Format) (tie : Tie) (s : Scaled) : Decimal :=
  if s.mantissa = 0 then ⟨0, 0⟩
  else
    let i := f.interval s.mantissa s.exponent
    let places := (Nat.toDigits 10 (i.value / i.unit)).length
    i.search tie (places + 1 + f.lowest.natAbs) places

end Redaction.Number
