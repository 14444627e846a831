/-!
# Binary floating-point numbers

A floating-point number is known by its bits, so that two of them are equal exactly when they were
written alike: the two zeros differ and so may two NaNs. The bits of a finite number say a sign and
a magnitude `mantissa * 2 ^ exponent` (`Format.decode`).

* `Format.nearest`: the bits of the number nearest to a quotient of natural numbers, a tie going to
  the even mantissa. Because the bits of consecutive magnitudes are consecutive, a mantissa that is
  rounded up to the next power of two carries into the exponent by itself.
* `Double.narrow`: the single-precision number nearest to a double.
* `Double.integral`: the integer that a double is exactly, if it is one.
-/

namespace Redaction.Number

/-! ### Formats -/

/-- A binary format: how many bits hold the fraction and how many the exponent. -/
structure Format where
  fractionBits : Nat
  exponentBits : Nat

namespace Format

/-- The exponent of the smallest magnitudes. -/
def lowest (f : Format) : Int := 2 - Nat.pow 2 (f.exponentBits - 1) - f.fractionBits

/-- The exponent field of infinities and NaNs. -/
def topField (f : Format) : Nat := Nat.pow 2 f.exponentBits - 1

/-- The bits of the positive infinity. -/
def infinity (f : Format) : Nat := f.topField * Nat.pow 2 f.fractionBits

/-- The bit that tells negative numbers. -/
def signBit (f : Format) : Nat := Nat.pow 2 (f.fractionBits + f.exponentBits)

end Format

/-- The number `mantissa * 2 ^ exponent`, or its negative. -/
structure Scaled where
  negative : Bool
  mantissa : Nat
  exponent : Int
deriving DecidableEq

namespace Format

def fraction (f : Format) (bits : Nat) : Nat := bits % Nat.pow 2 f.fractionBits

def exponentField (f : Format) (bits : Nat) : Nat :=
  bits / Nat.pow 2 f.fractionBits % Nat.pow 2 f.exponentBits

def isNegative (f : Format) (bits : Nat) : Bool := bits / f.signBit % 2 == 1

/-- The exponent is all ones and the fraction is not zero. -/
def isNaN (f : Format) (bits : Nat) : Bool :=
  f.exponentField bits == f.topField && f.fraction bits != 0

/-- **What the bits of a finite number say;** none for infinities and NaNs. -/
def decode (f : Format) (bits : Nat) : Option Scaled :=
  let e := f.exponentField bits
  if e = f.topField then none
  else if e = 0 then some ⟨f.isNegative bits, f.fraction bits, f.lowest⟩
  else some ⟨f.isNegative bits, Nat.pow 2 f.fractionBits + f.fraction bits, f.lowest + (e - 1)⟩

end Format

/-! ### Rounding -/

/-- `n / d` rounded to the nearest integer, a half going to the even neighbour. -/
def roundDiv (n d : Nat) : Nat :=
  let r := n % d
  if 2 * r < d then n / d
  else if d < 2 * r then n / d + 1
  else n / d + n / d % 2

/-- The largest `e` with `2 ^ e ≤ n / d`, for positive `n` and `d`. -/
def floorLog (n d : Nat) : Int :=
  let e : Int := n.log2 - d.log2
  if n * Nat.pow 2 (-e).toNat < d * Nat.pow 2 e.toNat then e - 1 else e

/-- **The bits of the magnitude nearest to `n / d`,** for positive `d`. -/
def Format.nearest (f : Format) (n d : Nat) : Nat :=
  if n = 0 then 0
  else
    let q := max f.lowest (floorLog n d - f.fractionBits)
    let m := roundDiv (n * Nat.pow 2 (-q).toNat) (d * Nat.pow 2 q.toNat)
    min ((q - f.lowest).toNat * Nat.pow 2 f.fractionBits + m) f.infinity

/-- The bits of the number nearest to `n / d` or to its negative. -/
def Format.nearestSigned (f : Format) (negative : Bool) (n d : Nat) : Nat :=
  (if negative then f.signBit else 0) + f.nearest n d

/-! ### The two formats in use -/

/-- Eight bytes: 52 bits of fraction and 11 of exponent. -/
def double : Format := ⟨52, 11⟩

/-- Four bytes: 23 bits of fraction and 8 of exponent. -/
def single : Format := ⟨23, 8⟩

/-- A double-precision number. -/
structure Double where
  bits : UInt64
deriving DecidableEq, Inhabited

/-- A single-precision number. -/
structure Single where
  bits : UInt32
deriving DecidableEq, Inhabited

def Double.decode (x : Double) : Option Scaled := double.decode x.bits.toNat

def Single.decode (x : Single) : Option Scaled := single.decode x.bits.toNat

def Double.isNaN (x : Double) : Bool := double.isNaN x.bits.toNat

def Single.isNaN (x : Single) : Bool := single.isNaN x.bits.toNat

def Double.isFinite (x : Double) : Bool := x.decode.isSome

def Single.isFinite (x : Single) : Bool := x.decode.isSome

/-- The positive zero. -/
def Double.zero : Double := ⟨0⟩

/-- The double nearest to `digits * 10 ^ exponent` or to its negative. -/
def Double.ofDecimal (negative : Bool) (digits : Nat) (exponent : Int) : Double :=
  ⟨(double.nearestSigned negative (digits * Nat.pow 10 exponent.toNat)
    (Nat.pow 10 (-exponent).toNat)).toUInt64⟩

/-- **The single-precision number nearest to a double;** infinities and NaNs stay what they are. -/
def Double.narrow (x : Double) : Single :=
  match x.decode with
  | some s =>
    ⟨(single.nearestSigned s.negative (s.mantissa * Nat.pow 2 s.exponent.toNat)
      (Nat.pow 2 (-s.exponent).toNat)).toUInt32⟩
  | none =>
    let sign := if double.isNegative x.bits.toNat then single.signBit else 0
    let quiet := if x.isNaN then Nat.pow 2 (single.fractionBits - 1) else 0
    ⟨(sign + single.infinity + quiet).toUInt32⟩

/-- The integer that a number is exactly, if it is one. -/
def Scaled.integral (s : Scaled) : Option Int :=
  let magnitude : Option Nat :=
    if 0 ≤ s.exponent then some (s.mantissa * Nat.pow 2 s.exponent.toNat)
    else if s.mantissa % Nat.pow 2 (-s.exponent).toNat = 0 then
      some (s.mantissa / Nat.pow 2 (-s.exponent).toNat)
    else none
  magnitude.map fun n => if s.negative then -n else n

/-- **The integer that a double is exactly,** if it is one; both zeros are `0`. -/
def Double.integral (x : Double) : Option Int := x.decode.bind Scaled.integral

end Redaction.Number
