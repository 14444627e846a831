/-!
# Decimals and their notations

A decimal is a natural number times a power of ten. It is written positionally, with as many zeros
as the power asks for, or with one digit before the point and the power behind an `e`.
-/

namespace Redaction.Number

/-- The decimal `digits * 10 ^ exponent`. -/
structure Decimal where
  digits : Nat
  exponent : Int
deriving DecidableEq

/-- The decimal digits of a natural number. -/
def digitsOf (n : Nat) : List Char := Nat.toDigits 10 n

/-- The decimal digits of a natural number, with zeros in front up to `width` digits. -/
def paddedDigits (width n : Nat) : List Char := (digitsOf n).leftpad width '0'

/-- The decimal text of an integer. -/
def integerText (n : Int) : List Char :=
  if n < 0 then '-' :: digitsOf n.natAbs else digitsOf n.natAbs

theorem integerText_natCast (n : Nat) : integerText n = digitsOf n := if_neg (by omega)

namespace Decimal

/-- The power of ten of the first digit. -/
def order (d : Decimal) : Int := (digitsOf d.digits).length + d.exponent - 1

/-- Positional notation; no point when the power of ten is not negative. -/
def positional (d : Decimal) : List Char :=
  if 0 ≤ d.exponent then digitsOf d.digits ++ List.replicate d.exponent.toNat '0'
  else
    let places := (-d.exponent).toNat
    let ds := paddedDigits (places + 1) d.digits
    ds.take (ds.length - places) ++ '.' :: ds.drop (ds.length - places)

/-- One digit, the other digits behind a point if there are any, and the power of the first digit
with its sign. -/
def scientific (d : Decimal) : List Char :=
  let fraction := (digitsOf d.digits).drop 1
  (digitsOf d.digits).take 1 ++ (if fraction.isEmpty then [] else '.' :: fraction) ++ ['e'] ++
    (if d.order < 0 then '-' else '+') :: digitsOf d.order.natAbs

end Decimal

end Redaction.Number
