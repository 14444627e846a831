/-!
# Varints

A natural number below `2 ^ 64` in groups of seven bits, the lowest first; every byte but the last
has its top bit set. A reader takes at most ten bytes, of which the tenth can only be `0` or `1`.
-/

namespace Redaction.Wire

/-- A byte string, as the list of its bytes. -/
abbrev Bytes := List UInt8

namespace Varint

/-- **The bytes of a number.** -/
def write (n : Nat) : Bytes :=
  if n < 0x80 then [n.toUInt8] else (n % 0x80 + 0x80).toUInt8 :: write (n / 0x80)
termination_by n

/-- Reads a number that may take `room` more bytes; the last of ten holds one bit only. -/
def readWithin : Nat → Bytes → Option (Nat × Bytes)
  | 0, _ => none
  | _ + 1, [] => none
  | room + 1, b :: rest =>
    if b < 0x80 then
      if room = 0 ∧ 2 ≤ b then none else some (b.toNat, rest)
    else
      (readWithin room rest).map fun (n, rest) => (b.toNat - 0x80 + 0x80 * n, rest)

/-- **Reads a number;** none when the bytes end inside it or it exceeds `2 ^ 64 - 1`. -/
def read (bytes : Bytes) : Option (Nat × Bytes) := readWithin 10 bytes

end Varint

end Redaction.Wire
