import Redaction.Wire.Layout
import Redaction.Wire.Record

/-!
# Scalars on the wire

How the value of each scalar type is written and read. Integers of 32 and 64 bits are varints of
their two's complement, zigzag varints or little-endian words; a reader of a 32-bit integer keeps
the low 32 bits of what it reads.
-/

namespace Redaction.Wire

open Number

/-! ### Words -/

/-- The first `width` bytes of a number, the lowest first. -/
def writeWord : Nat → Nat → Bytes
  | 0, _ => []
  | width + 1, n => n.toUInt8 :: writeWord width (n / 0x100)

/-- The number that bytes write, the lowest first. -/
def wordOf (bytes : Bytes) : Nat := bytes.foldr (fun b n => b.toNat + 0x100 * n) 0

def readWord (width : Nat) : Reader Nat := fun bytes => do
  let (word, rest) ← take width bytes
  return (wordOf word, rest)

/-! ### Integers -/

/-- The two's complement of an integer in `bits` bits. -/
def complement (bits : Nat) (n : Int) : Nat := (n % (Nat.pow 2 bits : Nat)).toNat

/-- The integer with a given two's complement, of whose bits the low ones count. -/
def signed (bits n : Nat) : Int := Int.bmod n (Nat.pow 2 bits)

/-- The zigzag code: `0, -1, 1, -2, …` are `0, 1, 2, 3, …`. -/
def zigzag (n : Int) : Nat := if n < 0 then 2 * n.natAbs - 1 else 2 * n.natAbs

/-- The integer with a given zigzag code, of whose bits the low ones count. -/
def unzigzag (bits n : Nat) : Int :=
  let n := n % Nat.pow 2 bits
  if n % 2 = 0 then (n / 2 : Nat) else -((n / 2 + 1 : Nat) : Int)

/-! ### Text -/

/-- The bytes of a text. -/
def textBytes (s : String) : Bytes := s.toUTF8.data.toList

/-- The text of some bytes, if they write one. -/
def text? (bytes : Bytes) : Option String := String.fromUTF8? ⟨bytes.toArray⟩

/-! ### The scalar types -/

/-- The form of a payload of each scalar type. -/
def Scalar.wireType : Scalar → WireType
  | .double | .fixed64 | .sfixed64 => .sixtyFourBit
  | .float | .fixed32 | .sfixed32 => .thirtyTwoBit
  | .int32 | .int64 | .uint32 | .uint64 | .sint32 | .sint64 | .bool | .enumeration => .varint
  | .string | .bytes => .lengthDelimited

/-- Repeated numbers may be written one after the other in a single record. -/
def Scalar.isPackable (s : Scalar) : Bool := s.wireType != .lengthDelimited

/-- The bytes of a datum of a scalar type. -/
def Scalar.write (s : Scalar) (d : Datum) : Bytes :=
  match s, d with
  | .double, .double x => writeWord 8 x.bits.toNat
  | .float, .float x => writeWord 4 x.bits.toNat
  | .bool, .bool b => Varint.write b.toNat
  | .string, .text t => Varint.write (textBytes t).length ++ textBytes t
  | .bytes, .blob b => Varint.write b.length ++ b
  | .sint32, d | .sint64, d => Varint.write (zigzag d.toInt)
  | .fixed32, d | .sfixed32, d => writeWord 4 (complement 32 d.toInt)
  | .fixed64, d | .sfixed64, d => writeWord 8 (complement 64 d.toInt)
  | _, d => Varint.write (complement 64 d.toInt)

/-- A reader of another value from the value that is read. -/
def Reader.map {α β : Type} (f : α → β) (r : Reader α) : Reader β := fun bytes => do
  let (a, rest) ← r bytes
  return (f a, rest)

def readText : Reader Datum := fun bytes => do
  let (payload, rest) ← readPayload bytes
  match text? payload with
  | some t => return (.text t, rest)
  | none => refuse .notText

/-- **Reads a value of a scalar type.** -/
def Scalar.read : Scalar → Reader Datum
  | .double => (readWord 8).map fun n => .double ⟨n.toUInt64⟩
  | .float => (readWord 4).map fun n => .float ⟨n.toUInt32⟩
  | .fixed32 => (readWord 4).map fun n => .integer (n : Nat)
  | .fixed64 => (readWord 8).map fun n => .integer (n : Nat)
  | .sfixed32 => (readWord 4).map fun n => .integer (signed 32 n)
  | .sfixed64 => (readWord 8).map fun n => .integer (signed 64 n)
  | .int32 | .enumeration => readVarint.map fun n => .integer (signed 32 n)
  | .int64 => readVarint.map fun n => .integer (signed 64 n)
  | .uint32 => readVarint.map fun n => .integer (n % UInt32.size : Nat)
  | .uint64 => readVarint.map fun n => .integer (n : Nat)
  | .sint32 => readVarint.map fun n => .integer (unzigzag 32 n)
  | .sint64 => readVarint.map fun n => .integer (unzigzag 64 n)
  | .bool => readVarint.map fun n => .bool (n != 0)
  | .string => readText
  | .bytes => readPayload.map .blob

end Redaction.Wire
