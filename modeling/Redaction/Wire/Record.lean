import Redaction.Wire.Error
import Redaction.Wire.Varint

/-!
# Records

A message is a sequence of records, each a key and a payload. This file reads what every record has
in common: the key, the prefixed length of a payload, and a payload that nobody declared, which is
skipped. Readers take the bytes that are left of the *whole* input, so that a payload may turn out
to end behind the message it is in.

Nesting is counted down from a limit; nothing is read when it has reached zero.
-/

namespace Redaction.Wire

/-- A reader: a value and the bytes behind it. -/
abbrev Reader (α : Type) := Bytes → Except Error (α × Bytes)

/-- Refuses the input. -/
def refuse {α : Type} (fault : Fault) : Except Error α := .error (.bare fault)

/-! ### Lengths and loops -/

def readVarint : Reader Nat := fun bytes =>
  match Varint.read bytes with
  | some r => .ok r
  | none => refuse .invalidVarint

/-- Takes a number of bytes. -/
def take (n : Nat) : Reader Bytes := fun bytes =>
  if bytes.length < n then refuse .underflow else .ok (bytes.take n, bytes.drop n)

/-- The bytes of a payload with its length in front. -/
def readPayload : Reader Bytes := fun bytes => do
  let (n, rest) ← readVarint bytes
  take n rest

/-- Repeats a step until no more than `stop` bytes are left, which must then be exactly `stop`.
Every step takes at least one byte, so as many rounds as there are bytes are enough. -/
def repeatUntil {σ : Type} (step : σ → Reader σ) (stop : Nat) : Nat → σ → Reader σ
  | 0, s, bytes => .ok (s, bytes)
  | rounds + 1, s, bytes =>
    if bytes.length < stop then refuse .overrun
    else if bytes.length = stop then .ok (s, bytes)
    else do
      let (s, rest) ← step s bytes
      repeatUntil step stop rounds s rest

/-- Repeats a step over the bytes of a payload with its length in front. -/
def delimited {σ : Type} (step : σ → Reader σ) (s : σ) : Reader σ := fun bytes => do
  let (n, rest) ← readVarint bytes
  if rest.length < n then refuse .underflow
  else repeatUntil step (rest.length - n) (rest.length + 1) s rest

/-! ### Keys -/

/-- A field number and the form of the payload. -/
structure Key where
  field : Nat
  wireType : WireType
deriving DecidableEq

/-- The number that a key is written as. -/
def Key.code (k : Key) : Nat := k.field * 8 + k.wireType.number

/-- The key of a number, which has 32 bits, a known wire type and a field number other than zero. -/
def Key.ofCode (n : Nat) : Except Error Key :=
  if UInt32.size ≤ n then refuse (.keyTooLarge n)
  else
    match WireType.ofNumber? (n % 8) with
    | none => refuse (.unknownWireType (n % 8))
    | some wireType => if n / 8 = 0 then refuse .fieldZero else .ok ⟨n / 8, wireType⟩

def readKey : Reader Key := fun bytes => do
  let (n, rest) ← readVarint bytes
  let key ← Key.ofCode n
  return (key, rest)

/-- Refuses a payload that has not the form its field asks for. -/
def expect (expected actual : WireType) : Except Error Unit :=
  if actual = expected then .ok () else refuse (.wrongWireType actual expected)

/-! ### Skipping -/

/-- The records of a group up to the key that closes it, each skipped by `skip`. -/
def skipGroup (skip : Key → Bytes → Except Error Bytes) (field : Nat) :
    Nat → Bytes → Except Error Bytes
  | 0, bytes => .ok bytes
  | rounds + 1, bytes => do
    let (key, rest) ← readKey bytes
    if key.wireType = .endGroup then
      if key.field = field then .ok rest else refuse .strayEndGroup
    else
      let rest ← skip key rest
      skipGroup skip field rounds rest

/-- **Skips the payload of a record;** a group takes one level of nesting. -/
def skip : Nat → Key → Bytes → Except Error Bytes
  | 0, _, _ => refuse .tooDeep
  | limit + 1, key, bytes =>
    match key.wireType with
    | .varint => do return (← readVarint bytes).2
    | .thirtyTwoBit => do return (← take 4 bytes).2
    | .sixtyFourBit => do return (← take 8 bytes).2
    | .lengthDelimited => do return (← readPayload bytes).2
    | .startGroup => skipGroup (skip limit) key.field (bytes.length + 1) bytes
    | .endGroup => refuse .strayEndGroup

end Redaction.Wire
