/-!
# Why a message cannot be read

A byte string is refused for one of a few faults. The fault is reported together with the fields
that were being read, the innermost first.
-/

namespace Redaction.Wire

/-- How the bytes after a key are delimited. -/
inductive WireType where
  | varint
  | sixtyFourBit
  | lengthDelimited
  | startGroup
  | endGroup
  | thirtyTwoBit
deriving DecidableEq

namespace WireType

/-- The number in the low bits of a key. -/
def number : WireType → Nat
  | varint => 0
  | sixtyFourBit => 1
  | lengthDelimited => 2
  | startGroup => 3
  | endGroup => 4
  | thirtyTwoBit => 5

/-- The wire type of a number; none has the numbers 6 and 7. -/
def ofNumber? : Nat → Option WireType
  | 0 => some varint
  | 1 => some sixtyFourBit
  | 2 => some lengthDelimited
  | 3 => some startGroup
  | 4 => some endGroup
  | 5 => some thirtyTwoBit
  | _ => none

/-- The name in messages. -/
def name : WireType → String
  | varint => "Varint"
  | sixtyFourBit => "SixtyFourBit"
  | lengthDelimited => "LengthDelimited"
  | startGroup => "StartGroup"
  | endGroup => "EndGroup"
  | thirtyTwoBit => "ThirtyTwoBit"

end WireType

/-- What is wrong with the bytes. -/
inductive Fault where
  | invalidVarint
  | keyTooLarge (key : Nat)
  | unknownWireType (number : Nat)
  | fieldZero
  | wrongWireType (actual expected : WireType)
  | underflow
  | notText
  | strayEndGroup
  | overrun
  | tooDeep
deriving DecidableEq

/-- The description of a fault. -/
def Fault.description : Fault → String
  | invalidVarint => "invalid varint"
  | keyTooLarge key => "invalid key value: " ++ toString key
  | unknownWireType number => "invalid wire type value: " ++ toString number
  | fieldZero => "invalid tag value: 0"
  | wrongWireType actual expected =>
    "invalid wire type: " ++ actual.name ++ " (expected " ++ expected.name ++ ")"
  | underflow => "buffer underflow"
  | notText => "invalid string value: data is not UTF-8 encoded"
  | strayEndGroup => "unexpected end group tag"
  | overrun => "delimited length exceeded"
  | tooDeep => "recursion limit reached"

/-- A field that was being read: its message and its name. -/
structure Frame where
  message : String
  field : String
deriving DecidableEq

/-- A fault and the fields around it, the innermost first. -/
structure Error where
  frames : List Frame
  fault : Fault
deriving DecidableEq

/-- **The report of a byte string that is no message.** -/
def Error.message (e : Error) : String :=
  "failed to decode Protobuf message: " ++
    String.join (e.frames.map fun f => f.message ++ "." ++ f.field ++ ": ") ++ e.fault.description

/-- A fault outside of any field. -/
def Error.bare (fault : Fault) : Error := ⟨[], fault⟩

/-- The error seen from one field further out. -/
def Error.within (frame : Frame) (e : Error) : Error := ⟨e.frames ++ [frame], e.fault⟩

end Redaction.Wire
