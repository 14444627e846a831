import Redaction.Render.Time
import Redaction.Render.WellKnown
import Redaction.Wire.Layout

/-!
# Well-known messages

The values of well-known types as they are read from the wire: their fields in the order of their
numbers. Slots of another shape than the type has show like a message without fields.
-/

namespace Redaction.Render

open Wire

/-! ### Timestamps, durations, masks and packed messages -/

/-- The seconds and the nanoseconds of a timestamp or a duration. -/
def secondsAndNanos : List Slot → Int64 × Int32
  | [.single (.datum (.integer seconds)), .single (.datum (.integer nanos))] =>
    (.ofInt seconds, .ofInt nanos)
  | _ => (0, 0)

def Timestamp.ofSlots (slots : List Slot) : Timestamp :=
  ⟨(secondsAndNanos slots).1, (secondsAndNanos slots).2⟩

def Duration.ofSlots (slots : List Slot) : Duration :=
  ⟨(secondsAndNanos slots).1, (secondsAndNanos slots).2⟩

/-- The text of a value. -/
def textOf : Value → String
  | .datum (.text s) => s
  | _ => ""

/-- The paths of a field mask. -/
def pathsOf : List Slot → List String
  | [.repeated vs] => vs.map textOf
  | _ => []

/-- The type that a packed message names; its payload is not looked at. -/
def typeUrlOf : List Slot → String
  | .single v :: _ => textOf v
  | _ => ""

/-! ### Dynamic values -/

/-- The text of a map key. -/
def keyOf : Datum → String
  | .text s => s
  | _ => ""

namespace Dynamic

mutual
/-- The dynamic value of a message: the member of its only oneof. -/
def ofValue : Value → Dynamic
  | .message [.member 1 _] => null
  | .message [.member 2 (.datum (.double x))] => number x
  | .message [.member 3 (.datum (.text s))] => text s
  | .message [.member 4 (.datum (.bool b))] => bool b
  | .message [.member 5 (.message [.map entries])] => struct (ofEntries entries)
  | .message [.member 6 (.message [.repeated vs])] => list (ofValues vs)
  | _ => unset

def ofEntries : List (Datum × Value) → List (String × Dynamic)
  | [] => []
  | (k, v) :: rest => (keyOf k, ofValue v) :: ofEntries rest

def ofValues : List Value → List Dynamic
  | [] => []
  | v :: vs => ofValue v :: ofValues vs
end

/-- A struct is a message with a map of dynamic values. -/
def ofStruct : List Slot → Dynamic
  | [.map entries] => struct (ofEntries entries)
  | _ => struct []

/-- A list value is a message that repeats dynamic values. -/
def ofList : List Slot → Dynamic
  | [.repeated vs] => list (ofValues vs)
  | _ => list []

end Dynamic

end Redaction.Render
