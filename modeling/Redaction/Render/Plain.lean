import Redaction.Json.Value
import Redaction.Number.Decimal
import Redaction.Ordered

/-!
# Plain values as JSON

Values that are not messages of a schema but have a JSON form of their own. A number keeps its type:
a double shows with a fraction even if it is an integer. Maps are ordered by their keys before these
become texts. What has no JSON form shows as null: a natural number of more than 64 bits, or a map
with lists as keys that has any.
-/

namespace Redaction.Render

open Number

/-- A value with a JSON form of its own. -/
inductive Plain where
  | document (j : Json)
  | single (x : Single)
  | double (x : Double)
  | natural (n : Nat)
  | byInteger (entries : List (Int × Json))
  | byBool (entries : List (Bool × Json))
  | byList (entries : List (List Json × Json))

namespace Plain

/-- A single-precision number as the double that it is. -/
def widen (x : Single) : Json :=
  match x.decode with
  | some s =>
    .number ⟨(Number.double.nearestSigned s.negative (s.mantissa * Nat.pow 2 s.exponent.toNat)
      (Nat.pow 2 (-s.exponent).toNat)).toUInt64⟩
  | none => .null

/-- The object of a map with truth values as keys. -/
def ofBools (entries : List (Bool × Json)) : Json :=
  let value (key : Bool) : Option Json := (entries.reverse.find? (·.1 == key)).map (·.2)
  .object ((value false).toList.map (("false", ·)) ++ (value true).toList.map (("true", ·)))

/-- **A plain value as JSON,** or null. -/
def json : Plain → Json
  | document j => j
  | single x => widen x
  | double x => .ofDouble x
  | natural n => if n < UInt64.size then .integer n else .null
  | byInteger entries =>
    .object ((Ordered.ofList entries).map fun e => (String.ofList (integerText e.1), e.2))
  | byBool entries => ofBools entries
  | byList entries => if entries.isEmpty then .object [] else .null

end Plain

end Redaction.Render
