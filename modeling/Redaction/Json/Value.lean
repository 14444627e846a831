import Redaction.Number.Binary

/-!
# JSON documents

A document is a tree. Numbers are integers or finite doubles; the members of an object keep the
order in which their keys came in, and a key that comes again replaces the value at its old place.
-/

namespace Redaction

open Number

/-- A JSON document. -/
inductive Json where
  | null
  | bool (b : Bool)
  | integer (n : Int)
  | number (x : Double)
  | text (s : String)
  | array (items : List Json)
  | object (members : List (String × Json))
deriving Inhabited

namespace Json

/-- **Adds a member to an object,** or replaces the value of a key that is there. -/
def insertMember (key : String) (value : Json) : List (String × Json) → List (String × Json)
  | [] => [(key, value)]
  | m :: ms => if m.1 = key then (key, value) :: ms else m :: insertMember key value ms

/-- The object of a list of members, of which a later one replaces an earlier one with its key. -/
def ofMembers (members : List (String × Json)) : Json :=
  object (members.foldl (fun ms m => insertMember m.1 m.2 ms) [])

/-- A double as a number of a document; there is none for infinities and NaNs. -/
def ofDouble (x : Double) : Json := if x.isFinite then number x else null

end Json

end Redaction
