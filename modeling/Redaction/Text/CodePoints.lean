/-!
# Sets of code points

A character class beyond ASCII is a set of code points with long runs inside and long gaps between
them. `CodePoints` keeps the numbers at which membership changes, in increasing order: the first
boundary enters the set, the second leaves it, and so on. A number is in the set when an odd number
of boundaries is not above it, which `contains` counts while it walks the list.
-/

namespace Redaction.Text

/-- A set of code points, as the increasing list of the numbers where membership changes. -/
structure CodePoints where
  ofBounds ::
  /-- The boundaries: each run of members starts at one and ends before the next. -/
  bounds : List Nat

namespace CodePoints

/-- Membership of `n`, given whether the numbers just below the first boundary are members. -/
def containsFrom (n : Nat) (inside : Bool) : List Nat → Bool
  | [] => inside
  | b :: bs => if n < b then inside else containsFrom n (!inside) bs

/-- **Membership in the set.** -/
def contains (s : CodePoints) (n : Nat) : Bool := containsFrom n false s.bounds

end CodePoints

end Redaction.Text
