/-!
# Ranges of code points

A property of characters is given by the code points that have it, as an increasing list of
closed ranges.

* `Ranges.contains`: membership, by a walk that stops at the first range beyond the code point.
-/

namespace EntitySearch.Text

/-- Closed ranges of code points, in increasing order and disjoint. -/
abbrev Ranges := List (Nat × Nat)

/-- Whether a code point lies in one of the ranges. -/
def Ranges.contains : Ranges → Nat → Bool
  | [], _ => false
  | (first, last) :: rest, c => first ≤ c && (c ≤ last || Ranges.contains rest c)

end EntitySearch.Text
