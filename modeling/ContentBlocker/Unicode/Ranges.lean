/-!
# Sets of characters as ranges

A Unicode property is kept as a list of ranges of code points, both ends included.
-/

namespace ContentBlocker.Unicode

/-- Whether a code point lies in one of the ranges. -/
def inRanges (ranges : List (Nat × Nat)) (n : Nat) : Bool :=
  ranges.any fun (first, last) => first ≤ n && n ≤ last

end ContentBlocker.Unicode
