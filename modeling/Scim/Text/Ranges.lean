/-!
Sets of code points, written as ascending lists of ranges.
-/

namespace Scim.Text

/-- Whether `n` lies in one of the ranges.  The ranges ascend, so the search ends at the first one
that starts after `n`. -/
def inRanges (n : Nat) : List (Nat × Nat) → Bool
  | [] => false
  | (first, last) :: rest => first ≤ n && (n ≤ last || inRanges n rest)

end Scim.Text
