/-!
# Tables of ranges

Properties of characters are kept as ascending lists of ranges of code points, first and last of each.
Main statement: `inRanges_cons` (a code point lies in the first range or in one behind it).
-/

namespace UsingAdvisor.Text

/-- Whether `n` lies in one of the ranges. The ranges are ascending, so the search ends at the
first range that `n` does not lie above. -/
def inRanges : List (Nat × Nat) → Nat → Bool
  | [], _ => false
  | (first, last) :: ranges, n =>
    if n < first then false else if n ≤ last then true else inRanges ranges n

/-- The value of the range that `n` lies in, or zero. The ranges are ascending. -/
def rangeValue : List (Nat × Nat × Nat) → Nat → Nat
  | [], _ => 0
  | (first, last, value) :: ranges, n =>
    if n < first then 0 else if n ≤ last then value else rangeValue ranges n

/-- A code point that does not lie in front of the first range lies in it or in one behind it. -/
theorem inRanges_cons {first last n : Nat} (ranges : List (Nat × Nat)) (h : first ≤ n) :
    inRanges ((first, last) :: ranges) n = (decide (n ≤ last) || inRanges ranges n) := by
  by_cases inside : n ≤ last <;> simp [inRanges, Nat.not_lt.2 h, inside]

end UsingAdvisor.Text
