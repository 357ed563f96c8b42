/-!
Character properties as tables of code points.

A property of the Unicode standard is written as ascending, disjoint, closed ranges. The search
stops at the first range that starts above the code point, so a table answers for ASCII text
after a few steps.
-/
namespace Uncaught.Text

/-- Ascending, disjoint, closed ranges of code points. -/
abbrev CodeRanges := List (Nat × Nat)

/-- Whether a code point lies in one of the ranges. -/
def CodeRanges.covers : CodeRanges → Nat → Bool
  | [], _ => false
  | (first, last) :: rest, n =>
    if n < first then false else if n ≤ last then true else CodeRanges.covers rest n

end Uncaught.Text
