/-!
# Ranges of numbers

Classes of characters are given as lists of ranges of their codes, with the first and the last code
of each range.
-/

namespace PodLaunch.Text

/-- Whether a number is in one of some ranges. -/
def isInRanges (ranges : List (Nat × Nat)) (n : Nat) : Bool :=
  ranges.any fun range => range.1 ≤ n && n ≤ range.2

end PodLaunch.Text
