/-!
# Ranges of code points

The tables of character properties are lists of closed ranges, in rising order. A range `(a, b)`
stands for the code points from `a` to `b`, both included.
-/

namespace BuildJdk.Text

/-- Whether `c` lies in one of the ranges. -/
def inRanges (ranges : List (Nat × Nat)) (c : Char) : Bool :=
  ranges.any fun (low, high) => low ≤ c.toNat && c.toNat ≤ high

end BuildJdk.Text
