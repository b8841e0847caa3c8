/-!
# Runs of code points

Character properties are given by lists of ranges or of runs. A run goes from its first code
point to its last in steps of one or two, as the paired letters of many alphabets do.
-/

namespace SqlCompose.Text

/-- Is `n` in one of the ranges, each given by its two ends? -/
def inRanges (ranges : List (Nat × Nat)) (n : Nat) : Bool :=
  ranges.any fun r => decide (r.1 ≤ n) && decide (n ≤ r.2)

/-- The code points from `first` to `last` in steps of `step`. -/
structure Run where
  first : Nat
  last : Nat
  step : Nat

/-- Does the run meet `n`? -/
def Run.contains (r : Run) (n : Nat) : Bool :=
  decide (r.first ≤ n) && decide (n ≤ r.last) && (n - r.first) % r.step == 0

end SqlCompose.Text
