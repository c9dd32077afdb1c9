/-!
# Runs of code points

A set of code points is kept as a list of runs. A run names its first and last member and the step
between neighbours; step two covers the blocks in which letters in upper and lower case alternate.
-/

namespace JavaDeps.Unicode

/-- The code points `first`, `first + step`, …, `last`. -/
structure CodeRun where
  first : Nat
  last : Nat
  step : Nat
  deriving DecidableEq, Repr

namespace CodeRun

/-- Whether a code point belongs to the run. -/
def contains (run : CodeRun) (code : Nat) : Bool :=
  run.first ≤ code && code ≤ run.last && (code - run.first) % run.step == 0

/-- Whether the span of a run meets the code points from `low` to `high`. -/
def meets (run : CodeRun) (low high : Nat) : Bool :=
  run.first ≤ high && low ≤ run.last

end CodeRun

/-- Whether some run of the list holds the code point. -/
def member (runs : List CodeRun) (code : Nat) : Bool :=
  runs.any (·.contains code)

end JavaDeps.Unicode
