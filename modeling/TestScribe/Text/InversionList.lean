/-!
# Sets of code points as inversion lists

A Unicode property is a union of runs of code points.  It is stored as the
increasing list of the places where membership changes: the first code point
of the first run, the code point after that run, the first of the next run,
and so on.  A code point belongs to the set exactly when an odd number of
boundaries lie at or below it.
-/

namespace TestScribe.Text

/-- Narrow the interval `low … high` of positions until it shows how many of
the increasing `boundaries` are at most `code`; every round halves it. -/
def countBoundaries (boundaries : Array Nat) (code : Nat) : Nat → Nat → Nat → Nat
  | 0, low, _ => low
  | rounds + 1, low, high =>
    if low < high then
      let middle := (low + high) / 2
      if boundaries.getD middle 0 ≤ code then
        countBoundaries boundaries code rounds (middle + 1) high
      else
        countBoundaries boundaries code rounds low middle
    else
      low

/-- Membership of a code point in the set with the given boundaries. -/
def inversionListContains (boundaries : Array Nat) (code : Nat) : Bool :=
  countBoundaries boundaries code boundaries.size 0 boundaries.size % 2 == 1

end TestScribe.Text
