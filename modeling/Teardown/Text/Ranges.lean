/-!
# Sets of characters given by ranges

A set of code points is stored as closed ranges in ascending order, and membership is decided by
halving the table.
-/

namespace Teardown.Text

/-- Searches the ranges with index in `[low, high)` for one that holds `n`; the distance between
the two bounds is halved at each step, so `steps` of twice its logarithm suffice. -/
def searchRanges (table : Array (Nat × Nat)) (n : Nat) : Nat → Nat → Nat → Bool
  | 0, _, _ => false
  | steps + 1, low, high =>
    if low < high then
      let middle := (low + high) / 2
      match table[middle]? with
      | none => false
      | some (first, last) =>
        if n < first then searchRanges table n steps low middle
        else if last < n then searchRanges table n steps (middle + 1) high
        else true
    else false

/-- Whether one of the ascending ranges of `table` holds `n`. -/
def inRanges (table : Array (Nat × Nat)) (n : Nat) : Bool :=
  searchRanges table n (table.size.log2 + 2) 0 table.size

end Teardown.Text
