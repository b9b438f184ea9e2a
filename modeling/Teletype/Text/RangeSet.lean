/-!
# Sets of code points

A set of code points is kept as its maximal intervals in ascending order, so that membership is a
binary search.
-/

namespace Teletype.Text

/-- A set of code points, as ascending disjoint intervals with both ends included. -/
structure RangeSet where
  intervals : Array (Nat × Nat)

namespace RangeSet

/-- Whether one of the intervals numbered from `lo` up to but not including `hi` holds `n`. -/
def search (s : RangeSet) (n lo hi : Nat) : Bool :=
  if lo < hi then
    let mid := (lo + hi) / 2
    match s.intervals[mid]? with
    | none => false
    | some (first, last) =>
      if n < first then s.search n lo mid
      else if last < n then s.search n (mid + 1) hi
      else true
  else false
termination_by hi - lo

/-- Whether the character belongs to the set. -/
def contains (s : RangeSet) (c : Char) : Bool :=
  s.search c.toNat 0 s.intervals.size

end RangeSet

end Teletype.Text
