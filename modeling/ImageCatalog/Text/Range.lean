/-!
# Code point ranges

Character properties of the Unicode standard are kept as sorted, disjoint,
inclusive ranges of code points, and membership is a binary search over them.
-/

namespace ImageCatalog.Text

/-- A set of code points given by sorted, disjoint, inclusive ranges. -/
structure CodeRanges where
  ranges : Array (Nat × Nat)

namespace CodeRanges

/-- Binary search for `n` among the ranges at indices `lo` to `hi - 1`. -/
def searchIn (rs : Array (Nat × Nat)) (n lo hi : Nat) : Bool :=
  if lo < hi then
    let mid := (lo + hi) / 2
    match rs[mid]? with
    | none => false
    | some (a, b) =>
      if n < a then searchIn rs n lo mid
      else if b < n then searchIn rs n (mid + 1) hi
      else true
  else false
termination_by hi - lo

/-- Whether the code point of `c` lies in one of the ranges. -/
def contains (t : CodeRanges) (c : Char) : Bool :=
  searchIn t.ranges c.toNat 0 t.ranges.size

end CodeRanges

end ImageCatalog.Text
