/-!
# Suggesting close words

When a word is not one of the known ones, the known words that resemble it
are suggested. Two texts resemble each other by the share of their
characters that lie in matching blocks: the longest common block (the
earliest in the first text, then in the second, among the longest) is
matched, and the same is done on either side of it. The similarity is
`2 · matched / (length₁ + length₂)`; at least 3/5 is close, and of the
close words at most three are kept — the most similar, and of equally
similar ones the greater text.
-/

namespace ImageCatalog.Cli

/-- How long the common run of `a` from `i` and `b` from `j` is, staying
below `ahi` and `bhi`. -/
def runFrom (a b : Array Char) (ahi bhi : Nat) : Nat → Nat → Nat → Nat
  | 0, _, _ => 0
  | fuel + 1, i, j =>
    if i < ahi && j < bhi && a[i]? == b[j]? then runFrom a b ahi bhi fuel (i + 1) (j + 1) + 1 else 0

/-- The longest common block of `a[alo, ahi)` and `b[blo, bhi)`: its starts
and its length. Of several longest blocks the first in `a`, then in `b`. -/
def longestBlock (a b : Array Char) (alo ahi blo bhi : Nat) : Nat × Nat × Nat :=
  (List.range' alo (ahi - alo)).foldl (fun best i =>
    (List.range' blo (bhi - blo)).foldl (fun best j =>
      let k := runFrom a b ahi bhi (ahi - i) i j
      if k > best.2.2 then (i, j, k) else best) best) (alo, blo, 0)

/-- How many characters of `a[alo, ahi)` and `b[blo, bhi)` lie in matching
blocks. -/
def matchedCount (a b : Array Char) : Nat → Nat → Nat → Nat → Nat → Nat
  | 0, _, _, _, _ => 0
  | fuel + 1, alo, ahi, blo, bhi =>
    let (i, j, k) := longestBlock a b alo ahi blo bhi
    if k == 0 then 0
    else
      let before := if alo < i && blo < j then matchedCount a b fuel alo i blo j else 0
      let after := if i + k < ahi && j + k < bhi then matchedCount a b fuel (i + k) ahi (j + k) bhi else 0
      before + k + after

/-- The similarity of two texts, as matched characters over the total
length: `(2 · matched, length₁ + length₂)`. -/
def similarity (x y : String) : Nat × Nat :=
  let a := x.toList.toArray
  let b := y.toList.toArray
  (2 * matchedCount a b (a.size + 1) 0 a.size 0 b.size, a.size + b.size)

/-- Whether a similarity is close: at least 3/5. -/
def isClose (s : Nat × Nat) : Bool := s.2 > 0 && 5 * s.1 ≥ 3 * s.2

/-- Whether the first candidate ranks before the second: more similar, or
as similar and the greater text. -/
def ranksBefore (x y : (Nat × Nat) × String) : Bool :=
  let l := x.1.1 * y.1.2
  let r := y.1.1 * x.1.2
  l > r || (l == r && decide (y.2 ≤ x.2))

/-- The known words close to `word`, at most three, sorted. -/
def closeMatches (word : String) (known : List String) : List String :=
  let scored := known.filterMap fun k =>
    let s := similarity k word
    if isClose s then some (s, k) else none
  let best := ((scored.mergeSort ranksBefore).take 3).map (·.2)
  best.mergeSort (fun x y => decide (x ≤ y))

end ImageCatalog.Cli
