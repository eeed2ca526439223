/-! # Tables over code points

Character properties and case maps are data of the Unicode standard. They are kept as
sorted lists of code-point ranges and of case runs, and read by the two lookups here.
-/

namespace RecordLinkage.Text

/-- An inclusive range `lo ..= hi` of code points. -/
structure CodeRange where
  /-- The first code point of the range. -/
  lo : Nat
  /-- The last code point of the range. -/
  hi : Nat
  deriving Repr, DecidableEq

/-- Whether `n` lies in one of the ranges. -/
def CodeRange.covers (ranges : List CodeRange) (n : Nat) : Bool :=
  ranges.any fun r => r.lo ≤ n && n ≤ r.hi

/-- A run of `count` code points `first, first + stride, first + 2 * stride, …` that a case
    map moves by the same offset `delta`. -/
structure CaseRun where
  /-- The first code point of the run. -/
  first : Nat
  /-- How many code points the run holds. -/
  count : Nat
  /-- The distance between two neighbours of the run. -/
  stride : Nat
  /-- The offset from a code point to its image. -/
  delta : Int
  deriving Repr, DecidableEq

/-- The image of `n` under the run, when `n` is one of its code points. -/
def CaseRun.image? (r : CaseRun) (n : Nat) : Option Nat :=
  if r.first ≤ n ∧ (n - r.first) % r.stride = 0 ∧ (n - r.first) / r.stride < r.count then
    some (n + r.delta).toNat
  else
    none

/-- A full case map: a code point listed among the expansions maps to its list of code
    points, one that lies on a run maps to a single shifted code point, and every other code
    point maps to itself. -/
structure CaseTable where
  /-- The code points whose image has more than one character. -/
  expansions : List (Nat × List Nat)
  /-- The one-to-one part of the map. -/
  runs : List CaseRun

/-- The characters that `c` maps to under the table. -/
def CaseTable.image (t : CaseTable) (c : Char) : List Char :=
  match t.expansions.lookup c.toNat with
  | some cs => cs.map Char.ofNat
  | none =>
    match t.runs.findSome? (·.image? c.toNat) with
    | some n => [Char.ofNat n]
    | none => [c]

end RecordLinkage.Text
