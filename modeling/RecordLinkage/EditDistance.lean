import RecordLinkage.Text.Case
import RecordLinkage.Binary64.Arith

/-! # Edit distance and name similarity

The edit distance of two texts is the least number of single-character insertions,
deletions and substitutions that turn one into the other, counted on code points. It is
computed a row of the distance matrix at a time: the row for a prefix `xs` of the first
text holds the distances from `xs` to every prefix of the second.

The similarity of two names is `1 - distance / length` of their lower case forms, where
`length` is the longer of the two; an empty name is similar to nothing.
-/

namespace RecordLinkage.EditDistance

/-- The cost of putting `y` where `x` stands. -/
def substCost (x y : Char) : Nat :=
  if x = y then 0 else 1

/-- The rest of the next row, for the first text's character `x` against the second text's
    characters `ys`. `diag` is the entry of the previous row one column to the left, `left`
    the entry just written, and `above` the previous row from the current column on. -/
def rowFrom (x : Char) : List Char → Nat → Nat → List Nat → List Nat
  | y :: ys, diag, left, up :: above =>
    let d := min (min (up + 1) (left + 1)) (diag + substCost x y)
    d :: rowFrom x ys up d above
  | _, _, _, _ => []

/-- The row after `row`, once the character `x` of the first text is added. -/
def nextRow (ys : List Char) (row : List Nat) (x : Char) : List Nat :=
  match row with
  | [] => []
  | first :: above => (first + 1) :: rowFrom x ys first (first + 1) above

/-- The row of the empty prefix: the distance from nothing to each prefix of `ys`. -/
def firstRow (ys : List Char) : List Nat :=
  List.range (ys.length + 1)

/-- The edit distance of two lists of characters. -/
def distanceChars (xs ys : List Char) : Nat :=
  ((xs.foldl (nextRow ys) (firstRow ys)).getLast?).getD 0

/-- The edit distance by its recursive definition: the first characters of the two lists
    are matched at their substitution cost, or one of them is dropped at cost one. -/
def recursiveDistance : List Char → List Char → Nat
  | [], ys => ys.length
  | xs, [] => xs.length
  | x :: xs, y :: ys =>
    min (min (recursiveDistance xs (y :: ys) + 1) (recursiveDistance (x :: xs) ys + 1))
      (recursiveDistance xs ys + substCost x y)
termination_by xs ys => xs.length + ys.length

/-- The edit distance of two texts, counted on code points. -/
def distance (a b : String) : Nat :=
  distanceChars a.toList b.toList

/-- The similarity of two names in `[0, 1]`: `0` when either is empty, `1` when they are
    equal, and otherwise one less the edit distance of their lower case forms over the
    longer of their lengths. -/
def similarity (a b : String) : Binary64 :=
  if a.isEmpty || b.isEmpty then .zero
  else if a = b then .one
  else
    let a' := Text.lower a
    let b' := Text.lower b
    let longest := max a'.length b'.length
    .one - .ofNat (distance a' b') / .ofNat longest

end RecordLinkage.EditDistance
