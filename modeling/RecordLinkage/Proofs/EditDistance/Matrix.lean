import Mathlib.Data.List.Infix
import RecordLinkage.Proofs.EditDistance.Alignment

/-! # The distance matrix

`distanceChars` fills the matrix row by row; each row holds the recursive distances from a
prefix of the first list (`row`), so the last entry is the distance.
-/

namespace RecordLinkage.EditDistance

/-- The row of the matrix for the prefix `xs`: the distances from `xs` to the prefixes of
    `ys`, shortest prefix first. -/
def row (ys xs : List Char) : List Nat :=
  ys.inits.map (recursiveDistance xs)

theorem inits_eq_nil_cons_tail (ys : List Char) : ys.inits = [] :: ys.inits.tail := by
  cases ys <;> rfl

theorem map_tail_inits_cons {β : Type} (f : List Char → β) (y : Char) (ys : List Char) :
    (y :: ys).inits.tail.map f = f [y] :: ys.inits.tail.map fun r => f (y :: r) := by
  have h : (y :: ys).inits.tail = ([] :: ys.inits.tail).map (y :: ·) := by
    rw [← inits_eq_nil_cons_tail]
    rfl
  rw [h]
  simp [Function.comp_def]

theorem getLast?_inits (ys : List Char) : ys.inits.getLast? = some ys := by
  induction ys with
  | nil => rfl
  | cons y ys ih =>
    rw [List.inits_cons, inits_eq_nil_cons_tail ys, List.map_cons, List.getLast?_cons_cons,
      ← List.map_cons, ← inits_eq_nil_cons_tail ys, List.getLast?_map, ih]
    rfl

theorem map_length_inits (ys : List Char) : ys.inits.map List.length = List.range (ys.length + 1) := by
  induction ys with
  | nil => rfl
  | cons y ys ih =>
    rw [List.inits_cons, List.map_cons, List.map_map, List.length_cons, List.range_succ_eq_map, ← ih]
    simp [Function.comp_def]

theorem firstRow_eq_row (ys : List Char) : firstRow ys = row ys [] := by
  have h : recursiveDistance [] = List.length := funext recursiveDistance_nil_left
  rw [firstRow, row, h, map_length_inits]

/-- The rest of a row: from the entries of the previous row after column `q` (`above`), with
    the previous row's entry at `q` on the diagonal and the new row's entry at `q` to the left,
    `rowFrom` writes the new row's entries after `q`. The induction runs over the columns left
    to fill, the column `q` moving one to the right each time. -/
theorem rowFrom_eq (x : Char) (xs : List Char) :
    ∀ (q rest : List Char), rowFrom x rest (recursiveDistance xs q) (recursiveDistance (xs ++ [x]) q)
      (rest.inits.tail.map fun r => recursiveDistance xs (q ++ r)) =
      rest.inits.tail.map fun r => recursiveDistance (xs ++ [x]) (q ++ r)
  | _, [] => rfl
  | q, y :: rest => by
    -- the column after `q` is read off as the prefix `q ++ [y]` of the columns still to fill
    have hq : ∀ zs : List Char, (fun r => recursiveDistance zs (q ++ y :: r)) =
        fun r => recursiveDistance zs (q ++ [y] ++ r) := fun zs => funext fun r => by simp
    simp only [map_tail_inits_cons]
    rw [rowFrom, hq, hq, ← recursiveDistance_append_singleton, rowFrom_eq x xs (q ++ [y]) rest]

theorem nextRow_row (ys xs : List Char) (x : Char) :
    nextRow ys (row ys xs) x = row ys (xs ++ [x]) := by
  have hfirst : recursiveDistance (xs ++ [x]) [] = recursiveDistance xs [] + 1 := by simp
  have hrest := rowFrom_eq x xs [] ys
  simp only [List.nil_append] at hrest
  rw [row, row, inits_eq_nil_cons_tail, List.map_cons, List.map_cons, nextRow, ← hfirst, hrest]

theorem foldl_nextRow (ys : List Char) :
    ∀ (xs p : List Char), xs.foldl (nextRow ys) (row ys p) = row ys (p ++ xs)
  | [], p => by simp
  | x :: xs, p => by
    rw [List.foldl_cons, nextRow_row, foldl_nextRow ys xs (p ++ [x])]
    simp

theorem distanceChars_eq_recursiveDistance (xs ys : List Char) :
    distanceChars xs ys = recursiveDistance xs ys := by
  rw [distanceChars, firstRow_eq_row, foldl_nextRow, List.nil_append, row, List.getLast?_map,
    getLast?_inits]
  rfl

theorem distance_eq_recursiveDistance (a b : String) :
    distance a b = recursiveDistance a.toList b.toList :=
  distanceChars_eq_recursiveDistance a.toList b.toList

end RecordLinkage.EditDistance
