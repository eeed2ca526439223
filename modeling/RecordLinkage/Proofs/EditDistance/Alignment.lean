import Mathlib.Order.Bounds.Defs
import RecordLinkage.EditDistance

/-! # Alignments and the recursive edit distance

The recursive distance is the least cost of an alignment of two lists of characters.
Alignments join, mirror and reverse, which gives symmetry and the recurrence on the last
characters that the matrix uses.
-/

namespace RecordLinkage.EditDistance

theorem substCost_le_one (x y : Char) : substCost x y ≤ 1 := by
  unfold substCost
  split <;> omega

theorem substCost_comm (x y : Char) : substCost x y = substCost y x := by
  unfold substCost
  by_cases h : x = y
  · rw [if_pos h, if_pos h.symm]
  · rw [if_neg h, if_neg (Ne.symm h)]

theorem eq_of_substCost_eq_zero {x y : Char} (h : substCost x y = 0) : x = y := by
  unfold substCost at h
  split at h
  · assumption
  · cases h

@[simp] theorem substCost_self (x : Char) : substCost x x = 0 := if_pos rfl

/-- `Aligns xs ys n`: an alignment of `xs` with `ys` of cost `n`. -/
inductive Aligns : List Char → List Char → Nat → Prop
  /-- Two empty lists align at no cost. -/
  | nil : Aligns [] [] 0
  /-- The first characters are matched, at their substitution cost. -/
  | subst {xs ys : List Char} {n : Nat} (x y : Char) :
      Aligns xs ys n → Aligns (x :: xs) (y :: ys) (n + substCost x y)
  /-- The first character of the first list is deleted. -/
  | delete {xs ys : List Char} {n : Nat} (x : Char) :
      Aligns xs ys n → Aligns (x :: xs) ys (n + 1)
  /-- The first character of the second list is inserted. -/
  | insert {xs ys : List Char} {n : Nat} (y : Char) :
      Aligns xs ys n → Aligns xs (y :: ys) (n + 1)

section Equations

variable (x y : Char) (xs ys : List Char)

@[simp] theorem recursiveDistance_nil_left : recursiveDistance [] ys = ys.length :=
  recursiveDistance.eq_1 ys

@[simp] theorem recursiveDistance_nil_right : recursiveDistance xs [] = xs.length := by
  cases xs with
  | nil => exact recursiveDistance.eq_1 []
  | cons x xs => exact recursiveDistance.eq_2 _ (List.cons_ne_nil x xs)

theorem recursiveDistance_cons_cons :
    recursiveDistance (x :: xs) (y :: ys) =
      min (min (recursiveDistance xs (y :: ys) + 1) (recursiveDistance (x :: xs) ys + 1))
        (recursiveDistance xs ys + substCost x y) :=
  recursiveDistance.eq_3 x xs y ys

end Equations

namespace Aligns

theorem insertAll (ys : List Char) : Aligns [] ys ys.length := by
  induction ys with
  | nil => exact .nil
  | cons y ys ih => exact ih.insert y

theorem deleteAll (xs : List Char) : Aligns xs [] xs.length := by
  induction xs with
  | nil => exact .nil
  | cons x xs ih => exact ih.delete x

theorem cast {xs ys : List Char} {n m : Nat} (h : Aligns xs ys n) (e : n = m) : Aligns xs ys m :=
  e ▸ h

theorem recursiveDistance_le {xs ys : List Char} {n : Nat} (h : Aligns xs ys n) :
    recursiveDistance xs ys ≤ n := by
  induction h with
  | nil => simp
  | subst x y _ ih =>
    rw [recursiveDistance_cons_cons]
    omega
  | @delete xs ys n x _ ih =>
    cases ys with
    | nil =>
      simp only [recursiveDistance_nil_right, List.length_cons] at ih ⊢
      omega
    | cons y ys =>
      rw [recursiveDistance_cons_cons]
      omega
  | @insert xs ys n y _ ih =>
    cases xs with
    | nil =>
      simp only [recursiveDistance_nil_left, List.length_cons] at ih ⊢
      omega
    | cons x xs =>
      rw [recursiveDistance_cons_cons]
      omega

theorem append {xs ys xs' ys' : List Char} {n m : Nat} (h : Aligns xs ys n)
    (h' : Aligns xs' ys' m) : Aligns (xs ++ xs') (ys ++ ys') (n + m) := by
  induction h with
  | nil => simpa using h'
  | subst x y _ ih => exact (ih.subst x y).cast (by omega)
  | delete x _ ih => exact (ih.delete x).cast (by omega)
  | insert y _ ih => exact (ih.insert y).cast (by omega)

theorem reverse {xs ys : List Char} {n : Nat} (h : Aligns xs ys n) :
    Aligns xs.reverse ys.reverse n := by
  induction h with
  | nil => exact .nil
  | subst x y _ ih => simpa using ih.append (Aligns.nil.subst x y)
  | delete x _ ih => simpa using ih.append (Aligns.nil.delete x)
  | insert y _ ih => simpa using ih.append (Aligns.nil.insert y)

theorem swap {xs ys : List Char} {n : Nat} (h : Aligns xs ys n) : Aligns ys xs n := by
  induction h with
  | nil => exact .nil
  | subst x y _ ih => exact (ih.subst y x).cast (by rw [substCost_comm])
  | delete x _ ih => exact ih.insert x
  | insert y _ ih => exact ih.delete y

theorem eq_of_cost_eq_zero {xs ys : List Char} {n : Nat} (h : Aligns xs ys n) (h0 : n = 0) :
    xs = ys := by
  induction h with
  | nil => rfl
  | subst x y _ ih =>
    rw [eq_of_substCost_eq_zero (by omega : substCost x y = 0), ih (by omega)]
  | delete => omega
  | insert => omega

theorem refl (xs : List Char) : Aligns xs xs 0 := by
  induction xs with
  | nil => exact .nil
  | cons x xs ih => exact (ih.subst x x).cast (by simp)

end Aligns

theorem aligns_recursiveDistance (xs ys : List Char) :
    Aligns xs ys (recursiveDistance xs ys) := by
  fun_induction recursiveDistance xs ys with
  | case1 ys => exact Aligns.insertAll ys
  | case2 xs _ => exact Aligns.deleteAll xs
  | case3 x xs y ys ihDelete ihInsert ihSubst =>
    have hmin : ∀ a b c : Nat, min (min a b) c = a ∨ min (min a b) c = b ∨ min (min a b) c = c := by
      omega
    rcases hmin (recursiveDistance xs (y :: ys) + 1) (recursiveDistance (x :: xs) ys + 1)
      (recursiveDistance xs ys + substCost x y) with h | h | h <;> rw [h]
    · exact ihDelete.delete x
    · exact ihInsert.insert y
    · exact ihSubst.subst x y

/-- The recursive distance is the least cost of an alignment. -/
theorem isLeast_recursiveDistance (xs ys : List Char) :
    IsLeast {n | Aligns xs ys n} (recursiveDistance xs ys) :=
  ⟨aligns_recursiveDistance xs ys, fun _ h => h.recursiveDistance_le⟩

theorem recursiveDistance_reverse (xs ys : List Char) :
    recursiveDistance xs.reverse ys.reverse = recursiveDistance xs ys := by
  apply Nat.le_antisymm
  · exact (aligns_recursiveDistance xs ys).reverse.recursiveDistance_le
  · simpa using (aligns_recursiveDistance xs.reverse ys.reverse).reverse.recursiveDistance_le

theorem recursiveDistance_comm (xs ys : List Char) :
    recursiveDistance xs ys = recursiveDistance ys xs :=
  Nat.le_antisymm (aligns_recursiveDistance ys xs).swap.recursiveDistance_le
    (aligns_recursiveDistance xs ys).swap.recursiveDistance_le

theorem recursiveDistance_append_singleton (x y : Char) (xs ys : List Char) :
    recursiveDistance (xs ++ [x]) (ys ++ [y]) =
      min (min (recursiveDistance xs (ys ++ [y]) + 1) (recursiveDistance (xs ++ [x]) ys + 1))
        (recursiveDistance xs ys + substCost x y) := by
  calc recursiveDistance (xs ++ [x]) (ys ++ [y])
      = recursiveDistance (x :: xs.reverse) (y :: ys.reverse) := by
        rw [← recursiveDistance_reverse]
        simp
    _ = _ := by
        rw [recursiveDistance_cons_cons, ← recursiveDistance_reverse xs (ys ++ [y]),
          ← recursiveDistance_reverse (xs ++ [x]) ys, ← recursiveDistance_reverse xs ys]
        simp

@[simp] theorem recursiveDistance_self (xs : List Char) : recursiveDistance xs xs = 0 :=
  Nat.le_zero.mp (Aligns.refl xs).recursiveDistance_le

theorem recursiveDistance_eq_zero_iff {xs ys : List Char} :
    recursiveDistance xs ys = 0 ↔ xs = ys := by
  constructor
  · intro h
    exact (aligns_recursiveDistance xs ys).eq_of_cost_eq_zero h
  · rintro rfl
    exact recursiveDistance_self xs

theorem recursiveDistance_le_max (xs ys : List Char) :
    recursiveDistance xs ys ≤ max xs.length ys.length := by
  fun_induction recursiveDistance xs ys with
  | case1 ys => simp
  | case2 xs _ => simp
  | case3 x xs y ys _ _ ih =>
    have hc := substCost_le_one x y
    simp only [List.length_cons]
    omega

end RecordLinkage.EditDistance
