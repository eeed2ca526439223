import RecordLinkage.Proofs.EditDistance.Matrix

/-! # Edit scripts

An edit inserts, deletes or replaces the character at a position. A script is read off an
alignment, and one edit moves the distance by at most one, so the distance is the least length
of a script.
-/

namespace RecordLinkage.EditDistance

/-- An edit of a single character at a position. -/
inductive Edit where
  /-- Put the character before position `i`. -/
  | insert (i : Nat) (c : Char)
  /-- Remove the character at position `i`. -/
  | delete (i : Nat)
  /-- Put the character in place of the one at position `i`. -/
  | replace (i : Nat) (c : Char)
  deriving Repr, DecidableEq

namespace Edit

/-- The text after the edit; a position past the end leaves the text as it is. -/
def apply : Edit → List Char → List Char
  | insert i c, s => s.insertIdx i c
  | delete i, s => s.eraseIdx i
  | replace i c, s => s.set i c

/-- The text after each edit of the script in turn. -/
def run (script : List Edit) (s : List Char) : List Char :=
  script.foldl (fun t e => e.apply t) s

/-- The same edit one position further on. -/
def shift : Edit → Edit
  | insert i c => insert (i + 1) c
  | delete i => delete (i + 1)
  | replace i c => replace (i + 1) c

@[simp] theorem run_nil (s : List Char) : run [] s = s := rfl

@[simp] theorem run_cons (e : Edit) (script : List Edit) (s : List Char) :
    run (e :: script) s = run script (e.apply s) := rfl

theorem apply_shift (e : Edit) (c : Char) (s : List Char) :
    e.shift.apply (c :: s) = c :: e.apply s := by
  cases e <;> simp [shift, apply, List.insertIdx_succ_cons]

theorem run_map_shift (script : List Edit) (c : Char) (s : List Char) :
    run (script.map shift) (c :: s) = c :: run script s := by
  induction script generalizing s with
  | nil => rfl
  | cons e script ih => rw [List.map_cons, run_cons, apply_shift, ih, run_cons]

end Edit

namespace Aligns

variable {s t : List Char} {n : Nat}

/-- An alignment of cost `n` is carried out by a script of `n` edits. -/
theorem exists_script (h : Aligns s t n) : ∃ script : List Edit, script.length = n ∧
    Edit.run script s = t := by
  induction h with
  | nil => exact ⟨[], rfl, rfl⟩
  | @subst xs ys n x y _ ih =>
    obtain ⟨script, hlen, hrun⟩ := ih
    by_cases hxy : x = y
    · subst hxy
      refine ⟨script.map Edit.shift, by simp [hlen], ?_⟩
      rw [Edit.run_map_shift, hrun]
    · refine ⟨.replace 0 y :: script.map Edit.shift, ?_, ?_⟩
      · simp [hlen, substCost, hxy]
      · rw [Edit.run_cons, Edit.apply, List.set_cons_zero, Edit.run_map_shift, hrun]
  | delete x _ ih =>
    obtain ⟨script, hlen, hrun⟩ := ih
    refine ⟨.delete 0 :: script, by simp [hlen], ?_⟩
    rw [Edit.run_cons, Edit.apply, List.eraseIdx_cons_zero, hrun]
  | insert y _ ih =>
    obtain ⟨script, hlen, hrun⟩ := ih
    refine ⟨.insert 0 y :: script.map Edit.shift, by simp [hlen], ?_⟩
    rw [Edit.run_cons, Edit.apply, List.insertIdx_zero, Edit.run_map_shift, hrun]

/-! Each lemma below follows the alignment to the position of the edit: a step that consumes a
character of the second list moves the position one back, a deletion keeps it. -/

theorem insertIdx (h : Aligns s t n) (i : Nat) (c : Char) :
    ∃ m ≤ n + 1, Aligns s (t.insertIdx i c) m := by
  induction h generalizing i with
  | nil =>
    cases i with
    | zero => exact ⟨1, le_rfl, Aligns.nil.insert c⟩
    | succ k => exact ⟨0, by omega, by simpa using Aligns.nil⟩
  | subst x y h ih =>
    cases i with
    | zero => exact ⟨_, le_rfl, by simpa using (h.subst x y).insert c⟩
    | succ k =>
      obtain ⟨m, hm, hal⟩ := ih k
      exact ⟨m + substCost x y, by omega, by simpa using hal.subst x y⟩
  | delete x _ ih =>
    obtain ⟨m, hm, hal⟩ := ih i
    exact ⟨m + 1, by omega, hal.delete x⟩
  | insert y h ih =>
    cases i with
    | zero => exact ⟨_, le_rfl, by simpa using (h.insert y).insert c⟩
    | succ k =>
      obtain ⟨m, hm, hal⟩ := ih k
      exact ⟨m + 1, by omega, by simpa using hal.insert y⟩

theorem eraseIdx (h : Aligns s t n) (i : Nat) : ∃ m ≤ n + 1, Aligns s (t.eraseIdx i) m := by
  induction h generalizing i with
  | nil => exact ⟨0, by omega, by simpa using Aligns.nil⟩
  | @subst xs ys n x y h ih =>
    cases i with
    | zero => exact ⟨n + 1, by omega, by simpa using h.delete x⟩
    | succ k =>
      obtain ⟨m, hm, hal⟩ := ih k
      exact ⟨m + substCost x y, by omega, by simpa using hal.subst x y⟩
  | delete x _ ih =>
    obtain ⟨m, hm, hal⟩ := ih i
    exact ⟨m + 1, by omega, hal.delete x⟩
  | @insert xs ys n y h ih =>
    cases i with
    | zero => exact ⟨n, by omega, by simpa using h⟩
    | succ k =>
      obtain ⟨m, hm, hal⟩ := ih k
      exact ⟨m + 1, by omega, by simpa using hal.insert y⟩

theorem set (h : Aligns s t n) (i : Nat) (c : Char) : ∃ m ≤ n + 1, Aligns s (t.set i c) m := by
  induction h generalizing i with
  | nil => exact ⟨0, by omega, by simpa using Aligns.nil⟩
  | @subst xs ys n x y h ih =>
    cases i with
    | zero =>
      have hc := substCost_le_one x c
      exact ⟨n + substCost x c, by omega, by simpa using h.subst x c⟩
    | succ k =>
      obtain ⟨m, hm, hal⟩ := ih k
      exact ⟨m + substCost x y, by omega, by simpa using hal.subst x y⟩
  | delete x _ ih =>
    obtain ⟨m, hm, hal⟩ := ih i
    exact ⟨m + 1, by omega, hal.delete x⟩
  | @insert xs ys n y h ih =>
    cases i with
    | zero => exact ⟨n + 1, by omega, by simpa using h.insert c⟩
    | succ k =>
      obtain ⟨m, hm, hal⟩ := ih k
      exact ⟨m + 1, by omega, by simpa using hal.insert y⟩

theorem apply (h : Aligns s t n) (e : Edit) : ∃ m ≤ n + 1, Aligns s (e.apply t) m := by
  cases e with
  | insert i c => exact h.insertIdx i c
  | delete i => exact h.eraseIdx i
  | replace i c => exact h.set i c

end Aligns

theorem recursiveDistance_apply_le (s t : List Char) (e : Edit) :
    recursiveDistance s (e.apply t) ≤ recursiveDistance s t + 1 := by
  obtain ⟨m, hm, hal⟩ := (aligns_recursiveDistance s t).apply e
  exact hal.recursiveDistance_le.trans hm

theorem recursiveDistance_run_le (s : List Char) (script : List Edit) (t : List Char) :
    recursiveDistance s (Edit.run script t) ≤ recursiveDistance s t + script.length := by
  induction script generalizing t with
  | nil => simp
  | cons e script ih =>
    have hstep := recursiveDistance_apply_le s t e
    have hrest := ih (e.apply t)
    rw [Edit.run_cons, List.length_cons]
    omega

theorem isLeast_scriptLength (xs ys : List Char) :
    IsLeast {n | ∃ script : List Edit, script.length = n ∧ Edit.run script xs = ys}
      (recursiveDistance xs ys) := by
  refine ⟨(aligns_recursiveDistance xs ys).exists_script, ?_⟩
  rintro n ⟨script, rfl, hrun⟩
  have hle := recursiveDistance_run_le xs script xs
  rwa [hrun, recursiveDistance_self, Nat.zero_add] at hle

theorem distance_eq_fewest_edits (a b : String) :
    IsLeast {n | ∃ script : List Edit, script.length = n ∧ Edit.run script a.toList = b.toList}
      (distance a b) ∧ distance a b = recursiveDistance a.toList b.toList := by
  rw [distance_eq_recursiveDistance]
  exact ⟨isLeast_scriptLength a.toList b.toList, rfl⟩

end RecordLinkage.EditDistance
