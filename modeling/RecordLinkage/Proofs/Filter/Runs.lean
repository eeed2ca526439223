import Mathlib
import RecordLinkage.Proofs.Filter.Bits

/-! # Runs of inserts and merges

A filter starts empty or read from hexadecimal and then takes inserts and merges. Along a run
the shape stays fixed and each step only adds bits, so the bits of a run are the starting ones
and those the steps add, in any order.
-/

namespace RecordLinkage.Filter.BloomFilter

/-- A step of a run: insert an element, or merge another filter in. -/
inductive Step where
  | insert (element : String)
  | union (other : BloomFilter)

namespace Step

def apply (f : BloomFilter) : Step → BloomFilter
  | insert e => f.insert e
  | union g => f.union g

/-- The bits a step adds to a well formed filter of `f`'s shape. -/
def sets (f : BloomFilter) : Step → Nat → Bool
  | insert e, i => decide (i ∈ f.positionsOf e)
  | union g, i => decide (i < f.size) && g.bit i

/-- The inserts a step counts: one for an insert, the merged filter's count for a merge. -/
def count : Step → Nat
  | insert _ => 1
  | union g => g.inserted

variable (f : BloomFilter) (st : Step)

@[simp] theorem size_apply : (st.apply f).size = f.size := by
  cases st <;> rfl

@[simp] theorem hashCount_apply : (st.apply f).hashCount = f.hashCount := by
  cases st <;> rfl

@[simp] theorem scheme_apply : (st.apply f).scheme = f.scheme := by
  cases st <;> rfl

theorem inserted_apply : (st.apply f).inserted = f.inserted + st.count := by
  cases st <;> rfl

@[simp] theorem positionsOf_apply (e : String) : (st.apply f).positionsOf e = f.positionsOf e := by
  simp only [positionsOf, size_apply, hashCount_apply, scheme_apply]

@[simp] theorem sets_apply (st' : Step) : st'.sets (st.apply f) = st'.sets f := by
  funext i
  cases st' <;> simp only [sets, positionsOf_apply, size_apply]

variable {f}

theorem wellFormed_apply (hf : f.WellFormed) : (st.apply f).WellFormed := by
  cases st with
  | insert e => exact hf.insert e
  | union g => exact hf.union g

theorem bit_apply (hf : f.WellFormed) (i : Nat) : (st.apply f).bit i = (f.bit i || st.sets f i) := by
  cases st with
  | insert e => exact hf.bit_insert e i
  | union g => exact hf.bit_union g i

end Step

/-- Take the steps in order. -/
def run (f : BloomFilter) (steps : List Step) : BloomFilter :=
  steps.foldl Step.apply f

section Run

variable (f : BloomFilter) (steps : List Step)

@[simp] theorem run_nil : run f [] = f := rfl

@[simp] theorem run_cons (st : Step) : run f (st :: steps) = run (st.apply f) steps := rfl

theorem run_append (more : List Step) : run f (steps ++ more) = run (run f steps) more :=
  List.foldl_append

@[simp] theorem size_run : (run f steps).size = f.size := by
  induction steps generalizing f <;> simp_all

@[simp] theorem hashCount_run : (run f steps).hashCount = f.hashCount := by
  induction steps generalizing f <;> simp_all

@[simp] theorem scheme_run : (run f steps).scheme = f.scheme := by
  induction steps generalizing f <;> simp_all

@[simp] theorem positionsOf_run (e : String) : (run f steps).positionsOf e = f.positionsOf e := by
  simp only [positionsOf, size_run, hashCount_run, scheme_run]

theorem inserted_run : (run f steps).inserted = f.inserted + (steps.map Step.count).sum := by
  induction steps generalizing f with
  | nil => rfl
  | cons st steps ih =>
    rw [run_cons, ih, Step.inserted_apply, List.map_cons, List.sum_cons, Nat.add_assoc]

variable {f}

theorem wellFormed_run (hf : f.WellFormed) : (run f steps).WellFormed := by
  induction steps generalizing f with
  | nil => exact hf
  | cons st steps ih => exact ih (st.wellFormed_apply hf)

theorem WellFormed.bit_run (hf : f.WellFormed) (i : Nat) :
    (run f steps).bit i = (f.bit i || steps.any fun st => st.sets f i) := by
  induction steps generalizing f with
  | nil => simp
  | cons st steps ih =>
    rw [run_cons, ih (st.wellFormed_apply hf), st.bit_apply hf, List.any_cons, Bool.or_assoc]
    simp only [Step.sets_apply]

theorem WellFormed.contains_run (hf : f.WellFormed) {e : String}
    (h : ∀ p ∈ f.positionsOf e, ∃ st ∈ steps, st.sets f p = true) : (run f steps).contains e := by
  unfold contains
  rw [positionsOf_run, List.all_eq_true]
  intro p hp
  obtain ⟨st, hst, hset⟩ := h p hp
  rw [hf.bit_run, Bool.or_eq_true, List.any_eq_true]
  exact .inr ⟨st, hst, hset⟩

end Run

/-- The filters a run starts from: an empty filter, or one read from hexadecimal. -/
inductive Fresh : BloomFilter → Prop
  | empty (m k : Nat) (s : Scheme) : Fresh (empty m k s)
  | ofHex {hex : String} {m k : Nat} {s : Scheme} {f : BloomFilter} :
      ofHex hex m k s = .ok f → Fresh f

theorem Fresh.wellFormed {f : BloomFilter} (h : Fresh f) : f.WellFormed := by
  cases h with
  | empty m k s => exact .empty m k s
  | ofHex h => exact .ofHex h

theorem Fresh.inserted_eq_zero {f : BloomFilter} (h : Fresh f) : f.inserted = 0 := by
  cases h with
  | empty m k s => rfl
  | ofHex h =>
    obtain ⟨-, bytes, -, rfl⟩ := ofHex_eq_ok h
    rfl

/-- The filters an application can build: fresh ones, and what inserts and merges with
    other such filters make of them. -/
inductive Reachable : BloomFilter → Prop
  | fresh {f : BloomFilter} : Fresh f → Reachable f
  | insert {f : BloomFilter} (e : String) : Reachable f → Reachable (f.insert e)
  | union {f g : BloomFilter} : Reachable f → Reachable g → Reachable (f.union g)

theorem Reachable.wellFormed {f : BloomFilter} (h : Reachable f) : f.WellFormed := by
  induction h with
  | fresh h => exact h.wellFormed
  | insert e _ ih => exact ih.insert e
  | union _ _ ihf _ => exact ihf.union _

/-- What a run from a fresh filter does, in each of its states: the shape is kept, no bit is
    cleared by later steps, the bits are the starting ones together with the positions of
    every inserted element and the bits below the size of every merged filter, the insert
    count adds up, every inserted element and every element of a merged filter of the same
    shape is contained, and the bytes depend only on which steps were taken. -/
theorem run_spec {f : BloomFilter} (hf : Fresh f) (steps : List Step) :
    ((run f steps).size = f.size ∧ (run f steps).hashCount = f.hashCount ∧
      (run f steps).scheme = f.scheme) ∧
    (∀ more i, (run f steps).bit i = true → (run f (steps ++ more)).bit i = true) ∧
    (∀ i, (run f steps).bit i = (f.bit i || steps.any fun st => st.sets f i)) ∧
    (run f steps).inserted = (steps.map Step.count).sum ∧
    (∀ e, Step.insert e ∈ steps → (run f steps).contains e) ∧
    (∀ g e, Step.union g ∈ steps → g.size = f.size → g.hashCount = f.hashCount →
      g.scheme = f.scheme → g.contains e → (run f steps).contains e) ∧
    (∀ steps', (∀ st, st ∈ steps' ↔ st ∈ steps) → (run f steps').bytes = (run f steps).bytes) := by
  have hwf := hf.wellFormed
  refine ⟨⟨size_run f steps, hashCount_run f steps, scheme_run f steps⟩, ?_, hwf.bit_run steps,
    ?_, ?_, ?_, ?_⟩
  · intro more i hi
    rw [run_append]
    rw [(wellFormed_run steps hwf).bit_run more, hi, Bool.true_or]
  · rw [inserted_run, hf.inserted_eq_zero, Nat.zero_add]
  · intro e he
    exact hwf.contains_run steps fun p hp => ⟨.insert e, he, decide_eq_true hp⟩
  · intro g e hg hsize hk hs hge
    have hpos : g.positionsOf e = f.positionsOf e := by
      simp only [positionsOf, hsize, hk, hs]
    refine hwf.contains_run steps fun p hp => ⟨.union g, hg, ?_⟩
    have hgp : g.bit p = true := List.all_eq_true.1 hge p (hpos ▸ hp)
    simp only [Step.sets, hgp, Bool.and_true, decide_eq_true_eq]
    exact lt_of_mem_positionsOf hp
  · intro steps' hsame
    refine (wellFormed_run steps' hwf).bytes_eq (wellFormed_run steps hwf) (by simp) fun i => ?_
    rw [hwf.bit_run, hwf.bit_run]
    congr 1
    exact Bool.eq_iff_iff.2 (by simp only [List.any_eq_true, hsame])

/-- An empty filter that takes one name and is merged with a filter holding another
    contains both. -/
theorem run_spec_insert_union :
    Fresh (empty 16 2 .seededFnv) ∧
      (run (empty 16 2 .seededFnv)
        [.insert "ada", .union (run (empty 16 2 .seededFnv) [.insert "bob"])]).contains "ada" ∧
      (run (empty 16 2 .seededFnv)
        [.insert "ada", .union (run (empty 16 2 .seededFnv) [.insert "bob"])]).contains "bob" := by
  have hbob := run_spec (.empty 16 2 .seededFnv) [.insert "bob"]
  have hrun := run_spec (.empty 16 2 .seededFnv)
    [.insert "ada", .union (run (empty 16 2 .seededFnv) [.insert "bob"])]
  exact ⟨.empty 16 2 .seededFnv, hrun.2.2.2.2.1 "ada" (by simp),
    hrun.2.2.2.2.2.1 _ "bob" (by simp) (by simp) (by simp) (by simp) (hbob.2.2.2.2.1 "bob" (by simp))⟩

end RecordLinkage.Filter.BloomFilter
