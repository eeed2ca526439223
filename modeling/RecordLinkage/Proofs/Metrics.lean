import Mathlib.Algebra.BigOperators.Pi
import RecordLinkage.Proofs.Linkage.Session

/-! # The recorder's counters over any sequence of operations

Each recording adds a fixed amount to each counter, so the counters are the sums since the
last reset, modulo `2^64`, in any order of the recordings.
-/

namespace RecordLinkage

namespace Metrics

/-- An operation of the recorder. -/
inductive Op where
  /-- One digest computed. -/
  | fieldHashed
  /-- One filter of `size` bits built. -/
  | filterBuilt (size : Nat)
  /-- One completed scan of `candidates` candidates that took `ns` nanoseconds. -/
  | scan (ns candidates : Nat) (matched : Bool)
  /-- One scan stopped by its deadline after `scanned` candidates. -/
  | deadlineExceeded (scanned : Nat)
  /-- Every counter back to zero. -/
  | reset

namespace Op

/-- Make the operation; a reset stores zero in every counter. -/
def apply : Op → Metrics → Metrics
  | fieldHashed, m => m.recordFieldHashed
  | filterBuilt size, m => m.recordFilterBuilt size
  | scan ns candidates matched, m => m.recordScan ns candidates matched
  | deadlineExceeded scanned, m => m.recordDeadlineExceeded scanned
  | reset, _ => zero

/-- Whether the operation is a reset. -/
def isReset : Op → Bool
  | reset => true
  | _ => false

/-- What a recording adds to each counter. A reset adds nothing: it clears. -/
def tally : Op → Tally
  | fieldHashed => Pi.single .fieldsHashed 1
  | filterBuilt size => Pi.single .filtersBuilt 1 + Pi.single .bitsAllocated size
  | scan ns candidates matched =>
    Pi.single .candidatesCompared candidates + Pi.single .scanTimeNs ns +
      if matched then Pi.single .matchesFound 1 else Pi.single .matchesMissed 1
  | deadlineExceeded scanned =>
    Pi.single .deadlinesExceeded 1 + Pi.single .candidatesCompared scanned
  | reset => 0

theorem apply_of_isReset {o : Op} (h : o.isReset = true) (m : Metrics) : o.apply m = zero := by
  cases o with
  | reset => rfl
  | _ => cases h

theorem get_apply {o : Op} (h : o.isReset = false) (m : Metrics) (c : Counter) :
    (o.apply m).get c = m.get c + (o.tally c).toUInt64 := by
  cases o with
  | fieldHashed => exact adds_recordFieldHashed m c
  | filterBuilt size => exact adds_recordFilterBuilt size m c
  | scan ns candidates matched => exact adds_recordScan ns candidates matched m c
  | deadlineExceeded scanned => exact adds_recordDeadlineExceeded scanned m c
  | reset => cases h

end Op

/-- Make the operations in order. -/
def applyAll (ops : List Op) (m : Metrics) : Metrics :=
  ops.foldl (fun m o => o.apply m) m

/-- The operations after the last reset; all of them when there is none. -/
def sinceReset (ops : List Op) : List Op :=
  (ops.reverse.takeWhile fun o => !o.isReset).reverse

/-- The amounts the operations add to each counter, as natural numbers. -/
def total (ops : List Op) : Tally :=
  (ops.map Op.tally).sum

@[simp] theorem applyAll_nil (m : Metrics) : applyAll [] m = m := rfl

@[simp] theorem applyAll_cons (o : Op) (ops : List Op) (m : Metrics) :
    applyAll (o :: ops) m = applyAll ops (o.apply m) := rfl

theorem applyAll_append (ops ops' : List Op) (m : Metrics) :
    applyAll (ops ++ ops') m = applyAll ops' (applyAll ops m) :=
  List.foldl_append

theorem sinceReset_snoc (ops : List Op) (o : Op) :
    sinceReset (ops ++ [o]) = if o.isReset then [] else sinceReset ops ++ [o] := by
  cases h : o.isReset <;> simp [sinceReset, h]

theorem isReset_of_mem_sinceReset {ops : List Op} {o : Op} (h : o ∈ sinceReset ops) :
    o.isReset = false := by
  simpa using List.mem_takeWhile_imp (List.mem_reverse.1 h)

theorem total_apply (ops : List Op) (c : Counter) :
    total ops c = (ops.map fun o => o.tally c).sum := by
  rw [total, Pi.list_sum_apply, List.map_map]
  rfl

theorem total_perm {ops ops' : List Op} (h : ops.Perm ops') : total ops = total ops' :=
  (h.map Op.tally).sum_eq

theorem ext_get {m m' : Metrics} (h : ∀ c, m.get c = m'.get c) : m = m' := by
  obtain ⟨a₁, a₂, a₃, a₄, a₅, a₆, a₇, a₈⟩ := m
  obtain ⟨b₁, b₂, b₃, b₄, b₅, b₆, b₇, b₈⟩ := m'
  simp only [Metrics.mk.injEq]
  exact ⟨h .fieldsHashed, h .filtersBuilt, h .bitsAllocated, h .candidatesCompared,
    h .matchesFound, h .matchesMissed, h .deadlinesExceeded, h .scanTimeNs⟩

theorem get_applyAll_of_forall_not_isReset {ops : List Op} (h : ∀ o ∈ ops, o.isReset = false)
    (m : Metrics) (c : Counter) :
    (applyAll ops m).get c = m.get c + (total ops c).toUInt64 := by
  induction ops generalizing m with
  | nil => simp [total]
  | cons o rest ih =>
    have hrest : ∀ o' ∈ rest, o'.isReset = false := fun o' ho' => h o' (List.mem_cons_of_mem _ ho')
    rw [applyAll_cons, ih hrest, Op.get_apply (h o List.mem_cons_self), total_apply,
      total_apply, List.map_cons, List.sum_cons, Nat.toUInt64_eq, Nat.toUInt64_eq,
      Nat.toUInt64_eq, UInt64.ofNat_add, UInt64.add_assoc]

/-- Only the operations after the last reset count: from the start when there is no reset,
    and from zero after it. -/
theorem applyAll_eq_sinceReset (ops : List Op) (m : Metrics) :
    applyAll ops m = applyAll (sinceReset ops) (if ops.any Op.isReset then zero else m) := by
  induction ops using List.reverseRecOn with
  | nil => rfl
  | append_singleton ops o ih =>
    rw [applyAll_append, sinceReset_snoc, List.any_append]
    -- the last operation either clears everything or is a recording made after the rest
    cases h : o.isReset with
    | true => simp [Op.apply_of_isReset h, h]
    | false => simp [ih, applyAll_append, h]

theorem get_applyAll_zero (ops : List Op) (c : Counter) :
    ((applyAll ops zero).get c).toNat = total (sinceReset ops) c % 2 ^ 64 := by
  rw [applyAll_eq_sinceReset, ite_self,
    get_applyAll_of_forall_not_isReset (fun _ => isReset_of_mem_sinceReset), get_zero,
    UInt64.zero_add, UInt64.toNat_ofNat']

theorem applyAll_perm {ops ops' : List Op} (h : ops.Perm ops')
    (hr : ∀ o ∈ ops, o.isReset = false) (m : Metrics) : applyAll ops m = applyAll ops' m := by
  have hr' : ∀ o ∈ ops', o.isReset = false := fun o ho => hr o (h.mem_iff.2 ho)
  refine ext_get fun c => ?_
  rw [get_applyAll_of_forall_not_isReset hr, get_applyAll_of_forall_not_isReset hr',
    total_perm h]

section Average

/-- What the mean scan time reads: the time of completed scans and their two counts. -/
def scanView (m : Metrics) : UInt64 × UInt64 × UInt64 :=
  (m.scanTimeNs, m.matchesFound, m.matchesMissed)

theorem avgScanNs_eq_of_scanView_eq {m m' : Metrics} (h : m.scanView = m'.scanView) :
    m.avgScanNs = m'.avgScanNs := by
  simp only [scanView, Prod.mk.injEq] at h
  rw [avgScanNs, avgScanNs, scans, scans, h.1, h.2.1, h.2.2]

theorem scanView_apply {m m' : Metrics} (h : m.scanView = m'.scanView) (o : Op) :
    (o.apply m).scanView = (o.apply m').scanView := by
  simp only [scanView, Prod.mk.injEq] at h
  cases o <;>
    simp [scanView, Op.apply, recordFieldHashed, recordFilterBuilt, recordScan,
      recordDeadlineExceeded, h.1, h.2.1, h.2.2]

theorem scanView_applyAll {m m' : Metrics} (h : m.scanView = m'.scanView) (ops : List Op) :
    (applyAll ops m).scanView = (applyAll ops m').scanView := by
  induction ops generalizing m m' with
  | nil => exact h
  | cons o rest ih => exact ih (scanView_apply h o)

theorem scanView_recordDeadlineExceeded (m : Metrics) (scanned : Nat) :
    (m.recordDeadlineExceeded scanned).scanView = m.scanView := rfl

theorem avgScanNs_toNat (m : Metrics) :
    m.avgScanNs.toNat =
      if (m.matchesFound.toNat + m.matchesMissed.toNat) % 2 ^ 64 = 0 then 0
      else m.scanTimeNs.toNat / ((m.matchesFound.toNat + m.matchesMissed.toNat) % 2 ^ 64) := by
  have hscans : m.scans.toNat = (m.matchesFound.toNat + m.matchesMissed.toNat) % 2 ^ 64 :=
    UInt64.toNat_add _ _
  rw [avgScanNs, ← hscans]
  by_cases h : m.scans = 0
  · simp [h]
  · have h' : m.scans.toNat ≠ 0 := fun h0 => h (UInt64.toNat_inj.1 h0)
    simp [h, h', UInt64.toNat_div]

end Average

/-- The counters after any sequence of operations from fresh counters: each counter is the
    sum of the amounts recorded since the last reset, modulo `2^64`; recordings made in any
    order leave the same counters; the mean scan time is the time of the scans completed
    since the last reset over their number, or zero when that number is zero modulo `2^64`;
    and a scan stopped by its deadline, anywhere in the sequence, leaves the mean unchanged. -/
theorem counters_since_reset :
    (∀ (ops : List Op) (c : Counter),
      ((applyAll ops zero).get c).toNat = total (sinceReset ops) c % 2 ^ 64) ∧
    (∀ (ops ops' : List Op) (m : Metrics), ops.Perm ops' → (∀ o ∈ ops, o.isReset = false) →
      applyAll ops m = applyAll ops' m) ∧
    (∀ ops : List Op, (applyAll ops zero).avgScanNs.toNat =
      if (total (sinceReset ops) .matchesFound + total (sinceReset ops) .matchesMissed) % 2 ^ 64 = 0
      then 0
      else total (sinceReset ops) .scanTimeNs % 2 ^ 64 /
        ((total (sinceReset ops) .matchesFound + total (sinceReset ops) .matchesMissed) % 2 ^ 64)) ∧
    (∀ (pre post : List Op) (scanned : Nat) (m : Metrics),
      (applyAll (pre ++ .deadlineExceeded scanned :: post) m).avgScanNs =
        (applyAll (pre ++ post) m).avgScanNs) := by
  refine ⟨get_applyAll_zero, fun ops ops' m h hr => applyAll_perm h hr m, fun ops => ?_,
    fun pre post scanned m => ?_⟩
  · have hfound : (applyAll ops zero).matchesFound.toNat = _ :=
      get_applyAll_zero ops .matchesFound
    have hmissed : (applyAll ops zero).matchesMissed.toNat = _ :=
      get_applyAll_zero ops .matchesMissed
    have htime : (applyAll ops zero).scanTimeNs.toNat = _ := get_applyAll_zero ops .scanTimeNs
    rw [avgScanNs_toNat, hfound, hmissed, htime, ← Nat.add_mod]
  · -- the stopped scan changes no part of the scan view, and what follows it keeps that
    apply avgScanNs_eq_of_scanView_eq
    rw [applyAll_append, applyAll_append, applyAll_cons]
    exact scanView_applyAll (scanView_recordDeadlineExceeded _ scanned) post

/-- A completed scan and a stopped one, recorded in either order. -/
theorem counters_since_reset_either_order :
    [Op.scan 100 5 true, .deadlineExceeded 7].Perm [.deadlineExceeded 7, .scan 100 5 true] ∧
      (∀ o ∈ [Op.scan 100 5 true, .deadlineExceeded 7], o.isReset = false) ∧
      applyAll [.scan 100 5 true, .deadlineExceeded 7] zero =
        applyAll [.deadlineExceeded 7, .scan 100 5 true] zero :=
  ⟨.swap _ _ _, by simp [Op.isReset],
    counters_since_reset.2.1 _ _ _ (.swap _ _ _) (by simp [Op.isReset])⟩

example : (applyAll [.scan 100 5 true, .scan 200 3 false, .deadlineExceeded 7, .scan 300 2 true]
    zero).avgScanNs = 200 := by
  decide

end Metrics

end RecordLinkage
