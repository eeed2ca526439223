import Mathlib.Algebra.BigOperators.Pi
import RecordLinkage.Proofs.Linkage.Deadline

/-! # Counters over a session of calls

From counters at zero, each counter after any sequence of calls is the sum of the calls'
amounts modulo `2^64`; a completed linkage counts its scan time and one found or missed
match.
-/

namespace RecordLinkage

/-- A call of a linkage service. -/
inductive Call where
  | hashField (field : Field)
  | recordFilter (record : Record)
  | validate (request : Request)
  /-- A linkage whose scan takes `elapsedNs` nanoseconds. -/
  | perform (request : Request) (candidates : List Record) (elapsedNs : Nat)
  /-- A linkage under a deadline, whose scan takes `elapsedNs` nanoseconds if it completes. -/
  | performWithin (request : Request) (candidates : List Record) (expired : Nat → Bool)
      (elapsedNs : Nat)
  | exportFilter (filter : Filter.BloomFilter)
  | importFilter (exported : Filter.Exported)

namespace Service

variable (s : Service)

/-- Make a call, for its effect on the counters. Checking a request and moving filters are
    functions of their inputs alone. -/
def call : Call → Recorded Unit
  | .hashField field => s.hashField field >>= fun _ => pure ()
  | .recordFilter record => s.recordFilter record >>= fun _ => pure ()
  | .validate request => (pure request.validate : Recorded _) >>= fun _ => pure ()
  | .perform request candidates elapsed => s.perform request candidates elapsed >>= fun _ => pure ()
  | .performWithin request candidates expired elapsed =>
    s.performWithin request candidates expired elapsed >>= fun _ => pure ()
  | .exportFilter filter => (pure filter.export : Recorded _) >>= fun _ => pure ()
  | .importFilter exported => (pure (s.importFilter exported) : Recorded _) >>= fun _ => pure ()

/-- Make the calls in order. -/
def session (calls : List Call) : Recorded Unit :=
  calls.forM s.call

/-- What a call adds to the counters. -/
def tally : Call → Tally
  | .hashField _ => Pi.single .fieldsHashed 1
  | .recordFilter record => s.filterTally record.fields.size
  | .validate _ => 0
  | .perform request candidates elapsed => s.completedTally request candidates elapsed
  | .performWithin request candidates expired elapsed =>
    match (List.range candidates.length).find? expired with
    | none => s.completedTally request candidates elapsed
    | some j => s.abortTally request candidates j
  | .exportFilter _ => 0
  | .importFilter _ => 0

open Recorded

theorem adds_call (c : Call) : (s.call c).Adds (s.tally c) := by
  cases c with
  | hashField field => exact (s.adds_hashField field).bind_pure
  | recordFilter record => exact (s.adds_filterFor record.fields).bind_pure
  | validate request => exact ((Adds.pure _).bind_pure).congr rfl
  | perform request candidates elapsed => exact (s.adds_perform request candidates elapsed).bind_pure
  | performWithin request candidates expired elapsed =>
    simp only [call, tally]
    -- the clock decides whether the scan completes or is abandoned
    cases h : (List.range candidates.length).find? expired with
    | none =>
      rw [s.performWithin_of_find?_eq_none request candidates h, bind_map_left]
      exact (s.adds_perform request candidates elapsed).bind_pure
    | some j => exact (s.adds_performWithin_of_find?_eq_some request candidates h).bind_pure
  | exportFilter filter => exact ((Adds.pure _).bind_pure).congr rfl
  | importFilter exported => exact ((Adds.pure _).bind_pure).congr rfl

theorem adds_session (calls : List Call) : (s.session calls).Adds (calls.map s.tally).sum := by
  induction calls with
  | nil => exact (Adds.pure _).congr rfl
  | cons c rest ih =>
    have hcons : s.session (c :: rest) = s.call c >>= fun _ => s.session rest := rfl
    rw [hcons, List.map_cons, List.sum_cons]
    exact (s.adds_call c).bind _ fun _ => ih

theorem respond_matchFound (request : Request) (candidates : List Record)
    (query : Filter.BloomFilter) (best : Option Scored) :
    (s.respond request candidates query best).matchFound = (winner candidates best).isSome := by
  cases best with
  | none => rfl
  | some b => cases h : candidates[b.index]? <;> simp [respond, winner, h]

theorem perform_matchFound (request : Request) (candidates : List Record) (elapsed : Nat)
    (m : Metrics) :
    ((s.perform request candidates elapsed).run m).1.matchFound =
      (winner candidates (s.requestBest request candidates)).isSome := by
  rw [perform_fst, respond_matchFound]
  rfl

theorem performWithin_fst_eq_error_iff (request : Request) (candidates : List Record)
    (expired : Nat → Bool) (elapsed : Nat) (m : Metrics) (j : Nat) :
    ((s.performWithin request candidates expired elapsed).run m).1 =
        .error ⟨j, candidates.length⟩ ↔
      (List.range candidates.length).find? expired = some j := by
  cases h : (List.range candidates.length).find? expired with
  | none =>
    rw [s.performWithin_of_find?_eq_none request candidates h]
    show Except.ok ((s.perform request candidates elapsed).run m).1 = _ ↔ _
    simp
  | some j' =>
    rw [s.performWithin_of_find?_eq_some request candidates h]
    show Except.error (⟨j', candidates.length⟩ : DeadlineExceeded) = _ ↔ _
    simp

end Service

theorem Metrics.get_zero (c : Counter) : Metrics.zero.get c = 0 := by
  cases c <;> rfl

/-- The counters of a service after any session of calls, starting at zero: each is the sum
    of what the calls add, modulo `2^64`. A call adds the same amounts from any counters. A
    linkage counts a found match exactly when its scan has a winner, and a linkage with a
    deadline is abandoned before candidate `j`, and counted so, exactly when `j` is the first
    candidate before which the clock has passed. -/
theorem Service.session_counters (s : Service) (calls : List Call) :
    (∀ c : Counter, (((s.session calls).run Metrics.zero).2.get c).toNat =
      (calls.map fun call => s.tally call c).sum % 2 ^ 64) ∧
    (∀ call m c, ((s.call call).run m).2.get c = m.get c + (s.tally call c).toUInt64) ∧
    (∀ request candidates elapsed m, ((s.perform request candidates elapsed).run m).1.matchFound =
      (Service.winner candidates (s.requestBest request candidates)).isSome) ∧
    (∀ request candidates expired elapsed m j,
      ((s.performWithin request candidates expired elapsed).run m).1 =
          .error ⟨j, candidates.length⟩ ↔
        (List.range candidates.length).find? expired = some j) := by
  refine ⟨fun c => ?_, fun call => s.adds_call call, s.perform_matchFound,
    s.performWithin_fst_eq_error_iff⟩
  rw [s.adds_session calls Metrics.zero c, Metrics.get_zero, UInt64.zero_add, UInt64.toNat_ofNat',
    Pi.list_sum_apply, List.map_map]
  rfl

end RecordLinkage
