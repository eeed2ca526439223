import Mathlib.Algebra.Group.Pi.Lemmas
import RecordLinkage.Proofs.Linkage.Answers

/-! # What the service counts

Every computation of the service adds to each counter an amount fixed by its inputs, a
`Tally`; `Recorded.Adds x t` says that `x` adds `t`. Tallies of computations run in turn add
up, so each is assembled from those of its parts.
-/

namespace RecordLinkage

/-- The counters of the metrics. -/
inductive Counter where
  | fieldsHashed
  | filtersBuilt
  | bitsAllocated
  | candidatesCompared
  | matchesFound
  | matchesMissed
  | deadlinesExceeded
  | scanTimeNs
  deriving DecidableEq

/-- An amount for each counter. -/
abbrev Tally := Counter → Nat

/-- The value of a counter. -/
def Metrics.get (m : Metrics) : Counter → UInt64
  | .fieldsHashed => m.fieldsHashed
  | .filtersBuilt => m.filtersBuilt
  | .bitsAllocated => m.bitsAllocated
  | .candidatesCompared => m.candidatesCompared
  | .matchesFound => m.matchesFound
  | .matchesMissed => m.matchesMissed
  | .deadlinesExceeded => m.deadlinesExceeded
  | .scanTimeNs => m.scanTimeNs

theorem Recorded.run_pure {α : Type} (a : α) (m : Metrics) :
    (pure a : Recorded α).run m = (a, m) := rfl

theorem Recorded.run_modify (f : Metrics → Metrics) (m : Metrics) :
    (modify f : Recorded Unit).run m = ((), f m) := rfl

/-- The computation adds `t` to the counters, from any counters. -/
def Recorded.Adds {α : Type} (x : Recorded α) (t : Tally) : Prop :=
  ∀ m c, ((x.run m).2).get c = m.get c + (t c).toUInt64

namespace Recorded.Adds

variable {α β : Type}

theorem pure (a : α) : (Pure.pure a : Recorded α).Adds 0 := by
  intro m c
  rw [Recorded.run_pure]
  simp

theorem bind {x : Recorded α} {f : α → Recorded β} {t : Tally} (hx : x.Adds t) (u : Tally)
    (hf : ∀ m, (f (x.run m).1).Adds u) : (x >>= f).Adds (t + u) := by
  intro m c
  rw [Recorded.run_bind, hf, hx, Pi.add_apply, Nat.toUInt64_eq, Nat.toUInt64_eq, Nat.toUInt64_eq,
    UInt64.ofNat_add, UInt64.add_assoc]

theorem bind_pure {x : Recorded α} {f : α → β} {t : Tally} (hx : x.Adds t) :
    (x >>= fun a => Pure.pure (f a)).Adds t := by
  intro m c
  rw [Recorded.run_bind, Recorded.run_pure]
  exact hx m c

theorem congr {x : Recorded α} {t u : Tally} (hx : x.Adds t) (h : t = u) : x.Adds u :=
  h ▸ hx

end Recorded.Adds

section Records

open Recorded

theorem Metrics.adds_recordFieldHashed :
    (modify Metrics.recordFieldHashed : Recorded Unit).Adds (Pi.single .fieldsHashed 1) := by
  intro m c
  rw [Recorded.run_modify]
  cases c <;> simp [ Metrics.get, Metrics.recordFieldHashed]

theorem Metrics.adds_recordFilterBuilt (size : Nat) :
    (modify (·.recordFilterBuilt size) : Recorded Unit).Adds
      (Pi.single .filtersBuilt 1 + Pi.single .bitsAllocated size) := by
  intro m c
  rw [Recorded.run_modify]
  cases c <;> simp [ Metrics.get, Metrics.recordFilterBuilt]

theorem Metrics.adds_recordScan (ns candidates : Nat) (matched : Bool) :
    (modify (·.recordScan ns candidates matched) : Recorded Unit).Adds
      (Pi.single .candidatesCompared candidates + Pi.single .scanTimeNs ns +
        if matched then Pi.single .matchesFound 1 else Pi.single .matchesMissed 1) := by
  intro m c
  rw [Recorded.run_modify]
  cases matched <;> cases c <;> simp [ Metrics.get, Metrics.recordScan]

theorem Metrics.adds_recordDeadlineExceeded (scanned : Nat) :
    (modify (·.recordDeadlineExceeded scanned) : Recorded Unit).Adds
      (Pi.single .deadlinesExceeded 1 + Pi.single .candidatesCompared scanned) := by
  intro m c
  rw [Recorded.run_modify]
  cases c <;> simp [ Metrics.get, Metrics.recordDeadlineExceeded]

end Records

namespace Service

variable (s : Service)

/-- What building the filter of `n` fields adds: `n` digests and one filter of the
    configured size. -/
def filterTally (n : Nat) : Tally :=
  Pi.single .fieldsHashed n + Pi.single .filtersBuilt 1 + Pi.single .bitsAllocated s.config.filterSize

/-- What scoring the candidates adds: a filter for each. -/
def scoringTally (candidates : List Record) : Tally :=
  Pi.single .fieldsHashed (candidates.map (·.fields.size)).sum +
    Pi.single .filtersBuilt candidates.length +
    Pi.single .bitsAllocated (candidates.length * s.config.filterSize)

/-- The record a scan's best names among the candidates. -/
def winner (candidates : List Record) (best : Option Scored) : Option Record :=
  best.bind fun b => candidates[b.index]?

/-- What answering a scan that took `elapsed` nanoseconds adds: the winner's digests, the
    candidates, the time, and one found or missed match. -/
def finishTally (candidates : List Record) (best : Option Scored) (elapsed : Nat) : Tally :=
  Pi.single .fieldsHashed ((winner candidates best).elim 0 (·.fields.size)) +
    Pi.single .candidatesCompared candidates.length + Pi.single .scanTimeNs elapsed +
    if (winner candidates best).isSome then Pi.single .matchesFound 1
    else Pi.single .matchesMissed 1

/-- The best qualifying candidate of a request: the scan's fold over the scores. -/
def requestBest (request : Request) (candidates : List Record) : Option Scored :=
  (s.scoredFrom (s.fieldFilter request.queryFields) candidates 0).foldl
    (Scored.step request.threshold) none

/-- What a completed scan of a request that took `elapsed` nanoseconds adds: the digests of
    the query, of every candidate and of the winner, a filter for the query and for each
    candidate, the candidates as compared, the time, and one found or missed match. -/
def completedTally (request : Request) (candidates : List Record) (elapsed : Nat) : Tally :=
  let w := winner candidates (s.requestBest request candidates)
  Pi.single .fieldsHashed (request.queryFields.size + (candidates.map (·.fields.size)).sum +
      w.elim 0 (·.fields.size)) +
    Pi.single .filtersBuilt (1 + candidates.length) +
    Pi.single .bitsAllocated ((1 + candidates.length) * s.config.filterSize) +
    Pi.single .candidatesCompared candidates.length + Pi.single .scanTimeNs elapsed +
    if w.isSome then Pi.single .matchesFound 1 else Pi.single .matchesMissed 1

theorem completedTally_eq (request : Request) (candidates : List Record) (elapsed : Nat) :
    s.completedTally request candidates elapsed = s.filterTally request.queryFields.size +
      s.scoringTally candidates + finishTally candidates (s.requestBest request candidates) elapsed := by
  funext k
  cases k <;> simp [completedTally, filterTally, scoringTally, finishTally, Nat.add_mul]
  omega

@[simp] theorem scoringTally_nil : s.scoringTally [] = 0 := by
  funext c
  simp [scoringTally]

theorem scoringTally_cons (c : Record) (rest : List Record) :
    s.scoringTally (c :: rest) = s.filterTally c.fields.size + s.scoringTally rest := by
  funext k
  cases k <;> simp [scoringTally, filterTally, Nat.succ_mul, Nat.add_comm]

open Recorded

theorem adds_hashField (f : Field) : (s.hashField f).Adds (Pi.single .fieldsHashed 1) :=
  Metrics.adds_recordFieldHashed.bind_pure

theorem adds_foldlM_addEntry (entries : List (String × Field)) (f : Filter.BloomFilter) :
    (entries.foldlM s.addEntry f).Adds (Pi.single .fieldsHashed entries.length) := by
  induction entries generalizing f with
  | nil => exact (Adds.pure f).congr (by simp)
  | cons e rest ih =>
    rw [List.foldlM_cons]
    refine ((s.adds_hashField e.2).bind_pure.bind _ fun _ => ih _).congr ?_
    rw [List.length_cons, Nat.add_comm, Pi.single_add]

theorem adds_filterFor (fields : FieldMap) :
    (s.filterFor fields).Adds (s.filterTally fields.size) := by
  -- the filter built has the configured size, whatever the counters were
  have hsize : ∀ m, ((fields.entries.foldlM s.addEntry s.emptyFilter).run m).1.size =
      s.config.filterSize := fun m => by
    rw [foldlM_addEntry_fst]
    exact size_fieldFilter s fields
  refine ((s.adds_foldlM_addEntry _ _).bind
    (Pi.single .filtersBuilt 1 + Pi.single .bitsAllocated s.config.filterSize) fun m => ?_).congr ?_
  · rw [hsize]
    exact (Metrics.adds_recordFilterBuilt _).bind_pure
  · rw [filterTally, add_assoc]
    rfl

theorem adds_score (query : Filter.BloomFilter) (c : Record) :
    (s.score query c).Adds (s.filterTally c.fields.size) :=
  (s.adds_filterFor c.fields).bind_pure

theorem adds_mapM_scoreAt (query : Filter.BloomFilter) (candidates : List Record) (i : Nat) :
    ((candidates.zipIdx i).mapM (s.scoreAt query)).Adds (s.scoringTally candidates) := by
  induction candidates generalizing i with
  | nil => exact (Adds.pure _).congr (by simp)
  | cons c rest ih =>
    rw [List.zipIdx_cons, List.mapM_cons, s.scoringTally_cons]
    exact (s.adds_score query c).bind_pure.bind _ fun _ => (ih _).bind_pure

theorem adds_matchedFields (query : Filter.BloomFilter) (r : Record) :
    (s.matchedFields query r).Adds (Pi.single .fieldsHashed r.fields.size) := by
  unfold matchedFields FieldMap.size
  generalize r.fields.entries = entries
  induction entries with
  | nil => exact (Adds.pure _).congr (by simp)
  | cons e rest ih =>
    rw [List.filterMapM_cons]
    refine ((s.adds_hashField e.2).bind_pure.bind (Pi.single .fieldsHashed rest.length)
      fun m => ?_).congr ?_
    · split
      · exact ih
      · exact ih.bind_pure
    · rw [List.length_cons, Nat.add_comm, Pi.single_add]

theorem adds_finish (request : Request) (candidates : List Record) (query : Filter.BloomFilter)
    (best : Option Scored) (elapsed : Nat) :
    (s.finish request candidates query best elapsed).Adds (finishTally candidates best elapsed) := by
  have hwinner : (best.bind fun b => (candidates[b.index]?).map fun r => (b, r)).map Prod.snd =
      winner candidates best := by
    cases best with
    | none => rfl
    | some b => simp [winner, Option.map_map, Function.comp_def]
  unfold finish
  -- split on the winner: only an answer with a winner re-hashes its fields
  cases hw : best.bind fun b => (candidates[b.index]?).map fun r => (b, r) with
  | none =>
    rw [hw, Option.map_none] at hwinner
    simp only [pure_bind]
    refine (Metrics.adds_recordScan elapsed candidates.length false).bind_pure.congr ?_
    funext k
    cases k <;> simp [finishTally, ← hwinner]
  | some w =>
    obtain ⟨b, r⟩ := w
    rw [hw, Option.map_some] at hwinner
    simp only [pure_bind]
    refine ((s.adds_matchedFields query r).bind _ fun _ =>
      (Metrics.adds_recordScan elapsed candidates.length true).bind_pure).congr ?_
    funext k
    cases k <;> simp [finishTally, ← hwinner]

theorem perform_eq (request : Request) (candidates : List Record) (elapsed : Nat) :
    s.perform request candidates elapsed = s.filterFor request.queryFields >>= fun query =>
      candidates.zipIdx.mapM (s.scoreAt query) >>= fun scores =>
        s.finish request candidates query (scores.foldl (Scored.step request.threshold) none)
          elapsed := by
  unfold perform
  simp only [scanParallel_eq_scanSequential, ite_self, scanSequential_eq, bind_assoc, pure_bind]

theorem adds_perform (request : Request) (candidates : List Record) (elapsed : Nat) :
    (s.perform request candidates elapsed).Adds (s.completedTally request candidates elapsed) := by
  rw [perform_eq, completedTally_eq, add_assoc]
  refine (s.adds_filterFor _).bind _ fun m => ?_
  rw [filterFor_fst]
  exact (s.adds_mapM_scoreAt _ _ 0).bind _ fun m' => by
    rw [mapM_scoreAt_fst]
    exact s.adds_finish _ _ _ _ _

end Service

end RecordLinkage
