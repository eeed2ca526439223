import RecordLinkage.Proofs.Linkage.Choice
import RecordLinkage.Proofs.Filter.Runs

/-! # What the service computes

What the service returns depends on its inputs alone: the filter of a field map, the scores,
the result of each scan and the answer, each as a plain function. Both scans make the same
metric updates.
-/

namespace RecordLinkage

theorem Recorded.run_bind {α β : Type} (x : Recorded α) (f : α → Recorded β) (m : Metrics) :
    (x >>= f).run m = (f (x.run m).1).run (x.run m).2 := rfl

theorem Filter.validParameters_iff {m k : Nat} :
    Filter.validParameters m k = true ↔ 1 ≤ m ∧ m ≤ maxFilterSize ∧ 1 ≤ k ∧ k ≤ maxHashCount := by
  simp only [validParameters, Bool.and_eq_true, decide_eq_true_eq, and_assoc]

theorem Config.validate_eq_ok_iff (c : Config) :
    c.validate = .ok () ↔ Filter.validParameters c.filterSize c.hashCount = true ∧ c.salt.isEmpty = false := by
  rw [Filter.validParameters_iff]
  unfold Config.validate
  -- the rules are checked in turn; each failing one makes both sides false
  split
  · next h0 => simp [h0]
  · next h0 =>
    split
    · next hmax => simp only [reduceCtorEq, false_iff]; omega
    · next hmax =>
      split
      · next hk => simp only [reduceCtorEq, false_iff]; omega
      · next hk =>
        split
        · next hs => simp [hs]
        · next hs => exact iff_of_true rfl ⟨by omega, Bool.eq_false_iff.2 hs⟩

namespace Service

variable (s : Service)

/-- Insert a field's digest and its key-tagged digest, without counting. -/
def insertEntry (f : Filter.BloomFilter) (entry : String × Field) : Filter.BloomFilter :=
  let d := entry.2.digest s.config.salt
  (f.insert d).insert (entry.1 ++ ":" ++ d)

/-- The filter of a field map: the digests of its entries inserted in key order. -/
def fieldFilter (fields : FieldMap) : Filter.BloomFilter :=
  fields.entries.foldl s.insertEntry s.emptyFilter

/-- A candidate scored against the query, at its index. -/
def scoreAt (query : Filter.BloomFilter) : Record × Nat → Recorded Scored :=
  fun (c, i) => do
    let sim ← s.score query c
    return ⟨i, sim⟩

/-- The candidates scored against the query, from index `i` on. -/
def scoredFrom (query : Filter.BloomFilter) (candidates : List Record) (i : Nat) : List Scored :=
  (candidates.zipIdx i).map fun (c, j) => ⟨j, query.jaccard (s.fieldFilter c.fields)⟩

/-- The winner's keys whose digests the query filter contains, in key order. -/
def matchedKeys (query : Filter.BloomFilter) (r : Record) : List String :=
  r.fields.entries.filterMap fun (key, field) =>
    if query.contains (field.digest s.config.salt) then some key else none

/-- The answer for a scan's winner. -/
def respond (request : Request) (candidates : List Record) (query : Filter.BloomFilter)
    (best : Option Scored) : Response :=
  let base : MatchMetadata :=
    ⟨request.queryFields.size, candidates.length, query.falsePositiveRate, none, none⟩
  match best.bind fun b => (candidates[b.index]?).map fun r => (b, r) with
  | some (b, r) =>
    ⟨true, b.similarity, request.providerId, s.matchedKeys query r, query.toHex,
      { base with matchedRecordId := some r.id, matchedProviderId := some r.providerId }⟩
  | none => ⟨false, .zero, request.providerId, [], query.toHex, base⟩

section Filters

open Filter.BloomFilter

theorem validParameters_config : Filter.validParameters s.config.filterSize s.config.hashCount = true :=
  ((Config.validate_eq_ok_iff s.config).1 s.valid).1

theorem reachable_foldl_insertEntry (entries : List (String × Field)) {f : Filter.BloomFilter}
    (hf : Reachable f) : Reachable (entries.foldl s.insertEntry f) := by
  induction entries generalizing f with
  | nil => exact hf
  | cons e rest ih => exact ih ((hf.insert _).insert _)

theorem shape_foldl_insertEntry (entries : List (String × Field)) (f : Filter.BloomFilter) :
    (entries.foldl s.insertEntry f).size = f.size ∧
      (entries.foldl s.insertEntry f).hashCount = f.hashCount ∧
      (entries.foldl s.insertEntry f).scheme = f.scheme := by
  induction entries generalizing f with
  | nil => exact ⟨rfl, rfl, rfl⟩
  | cons e rest ih => exact ih _

theorem reachable_fieldFilter (fields : FieldMap) : Reachable (s.fieldFilter fields) :=
  s.reachable_foldl_insertEntry _ (.fresh (.empty _ _ _))

@[simp] theorem size_fieldFilter (fields : FieldMap) :
    (s.fieldFilter fields).size = s.config.filterSize :=
  (s.shape_foldl_insertEntry _ _).1

@[simp] theorem hashCount_fieldFilter (fields : FieldMap) :
    (s.fieldFilter fields).hashCount = s.config.hashCount :=
  (s.shape_foldl_insertEntry _ _).2.1

@[simp] theorem scheme_fieldFilter (fields : FieldMap) :
    (s.fieldFilter fields).scheme = s.config.scheme :=
  (s.shape_foldl_insertEntry _ _).2.2

theorem bytes_size_fieldFilter (fields : FieldMap) :
    (s.fieldFilter fields).bytes.size = Filter.byteCount s.config.filterSize := by
  rw [(s.reachable_fieldFilter fields).wellFormed.bytes_size, size_fieldFilter]

end Filters

theorem foldlM_addEntry_fst (entries : List (String × Field)) (f : Filter.BloomFilter)
    (m : Metrics) : ((entries.foldlM s.addEntry f).run m).1 = entries.foldl s.insertEntry f := by
  induction entries generalizing f m with
  | nil => rfl
  | cons e rest ih =>
    rw [List.foldlM_cons, Recorded.run_bind, ih]
    rfl

theorem filterFor_fst (fields : FieldMap) (m : Metrics) :
    ((s.filterFor fields).run m).1 = s.fieldFilter fields := by
  simp only [filterFor, Recorded.run_bind]
  exact foldlM_addEntry_fst s _ _ _

theorem score_fst (query : Filter.BloomFilter) (c : Record) (m : Metrics) :
    ((s.score query c).run m).1 = query.jaccard (s.fieldFilter c.fields) := by
  simp only [score, Recorded.run_bind, filterFor_fst]
  rfl

theorem mapM_scoreAt_fst (query : Filter.BloomFilter) (candidates : List Record) (i : Nat)
    (m : Metrics) :
    (((candidates.zipIdx i).mapM (s.scoreAt query)).run m).1 = s.scoredFrom query candidates i := by
  induction candidates generalizing i m with
  | nil => rfl
  | cons c rest ih =>
    simp only [List.zipIdx_cons, List.mapM_cons, Recorded.run_bind]
    rw [ih]
    simp only [scoreAt, Recorded.run_bind, score_fst]
    rfl

theorem scanFrom_never (query : Filter.BloomFilter) (threshold : Binary64) (candidates : List Record)
    (i : Nat) (best : Option Scored) :
    s.scanFrom query threshold (fun _ => false) i best candidates =
      (candidates.zipIdx i).mapM (s.scoreAt query) >>= fun scores =>
        pure (.ok (scores.foldl (Scored.step threshold) best)) := by
  induction candidates generalizing i best with
  | nil => simp [scanFrom]
  | cons c rest ih =>
    simp only [scanFrom, Bool.false_eq_true, if_false, ih, List.zipIdx_cons, List.mapM_cons,
      scoreAt, bind_assoc, pure_bind, List.foldl_cons]

theorem scanSequential_eq (query : Filter.BloomFilter) (threshold : Binary64)
    (candidates : List Record) :
    s.scanSequential query threshold candidates =
      candidates.zipIdx.mapM (s.scoreAt query) >>= fun scores =>
        pure (scores.foldl (Scored.step threshold) none) := by
  simp only [scanSequential, scanFrom_never, bind_assoc, pure_bind]

theorem scanParallel_eq (query : Filter.BloomFilter) (threshold : Binary64)
    (candidates : List Record) :
    s.scanParallel query threshold candidates =
      candidates.zipIdx.mapM (s.scoreAt query) >>= fun scores =>
        pure (reduceHalves Scored.prefer (scores.filter (·.qualifies threshold))) := rfl

theorem matchedFields_fst (query : Filter.BloomFilter) (r : Record) (m : Metrics) :
    ((s.matchedFields query r).run m).1 = s.matchedKeys query r := by
  simp only [matchedFields, matchedKeys]
  generalize r.fields.entries = entries
  induction entries generalizing m with
  | nil => rfl
  | cons e rest ih =>
    have hd : ((s.hashField e.2).run m).1 = e.2.digest s.config.salt := rfl
    simp only [List.filterMapM_cons, List.filterMap_cons, Recorded.run_bind, hd, StateT.run_pure]
    by_cases hc : query.contains (e.2.digest s.config.salt) = true
    · simp only [hc, if_true]
      rw [← ih ((s.hashField e.2).run m).2]
      rfl
    · simp only [hc, Bool.false_eq_true, if_false]
      exact ih ((s.hashField e.2).run m).2

theorem finish_fst (request : Request) (candidates : List Record) (query : Filter.BloomFilter)
    (best : Option Scored) (elapsed : Nat) (m : Metrics) :
    ((s.finish request candidates query best elapsed).run m).1 =
      s.respond request candidates query best := by
  unfold finish respond
  cases h : best.bind fun b => (candidates[b.index]?).map fun r => (b, r) with
  | none => rfl
  | some w =>
    simp only [Recorded.run_bind]
    rw [matchedFields_fst]
    rfl

theorem scoredFrom_index (query : Filter.BloomFilter) (candidates : List Record) (i : Nat) :
    (s.scoredFrom query candidates i).map Scored.index = List.range' i candidates.length := by
  induction candidates generalizing i with
  | nil => rfl
  | cons c rest ih =>
    simp only [scoredFrom, List.zipIdx_cons, List.map_cons, List.length_cons, List.range'_succ]
    rw [← ih (i + 1)]
    rfl

theorem ranked_qualifying (query : Filter.BloomFilter) (threshold : Binary64)
    (candidates : List Record) :
    Scored.Ranked ((s.scoredFrom query candidates 0).filter (·.qualifies threshold)) := by
  constructor
  · intro x hx
    exact Scored.isNaN_of_qualifies (List.mem_filter.1 hx).2
  · have hnodup : ((s.scoredFrom query candidates 0).map Scored.index).Nodup := by
      rw [scoredFrom_index]
      exact List.nodup_range'
    exact hnodup.sublist (List.filter_sublist.map Scored.index)

theorem isBest_scan (query : Filter.BloomFilter) (threshold : Binary64)
    (candidates : List Record) :
    Scored.IsBest ((s.scoredFrom query candidates 0).foldl (Scored.step threshold) none)
      ((s.scoredFrom query candidates 0).filter (·.qualifies threshold)) :=
  Scored.isBest_foldl _ (show Scored.IsBest none [] from rfl)
    (s.ranked_qualifying query threshold candidates)

theorem isBest_reduceHalves (query : Filter.BloomFilter) (threshold : Binary64)
    (candidates : List Record) :
    Scored.IsBest (reduceHalves Scored.prefer
        ((s.scoredFrom query candidates 0).filter (·.qualifies threshold)))
      ((s.scoredFrom query candidates 0).filter (·.qualifies threshold)) := by
  generalize hq : (s.scoredFrom query candidates 0).filter (·.qualifies threshold) = qualifying
  have hr := s.ranked_qualifying query threshold candidates
  rw [hq] at hr
  by_cases hnil : qualifying = []
  · rw [hnil, reduceHalves_nil]
    rfl
  · obtain ⟨t, hleaves, heq⟩ := reduceHalves_eq_reduce Scored.prefer qualifying hnil
    rw [heq, Scored.isBest_some, ← hleaves]
    exact Scored.leads_reduce t (hleaves ▸ hr)

theorem scanParallel_eq_scanSequential (query : Filter.BloomFilter) (threshold : Binary64)
    (candidates : List Record) :
    s.scanParallel query threshold candidates = s.scanSequential query threshold candidates := by
  rw [scanParallel_eq, scanSequential_eq]
  apply StateT.ext
  intro m
  simp only [Recorded.run_bind, mapM_scoreAt_fst, StateT.run_pure]
  rw [(s.isBest_reduceHalves query threshold candidates).unique
    (s.isBest_scan query threshold candidates)]

theorem perform_fst (request : Request) (candidates : List Record) (elapsed : Nat) (m : Metrics) :
    ((s.perform request candidates elapsed).run m).1 =
      s.respond request candidates (s.fieldFilter request.queryFields)
        ((s.scoredFrom (s.fieldFilter request.queryFields) candidates 0).foldl
          (Scored.step request.threshold) none) := by
  have hseq : ∀ m', ((s.scanSequential (s.fieldFilter request.queryFields) request.threshold
      candidates >>= fun best =>
        s.finish request candidates (s.fieldFilter request.queryFields) best elapsed).run m').1 =
      s.respond request candidates (s.fieldFilter request.queryFields)
        ((s.scoredFrom (s.fieldFilter request.queryFields) candidates 0).foldl
          (Scored.step request.threshold) none) := by
    intro m'
    rw [Recorded.run_bind, finish_fst, scanSequential_eq, Recorded.run_bind, mapM_scoreAt_fst]
    rfl
  simp only [perform, Recorded.run_bind, filterFor_fst]
  split
  · rw [s.scanParallel_eq_scanSequential]
    exact hseq _
  · exact hseq _

end Service

end RecordLinkage
