import RecordLinkage.Proofs.Linkage.Answers
import RecordLinkage.Proofs.Filter.Similarity

/-! # The answer to a linkage request

The scores are numbers of at most one, and every scan finds the first greatest, which the
answer reports exactly when it reaches the threshold.
-/

namespace RecordLinkage

/-- Index `i` holds a greatest score of the list, and every earlier score is smaller. -/
structure FirstGreatest {α : Type} (score : α → Binary64) (xs : List α) (i : Nat) : Prop where
  lt_length : i < xs.length
  le_at : ∀ j (hj : j < xs.length), score xs[j] ≤ score xs[i]
  lt_before : ∀ j (hj : j < i), score xs[j] < score xs[i]

namespace Service

variable (s : Service)

theorem bytes_size_fieldFilter_lt (fields : FieldMap) :
    (s.fieldFilter fields).bytes.size < 2 ^ 29 := by
  have h := (Filter.validParameters_iff.1 s.validParameters_config).2.1
  rw [bytes_size_fieldFilter]
  unfold Filter.byteCount
  unfold maxFilterSize at h
  omega

theorem jaccard_fieldFilter_le_one (query : FieldMap) (c : Record) :
    ((s.fieldFilter query).jaccard (s.fieldFilter c.fields)).isNaN = false ∧
      (s.fieldFilter query).jaccard (s.fieldFilter c.fields) ≤ Binary64.one :=
  Filter.BloomFilter.jaccard_le_one (s.bytes_size_fieldFilter_lt _) (s.bytes_size_fieldFilter_lt _)

theorem zero_le_jaccard_fieldFilter (query : FieldMap) (c : Record) :
    Binary64.zero ≤ (s.fieldFilter query).jaccard (s.fieldFilter c.fields) :=
  Filter.BloomFilter.zero_le_jaccard_of_lt (s.bytes_size_fieldFilter_lt _)
    (s.bytes_size_fieldFilter_lt _)

variable {s} {query : Filter.BloomFilter} {candidates : List Record}

theorem mem_scoredFrom {x : Scored} :
    x ∈ s.scoredFrom query candidates 0 ↔
      ∃ j, ∃ hj : j < candidates.length,
        x = ⟨j, query.jaccard (s.fieldFilter candidates[j].fields)⟩ := by
  unfold scoredFrom
  rw [List.mem_map]
  constructor
  · rintro ⟨⟨c, j⟩, hmem, rfl⟩
    obtain ⟨hj, hc⟩ := List.getElem?_eq_some_iff.1 (List.mem_zipIdx_iff_getElem?.1 hmem)
    dsimp only at hj hc ⊢
    exact ⟨j, hj, by rw [hc]⟩
  · rintro ⟨j, hj, rfl⟩
    exact ⟨(candidates[j], j), List.mem_zipIdx_iff_getElem?.2 (List.getElem?_eq_getElem hj), rfl⟩

section Winner

variable {threshold : Binary64} {i : Nat} (hi : i < candidates.length)
  (hg : FirstGreatest (fun c => query.jaccard (s.fieldFilter c.fields)) candidates i)
include hi hg

theorem leads_of_firstGreatest
    (ht : threshold ≤ query.jaccard (s.fieldFilter candidates[i].fields)) :
    Scored.Leads ⟨i, query.jaccard (s.fieldFilter candidates[i].fields)⟩
      ((s.scoredFrom query candidates 0).filter (·.qualifies threshold)) := by
  refine ⟨List.mem_filter.2 ⟨mem_scoredFrom.2 ⟨i, hi, rfl⟩, ht⟩, fun x hx hne => ?_⟩
  obtain ⟨j, hj, rfl⟩ := mem_scoredFrom.1 (List.mem_filter.1 hx).1
  have hji : j ≠ i := fun h => hne (by subst h; rfl)
  -- earlier candidates score strictly lower; later ones lower or equal, behind on the index
  rcases Nat.lt_or_gt_of_ne hji with hlt | hgt
  · exact .inl (hg.lt_before j hlt)
  · rcases Binary64.lt_or_eq_of_le (hg.le_at j hj) with h | h
    · exact .inl h
    · exact .inr ⟨Binary64.eq_symm h, hgt⟩

theorem qualifying_eq_nil
    (ht : ¬threshold ≤ query.jaccard (s.fieldFilter candidates[i].fields)) :
    (s.scoredFrom query candidates 0).filter (·.qualifies threshold) = [] := by
  rw [List.filter_eq_nil_iff]
  intro x hx hq
  obtain ⟨j, hj, rfl⟩ := mem_scoredFrom.1 hx
  exact ht (Binary64.le_trans hq (hg.le_at j hj))

end Winner

theorem exists_firstGreatest (hne : candidates ≠ [])
    (hnan : ∀ c ∈ candidates, (query.jaccard (s.fieldFilter c.fields)).isNaN = false) :
    ∃ i, FirstGreatest (fun c => query.jaccard (s.fieldFilter c.fields)) candidates i := by
  have hr : Scored.Ranked (s.scoredFrom query candidates 0) := by
    refine ⟨fun x hx => ?_, ?_⟩
    · obtain ⟨j, hj, rfl⟩ := mem_scoredFrom.1 hx
      exact hnan _ (List.getElem_mem hj)
    · rw [scoredFrom_index]
      exact List.nodup_range'
  have hne' : s.scoredFrom query candidates 0 ≠ [] := by
    cases candidates with
    | nil => exact absurd rfl hne
    | cons c rest => simp [scoredFrom]
  obtain ⟨w, hw⟩ := Scored.exists_leads hr hne'
  obtain ⟨i, hi, rfl⟩ := mem_scoredFrom.1 hw.1
  -- the leader is ahead of every other score: higher, or equal at a later index
  have hahead : ∀ j (hj : j < candidates.length), j ≠ i →
      Scored.Ahead ⟨i, query.jaccard (s.fieldFilter candidates[i].fields)⟩
        ⟨j, query.jaccard (s.fieldFilter candidates[j].fields)⟩ := fun j hj hji =>
    hw.2 _ (mem_scoredFrom.2 ⟨j, hj, rfl⟩) fun h => hji (Scored.mk.inj h).1
  refine ⟨i, ⟨hi, fun j hj => ?_, fun j hji => ?_⟩⟩
  · by_cases hji : j = i
    · subst hji
      exact Binary64.le_refl (hnan _ (List.getElem_mem hj))
    · rcases hahead j hj hji with h | ⟨h, -⟩
      · exact Binary64.le_of_lt h
      · exact Binary64.le_of_eq (Binary64.eq_symm h)
  · rcases hahead j (by omega) (by omega) with h | ⟨-, h⟩
    · exact h
    · have hij : i < j := h
      omega

theorem respond_none (request : Request) :
    s.respond request candidates query none =
      ⟨false, .zero, request.providerId, [], query.toHex,
        ⟨request.queryFields.size, candidates.length, query.falsePositiveRate, none, none⟩⟩ := rfl

theorem respond_some (request : Request) {i : Nat} (hi : i < candidates.length) (sim : Binary64) :
    s.respond request candidates query (some ⟨i, sim⟩) =
      ⟨true, sim, request.providerId, s.matchedKeys query candidates[i], query.toHex,
        ⟨request.queryFields.size, candidates.length, query.falsePositiveRate,
          some candidates[i].id, some candidates[i].providerId⟩⟩ := by
  simp only [respond, Option.bind_some, List.getElem?_eq_getElem hi, Option.map_some]

theorem perform_fst_of_firstGreatest (request : Request) {i : Nat} (hi : i < candidates.length)
    (hg : FirstGreatest (fun c => (s.fieldFilter request.queryFields).jaccard (s.fieldFilter c.fields))
      candidates i)
    (ht : request.threshold ≤
      (s.fieldFilter request.queryFields).jaccard (s.fieldFilter candidates[i].fields))
    (elapsed : Nat) (m : Metrics) :
    ((s.perform request candidates elapsed).run m).1 =
      s.respond request candidates (s.fieldFilter request.queryFields)
        (some ⟨i, (s.fieldFilter request.queryFields).jaccard (s.fieldFilter candidates[i].fields)⟩) := by
  rw [perform_fst, (s.isBest_scan _ _ _).unique
    (show Scored.IsBest (some _) _ from s.leads_of_firstGreatest hi hg ht)]

/-- The answer to a request over candidates: the first greatest score among the candidates,
    reported with the winner's identity when it reaches the threshold, and no match when it
    does not or when there are no candidates. The threshold is not checked. -/
theorem perform_answer (request : Request) (candidates : List Record) (elapsed : Nat)
    (m : Metrics) :
    let query := s.fieldFilter request.queryFields
    let score := fun c : Record => query.jaccard (s.fieldFilter c.fields)
    let r := ((s.perform request candidates elapsed).run m).1
    r.providerId = request.providerId ∧ r.bloomFilterHex = query.toHex ∧
    r.metadata.queryFieldCount = request.queryFields.size ∧
    r.metadata.candidateCount = candidates.length ∧
    (candidates ≠ [] → ∃ i, FirstGreatest score candidates i) ∧
    (candidates = [] → r.matchFound = false ∧ r.confidence = .zero ∧ r.matchedFields = [] ∧
      r.metadata.matchedRecordId = none ∧ r.metadata.matchedProviderId = none) ∧
    ∀ i (hi : i < candidates.length), FirstGreatest score candidates i →
      (request.threshold ≤ score candidates[i] →
        r.matchFound = true ∧ r.confidence = score candidates[i] ∧
        request.threshold ≤ r.confidence ∧ r.confidence ≤ Binary64.one ∧
        r.metadata.matchedRecordId = some candidates[i].id ∧
        r.metadata.matchedProviderId = some candidates[i].providerId) ∧
      (¬request.threshold ≤ score candidates[i] →
        r.matchFound = false ∧ r.confidence = .zero ∧ r.matchedFields = [] ∧
        r.metadata.matchedRecordId = none ∧ r.metadata.matchedProviderId = none) := by
  intro query score r
  have hr : r = s.respond request candidates query
      ((s.scoredFrom query candidates 0).foldl (Scored.step request.threshold) none) :=
    s.perform_fst request candidates elapsed m
  have hbest := s.isBest_scan query request.threshold candidates
  -- every field of the answer but the winner's is read off the request and the query
  have hcommon : ∀ best, (s.respond request candidates query best).providerId = request.providerId ∧
      (s.respond request candidates query best).bloomFilterHex = query.toHex ∧
      (s.respond request candidates query best).metadata.queryFieldCount =
        request.queryFields.size ∧
      (s.respond request candidates query best).metadata.candidateCount = candidates.length := by
    intro best
    unfold respond
    split <;> exact ⟨rfl, rfl, rfl, rfl⟩
  obtain ⟨h1, h2, h3, h4⟩ := hcommon _
  rw [← hr] at h1 h2 h3 h4
  refine ⟨h1, h2, h3, h4, fun hne => exists_firstGreatest hne fun c _ =>
    (s.jaccard_fieldFilter_le_one _ c).1, fun hnil => ?_, fun i hi hg => ⟨fun ht => ?_, fun ht => ?_⟩⟩
  · subst hnil
    rw [hr]
    exact ⟨rfl, rfl, rfl, rfl, rfl⟩
  · have hw := Scored.IsBest.unique hbest
      (show Scored.IsBest (some _) _ from s.leads_of_firstGreatest hi hg ht)
    rw [hr, hw, respond_some request hi]
    exact ⟨rfl, rfl, ht, (s.jaccard_fieldFilter_le_one _ candidates[i]).2, rfl, rfl⟩
  · have hnone := Scored.IsBest.unique hbest
      (show Scored.IsBest none _ from s.qualifying_eq_nil hi hg ht)
    rw [hr, hnone, respond_none]
    exact ⟨rfl, rfl, rfl, rfl, rfl⟩

/-- Two candidates with the query's own fields score alike: at threshold zero the answer
    names the first of them. -/
theorem perform_answer_tie :
    let s : Service := ⟨⟨8, 1, "salt", .seededFnv, 64⟩, by decide⟩
    let F := FieldMap.ofList [("name", ⟨"name", .exact, "ada"⟩)]
    let candidates : List Record := [⟨"r1", "p1", F⟩, ⟨"r2", "p2", F⟩]
    let score := fun c : Record => (s.fieldFilter F).jaccard (s.fieldFilter c.fields)
    score candidates[1] = score candidates[0] ∧ FirstGreatest score candidates 0 ∧
      ((s.perform ⟨F, "p0", .zero⟩ candidates 7).run .zero).1.matchFound = true ∧
      ((s.perform ⟨F, "p0", .zero⟩ candidates 7).run .zero).1.metadata.matchedRecordId =
        some "r1" := by
  intro s F candidates score
  have hlen : candidates.length = 2 := rfl
  have hzero : Binary64.zero ≤ score candidates[0] := s.zero_le_jaccard_fieldFilter F _
  -- both candidates carry the query's fields, so both scores are the first one
  have hsame : ∀ j (hj : j < candidates.length), score candidates[j] = score candidates[0] := by
    intro j hj
    obtain rfl | rfl : j = 0 ∨ j = 1 := by omega
    · rfl
    · exact congrArg (fun x => (s.fieldFilter F).jaccard (s.fieldFilter x))
        (show candidates[1].fields = candidates[0].fields from rfl)
  have hg : FirstGreatest score candidates 0 := by
    refine ⟨by omega, fun j hj => ?_, fun j hj => absurd hj (Nat.not_lt_zero j)⟩
    rw [hsame j hj]
    exact Binary64.le_refl (Binary64.isNaN_right_of_le hzero)
  obtain ⟨hm, -, -, -, hid, -⟩ :=
    ((s.perform_answer ⟨F, "p0", .zero⟩ candidates 7 .zero).2.2.2.2.2.2 0 (by omega) hg).1 hzero
  exact ⟨hsame 1 (by omega), hg, hm, hid⟩

/-- The parallel scan is the sequential one, in its result and its metric updates, for
    every threshold; each way of combining the qualifying scores by `prefer`, in any order
    and under any bracketing, gives that result; and `prefer` is commutative, associative and
    idempotent on scores that are numbers at distinct indices. -/
theorem scanParallel_agrees (query : Filter.BloomFilter) (threshold : Binary64)
    (candidates : List Record) :
    s.scanParallel query threshold candidates = s.scanSequential query threshold candidates ∧
    (∀ (m : Metrics) (t : Bracketing Scored),
      t.leaves.Perm ((s.scoredFrom query candidates 0).filter (·.qualifies threshold)) →
      ((s.scanSequential query threshold candidates).run m).1 = some (t.reduce Scored.prefer)) ∧
    (∀ a b : Scored, Scored.Ranked [a, b] → a.prefer b = b.prefer a) ∧
    (∀ a b c : Scored, Scored.Ranked [a, b, c] → (a.prefer b).prefer c = a.prefer (b.prefer c)) ∧
    (∀ a : Scored, a.prefer a = a) ∧
    (∀ f g : Filter.BloomFilter, f.bytes.size < 2 ^ 50 → g.bytes.size < 2 ^ 50 →
      (f.jaccard g).isNaN = false) := by
  refine ⟨s.scanParallel_eq_scanSequential query threshold candidates, fun m t hperm => ?_,
    fun a b h => Scored.prefer_comm h, fun a b c h => Scored.prefer_assoc h, Scored.prefer_self,
    fun f g _ _ => Filter.BloomFilter.isNaN_jaccard f g⟩
  have hr : Scored.Ranked t.leaves :=
    (s.ranked_qualifying query threshold candidates).perm hperm.symm
  have hleads : Scored.IsBest (some (t.reduce Scored.prefer))
      ((s.scoredFrom query candidates 0).filter (·.qualifies threshold)) :=
    (Scored.leads_reduce t hr).perm hperm
  rw [scanSequential_eq, Recorded.run_bind, mapM_scoreAt_fst]
  exact (s.isBest_scan query threshold candidates).unique hleads

/-- Two candidates with equal scores at threshold zero: both scans give the first, and so does
    either bracketing of the two qualifying scores. -/
theorem scanParallel_agrees_tie :
    let s : Service := ⟨⟨8, 1, "salt", .seededFnv, 64⟩, by decide⟩
    let F := FieldMap.ofList [("name", ⟨"name", .exact, "ada"⟩)]
    let candidates : List Record := [⟨"r1", "p1", F⟩, ⟨"r2", "p2", F⟩]
    let a : Scored := ⟨0, (s.fieldFilter F).jaccard (s.fieldFilter F)⟩
    let b : Scored := ⟨1, (s.fieldFilter F).jaccard (s.fieldFilter F)⟩
    s.scanParallel (s.fieldFilter F) .zero candidates =
        s.scanSequential (s.fieldFilter F) .zero candidates ∧
      ((s.scanSequential (s.fieldFilter F) .zero candidates).run .zero).1 =
        some ((Bracketing.node (.leaf a) (.leaf b)).reduce Scored.prefer) ∧
      ((s.scanSequential (s.fieldFilter F) .zero candidates).run .zero).1 =
        some ((Bracketing.node (.leaf b) (.leaf a)).reduce Scored.prefer) ∧
      a.prefer b = a ∧ b.prefer a = a := by
  intro s F candidates a b
  have h := s.scanParallel_agrees (s.fieldFilter F) .zero candidates
  -- the score is read off the let, so that it is not evaluated on the way
  have hzero : Binary64.zero ≤ a.similarity := by
    dsimp only [a]
    exact s.zero_le_jaccard_fieldFilter F ⟨"r1", "p1", F⟩
  have hnan : a.similarity.isNaN = false := Binary64.isNaN_right_of_le hzero
  have hq : (s.scoredFrom (s.fieldFilter F) candidates 0).filter (·.qualifies .zero) = [a, b] := by
    simp only [scoredFrom, candidates, List.zipIdx_cons, List.zipIdx_nil, List.map_cons,
      List.map_nil, Nat.zero_add]
    rw [List.filter_eq_self]
    intro x hx
    obtain rfl | rfl : x = a ∨ x = b := by simpa using hx
    · exact hzero
    · exact hzero
  -- of equal scores the lower index is ahead
  have hahead : a.Ahead b := .inr ⟨Binary64.eq_refl hnan, Nat.zero_lt_one⟩
  exact ⟨h.1, h.2.1 .zero (.node (.leaf a) (.leaf b)) (hq ▸ List.Perm.refl _),
    h.2.1 .zero (.node (.leaf b) (.leaf a)) (hq ▸ List.Perm.swap a b []),
    Scored.prefer_of_not_ahead (Scored.ahead_asymm hahead), Scored.prefer_of_ahead hahead⟩

end Service

end RecordLinkage
