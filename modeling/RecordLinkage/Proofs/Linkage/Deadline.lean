import RecordLinkage.Proofs.Linkage.Counting

/-! # Scans under a deadline

The first candidate before which the clock has passed decides the scan: without one the
answer and updates are those of a scan without a deadline, and with one the error names it and
no match, miss or time is recorded.
-/

namespace RecordLinkage

namespace Service

variable (s : Service) (query : Filter.BloomFilter) (threshold : Binary64) {expired : Nat → Bool}

theorem scanFrom_of_find?_eq_none (i : Nat) (best : Option Scored) (candidates : List Record)
    (h : (List.range' i candidates.length).find? expired = none) :
    s.scanFrom query threshold expired i best candidates =
      s.scanFrom query threshold (fun _ => false) i best candidates := by
  induction candidates generalizing i best with
  | nil => rfl
  | cons c rest ih =>
    rw [List.length_cons, List.range'_succ, List.find?_cons] at h
    cases he : expired i with
    | true => simp [he] at h
    | false =>
      simp only [he] at h
      simp only [scanFrom, he, Bool.false_eq_true, if_false, ih _ _ h]

theorem scanFrom_of_find?_eq_some {j : Nat} (i : Nat) (best : Option Scored)
    (candidates : List Record) (h : (List.range' i candidates.length).find? expired = some j) :
    s.scanFrom query threshold expired i best candidates =
      ((candidates.take (j - i)).zipIdx i).mapM (s.scoreAt query) >>= fun _ => pure (.error j) := by
  induction candidates generalizing i best with
  | nil => simp at h
  | cons c rest ih =>
    rw [List.length_cons, List.range'_succ, List.find?_cons] at h
    cases he : expired i with
    | true =>
      simp only [he, Option.some.injEq] at h
      subst h
      simp [scanFrom, he]
    | false =>
      simp only [he] at h
      -- the clock passes at a later candidate, so the first one is scored
      have hj : i + 1 ≤ j := (List.mem_range'_1.1 (List.find?_range'_eq_some.1 h).2.1).1
      have htake : j - i = (j - (i + 1)) + 1 := by omega
      rw [htake, List.take_succ_cons, List.zipIdx_cons, List.mapM_cons]
      simp only [scanFrom, he, Bool.false_eq_true, if_false, ih _ _ h, scoreAt, bind_assoc, pure_bind]

variable (request : Request) (candidates : List Record) {elapsed : Nat}

theorem performWithin_of_find?_eq_none (h : (List.range candidates.length).find? expired = none) :
    s.performWithin request candidates expired elapsed =
      Except.ok <$> s.perform request candidates elapsed := by
  have hscan : ∀ q, s.scanFrom q request.threshold expired 0 none candidates =
      s.scanFrom q request.threshold (fun _ => false) 0 none candidates := fun q =>
    s.scanFrom_of_find?_eq_none q _ 0 none candidates (List.range_eq_range' ▸ h)
  unfold performWithin perform
  -- either way of scanning is the sequential scan
  simp only [hscan, scanFrom_never, scanParallel_eq_scanSequential, ite_self, scanSequential_eq,
    map_bind, bind_pure_comp, bind_map_left]

theorem performWithin_of_find?_eq_some {j : Nat}
    (h : (List.range candidates.length).find? expired = some j) :
    s.performWithin request candidates expired elapsed =
      s.filterFor request.queryFields >>= fun query =>
        (candidates.take j).zipIdx.mapM (s.scoreAt query) >>= fun _ =>
          modify (·.recordDeadlineExceeded j) >>= fun _ => pure (.error ⟨j, candidates.length⟩) := by
  have hscan : ∀ q, s.scanFrom q request.threshold expired 0 none candidates =
      (candidates.take j).zipIdx.mapM (s.scoreAt q) >>= fun _ => pure (.error j) := fun q => by
    rw [s.scanFrom_of_find?_eq_some q _ 0 none candidates (List.range_eq_range' ▸ h), Nat.sub_zero]
  unfold performWithin
  simp only [hscan, bind_assoc, pure_bind]

/-- What a scan abandoned before candidate `j` adds: the digests of the query and of the
    candidates before `j`, a filter for the query and for each of them, those candidates as
    compared, and one deadline. -/
def abortTally (j : Nat) : Tally :=
  Pi.single .fieldsHashed (request.queryFields.size +
      ((candidates.take j).map (·.fields.size)).sum) +
    Pi.single .filtersBuilt (1 + j) + Pi.single .bitsAllocated ((1 + j) * s.config.filterSize) +
    Pi.single .candidatesCompared j + Pi.single .deadlinesExceeded 1

theorem adds_performWithin_of_find?_eq_some {j : Nat}
    (h : (List.range candidates.length).find? expired = some j) :
    (s.performWithin request candidates expired elapsed).Adds (s.abortTally request candidates j) := by
  have hj : (candidates.take j).length = j :=
    List.length_take_of_le (List.mem_range.1 (List.find?_range_eq_some.1 h).2.1).le
  rw [s.performWithin_of_find?_eq_some request candidates h]
  refine ((s.adds_filterFor _).bind _ fun _ => (s.adds_mapM_scoreAt _ _ 0).bind _ fun _ =>
    (Metrics.adds_recordDeadlineExceeded j).bind_pure).congr ?_
  funext k
  cases k <;> simp [abortTally, filterTally, scoringTally, hj, Nat.add_mul]

theorem abortTally_scan (j : Nat) :
    s.abortTally request candidates j .matchesFound = 0 ∧
      s.abortTally request candidates j .matchesMissed = 0 ∧
      s.abortTally request candidates j .scanTimeNs = 0 := by
  simp [abortTally]

theorem perform_nil_fst (m : Metrics) :
    ((s.perform request [] elapsed).run m).1.matchFound = false := by
  rw [perform_fst]
  rfl

/-- What a linkage with a deadline returns, for every clock: with a clock that never passes,
    the answer and updates of the linkage without one; an answer only when no candidate was
    skipped; otherwise an error at the first candidate before which the clock had passed,
    recording no match, miss or time. A zero budget fails at the first candidate. -/
theorem performWithin_outcome (request : Request) (candidates : List Record)
    (expired : Nat → Bool) (elapsed : Nat) (m : Metrics) :
    let within := (s.performWithin request candidates expired elapsed).run m
    let complete := (s.perform request candidates elapsed).run m
    ((∀ j < candidates.length, expired j = false) → within = (.ok complete.1, complete.2)) ∧
    (∀ r, within.1 = .ok r → r = complete.1 ∧ ∀ j < candidates.length, expired j = false) ∧
    (∀ e, within.1 = .error e → e.total = candidates.length ∧ e.scanned < e.total ∧
      expired e.scanned = true ∧ (∀ k < e.scanned, expired k = false) ∧
      within.2.matchesFound = m.matchesFound ∧ within.2.matchesMissed = m.matchesMissed ∧
      within.2.scanTimeNs = m.scanTimeNs) ∧
    (candidates = [] → ∃ r, within.1 = .ok r ∧ r.matchFound = false) ∧
    (candidates ≠ [] → expired 0 = true → within.1 = .error ⟨0, candidates.length⟩) := by
  intro within complete
  -- the outcome follows the first candidate before which the clock has passed
  cases hfind : (List.range candidates.length).find? expired with
  | none =>
    have hrun : within = (.ok complete.1, complete.2) := by
      show (s.performWithin request candidates expired elapsed).run m = _
      rw [s.performWithin_of_find?_eq_none request candidates hfind]
      rfl
    have hnever : ∀ j < candidates.length, expired j = false := fun j hj =>
      Bool.eq_false_iff.2 (List.find?_eq_none.1 hfind j (List.mem_range.2 hj))
    refine ⟨fun _ => hrun, fun r hr => ?_, fun e he => ?_, fun hnil => ?_, fun hne h0 => ?_⟩
    · rw [hrun] at hr
      exact ⟨(Except.ok.inj hr).symm, hnever⟩
    · rw [hrun] at he
      cases he
    · subst hnil
      exact ⟨complete.1, by rw [hrun], s.perform_nil_fst request m⟩
    · have hpos : 0 < candidates.length := List.length_pos_iff.2 hne
      rw [hnever 0 hpos] at h0
      cases h0
  | some j =>
    obtain ⟨hj, hmem, hbefore⟩ := List.find?_range_eq_some.1 hfind
    have hjlt : j < candidates.length := List.mem_range.1 hmem
    have hval : within.1 = .error ⟨j, candidates.length⟩ := by
      show ((s.performWithin request candidates expired elapsed).run m).1 = _
      rw [s.performWithin_of_find?_eq_some request candidates hfind]
      rfl
    have hadds : (s.performWithin request candidates expired elapsed).Adds
        (s.abortTally request candidates j) :=
      s.adds_performWithin_of_find?_eq_some request candidates hfind
    obtain ⟨hfound, hmissed, htime⟩ := s.abortTally_scan request candidates j
    refine ⟨fun hnever => ?_, fun r hr => ?_, fun e he => ?_, fun hnil => ?_, fun hne h0 => ?_⟩
    · rw [hnever j hjlt] at hj
      cases hj
    · rw [hval] at hr
      cases hr
    · rw [hval] at he
      cases he
      refine ⟨rfl, hjlt, hj, fun k hk => by simpa using hbefore k hk, ?_, ?_, ?_⟩
      · simpa [Metrics.get, hfound] using hadds m .matchesFound
      · simpa [Metrics.get, hmissed] using hadds m .matchesMissed
      · simpa [Metrics.get, htime] using hadds m .scanTimeNs
    · subst hnil
      simp at hfind
    · -- a clock passed before the first candidate is passed first there
      obtain rfl : j = 0 := by
        by_contra hj0
        simpa [h0] using hbefore 0 (Nat.pos_of_ne_zero hj0)
      exact hval

/-- Two candidates under three clocks: a zero budget gives the error at the first, a clock
    that passes before the second gives the error there, and a clock that never passes gives
    the answer and the updates of the linkage without a deadline. -/
theorem performWithin_outcome_two_clocks :
    let s : Service := ⟨⟨8, 1, "salt", .seededFnv, 64⟩, by decide⟩
    let F := FieldMap.ofList [("name", ⟨"name", .exact, "ada"⟩)]
    let request : Request := ⟨F, "p0", .zero⟩
    let candidates : List Record := [⟨"r1", "p1", F⟩, ⟨"r2", "p2", F⟩]
    let second := fun j : Nat => decide (1 ≤ j)
    ((s.performWithin request candidates (instantClock 0) 7).run .zero).1 = .error ⟨0, 2⟩ ∧
    ((s.performWithin request candidates second 7).run .zero).1 = .error ⟨1, 2⟩ ∧
    (∃ r, ((s.performWithin request [] (instantClock 0) 7).run .zero).1 = .ok r ∧
      r.matchFound = false) ∧
    (s.performWithin request candidates (instantClock 5) 7).run .zero =
      (.ok ((s.perform request candidates 7).run .zero).1,
        ((s.perform request candidates 7).run .zero).2) := by
  intro s F request candidates second
  have hlen : candidates.length = 2 := rfl
  have hsecond := s.performWithin_outcome request candidates second 7 .zero
  -- the clock has passed before candidate 1, so there is no answer, and the error is at the
  -- first candidate before which it has passed
  have herror : ((s.performWithin request candidates second 7).run .zero).1 = .error ⟨1, 2⟩ := by
    cases hw : ((s.performWithin request candidates second 7).run .zero).1 with
    | ok r =>
      have h1 := (hsecond.2.1 r hw).2 1 (by decide)
      exact absurd h1 (by decide)
    | error e =>
      obtain ⟨htotal, -, hpassed, hbefore, -⟩ := hsecond.2.2.1 e hw
      have hscanned : e.scanned = 1 := by
        have h1 := hbefore 1
        simp only [second, decide_eq_true_eq, decide_eq_false_iff_not] at hpassed h1
        omega
      rw [hlen] at htotal
      obtain ⟨scanned, total⟩ := e
      dsimp only at htotal hscanned
      rw [htotal, hscanned]
  exact ⟨(s.performWithin_outcome request candidates (instantClock 0) 7 .zero).2.2.2.2
      (List.cons_ne_nil _ _) rfl, herror,
    (s.performWithin_outcome request [] (instantClock 0) 7 .zero).2.2.2.1 rfl,
    (s.performWithin_outcome request candidates (instantClock 5) 7 .zero).1 fun _ _ => rfl⟩

end Service

end RecordLinkage
