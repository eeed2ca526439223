import RecordLinkage.Proofs.Linkage.Normalized

/-! # The fields that explain a match

The query filter contains the digest of every query field, so a match names every key of the
winner whose field agrees with a query field, in increasing key order.
-/

namespace RecordLinkage

namespace Service

open Filter.BloomFilter

variable (s : Service)

/-- The two inserts of a field map's entry: the digest, and the digest tagged with the key. -/
def entrySteps (entry : String × Field) : List Step :=
  [.insert (entry.2.digest s.config.salt), .insert (entry.1 ++ ":" ++ entry.2.digest s.config.salt)]

theorem foldl_insertEntry_eq_run (entries : List (String × Field)) (f : Filter.BloomFilter) :
    entries.foldl s.insertEntry f = run f (entries.flatMap s.entrySteps) := by
  induction entries generalizing f with
  | nil => rfl
  | cons e rest ih =>
    rw [List.foldl_cons, ih, List.flatMap_cons, run_append]
    rfl

theorem contains_fieldFilter {fields : FieldMap} {k : String} {q : Field}
    (h : (k, q) ∈ fields.entries) : (s.fieldFilter fields).contains (q.digest s.config.salt) = true := by
  rw [fieldFilter, foldl_insertEntry_eq_run]
  apply (WellFormed.empty _ _ _).contains_run
  intro p hp
  refine ⟨.insert (q.digest s.config.salt), List.mem_flatMap.2 ⟨(k, q), h, ?_⟩, decide_eq_true hp⟩
  simp [entrySteps]

theorem matchedKeys_eq (query : Filter.BloomFilter) (r : Record) :
    s.matchedKeys query r =
      (r.fields.entries.filter fun e => query.contains (e.2.digest s.config.salt)).map Prod.fst := by
  unfold matchedKeys
  induction r.fields.entries with
  | nil => rfl
  | cons e rest ih =>
    obtain ⟨k, f⟩ := e
    by_cases hc : query.contains (f.digest s.config.salt) = true <;> simp [hc, ih]

theorem matchedKeys_sublist (query : Filter.BloomFilter) (r : Record) :
    (s.matchedKeys query r).Sublist r.fields.keys := by
  rw [matchedKeys_eq]
  exact List.filter_sublist.map Prod.fst

theorem sorted_matchedKeys (query : Filter.BloomFilter) (r : Record) :
    (s.matchedKeys query r).Pairwise (· < ·) :=
  r.fields.sorted.sublist (s.matchedKeys_sublist query r)

theorem mem_matchedKeys_of_agree {query : FieldMap} {r : Record} {key k : String} {f q : Field}
    (hf : (key, f) ∈ r.fields.entries) (hq : (k, q) ∈ query.entries) (hname : q.name = f.name)
    (hnormalized : q.normalized = f.normalized) : key ∈ s.matchedKeys (s.fieldFilter query) r := by
  rw [matchedKeys_eq, List.mem_map]
  refine ⟨(key, f), List.mem_filter.2 ⟨hf, ?_⟩, rfl⟩
  rw [← Field.digest_congr hname hnormalized]
  exact s.contains_fieldFilter hq

variable {s}

theorem matchedFields_respond_of_not_found {request : Request} {candidates : List Record}
    {query : Filter.BloomFilter} {best : Option Scored}
    (h : (s.respond request candidates query best).matchFound = false) :
    (s.respond request candidates query best).matchedFields = [] := by
  unfold respond at h ⊢
  split
  · next heq => rw [heq] at h; cases h
  · rfl

theorem respond_of_found {request : Request} {candidates : List Record}
    {query : Filter.BloomFilter} {best : Option Scored}
    (h : (s.respond request candidates query best).matchFound = true) :
    ∃ i, ∃ hi : i < candidates.length,
      (s.respond request candidates query best).metadata.matchedRecordId = some candidates[i].id ∧
      (s.respond request candidates query best).metadata.matchedProviderId =
        some candidates[i].providerId ∧
      (s.respond request candidates query best).matchedFields = s.matchedKeys query candidates[i] := by
  cases best with
  | none => cases h
  | some b =>
    by_cases hb : b.index < candidates.length
    · have hsome : (some b : Option Scored) = some ⟨b.index, b.similarity⟩ := rfl
      rw [hsome, respond_some request hb]
      exact ⟨b.index, hb, rfl, rfl, rfl⟩
    · simp [respond, List.getElem?_eq_none (Nat.le_of_not_lt hb)] at h

variable (s)

/-- The keys a matching answer names: those of the winner whose field digest the query filter
    contains, in the winner's key order, which increases strictly, so no key is named twice; every key whose field has the name and normalized value
    of some query field is among them. An answer without a match names no key. -/
theorem perform_matchedFields (request : Request) (candidates : List Record) (elapsed : Nat)
    (m : Metrics) :
    let query := s.fieldFilter request.queryFields
    let r := ((s.perform request candidates elapsed).run m).1
    (r.matchFound = false → r.matchedFields = []) ∧
    (r.matchFound = true → ∃ i, ∃ hi : i < candidates.length,
      r.metadata.matchedRecordId = some candidates[i].id ∧
      r.metadata.matchedProviderId = some candidates[i].providerId ∧
      r.matchedFields = (candidates[i].fields.entries.filter fun e =>
        query.contains (e.2.digest s.config.salt)).map Prod.fst ∧
      r.matchedFields.Pairwise (· < ·) ∧ r.matchedFields.Nodup ∧
      ∀ key f, (key, f) ∈ candidates[i].fields.entries →
        (∃ k q, (k, q) ∈ request.queryFields.entries ∧ q.name = f.name ∧
          q.normalized = f.normalized) →
        key ∈ r.matchedFields) := by
  intro query r
  have hr : r = s.respond request candidates query
      ((s.scoredFrom query candidates 0).foldl (Scored.step request.threshold) none) :=
    s.perform_fst request candidates elapsed m
  refine ⟨fun h => ?_, fun h => ?_⟩
  · rw [hr] at h ⊢
    exact matchedFields_respond_of_not_found h
  · rw [hr] at h
    obtain ⟨i, hi, hid, hprovider, hkeys⟩ := respond_of_found h
    rw [← hr] at hid hprovider hkeys
    have hpair := s.sorted_matchedKeys query candidates[i]
    rw [← hkeys] at hpair
    refine ⟨i, hi, hid, hprovider, hkeys.trans (s.matchedKeys_eq _ _), hpair,
      hpair.imp ne_of_lt, fun key f hf ⟨k, q, hq, hname, hnormalized⟩ => ?_⟩
    rw [hkeys]
    exact s.mem_matchedKeys_of_agree hf hq hname hnormalized

/-- A record that repeats the query's one field is matched, and its key is named. -/
theorem perform_matchedFields_ada :
    let s : Service := ⟨⟨8, 1, "salt", .seededFnv, 64⟩, by decide⟩
    let F := FieldMap.ofList [("name", ⟨"name", .exact, "ada"⟩)]
    let request : Request := ⟨F, "p0", Binary64.one⟩
    let c : Record := ⟨"r1", "p1", F⟩
    ((s.perform request [c] 0).run .zero).1.matchFound = true ∧
      "name" ∈ ((s.perform request [c] 0).run .zero).1.matchedFields := by
  intro s F request c
  have hentry : ("name", (⟨"name", .exact, "ada"⟩ : Field)) ∈ F.entries := List.mem_singleton_self _
  have hone := s.jaccard_fieldFilter_self (List.ne_nil_of_mem hentry)
  obtain ⟨hfound, -, -⟩ := s.perform_of_score_eq_one request (show 0 < [c].length by decide) hone
    (Binary64.le_refl (by decide)) 0 .zero
  obtain ⟨i, hi, -, -, -, -, -, hall⟩ := (s.perform_matchedFields request [c] 0 .zero).2 hfound
  obtain rfl : i = 0 := by simpa using hi
  exact ⟨hfound, hall _ _ hentry ⟨_, _, hentry, rfl, rfl⟩⟩

end Service

end RecordLinkage
