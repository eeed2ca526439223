import Mathlib.Data.List.Sort
import Mathlib.Data.String.Basic
import RecordLinkage.Proofs.Filter.Counts
import RecordLinkage.Proofs.Linkage.Perform

/-! # Filters see normalized values

A field enters a filter through its name, normalized value and key only, so field maps that
agree on these give the same filter and the same answers; a candidate that agrees with the
query scores one.
-/

namespace RecordLinkage

namespace FieldMap

/-- Entries under the same key, whose fields have the same name and normalized value. -/
def EntryAgree (a b : String × Field) : Prop :=
  a.1 = b.1 ∧ a.2.name = b.2.name ∧ a.2.normalized = b.2.normalized

/-- The same keys in order, with fields of the same name and normalized value under each. -/
def Agree (m m' : FieldMap) : Prop :=
  List.Forall₂ EntryAgree m.entries m'.entries

theorem forall₂_of_keys_eq {l l' : List (String × Field)} (hkeys : l.map Prod.fst = l'.map Prod.fst)
    (hfields : ∀ k f f', (k, f) ∈ l → (k, f') ∈ l' → f.name = f'.name ∧ f.normalized = f'.normalized) :
    List.Forall₂ EntryAgree l l' := by
  induction l generalizing l' with
  | nil =>
    rw [List.map_nil, eq_comm, List.map_eq_nil_iff] at hkeys
    subst hkeys
    exact .nil
  | cons a rest ih =>
    cases l' with
    | nil => simp at hkeys
    | cons b rest' =>
      simp only [List.map_cons, List.cons.injEq] at hkeys
      obtain ⟨hab, hrest⟩ := hkeys
      have hb : (a.1, b.2) ∈ b :: rest' := by
        rw [hab]
        exact List.mem_cons_self
      refine .cons ⟨hab, hfields a.1 a.2 b.2 List.mem_cons_self hb⟩
        (ih hrest fun k f f' hf hf' => hfields k f f' (List.mem_cons_of_mem _ hf) (List.mem_cons_of_mem _ hf'))

theorem agree_of_keys {m m' : FieldMap} (hkeys : ∀ k, k ∈ m.keys ↔ k ∈ m'.keys)
    (hfields : ∀ k f f', (k, f) ∈ m.entries → (k, f') ∈ m'.entries →
      f.name = f'.name ∧ f.normalized = f'.normalized) : m.Agree m' :=
  forall₂_of_keys_eq (List.Pairwise.eq_of_mem_iff m.sorted m'.sorted hkeys) hfields

theorem Agree.size_eq {m m' : FieldMap} (h : m.Agree m') : m.size = m'.size :=
  List.Forall₂.length_eq h

theorem Agree.refl (m : FieldMap) : m.Agree m :=
  List.forall₂_same.2 fun _ _ => ⟨rfl, rfl, rfl⟩

end FieldMap

theorem Field.digest_congr {f f' : Field} (hname : f.name = f'.name)
    (hnormalized : f.normalized = f'.normalized) (salt : String) : f.digest salt = f'.digest salt := by
  unfold Field.digest Field.digestInput
  rw [hname, hnormalized]

namespace Service

variable (s : Service)

theorem insertEntry_congr {a b : String × Field} (h : FieldMap.EntryAgree a b)
    (f : Filter.BloomFilter) : s.insertEntry f a = s.insertEntry f b := by
  unfold insertEntry
  rw [h.1, Field.digest_congr h.2.1 h.2.2]

theorem fieldFilter_congr {m m' : FieldMap} (h : m.Agree m') : s.fieldFilter m = s.fieldFilter m' := by
  unfold fieldFilter
  unfold FieldMap.Agree at h
  generalize s.emptyFilter = f
  generalize m.entries = l at h ⊢
  generalize m'.entries = l' at h ⊢
  induction h generalizing f with
  | nil => rfl
  | cons hab _ ih => rw [List.foldl_cons, List.foldl_cons, s.insertEntry_congr hab, ih]

theorem inserted_foldl_insertEntry (entries : List (String × Field)) (f : Filter.BloomFilter) :
    (entries.foldl s.insertEntry f).inserted = f.inserted + 2 * entries.length := by
  induction entries generalizing f with
  | nil => rfl
  | cons e rest ih =>
    rw [List.foldl_cons, ih]
    simp only [insertEntry, Filter.BloomFilter.inserted_insert, List.length_cons]
    omega

theorem inserted_fieldFilter (m : FieldMap) : (s.fieldFilter m).inserted = 2 * m.size := by
  rw [fieldFilter, inserted_foldl_insertEntry, FieldMap.size,
    show s.emptyFilter.inserted = 0 from rfl, Nat.zero_add]

theorem matchedKeys_congr (query : Filter.BloomFilter) {r r' : Record}
    (h : r.fields.Agree r'.fields) : s.matchedKeys query r = s.matchedKeys query r' := by
  unfold matchedKeys
  unfold FieldMap.Agree at h
  generalize r.fields.entries = l at h ⊢
  generalize r'.fields.entries = l' at h ⊢
  induction h with
  | nil => rfl
  | @cons a b _ _ hab _ ih =>
    obtain ⟨ka, fa⟩ := a
    obtain ⟨kb, fb⟩ := b
    obtain ⟨hk, hname, hnormalized⟩ := hab
    dsimp only at hk hname hnormalized
    subst hk
    simp only [List.filterMap_cons, ih, Field.digest_congr hname hnormalized]

/-- Candidates that differ only in agreeing field maps. -/
def RecordAgree (c c' : Record) : Prop :=
  c.id = c'.id ∧ c.providerId = c'.providerId ∧ c.fields.Agree c'.fields

theorem scoredFrom_congr (query : Filter.BloomFilter) {candidates candidates' : List Record}
    (h : List.Forall₂ RecordAgree candidates candidates') (i : Nat) :
    s.scoredFrom query candidates i = s.scoredFrom query candidates' i := by
  induction h generalizing i with
  | nil => rfl
  | cons hc _ ih =>
    have hrest := ih (i + 1)
    simp only [scoredFrom, List.zipIdx_cons, List.map_cons] at hrest ⊢
    rw [hrest, s.fieldFilter_congr hc.2.2]

theorem respond_congr {request request' : Request} {candidates candidates' : List Record}
    (hsize : request.queryFields.size = request'.queryFields.size)
    (hprovider : request.providerId = request'.providerId)
    (h : List.Forall₂ RecordAgree candidates candidates') (query : Filter.BloomFilter)
    (best : Option Scored) :
    s.respond request candidates query best = s.respond request' candidates' query best := by
  have hlen := h.length_eq
  cases best with
  | none => simp [respond, hsize, hprovider, hlen]
  | some b =>
    by_cases hb : b.index < candidates.length
    · -- the winner's record and its counterpart agree
      have hb' : b.index < candidates'.length := hlen ▸ hb
      have hc : RecordAgree candidates[b.index] candidates'[b.index] :=
        (List.forall₂_iff_get.1 h).2 b.index hb hb'
      have hsome : (some b : Option Scored) = some ⟨b.index, b.similarity⟩ := rfl
      rw [hsome, respond_some request hb, respond_some request' hb', hsize, hprovider, hlen, hc.1,
        hc.2.1, s.matchedKeys_congr query hc.2.2]
    · have hb' : ¬b.index < candidates'.length := hlen ▸ hb
      simp [respond, hsize, hprovider, hlen, List.getElem?_eq_none (Nat.le_of_not_lt hb),
        List.getElem?_eq_none (Nat.le_of_not_lt hb')]

theorem perform_congr {request request' : Request} {candidates candidates' : List Record}
    (hquery : request.queryFields.Agree request'.queryFields)
    (hprovider : request.providerId = request'.providerId)
    (hthreshold : request.threshold = request'.threshold)
    (h : List.Forall₂ RecordAgree candidates candidates') (elapsed elapsed' : Nat) (m m' : Metrics) :
    ((s.perform request candidates elapsed).run m).1 =
      ((s.perform request' candidates' elapsed').run m').1 := by
  rw [perform_fst, perform_fst, s.fieldFilter_congr hquery, s.scoredFrom_congr _ h, hthreshold]
  exact s.respond_congr hquery.size_eq hprovider h _ _

theorem forall₂_set_fields (candidates : List Record) {i : Nat} (hi : i < candidates.length)
    {fields : FieldMap} (h : candidates[i].fields.Agree fields) :
    List.Forall₂ RecordAgree candidates (candidates.set i { candidates[i] with fields := fields }) := by
  rw [List.forall₂_iff_get]
  refine ⟨(List.length_set).symm, fun j hj hj' => ?_⟩
  simp only [List.get_eq_getElem, List.getElem_set]
  split
  · next hij =>
    subst hij
    exact ⟨rfl, rfl, h⟩
  · exact ⟨rfl, rfl, FieldMap.Agree.refl _⟩

theorem bit_foldl_insertEntry (entries : List (String × Field)) {f : Filter.BloomFilter}
    (hf : f.WellFormed) {i : Nat} (h : f.bit i = true) :
    (entries.foldl s.insertEntry f).bit i = true := by
  induction entries generalizing f with
  | nil => exact h
  | cons e rest ih =>
    have hfirst : (s.insertEntry f e).bit i = true := by
      simp only [insertEntry, (hf.insert _).bit_insert, hf.bit_insert, h, Bool.true_or]
    exact ih ((hf.insert _).insert _) hfirst

theorem exists_bit_fieldFilter {m : FieldMap} (hne : m.entries ≠ []) :
    ∃ i, (s.fieldFilter m).bit i = true := by
  obtain ⟨e, rest, he⟩ := List.exists_cons_of_ne_nil hne
  obtain ⟨hsize, -, hhashes, -⟩ := Filter.validParameters_iff.1 s.validParameters_config
  have hwf : s.emptyFilter.WellFormed := Filter.BloomFilter.WellFormed.empty _ _ _
  have hlen : 0 < (s.emptyFilter.positionsOf (e.2.digest s.config.salt)).length := by
    rw [Filter.BloomFilter.positionsOf, Filter.Scheme.length_positions,
      if_neg (show s.emptyFilter.size ≠ 0 from Nat.one_le_iff_ne_zero.1 hsize)]
    exact hhashes
  obtain ⟨p, hp⟩ := List.exists_mem_of_length_pos hlen
  have hfirst : (s.insertEntry s.emptyFilter e).bit p = true := by
    simp only [insertEntry, (hwf.insert _).bit_insert, hwf.bit_insert, decide_eq_true hp,
      Bool.or_true, Bool.true_or]
  refine ⟨p, ?_⟩
  rw [fieldFilter, he, List.foldl_cons]
  exact s.bit_foldl_insertEntry rest ((hwf.insert _).insert _) hfirst

theorem jaccard_fieldFilter_self {m : FieldMap} (hne : m.entries ≠ []) :
    (s.fieldFilter m).jaccard (s.fieldFilter m) = Binary64.one :=
  Filter.BloomFilter.jaccard_self (s.exists_bit_fieldFilter hne) (s.bytes_size_fieldFilter_lt m)

theorem perform_of_score_eq_one (request : Request) {candidates : List Record} {i : Nat}
    (hi : i < candidates.length)
    (hone : (s.fieldFilter request.queryFields).jaccard (s.fieldFilter candidates[i].fields) =
      Binary64.one)
    (ht : request.threshold ≤ Binary64.one) (elapsed : Nat) (m : Metrics) :
    let score := fun c : Record => (s.fieldFilter request.queryFields).jaccard (s.fieldFilter c.fields)
    let r := ((s.perform request candidates elapsed).run m).1
    r.matchFound = true ∧ r.confidence.eq Binary64.one = true ∧
      ((∀ j (hj : j < i), (score candidates[j]).eq Binary64.one = false) →
        r.confidence = Binary64.one ∧ r.metadata.matchedRecordId = some candidates[i].id ∧
        r.metadata.matchedProviderId = some candidates[i].providerId) := by
  intro score r
  have hle : ∀ c, score c ≤ Binary64.one := fun c => (s.jaccard_fieldFilter_le_one _ c).2
  -- the first greatest score is at least the candidate's, so it is one as well
  obtain ⟨w, hg⟩ := exists_firstGreatest (List.ne_nil_of_length_pos (Nat.zero_lt_of_lt hi))
    fun c _ => (s.jaccard_fieldFilter_le_one _ c).1
  have hw : w < candidates.length := hg.lt_length
  have hge : Binary64.one ≤ score candidates[w] := hone ▸ hg.le_at i hi
  have hrw : r = s.respond request candidates (s.fieldFilter request.queryFields)
      (some ⟨w, score candidates[w]⟩) :=
    perform_fst_of_firstGreatest request hw hg (Binary64.le_trans ht hge) elapsed m
  rw [respond_some request hw] at hrw
  refine ⟨by rw [hrw], by rw [hrw]; exact Binary64.eq_of_le_of_le (hle _) hge, fun hbefore => ?_⟩
  -- with no earlier score of one, the candidate is itself the first greatest
  have hscore : score candidates[i] = Binary64.one := hone
  have hgi : FirstGreatest score candidates i := by
    refine ⟨hi, fun j hj => hscore ▸ hle _, fun j hj => ?_⟩
    rcases Binary64.lt_or_eq_of_le (hle candidates[j]) with h | h
    · exact hscore ▸ h
    · rw [hbefore j hj] at h
      cases h
  have hri : r = s.respond request candidates (s.fieldFilter request.queryFields)
      (some ⟨i, score candidates[i]⟩) :=
    perform_fst_of_firstGreatest request hi hgi (hone ▸ ht) elapsed m
  rw [hri, respond_some request hi]
  exact ⟨hone, rfl, rfl⟩

/-- Field maps with the same keys whose fields agree in name and normalized value give the
    same filter and the same answers, whatever their kinds and raw values. A candidate that so
    agrees with a non-empty query scores one, and is matched at every threshold up to one,
    winning unless an earlier candidate scores one too. -/
theorem fieldFilter_normalized (F F' : FieldMap)
    (hkeys : ∀ k, k ∈ F.keys ↔ k ∈ F'.keys)
    (hfields : ∀ k f f', (k, f) ∈ F.entries → (k, f') ∈ F'.entries →
      f.name = f'.name ∧ f.normalized = f'.normalized) :
    (∀ m, ((s.filterFor F).run m).1 = ((s.filterFor F').run m).1 ∧
      ((s.filterFor F).run m).1.inserted = 2 * F.size) ∧
    (∀ (request : Request) candidates elapsed m, request.queryFields = F →
      ((s.perform request candidates elapsed).run m).1 =
        ((s.perform { request with queryFields := F' } candidates elapsed).run m).1) ∧
    (∀ request (candidates : List Record) i (hi : i < candidates.length) elapsed m,
      candidates[i].fields = F →
      ((s.perform request candidates elapsed).run m).1 =
        ((s.perform request (candidates.set i { candidates[i] with fields := F' }) elapsed).run
          m).1) ∧
    (∀ (request : Request) (candidates : List Record) i (hi : i < candidates.length) elapsed m,
      request.queryFields = F → candidates[i].fields = F' → F.entries ≠ [] →
      let score := fun c : Record =>
        (s.fieldFilter request.queryFields).jaccard (s.fieldFilter c.fields)
      let r := ((s.perform request candidates elapsed).run m).1
      score candidates[i] = Binary64.one ∧
      (request.threshold ≤ Binary64.one → r.matchFound = true ∧
        r.confidence.eq Binary64.one = true ∧
        ((∀ j (hj : j < i), (score candidates[j]).eq Binary64.one = false) →
          r.confidence = Binary64.one ∧ r.metadata.matchedRecordId = some candidates[i].id ∧
          r.metadata.matchedProviderId = some candidates[i].providerId))) := by
  have hagree : F.Agree F' := FieldMap.agree_of_keys hkeys hfields
  have hfilter : s.fieldFilter F = s.fieldFilter F' := s.fieldFilter_congr hagree
  have hsame : ∀ candidates : List Record, List.Forall₂ RecordAgree candidates candidates :=
    fun _ => List.forall₂_same.2 fun c _ => ⟨rfl, rfl, FieldMap.Agree.refl c.fields⟩
  refine ⟨fun m => ⟨?_, ?_⟩, fun request candidates elapsed m hq => ?_,
    fun request candidates i hi elapsed m hc => ?_, fun request candidates i hi elapsed m hq hc hne => ?_⟩
  · rw [filterFor_fst, filterFor_fst, hfilter]
  · rw [filterFor_fst, inserted_fieldFilter]
  · have hquery : request.queryFields.Agree ({ request with queryFields := F' } : Request).queryFields :=
      hq ▸ hagree
    exact s.perform_congr hquery rfl rfl (hsame candidates) elapsed elapsed m m
  · exact s.perform_congr (FieldMap.Agree.refl _) rfl rfl
      (forall₂_set_fields candidates hi (hc ▸ hagree)) elapsed elapsed m m
  · -- the candidate's map has the query's filter
    have hone : (s.fieldFilter request.queryFields).jaccard (s.fieldFilter candidates[i].fields) =
        Binary64.one := by
      rw [hq, hc, ← hfilter]
      exact s.jaccard_fieldFilter_self hne
    exact ⟨hone, fun ht => s.perform_of_score_eq_one request hi hone ht elapsed m⟩

/-- A name given exactly as " Ada" and one given fuzzily as "ada" both normalize to "ada":
    either map gives the same filter, and a query with the one matches a candidate with the
    other at threshold one, with confidence one. -/
theorem fieldFilter_normalized_ada :
    let s : Service := ⟨⟨8, 1, "salt", .seededFnv, 64⟩, by decide⟩
    let F := FieldMap.ofList [("name", ⟨"name", .exact, " Ada"⟩)]
    let F' := FieldMap.ofList [("name", ⟨"name", .fuzzy, "ada"⟩)]
    let request : Request := ⟨F, "p0", Binary64.one⟩
    let c : Record := ⟨"r1", "p1", F'⟩
    F.keys = F'.keys ∧ ((s.filterFor F).run .zero).1 = ((s.filterFor F').run .zero).1 ∧
      ((s.perform request [c] 0).run .zero).1.matchFound = true ∧
      ((s.perform request [c] 0).run .zero).1.confidence = Binary64.one := by
  intro s F F' request c
  have hkeys : F.keys = F'.keys := rfl
  have hF : F.entries = [("name", ⟨"name", .exact, " Ada"⟩)] := rfl
  have hF' : F'.entries = [("name", ⟨"name", .fuzzy, "ada"⟩)] := rfl
  have hfields : ∀ k f f', (k, f) ∈ F.entries → (k, f') ∈ F'.entries →
      f.name = f'.name ∧ f.normalized = f'.normalized := by
    intro k f f' hf hf'
    rw [hF, List.mem_singleton, Prod.mk.injEq] at hf
    rw [hF', List.mem_singleton, Prod.mk.injEq] at hf'
    obtain ⟨-, rfl⟩ := hf
    obtain ⟨-, rfl⟩ := hf'
    exact ⟨rfl, by decide⟩
  obtain ⟨hfilter, -, -, hmatch⟩ := s.fieldFilter_normalized F F' (fun k => by rw [hkeys]) hfields
  obtain ⟨-, hwin⟩ := hmatch request [c] 0 (by decide) 0 .zero rfl rfl
    (by rw [hF]; exact List.cons_ne_nil _ _)
  obtain ⟨hfound, -, hfirst⟩ := hwin (Binary64.le_refl (by decide))
  exact ⟨hkeys, (hfilter .zero).1, hfound, (hfirst fun j hj => absurd hj (Nat.not_lt_zero j)).1⟩

end Service

end RecordLinkage
