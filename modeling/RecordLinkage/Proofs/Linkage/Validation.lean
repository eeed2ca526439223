import RecordLinkage.Proofs.Text.Capitals
import RecordLinkage.Proofs.Linkage.Normalized

/-! # Checking a linkage request

The rules are checked in a fixed order, the entries in key order with each name before its
value, and the first rule broken is reported. A threshold must lie in `(0, 1]`.
-/

namespace RecordLinkage

namespace Text

theorem trim_eq_empty_iff (s : String) : trim s = "" ↔ isBlankText s = true := by
  rw [trim, isBlankText, List.all_eq_true, ← String.toList_inj, String.toList_ofList,
    String.toList_empty]
  constructor
  · intro h c hc
    -- what trimming removes lies at the two ends and is blank
    obtain ⟨pre, post, hs, hpre, hpost⟩ := trimChars_between_blanks s.toList
    rw [h, List.append_nil] at hs
    rw [hs, List.mem_append] at hc
    exact hc.elim (hpre c) (hpost c)
  · intro h
    rw [trimChars, List.dropWhile_eq_nil_iff.2 h]
    rfl

end Text

namespace Request

open Binary64

/-- A threshold in `(0, 1]`. -/
def ThresholdInRange (t : Binary64) : Prop :=
  zero < t ∧ t ≤ one

instance : DecidablePred ThresholdInRange :=
  fun t => inferInstanceAs (Decidable (zero < t ∧ t ≤ one))

theorem rank_eq_bot_of_isNaN {t : Binary64} (h : t.isNaN = true) : t.rank = ⊥ := by
  unfold isNaN at h
  unfold rank
  rw [of_decide_eq_true h]

theorem thresholdInRange_iff_rank (t : Binary64) :
    ThresholdInRange t ↔ 0 < t.rank ∧ t.rank ≤ one.rank := by
  rw [ThresholdInRange, lt_iff_rank, le_iff_rank, rank_zero]
  constructor
  · rintro ⟨⟨-, -, hlt⟩, -, -, hle⟩
    exact ⟨hlt, hle⟩
  · rintro ⟨hlt, hle⟩
    -- a threshold above zero is no NaN, which sits at the bottom
    have hnan : t.isNaN = false := Bool.eq_false_iff.2 fun h => by
      rw [rank_eq_bot_of_isNaN h] at hlt
      exact not_lt_bot hlt
    exact ⟨⟨by decide, hnan, hlt⟩, hnan, by decide, hle⟩

theorem thresholdInRange_one : ThresholdInRange one := by
  refine ⟨?_, Binary64.le_refl (by decide)⟩
  rw [lt_iff_rank, rank_zero, rank_one]
  refine ⟨by decide, by decide, ?_⟩
  exact WithBot.coe_lt_coe.2 (WithTop.coe_lt_coe.2 (Int.ofNat_lt.2 (by positivity)))

theorem not_thresholdInRange_iff (t : Binary64) :
    ¬ThresholdInRange t ↔ t.classify = .nan ∨ (∃ negative, t.classify = .infinite negative) ∨
      (∃ negative e, t.classify = .finite negative 0 e) ∨
      (∃ m e, t.classify = .finite true m e) ∨ one < t := by
  -- one is placed at a natural number, which keeps its power out of the simplifier's way
  obtain ⟨N, hN⟩ : ∃ N : Nat, one.rank = ((N : Int) : WithTop Int) := ⟨_, rank_one⟩
  have hone : one.isNaN = false := by decide
  rw [thresholdInRange_iff_rank, lt_iff_rank, hN]
  cases hc : t.classify with
  | nan => simp [rank, hc]
  | infinite negative =>
    cases negative <;> simp [rank, hc]
  | finite negative m e =>
    have hnan : t.isNaN = false := by simp [isNaN, hc]
    have hrank : t.rank = ((signed negative (m * 2 ^ (e + 1074).toNat) : WithTop Int) :
        WithBot (WithTop Int)) := by
      simp only [rank, hc]
    have hn : m * 2 ^ (e + 1074).toNat = 0 ↔ m = 0 := by simp
    -- a finite value is placed at its signed count of units, which is zero only for the zeros
    generalize m * 2 ^ (e + 1074).toNat = n at hrank hn
    rw [hrank, ← WithBot.coe_zero, ← WithTop.coe_zero, WithBot.coe_lt_coe, WithTop.coe_lt_coe,
      WithBot.coe_le_coe, WithTop.coe_le_coe, WithBot.coe_lt_coe, WithTop.coe_lt_coe]
    cases negative with
    | false =>
      simp only [signed, Bool.false_eq_true, if_false]
      simp [hnan, hone]
      omega
    | true => simp [signed]

/-- The first failure of a list, or success when there is none. -/
def firstFailure {ε : Type} : List ε → Except ε Unit
  | [] => .ok ()
  | e :: _ => .error e

/-- What is wrong with an entry: a blank name, then a blank value. -/
def entryFailures (entry : String × Field) : List ValidationError :=
  (if Text.trim entry.2.name = "" then [.emptyFieldName entry.1] else []) ++
    (if Text.trim entry.2.value = "" then [.emptyFieldValue entry.2.name] else [])

theorem thresholdOutOfRange_not_mem_entryFailures (entry : String × Field) (t : Binary64) :
    ValidationError.thresholdOutOfRange t ∉ entryFailures entry := by
  unfold entryFailures
  split <;> split <;> simp

/-- Every rule a request breaks, in the order of the rules: no query fields, a blank
    provider, a threshold outside `(0, 1]`, then what is wrong with each entry, in key order. -/
def failures (r : Request) : List ValidationError :=
  (if r.queryFields.entries = [] then [.emptyQueryFields] else []) ++
    (if Text.trim r.providerId = "" then [.emptyProviderId] else []) ++
    (if ThresholdInRange r.threshold then [] else [.thresholdOutOfRange r.threshold]) ++
    r.queryFields.entries.flatMap entryFailures

section FirstFailure

variable {α ε : Type}

theorem mem_of_firstFailure_eq_error {l : List ε} {e : ε} (h : firstFailure l = .error e) :
    e ∈ l := by
  cases l with
  | nil => cases h
  | cons e' rest =>
    cases h
    exact List.mem_cons_self

theorem firstFailure_append (xs ys : List ε) :
    firstFailure (xs ++ ys) = (firstFailure xs >>= fun _ => firstFailure ys) := by
  cases xs with
  | nil => rfl
  | cons e rest => rfl

theorem forM_eq_firstFailure (g : α → Except ε Unit) (fails : α → List ε)
    (hg : ∀ a, g a = firstFailure (fails a)) (l : List α) :
    l.forM g = firstFailure (l.flatMap fails) := by
  induction l with
  | nil => rfl
  | cons a rest ih =>
    rw [List.flatMap_cons, firstFailure_append, ← hg, ← ih]
    rfl

/-- Over entries in increasing key order, the first failure of all of them is the first
    failure of the entry with the least key that fails at all. -/
theorem firstFailure_flatMap_of_sorted {κ β : Type} [Preorder κ] (fails : κ × β → List ε)
    {l : List (κ × β)} (hs : (l.map Prod.fst).Pairwise (· < ·)) (e : ε) :
    firstFailure (l.flatMap fails) = .error e ↔ ∃ key b, (key, b) ∈ l ∧
      (fails (key, b)).head? = some e ∧ ∀ k c, (k, c) ∈ l → k < key → fails (k, c) = [] := by
  induction l with
  | nil =>
    constructor
    · intro h
      cases h
    · rintro ⟨_, _, hmem, -⟩
      cases hmem
  | cons a rest ih =>
    rw [List.map_cons, List.pairwise_cons] at hs
    have hlater : ∀ k c, (k, c) ∈ rest → a.1 < k := fun k c hk =>
      hs.1 k (List.mem_map.2 ⟨(k, c), hk, rfl⟩)
    rw [List.flatMap_cons, firstFailure_append]
    cases hfa : fails a with
    | nil =>
      -- the first entry passes, so the failure comes from a later one
      rw [show (firstFailure ([] : List ε) >>= fun _ => firstFailure (rest.flatMap fails)) =
        firstFailure (rest.flatMap fails) from rfl, ih hs.2]
      constructor
      · rintro ⟨key, b, hmem, hhead, hleast⟩
        refine ⟨key, b, List.mem_cons_of_mem _ hmem, hhead, fun k c hk hlt => ?_⟩
        rcases List.mem_cons.1 hk with hk | hk
        · rw [hk]
          exact hfa
        · exact hleast k c hk hlt
      · rintro ⟨key, b, hmem, hhead, hleast⟩
        rcases List.mem_cons.1 hmem with hk | hk
        · rw [hk, hfa] at hhead
          cases hhead
        · exact ⟨key, b, hk, hhead, fun k c hkc hlt => hleast k c (List.mem_cons_of_mem _ hkc) hlt⟩
    | cons e' more =>
      -- the first entry fails, and every later key is greater than its key
      rw [show (firstFailure (e' :: more) >>= fun _ => firstFailure (rest.flatMap fails)) =
        .error e' from rfl]
      constructor
      · intro h
        cases h
        refine ⟨a.1, a.2, List.mem_cons_self, by rw [hfa]; rfl, fun k c hk hlt => ?_⟩
        rcases List.mem_cons.1 hk with hk | hk
        · rw [← hk] at hlt
          exact absurd hlt (lt_irrefl _)
        · exact absurd hlt (lt_asymm (hlater k c hk))
      · rintro ⟨key, b, hmem, hhead, hleast⟩
        rcases List.mem_cons.1 hmem with hk | hk
        · rw [hk, hfa] at hhead
          cases hhead
          rfl
        · have := hleast a.1 a.2 List.mem_cons_self (hlater key b hk)
          rw [hfa] at this
          cases this

end FirstFailure

theorem entryCheck_eq (entry : String × Field) :
    (if Text.isBlankText entry.2.name then (.error (.emptyFieldName entry.1) : Except ValidationError Unit)
      else if Text.isBlankText entry.2.value then .error (.emptyFieldValue entry.2.name)
      else .ok ()) = firstFailure (entryFailures entry) := by
  unfold entryFailures
  by_cases hname : Text.isBlankText entry.2.name = true
  · rw [if_pos hname, if_pos ((Text.trim_eq_empty_iff _).2 hname)]
    rfl
  · rw [if_neg hname, if_neg (mt (Text.trim_eq_empty_iff _).1 hname), List.nil_append]
    by_cases hvalue : Text.isBlankText entry.2.value = true
    · rw [if_pos hvalue, if_pos ((Text.trim_eq_empty_iff _).2 hvalue)]
      rfl
    · rw [if_neg hvalue, if_neg (mt (Text.trim_eq_empty_iff _).1 hvalue)]
      rfl

theorem validate_eq_firstFailure (r : Request) : r.validate = firstFailure r.failures := by
  unfold validate failures FieldMap.isEmpty
  rw [forM_eq_firstFailure _ entryFailures (fun ⟨key, field⟩ => entryCheck_eq (key, field))]
  by_cases hfields : r.queryFields.entries = []
  · rw [if_pos (List.isEmpty_iff.2 hfields), if_pos hfields]
    rfl
  rw [if_neg (mt List.isEmpty_iff.1 hfields), if_neg hfields, List.nil_append]
  by_cases hprovider : Text.isBlankText r.providerId = true
  · rw [if_pos hprovider, if_pos ((Text.trim_eq_empty_iff _).2 hprovider)]
    rfl
  rw [if_neg hprovider, if_neg (mt (Text.trim_eq_empty_iff _).1 hprovider), List.nil_append]
  -- the check compares `0 < t` and `t ≤ 1` and negates their conjunction
  have hcompare : (zero.lt r.threshold && r.threshold.le one) = true ↔
      ThresholdInRange r.threshold := Bool.and_eq_true_iff
  by_cases hrange : ThresholdInRange r.threshold
  · rw [if_neg (by rw [hcompare.2 hrange]; decide), if_pos hrange, List.nil_append]
  · rw [if_pos (by rw [Bool.not_eq_true', Bool.eq_false_iff]; exact mt hcompare.1 hrange),
      if_neg hrange]
    rfl

theorem validate_eq_of_fields_provider {r : Request} (hfields : r.queryFields.entries ≠ [])
    (hprovider : Text.trim r.providerId ≠ "") :
    r.validate = firstFailure ((if ThresholdInRange r.threshold then [] else
      [.thresholdOutOfRange r.threshold]) ++ r.queryFields.entries.flatMap entryFailures) := by
  rw [validate_eq_firstFailure, failures, if_neg hfields, if_neg hprovider, List.nil_append,
    List.nil_append]

/-- Checking a request reports the first rule it breaks, in the order of `failures`, and
    passes exactly when it breaks none. With query fields and a provider, the threshold is
    reported exactly when it is NaN, an infinity, a zero of either sign, negative or above one.
    When the request itself passes, the fields are checked in key order: the report is the
    first failure of the entry with the least key that fails, its name before its value. -/
theorem validate_reports_first_failure (r : Request) :
    r.validate = firstFailure r.failures ∧
      (r.queryFields.entries ≠ [] → Text.trim r.providerId ≠ "" →
        (r.validate = .error (.thresholdOutOfRange r.threshold) ↔
          r.threshold.classify = .nan ∨ (∃ negative, r.threshold.classify = .infinite negative) ∨
          (∃ negative e, r.threshold.classify = .finite negative 0 e) ∨
          (∃ m e, r.threshold.classify = .finite true m e) ∨ one < r.threshold)) ∧
      (r.queryFields.entries ≠ [] → Text.trim r.providerId ≠ "" →
        ThresholdInRange r.threshold → ∀ e, r.validate = .error e ↔
          ∃ key field, (key, field) ∈ r.queryFields.entries ∧
            (entryFailures (key, field)).head? = some e ∧
            ∀ k f, (k, f) ∈ r.queryFields.entries → k < key → entryFailures (k, f) = []) := by
  refine ⟨validate_eq_firstFailure r, fun hfields hprovider => ?_,
    fun hfields hprovider hrange e => ?_⟩
  · rw [← not_thresholdInRange_iff, validate_eq_of_fields_provider hfields hprovider]
    by_cases hrange : ThresholdInRange r.threshold
    · -- the entries' failures are all about names and values
      rw [if_pos hrange, List.nil_append]
      refine ⟨fun h => absurd (mem_of_firstFailure_eq_error h) ?_, fun h => absurd hrange h⟩
      rw [List.mem_flatMap]
      rintro ⟨entry, -, hmem⟩
      exact thresholdOutOfRange_not_mem_entryFailures entry r.threshold hmem
    · rw [if_neg hrange]
      exact ⟨fun _ => hrange, fun _ => rfl⟩
  · rw [validate_eq_of_fields_provider hfields hprovider, if_pos hrange, List.nil_append]
    exact firstFailure_flatMap_of_sorted entryFailures r.queryFields.sorted e

/-- A request whose entry under `a` has a blank value and whose entry under `b` has a blank
    name is refused for the value under `a`, the lesser key; with a NaN or a negative zero
    threshold it is refused for the threshold. -/
theorem validate_reports_first_failure_two_keys :
    let F : FieldMap := ⟨[("a", ⟨"given", .fuzzy, " "⟩), ("b", ⟨" ", .exact, "x"⟩)], by decide⟩
    F.entries ≠ [] ∧ Text.trim "clinic" ≠ "" ∧ ThresholdInRange one ∧
      validate ⟨F, "clinic", one⟩ = .error (.emptyFieldValue "given") ∧
      validate ⟨F, "clinic", nan⟩ = .error (.thresholdOutOfRange nan) ∧
      validate ⟨F, "clinic", negZero⟩ = .error (.thresholdOutOfRange negZero) := by
  intro F
  have hne : F.entries ≠ [] := List.cons_ne_nil _ _
  have hprovider : Text.trim "clinic" ≠ "" := mt (Text.trim_eq_empty_iff _).1 (by decide)
  have hblank : Text.trim " " = "" := (Text.trim_eq_empty_iff _).2 (by decide)
  have hgiven : Text.trim "given" ≠ "" := mt (Text.trim_eq_empty_iff _).1 (by decide)
  have hfirst : (entryFailures ("a", ⟨"given", .fuzzy, " "⟩)).head? =
      some (.emptyFieldValue "given") := by
    simp only [entryFailures, if_neg hgiven, if_pos hblank, List.nil_append]
    rfl
  -- no key comes before `a`
  have hleast : ∀ k f, (k, f) ∈ F.entries → k < "a" → entryFailures (k, f) = [] := by
    intro k f hk hlt
    simp only [F, List.mem_cons, Prod.mk.injEq, List.not_mem_nil, or_false] at hk
    rcases hk with ⟨rfl, -⟩ | ⟨rfl, -⟩
    · exact absurd hlt (by decide)
    · exact absurd hlt (by decide)
  have h := (validate_reports_first_failure ⟨F, "clinic", one⟩).2.2 hne hprovider
    thresholdInRange_one (.emptyFieldValue "given")
  have hnan := (validate_reports_first_failure ⟨F, "clinic", nan⟩).2.1 hne hprovider
  have hzero := (validate_reports_first_failure ⟨F, "clinic", negZero⟩).2.1 hne hprovider
  exact ⟨hne, hprovider, thresholdInRange_one,
    h.2 ⟨"a", ⟨"given", .fuzzy, " "⟩, List.mem_cons_self, hfirst, hleast⟩,
    hnan.2 (.inl (by decide)), hzero.2 (.inr (.inr (.inl ⟨true, -1074, by decide⟩)))⟩

end Request

end RecordLinkage
