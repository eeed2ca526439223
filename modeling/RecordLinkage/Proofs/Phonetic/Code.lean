import Mathlib.Data.List.Destutter
import RecordLinkage.Phonetic

/-! # The phonetic code of a name

The encoder's loop keeps the invariant `Encoder.Holds`, so its code is the first capital, the
first three digits of the other capitals with runs collapsed, and `0` padding.
-/

namespace RecordLinkage.Phonetic

/-! ### Collapsing runs -/

theorem collapseRuns_cons_eq_destutter' (a : Char) (l : List Char) :
    collapseRuns (a :: l) = l.destutter' (· ≠ ·) a := by
  induction l generalizing a with
  | nil => rfl
  | cons b l ih =>
    rw [collapseRuns, List.destutter'_cons]
    by_cases hab : a = b
    · subst hab
      simp [ih]
    · simp [hab, ih]

theorem collapseRuns_eq_destutter (l : List Char) : collapseRuns l = l.destutter (· ≠ ·) := by
  cases l with
  | nil => rfl
  | cons a l => rw [collapseRuns_cons_eq_destutter', List.destutter_cons']

theorem collapseRuns_cons_ne_nil (a : Char) (l : List Char) : collapseRuns (a :: l) ≠ [] := by
  rw [collapseRuns_cons_eq_destutter']
  exact List.destutter'_ne_nil l _

theorem getLast?_collapseRuns : ∀ l : List Char, (collapseRuns l).getLast? = l.getLast?
  | [] => rfl
  | [_] => rfl
  | a :: b :: rest => by
    rw [collapseRuns, List.getLast?_cons_cons, ← getLast?_collapseRuns (b :: rest)]
    split
    · rfl
    · obtain ⟨c, cs, hcs⟩ := List.exists_cons_of_ne_nil (collapseRuns_cons_ne_nil b rest)
      rw [hcs, List.getLast?_cons_cons]

theorem collapseRuns_append_singleton :
    ∀ (l : List Char) (d : Char), collapseRuns (l ++ [d]) =
      if l.getLast? = some d then collapseRuns l else collapseRuns l ++ [d]
  | [], d => rfl
  | [a], d => by
    by_cases had : a = d
    · subst had
      simp [collapseRuns]
    · simp [collapseRuns, had]
  | a :: b :: rest, d => by
    rw [List.cons_append, List.cons_append, collapseRuns, ← List.cons_append,
      collapseRuns_append_singleton (b :: rest) d, List.getLast?_cons_cons, collapseRuns]
    by_cases hab : a = b
    · simp [hab]
    · by_cases hl : (b :: rest).getLast? = some d <;> simp [hab, hl]

/-! ### The encoder's invariant -/

/-- What the encoder holds after reading the capitals `read` that follow the first capital
    `first`: the first capital and the first three collapsed digits of `read`, and, while
    fewer than three digits have been collapsed, the last of them as the digit appended last. -/
structure Encoder.Holds (first : Char) (read : List Char) (e : Encoder) : Prop where
  code_eq : e.code = first :: (collapseRuns (read.filterMap digitFor)).take 3
  lastDigit_eq : (collapseRuns (read.filterMap digitFor)).length < 3 →
    e.lastDigit = (collapseRuns (read.filterMap digitFor)).getLast?

namespace Encoder

theorem holds_iff {first : Char} {read : List Char} {e : Encoder} :
    e.Holds first read ↔ e.code = first :: (collapseRuns (read.filterMap digitFor)).take 3 ∧
      ((collapseRuns (read.filterMap digitFor)).length < 3 →
        e.lastDigit = (collapseRuns (read.filterMap digitFor)).getLast?) :=
  ⟨fun h => ⟨h.code_eq, h.lastDigit_eq⟩, fun h => ⟨h.1, h.2⟩⟩

theorem holds_start (first : Char) : Holds first [] ⟨[first], none⟩ :=
  ⟨rfl, fun _ => rfl⟩

theorem Holds.length_code {first : Char} {read : List Char} {e : Encoder} (h : e.Holds first read) :
    e.code.length = min 3 (collapseRuns (read.filterMap digitFor)).length + 1 := by
  rw [h.code_eq, List.length_cons, List.length_take]

theorem Holds.push {first : Char} {read : List Char} {e : Encoder} (h : e.Holds first read)
    (c : Char) : (e.push c).Holds first (read ++ [c]) := by
  have hlen := h.length_code
  rw [holds_iff] at h ⊢
  rw [List.filterMap_append]
  unfold Encoder.push
  generalize hD : collapseRuns (read.filterMap digitFor) = D at h hlen
  cases hd : digitFor c with
  | none =>
    simp only [List.filterMap_cons, hd, List.filterMap_nil, List.append_nil, hD]
    split <;> exact h
  | some d =>
    simp only [List.filterMap_cons, hd, List.filterMap_nil]
    rw [collapseRuns_append_singleton, ← getLast?_collapseRuns, hD]
    by_cases hfull : e.code.length ≥ codeLength
    · -- three digits are held: appending more leaves the first three as they are
      have h3 : 3 ≤ D.length := by
        unfold codeLength at hfull
        omega
      rw [if_pos hfull]
      refine ⟨?_, fun hlt => ?_⟩
      · rw [h.1]
        split
        · rfl
        · rw [List.take_append_of_le_length h3]
      · split at hlt
        · omega
        · rw [List.length_append] at hlt
          omega
    · have h3 : D.length < 3 := by
        unfold codeLength at hfull
        omega
      have hlast := h.2 h3
      rw [if_neg hfull]
      split
      · next hsame =>
        rw [if_pos (hlast.symm.trans hsame)]
        exact h
      · next hnew =>
        rw [if_neg (by rw [← hlast]; exact hnew)]
        refine ⟨?_, fun _ => by simp⟩
        rw [h.1, List.take_of_length_le (by omega),
          List.take_of_length_le (by rw [List.length_append, List.length_singleton]; omega)]
        rfl

theorem Holds.foldl {first : Char} {read : List Char} {e : Encoder} (h : e.Holds first read)
    (rest : List Char) : (rest.foldl Encoder.push e).Holds first (read ++ rest) := by
  induction rest generalizing read e with
  | nil => simpa using h
  | cons c rest ih =>
    rw [List.foldl_cons, ← List.singleton_append, ← List.append_assoc]
    exact ih (h.push c)

end Encoder

theorem encodeLetters_eq_collapsedCode (ls : List Char) : encodeLetters ls = collapsedCode ls := by
  cases ls with
  | nil => rfl
  | cons first rest =>
    have h := (Encoder.holds_start first).foldl rest
    rw [List.nil_append] at h
    have hpad : ∀ n, codeLength - (n + 1) = codeLength - 1 - n := fun n => by
      unfold codeLength
      omega
    unfold encodeLetters collapsedCode
    dsimp only
    rw [h.code_eq, List.length_cons, hpad]
    rfl

/-! ### The code as a whole -/

theorem digitFor_range {c d : Char} (h : digitFor c = some d) : '1' ≤ d ∧ d ≤ '6' := by
  unfold digitFor at h
  split_ifs at h <;> cases h <;> decide

theorem isCapital_of_mem_letters {name : String} {c : Char} (h : c ∈ letters name) :
    isCapital c = true :=
  (List.mem_filter.1 h).2

/-- The code of a name is its first capital, then the first three of the digits of the other
    capitals with equal neighbours collapsed, padded with `0` to four characters; a name
    without capitals has the empty code. So a code is empty or a capital followed by digits
    `1`–`6` without equal neighbours and then `0`s, four characters in all. -/
theorem encode_eq_reference (s : String) :
    encode s = String.ofList (match letters s with
      | [] => []
      | first :: rest =>
        ((first :: (rest.filterMap digitFor).destutter (· ≠ ·)).take 4).rightpad 4 '0') ∧
    (encode s = "" ∨ ∃ c ds, encode s = String.ofList (c :: ds ++ List.replicate (3 - ds.length) '0') ∧
      isCapital c = true ∧ ds.length ≤ 3 ∧ (∀ d ∈ ds, '1' ≤ d ∧ d ≤ '6') ∧ ds.IsChain (· ≠ ·)) := by
  unfold encode
  rw [encodeLetters_eq_collapsedCode]
  have hcap : ∀ c ∈ letters s, isCapital c = true := fun _ => isCapital_of_mem_letters
  generalize letters s = ls at hcap
  cases ls with
  | nil => exact ⟨rfl, .inl rfl⟩
  | cons first rest =>
    unfold collapsedCode
    dsimp only
    rw [collapseRuns_eq_destutter]
    refine ⟨?_, .inr ⟨first, _, rfl, hcap first List.mem_cons_self, List.length_take_le _ _,
      fun d hd => ?_, (List.isChain_destutter _ _).take 3⟩⟩
    · have hpad : ∀ n, codeLength - 1 - n = 4 - (n + 1) := fun n => by
        unfold codeLength
        omega
      rw [List.take_succ_cons, List.rightpad, List.length_cons, hpad]
      rfl
    · obtain ⟨x, -, hx⟩ := List.mem_filterMap.1
        ((List.destutter_sublist _ _).subset (List.mem_of_mem_take hd))
      exact digitFor_range hx

/-- Of `Tymczak` the digits are `5`, then `2` three times across the vowel: one `2` is kept. -/
theorem encode_eq_reference_tymczak : encode "Tymczak" = "T520" :=
  (encode_eq_reference "Tymczak").1.trans (by decide)

end RecordLinkage.Phonetic
