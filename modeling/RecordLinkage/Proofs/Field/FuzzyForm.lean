import RecordLinkage.Proofs.Field.Digest

/-! # The fuzzy normal form

A fuzzy value is normalized to words of letters and digits joined by single spaces. A second
normalization of such a form only drops a leading honorific, so the first pass can bring a
second honorific to the front.
-/

namespace RecordLinkage

section Lists

variable {α : Type} [BEq α] [LawfulBEq α]

theorem not_mem_of_mem_splitOn {l xs : List α} {x : α} (hl : l ∈ xs.splitOn x) : x ∉ l := by
  induction xs generalizing l with
  | nil =>
    rw [List.splitOn_nil, List.mem_singleton] at hl
    subst hl
    exact List.not_mem_nil
  | cons a xs ih =>
    rw [List.splitOn_cons_eq_if_modifyHead] at hl
    split at hl
    · rcases List.mem_cons.1 hl with rfl | hl
      · exact List.not_mem_nil
      · exact ih hl
    · next hax =>
      -- `a` joins the first part, and differs from `x`
      obtain ⟨p, ps, hps⟩ := List.exists_cons_of_ne_nil (List.splitOn_ne_nil x xs)
      rw [hps, List.modifyHead_cons] at hl
      rcases List.mem_cons.1 hl with rfl | hl
      · rw [List.mem_cons, not_or]
        exact ⟨fun h => hax (by simp [h]), ih (hps ▸ List.mem_cons_self)⟩
      · exact ih (hps ▸ List.mem_cons_of_mem p hl)

end Lists

/-! ### Words -/

/-- A letter `a`–`z` or a digit. -/
def isWordChar (c : Char) : Bool :=
  ('a' ≤ c && c ≤ 'z') || ('0' ≤ c && c ≤ '9')

/-- A word of a fuzzy normal form: one or more letters `a`–`z` and digits. -/
structure IsWord (w : List Char) : Prop where
  ne_nil : w ≠ []
  isWordChar_of_mem : ∀ c ∈ w, isWordChar c = true

theorem IsWord.of_all {w : List Char} (hne : w ≠ []) (h : w.all isWordChar = true) : IsWord w :=
  ⟨hne, fun c hc => List.all_eq_true.1 h c hc⟩

/-- Words joined by single spaces: no space at either end, and never two in a row. -/
def IsWordForm (cs : List Char) : Prop :=
  ∃ words : List (List Char), (∀ w ∈ words, IsWord w) ∧ cs = [' '].intercalate words

theorem isWordChar_iff {c : Char} :
    isWordChar c = true ↔ (97 ≤ c.toNat ∧ c.toNat ≤ 122) ∨ (48 ≤ c.toNat ∧ c.toNat ≤ 57) := by
  have ha : ('a' : Char).val.toNat = 97 := rfl
  have hz : ('z' : Char).val.toNat = 122 := rfl
  have h0 : ('0' : Char).val.toNat = 48 := rfl
  have h9 : ('9' : Char).val.toNat = 57 := rfl
  simp only [isWordChar, Bool.or_eq_true, Bool.and_eq_true, decide_eq_true_eq, Char.le_def,
    UInt32.le_iff_toNat_le, ha, hz, h0, h9]
  rfl

theorem isFuzzyKept_iff {c : Char} : isFuzzyKept c = true ↔ isWordChar c = true ∨ c = ' ' ∨ c = '-' := by
  simp only [isFuzzyKept, isWordChar, Bool.or_eq_true, decide_eq_true_eq, or_assoc]

theorem IsWordForm.mem {cs : List Char} (h : IsWordForm cs) {c : Char} (hc : c ∈ cs) :
    isWordChar c = true ∨ c = ' ' := by
  obtain ⟨words, hw, rfl⟩ := h
  rcases mem_intercalate_iff.1 hc with ⟨w, hw', hcw⟩ | ⟨hsp, -⟩
  · exact .inl ((hw w hw').isWordChar_of_mem c hcw)
  · exact .inr (List.mem_singleton.1 hsp)

theorem IsWordForm.head? {cs : List Char} (h : IsWordForm cs) :
    ∀ c ∈ cs.head?, isWordChar c = true := by
  obtain ⟨words, hw, rfl⟩ := h
  intro c hc
  cases words with
  | nil => cases hc
  | cons w ws =>
    obtain ⟨a, w', rfl⟩ := List.exists_cons_of_ne_nil (hw _ List.mem_cons_self).ne_nil
    rw [List.intercalate_cons_cons_left, List.head?_cons, Option.mem_some_iff] at hc
    subst hc
    exact (hw _ List.mem_cons_self).isWordChar_of_mem a List.mem_cons_self

theorem IsWordForm.getLast? {cs : List Char} (h : IsWordForm cs) :
    ∀ c ∈ cs.getLast?, isWordChar c = true := by
  obtain ⟨words, hw, rfl⟩ := h
  induction words with
  | nil => exact fun c hc => by cases hc
  | cons w ws ih =>
    intro c hc
    cases ws with
    | nil =>
      rw [List.intercalate_singleton] at hc
      exact (hw w List.mem_cons_self).isWordChar_of_mem c (List.mem_of_getLast? hc)
    | cons w' ws =>
      -- the last character is that of the words after the first
      have hrest := ih fun x hx => hw x (List.mem_cons_of_mem w hx)
      obtain ⟨d, hd⟩ : ∃ d, ([' '].intercalate (w' :: ws)).getLast? = some d := by
        obtain ⟨a, w'', rfl⟩ := List.exists_cons_of_ne_nil
          (hw w' (List.mem_cons_of_mem w List.mem_cons_self)).ne_nil
        rw [List.intercalate_cons_cons_left]
        exact ⟨_, List.getLast?_cons⟩
      rw [List.intercalate_cons_cons, List.getLast?_append, hd, Option.some_or] at hc
      exact hrest c (hd ▸ hc)

/-! ### Normalizing a word form -/

theorem isBlank_of_isWordChar {c : Char} (h : isWordChar c = true) : Text.isBlank c = false := by
  have hn := isWordChar_iff.1 h
  simp only [Text.isBlank, Text.CodeRange.covers, Text.blankRanges, List.any_cons, List.any_nil,
    Bool.or_false, Bool.or_eq_false_iff, Bool.and_eq_false_iff, decide_eq_false_iff_not]
  omega

theorem trimChars_of_wordForm {cs : List Char} (h : IsWordForm cs) : Text.trimChars cs = cs := by
  have hdrop : ∀ l : List Char, (∀ c ∈ l.head?, isWordChar c = true) → l.dropWhile Text.isBlank = l := by
    intro l hl
    cases l with
    | nil => rfl
    | cons c l =>
      rw [List.dropWhile_cons_of_neg (by rw [isBlank_of_isWordChar (hl c rfl)]; decide)]
  unfold Text.trimChars
  rw [hdrop cs h.head?, hdrop cs.reverse (by rw [List.head?_reverse]; exact h.getLast?),
    List.reverse_reverse]

set_option maxRecDepth 10000 in
theorem lowerCaseRuns_tail_first : ∀ r ∈ Text.lowerCaseRuns.tail, 0xC0 ≤ r.first := by
  decide

theorem lowerChar_of_lt {c : Char} (h1 : c.toNat < 0xC0) (h2 : c.toNat < 0x41 ∨ 0x5A < c.toNat) :
    Text.lowerChar c = [c] := by
  have hexp : Text.lowerCaseExpansions.lookup c.toNat = none := by
    simp only [Text.lowerCaseExpansions, List.lookup_cons, List.lookup_nil]
    split
    · next heq =>
      rw [beq_iff_eq] at heq
      omega
    · rfl
  have hruns : Text.lowerCaseRuns.findSome? (·.image? c.toNat) = none := by
    rw [show Text.lowerCaseRuns = ⟨0x41, 26, 1, 32⟩ :: Text.lowerCaseRuns.tail from rfl,
      List.findSome?_cons]
    have hfirst : Text.CaseRun.image? ⟨0x41, 26, 1, 32⟩ c.toNat = none := by
      unfold Text.CaseRun.image?
      rw [if_neg (by simp only [Nat.mod_one, Nat.div_one]; omega)]
    rw [hfirst, List.findSome?_eq_none_iff]
    intro r hr
    unfold Text.CaseRun.image?
    rw [if_neg (by have := lowerCaseRuns_tail_first r hr; omega)]
  unfold Text.lowerChar Text.CaseTable.image
  rw [show Text.lowerCaseTable.expansions = Text.lowerCaseExpansions from rfl, hexp,
    show Text.lowerCaseTable.runs = Text.lowerCaseRuns from rfl, hruns]

theorem lowerChar_of_wordChar {c : Char} (h : isWordChar c = true ∨ c = ' ') :
    c ≠ Text.capitalSigma ∧ Text.lowerChar c = [c] := by
  have hn : c.toNat < 0x41 ∨ (0x5A < c.toNat ∧ c.toNat < 0xC0) := by
    rcases h with h | rfl
    · have := isWordChar_iff.1 h
      omega
    · decide
  refine ⟨fun hs => ?_, lowerChar_of_lt (by omega) (by omega)⟩
  rw [hs] at hn
  exact absurd hn (by decide)

theorem lowerChars_of_wordForm {cs : List Char} (h : IsWordForm cs) : Text.lowerChars cs = cs := by
  have hat : ∀ p ∈ cs.zipIdx, Text.lowerAt cs p.1 p.2 = [p.1] := by
    intro p hp
    obtain ⟨hsigma, hlower⟩ := lowerChar_of_wordChar (h.mem (List.fst_mem_of_mem_zipIdx hp))
    rw [Text.lowerAt, if_neg hsigma, hlower]
  unfold Text.lowerChars
  calc cs.zipIdx.flatMap (fun p => Text.lowerAt cs p.1 p.2)
      = cs.zipIdx.flatMap (fun p => [p.1]) := List.flatMap_congr hat
    _ = cs.zipIdx.map Prod.fst := List.map_eq_flatMap.symm
    _ = cs := List.zipIdx_map_fst 0 cs

theorem baseForm_of_wordForm {s : String} (h : IsWordForm s.toList) : baseForm s = s := by
  unfold baseForm Text.trim Text.lower
  rw [trimChars_of_wordForm h, String.ofList_toList, lowerChars_of_wordForm h, String.ofList_toList]

/-! ### Joining words and dropping an honorific -/

theorem joinWords_of_wordForm {cs : List Char} (h : IsWordForm cs) : joinWords cs = cs := by
  obtain ⟨words, hw, rfl⟩ := h
  unfold joinWords
  rw [show " ".toList = [' '] from rfl]
  cases words with
  | nil => rfl
  | cons w ws =>
    have hsep : ∀ l ∈ w :: ws, ' ' ∉ l := fun l hl hsp =>
      absurd ((hw l hl).isWordChar_of_mem ' ' hsp) (by decide)
    have hne : ∀ l ∈ w :: ws, decide (l ≠ []) = true := fun l hl => decide_eq_true (hw l hl).ne_nil
    rw [List.splitOn_intercalate ' ' hsep (List.cons_ne_nil w ws), List.filter_eq_self.2 hne]

theorem wordForm_joinWords {cs : List Char} (h : ∀ c ∈ cs, isWordChar c = true ∨ c = ' ') :
    IsWordForm (joinWords cs) := by
  refine ⟨(cs.splitOn ' ').filter (· ≠ []), fun w hw => ⟨?_, fun c hc => ?_⟩, rfl⟩
  · simpa using (List.mem_filter.1 hw).2
  · have hw' := (List.mem_filter.1 hw).1
    rcases h c (mem_of_mem_splitOn hw' hc) with h | rfl
    · exact h
    · exact absurd hc (not_mem_of_mem_splitOn hw')

theorem wordForm_normalizeFuzzy (value : List Char) : IsWordForm (normalizeFuzzy value) := by
  apply wordForm_joinWords
  intro c hc
  obtain ⟨c', hc', rfl⟩ := List.mem_map.1 hc
  rcases isFuzzyKept_iff.1 (List.mem_filter.1 hc').2 with h | rfl | rfl
  · have hhyphen : c' ≠ '-' := by
      rintro rfl
      exact absurd h (by decide)
    rw [if_neg hhyphen]
    exact .inl h
  · exact .inr (ite_self _)
  · exact .inr (if_pos rfl)

theorem honorific_word {p : String} (hp : p ∈ honorifics) : ∃ h, IsWord h ∧ p.toList = h ++ [' '] := by
  simp only [honorifics, List.mem_cons, List.not_mem_nil, or_false] at hp
  rcases hp with rfl | rfl | rfl | rfl
  · exact ⟨['m', 'r'], .of_all (List.cons_ne_nil _ _) rfl, by decide⟩
  · exact ⟨['m', 'r', 's'], .of_all (List.cons_ne_nil _ _) rfl, by decide⟩
  · exact ⟨['m', 's'], .of_all (List.cons_ne_nil _ _) rfl, by decide⟩
  · exact ⟨['d', 'r'], .of_all (List.cons_ne_nil _ _) rfl, by decide⟩

theorem IsWordForm.drop_word {cs h : List Char} (hcs : IsWordForm cs) (hh : IsWord h)
    (hpre : h ++ [' '] <+: cs) : IsWordForm (cs.drop (h.length + 1)) := by
  obtain ⟨words, hw, hcs⟩ := hcs
  obtain ⟨t, rfl⟩ := hpre
  rw [List.drop_left' (by simp)]
  have hsp : ∀ l, IsWord l → ' ' ∉ l := fun l hl hmem =>
    absurd (hl.isWordChar_of_mem ' ' hmem) (by decide)
  match words, hw, hcs with
  | [], _, hcs => simp at hcs
  | [w], hw, hcs =>
    rw [List.intercalate_singleton] at hcs
    have hmem : ' ' ∈ w := by
      rw [← hcs]
      simp
    exact absurd hmem (hsp w (hw w List.mem_cons_self))
  | w :: w' :: ws, hw, hcs =>
    simp only [List.intercalate_cons_cons, List.append_assoc, List.singleton_append] at hcs
    rcases append_cons_eq_append_cons_iff.1 hcs with ⟨-, rfl⟩ | ⟨y, rfl, -⟩ | ⟨y, rfl, -⟩
    · exact ⟨w' :: ws, fun x hx => hw x (List.mem_cons_of_mem _ hx), rfl⟩
    · exact absurd (by simp) (hsp _ (hw _ List.mem_cons_self))
    · exact absurd (by simp) (hsp _ hh)

theorem wordForm_stripHonorific {cs : List Char} (h : IsWordForm cs) :
    IsWordForm (stripHonorific cs) := by
  unfold stripHonorific
  split
  · next p hfind =>
    obtain ⟨w, hw, hp⟩ := honorific_word (List.mem_of_find?_eq_some hfind)
    have hpre : w ++ [' '] <+: cs := by
      have hfound := List.find?_some hfind
      rw [← hp]
      exact List.isPrefixOf_iff_prefix.1 hfound
    rw [← String.length_toList, hp, List.length_append, List.length_singleton]
    exact h.drop_word hw hpre
  · exact h

theorem normalizeFuzzy_of_wordForm {cs : List Char} (h : IsWordForm cs) :
    normalizeFuzzy cs = stripHonorific cs := by
  have hs := wordForm_stripHonorific h
  have hkept : (stripHonorific cs).filter isFuzzyKept = stripHonorific cs :=
    List.filter_eq_self.2 fun c hc => isFuzzyKept_iff.2 ((hs.mem hc).imp_right Or.inl)
  have hmap : (stripHonorific cs).map (fun c => if c = '-' then ' ' else c) = stripHonorific cs := by
    refine (List.map_congr_left fun c hc => if_neg ?_).trans (List.map_id' _)
    rcases hs.mem hc with h | rfl
    · rintro rfl
      exact absurd h (by decide)
    · decide
  unfold normalizeFuzzy
  rw [hkept, hmap, joinWords_of_wordForm hs]

theorem stripHonorific_eq_self_iff {cs : List Char} :
    stripHonorific cs = cs ↔ ∀ p ∈ honorifics, ¬ p.toList <+: cs := by
  unfold stripHonorific
  split
  · next p hfind =>
    have hp := List.mem_of_find?_eq_some hfind
    have hfound := List.find?_some hfind
    have hpre : p.toList <+: cs := List.isPrefixOf_iff_prefix.1 hfound
    -- an honorific is not empty, so dropping it shortens the text
    have hlen : 0 < p.length := by
      obtain ⟨w, -, hpw⟩ := honorific_word hp
      rw [← String.length_toList, hpw]
      simp
    have hle := hpre.length_le
    rw [String.length_toList] at hle
    refine ⟨fun hdrop => absurd (congrArg List.length hdrop) ?_, fun hnone => absurd hpre (hnone p hp)⟩
    rw [List.length_drop]
    omega
  · next hfind =>
    refine iff_of_true rfl fun p hp hpre => ?_
    exact List.find?_eq_none.1 hfind p hp (List.isPrefixOf_iff_prefix.2 hpre)

/-! ### Normalizing twice -/

theorem normalized_fuzzy (name v : String) :
    Field.normalized ⟨name, .fuzzy, v⟩ = String.ofList (normalizeFuzzy (baseForm v).toList) :=
  rfl

/-- The fuzzy normal form `w` of a value is words of letters `a`–`z` and digits joined by
    single spaces. Normalized again it loses the first honorific it starts with and nothing
    else, so it is its own normal form exactly when it starts with no honorific. -/
theorem normalized_fuzzy_renormalize {name v w : String}
    (hw : Field.normalized ⟨name, .fuzzy, v⟩ = w) :
    IsWordForm w.toList ∧
      Field.normalized ⟨name, .fuzzy, w⟩ =
        String.ofList (match honorifics.find? (fun p => p.toList.isPrefixOf w.toList) with
          | some p => w.toList.drop p.length
          | none => w.toList) ∧
      (Field.normalized ⟨name, .fuzzy, w⟩ = w ↔ ∀ p ∈ honorifics, ¬ p.toList <+: w.toList) := by
  have hform : IsWordForm w.toList := by
    rw [← hw, normalized_fuzzy, String.toList_ofList]
    exact wordForm_normalizeFuzzy _
  have hre : Field.normalized ⟨name, .fuzzy, w⟩ = String.ofList (stripHonorific w.toList) := by
    rw [normalized_fuzzy, baseForm_of_wordForm hform, normalizeFuzzy_of_wordForm hform]
  refine ⟨hform, hre.trans (by unfold stripHonorific; rfl), ?_⟩
  rw [hre, ← String.toList_inj, String.toList_ofList]
  exact stripHonorific_eq_self_iff

/-- `Dr Mr Smith` is normalized to `mr smith`, which starts with an honorific: normalized again
    it becomes `smith`. -/
theorem normalized_fuzzy_renormalize_drMrSmith :
    Field.normalized ⟨"name", .fuzzy, "Dr Mr Smith"⟩ = "mr smith" ∧
      Field.normalized ⟨"name", .fuzzy, "mr smith"⟩ = "smith" := by
  have h1 : Field.normalized ⟨"name", .fuzzy, "Dr Mr Smith"⟩ = "mr smith" := by decide
  exact ⟨h1, (normalized_fuzzy_renormalize h1).2.1.trans (by decide)⟩

end RecordLinkage
