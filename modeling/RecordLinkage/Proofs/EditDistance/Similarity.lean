import RecordLinkage.Proofs.Binary64.Difference
import RecordLinkage.Proofs.EditDistance.Scripts

/-! # The similarity of names

The similarity is one less the edit distance of the lower case forms over the longer length,
and zero when either name is empty: a number between zero and one, symmetric, and one exactly
for non-empty names with the same lower case form.
-/

namespace RecordLinkage

namespace Text

theorem lowerChar_ne_nil (c : Char) : lowerChar c ≠ [] := by
  unfold lowerChar CaseTable.image
  split
  · next l hl =>
    obtain ⟨pre, post, hsplit, -⟩ := List.lookup_eq_some_iff.1 hl
    have hmem : (c.toNat, l) ∈ lowerCaseExpansions := by
      rw [show lowerCaseTable.expansions = lowerCaseExpansions from rfl] at hsplit
      rw [hsplit]
      exact List.mem_append_right _ List.mem_cons_self
    have hne : ∀ p ∈ lowerCaseExpansions, p.2 ≠ [] := by simp [lowerCaseExpansions]
    simpa using hne _ hmem
  · split <;> simp

theorem lowerAt_ne_nil (cs : List Char) (c : Char) (i : Nat) : lowerAt cs c i ≠ [] := by
  unfold lowerAt
  split
  · simp
  · exact lowerChar_ne_nil c

theorem lowerChars_eq_nil_iff {cs : List Char} : lowerChars cs = [] ↔ cs = [] := by
  unfold lowerChars
  rw [List.flatMap_eq_nil_iff]
  constructor
  · intro h
    cases cs with
    | nil => rfl
    | cons c cs => exact absurd (h (c, 0) (by simp [List.zipIdx_cons])) (lowerAt_ne_nil _ _ _)
  · rintro rfl
    simp

theorem length_lower_pos_iff {s : String} : 0 < (lower s).length ↔ s ≠ "" := by
  rw [lower, String.length_ofList, List.length_pos_iff, Ne, lowerChars_eq_nil_iff, Ne,
    ← String.toList_inj, String.toList_empty]

end Text

namespace EditDistance

open Binary64

theorem distance_comm (a b : String) : distance a b = distance b a := by
  rw [distance_eq_recursiveDistance, distance_eq_recursiveDistance, recursiveDistance_comm]

theorem distance_le_max (a b : String) : distance a b ≤ max a.length b.length := by
  rw [distance_eq_recursiveDistance, ← String.length_toList, ← String.length_toList]
  exact recursiveDistance_le_max _ _

theorem distance_eq_zero_iff {a b : String} : distance a b = 0 ↔ a = b := by
  rw [distance_eq_recursiveDistance, recursiveDistance_eq_zero_iff, String.toList_inj]

section Similarity

variable {a b : String}

theorem similarity_comm (a b : String) : similarity a b = similarity b a := by
  simp only [similarity]
  rw [Bool.or_comm, distance_comm (Text.lower a), max_comm (Text.lower a).length]
  by_cases hab : a = b
  · subst hab
    rfl
  · simp only [hab, Ne.symm hab, if_false]

theorem similarity_of_empty (h : a = "" ∨ b = "") : similarity a b = zero := by
  unfold similarity
  rw [if_pos]
  rcases h with rfl | rfl <;> simp

theorem similarity_eq_one_sub (ha : a ≠ "") (hb : b ≠ "") :
    similarity a b = one - ofNat (distance (Text.lower a) (Text.lower b)) /
      ofNat (max (Text.lower a).length (Text.lower b).length) := by
  have hL : 0 < max (Text.lower a).length (Text.lower b).length :=
    lt_max_of_lt_left (Text.length_lower_pos_iff.2 ha)
  unfold similarity
  rw [if_neg (by simp [String.isEmpty_iff, ha, hb])]
  split
  · next hab =>
    subst hab
    rw [distance_eq_zero_iff.2 rfl, zero_div_ofNat hL, one_sub_zero]
  · rfl

theorem similarity_between (hL : max (Text.lower a).length (Text.lower b).length < 2 ^ 64) :
    (similarity a b).isNaN = false ∧ zero ≤ similarity a b ∧ similarity a b ≤ one := by
  by_cases h : a = "" ∨ b = ""
  · rw [similarity_of_empty h]
    exact ⟨by decide, Binary64.le_refl (by decide), Binary64.zero_le_one⟩
  · rw [not_or] at h
    have hpos : 0 < max (Text.lower a).length (Text.lower b).length :=
      lt_max_of_lt_left (Text.length_lower_pos_iff.2 h.1)
    obtain ⟨num, den, hdiv, hle, hden⟩ := div_ofNat_eq_ofRatio_of_le (distance_le_max _ _) hpos hL
    rw [similarity_eq_one_sub h.1 h.2, hdiv]
    exact one_sub_ofRatio_between hle hden

theorem similarity_eq_one_iff (hL : max (Text.lower a).length (Text.lower b).length < 2 ^ 53) :
    similarity a b = one ↔ a ≠ "" ∧ b ≠ "" ∧ Text.lower a = Text.lower b := by
  constructor
  · intro h1
    by_cases h : a = "" ∨ b = ""
    · rw [similarity_of_empty h] at h1
      exact absurd h1 (by decide)
    · rw [not_or] at h
      refine ⟨h.1, h.2, ?_⟩
      by_contra hne
      have hd : 0 < distance (Text.lower a) (Text.lower b) :=
        Nat.pos_of_ne_zero (mt distance_eq_zero_iff.1 hne)
      have hlt := one_sub_div_ofNat_lt_one hd (distance_le_max _ _) hL
      rw [← similarity_eq_one_sub h.1 h.2, h1] at hlt
      exact Binary64.lt_irrefl _ hlt
  · rintro ⟨ha, hb, heq⟩
    have hL : 0 < max (Text.lower a).length (Text.lower b).length :=
      lt_max_of_lt_left (Text.length_lower_pos_iff.2 ha)
    rw [similarity_eq_one_sub ha hb, distance_eq_zero_iff.2 heq, zero_div_ofNat hL, one_sub_zero]

/-- The similarity of two names is zero when either is empty, and otherwise one less the
    distance of their lower case forms over the longer of their lengths, which is positive
    exactly when a name is non-empty and at least the distance. It is symmetric; for machine
    sizes it is a number between zero and one, and below `2^53` characters it is one exactly
    for non-empty names with the same lower case form. -/
theorem similarity_one_sub_ratio_bounded {a b a' b' : String} (ha : Text.lower a = a')
    (hb : Text.lower b = b') :
    similarity a b = (if a = "" ∨ b = "" then zero else
        one - ofNat (distance a' b') / ofNat (max a'.length b'.length)) ∧
      (0 < max a'.length b'.length ↔ a ≠ "" ∨ b ≠ "") ∧ distance a' b' ≤ max a'.length b'.length ∧
      similarity a b = similarity b a ∧
      (max a'.length b'.length < 2 ^ 64 →
        (similarity a b).isNaN = false ∧ zero ≤ similarity a b ∧ similarity a b ≤ one) ∧
      (max a'.length b'.length < 2 ^ 53 → (similarity a b = one ↔ a ≠ "" ∧ b ≠ "" ∧ a' = b')) := by
  subst ha hb
  refine ⟨?_, ?_, distance_le_max _ _, similarity_comm a b, similarity_between,
    similarity_eq_one_iff⟩
  · split
    · next h => exact similarity_of_empty h
    · next h =>
      rw [not_or] at h
      exact similarity_eq_one_sub h.1 h.2
  · rw [lt_max_iff, Text.length_lower_pos_iff, Text.length_lower_pos_iff]

/-- At `Kitten` and `sitting` both lengths are far below `2^53`: the similarity is one less
    the distance over seven, a number between zero and one, and not one. -/
theorem similarity_one_sub_ratio_bounded_kitten :
    max (Text.lower "Kitten").length (Text.lower "sitting").length < 2 ^ 53 ∧
      similarity "Kitten" "sitting" =
        one - ofNat (distance (Text.lower "Kitten") (Text.lower "sitting")) / ofNat 7 ∧
      zero ≤ similarity "Kitten" "sitting" ∧ similarity "Kitten" "sitting" ≤ one ∧
      similarity "Kitten" "sitting" ≠ one := by
  have hk : Text.lower "Kitten" = "kitten" := by decide
  have hs : Text.lower "sitting" = "sitting" := by decide
  obtain ⟨hform, -, -, -, hbounds, hone⟩ := similarity_one_sub_ratio_bounded hk hs
  have hlen : max "kitten".length "sitting".length = 7 := by decide
  rw [hlen] at hform hbounds hone
  rw [hk, hs, hlen]
  refine ⟨by decide, ?_, (hbounds (by decide)).2.1, (hbounds (by decide)).2.2, ?_⟩
  · rw [hform, if_neg (by decide)]
  · intro h1
    exact absurd ((hone (by decide)).1 h1).2.2 (by decide)

end Similarity

end EditDistance

end RecordLinkage
