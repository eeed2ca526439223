import RecordLinkage.Proofs.Binary64.Rounding
import RecordLinkage.Proofs.Filter.Bits

/-! # Bounds on the similarity of filters

The overlap counts satisfy `both ≤ either ≤ 8 · bytes`, so below `2^29` bytes the 32-bit
counts do not wrap and the similarity is a number between zero and one.
-/

namespace RecordLinkage.Filter

theorem popcount_le_eight (b : UInt8) : popcount b ≤ 8 :=
  (List.countP_le_length).trans (List.length_range).le

theorem popcount_and_le_or (x y : UInt8) : popcount (x &&& y) ≤ popcount (x ||| y) := by
  apply List.countP_mono_left
  intro r hr hand
  have hr8 : r < 8 := List.mem_range.1 hr
  rw [bitOf_and _ _ hr8, Bool.and_eq_true] at hand
  rw [bitOf_or _ _ hr8, hand.1, Bool.true_or]

namespace BloomFilter

theorem overlap_le (f g : BloomFilter) :
    (f.overlap g).1 ≤ (f.overlap g).2 ∧ (f.overlap g).2 ≤ 8 * max f.bytes.size g.bytes.size := by
  unfold overlap
  generalize max f.bytes.size g.bytes.size = n
  induction n with
  | zero => simp
  | succ n ih =>
    rw [Nat.fold_succ]
    have hand := popcount_and_le_or (byteAt f.bytes n) (byteAt g.bytes n)
    have hor := popcount_le_eight (byteAt f.bytes n ||| byteAt g.bytes n)
    dsimp only at ih ⊢
    omega

/-- The counts do not wrap while fewer than `2^32` bits are set in either filter. -/
theorem jaccard_of_overlap_lt {f g : BloomFilter} (h : (f.overlap g).2 < 2 ^ 32) :
    f.jaccard g = if (f.overlap g).2 = 0 then .zero
      else .ofNat (f.overlap g).1 / .ofNat (f.overlap g).2 := by
  have hle := (overlap_le f g).1
  unfold jaccard
  generalize f.overlap g = counts at h hle ⊢
  obtain ⟨both, either⟩ := counts
  dsimp only at h hle ⊢
  rw [Nat.mod_eq_of_lt h, Nat.mod_eq_of_lt (Nat.lt_of_le_of_lt hle h)]

/-- Both counts are words below `2^32`, exact as binary64 values, so the similarity is never
    NaN. -/
theorem isNaN_jaccard (f g : BloomFilter) : (f.jaccard g).isNaN = false := by
  have hword : ∀ n, n % 2 ^ 32 < 2 ^ 53 := fun n =>
    Nat.lt_trans (Nat.mod_lt n (by decide)) (by decide)
  unfold jaccard
  generalize f.overlap g = counts
  obtain ⟨both, either⟩ := counts
  dsimp only
  split
  · decide
  · next h0 =>
    obtain ⟨num, den, c, heq, hden, -⟩ :=
      Binary64.div_ofNat_eq_ofRatio (hword both) (Nat.pos_of_ne_zero h0) (hword either)
    rw [heq]
    exact Binary64.isNaN_ofRatio false hden

theorem jaccard_eq_zero_or_div {f g : BloomFilter} (hf : f.bytes.size < 2 ^ 29)
    (hg : g.bytes.size < 2 ^ 29) :
    f.jaccard g = .zero ∨ ∃ both either, both ≤ either ∧ 0 < either ∧ either < 2 ^ 53 ∧
      f.jaccard g = .ofNat both / .ofNat either := by
  obtain ⟨hle, hbound⟩ := overlap_le f g
  -- eight bits a byte keep the count of either below `2^32`
  rw [jaccard_of_overlap_lt (by omega)]
  by_cases h0 : (f.overlap g).2 = 0
  · exact .inl (if_pos h0)
  · exact .inr ⟨_, _, hle, Nat.pos_of_ne_zero h0, by omega, if_neg h0⟩

theorem jaccard_le_one {f g : BloomFilter} (hf : f.bytes.size < 2 ^ 29) (hg : g.bytes.size < 2 ^ 29) :
    (f.jaccard g).isNaN = false ∧ f.jaccard g ≤ Binary64.one := by
  rcases jaccard_eq_zero_or_div hf hg with h | ⟨both, either, hle, hpos, hlt, h⟩
  · rw [h]
    exact ⟨Binary64.isNaN_left_of_le Binary64.zero_le_one, Binary64.zero_le_one⟩
  · rw [h]
    exact Binary64.div_ofNat_le_one hle hpos hlt

theorem zero_le_jaccard_of_lt {f g : BloomFilter} (hf : f.bytes.size < 2 ^ 29)
    (hg : g.bytes.size < 2 ^ 29) : Binary64.zero ≤ f.jaccard g := by
  rcases jaccard_eq_zero_or_div hf hg with h | ⟨both, either, hle, hpos, hlt, h⟩
  · rw [h]
    exact Binary64.le_refl (by decide)
  · rw [h]
    exact Binary64.zero_le_div_ofNat hle hpos hlt

end BloomFilter

end RecordLinkage.Filter
