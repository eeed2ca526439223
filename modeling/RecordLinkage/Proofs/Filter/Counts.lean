import RecordLinkage.Proofs.Filter.Transfer
import RecordLinkage.Proofs.Filter.Similarity

/-! # Counting the set bits of a filter

The popcount of the packed bytes counts the set bits, byte `j` holding bits `8j` to `8j + 7`.
On well formed filters the masking by the size changes nothing, so the counts are those of
the bits below the size.
-/

namespace RecordLinkage.Filter

section Places

theorem countP_range_eight_mul (P : Nat → Bool) (n : Nat) :
    (List.range (8 * n)).countP P =
      Nat.fold n (fun j _ acc => acc + (List.range 8).countP fun r => P (8 * j + r)) 0 := by
  induction n with
  | zero => rfl
  | succ n ih =>
    rw [Nat.fold_succ, ← ih, Nat.mul_succ, List.range_add, List.countP_append, List.countP_map]
    rfl

theorem popcount_eq_countP {b : UInt8} {P : Nat → Bool} (h : ∀ r < 8, bitOf b r = P r) :
    popcount b = (List.range 8).countP P :=
  List.countP_congr fun r hr => by rw [h r (List.mem_range.1 hr)]

theorem countP_range_of_le {P : Nat → Bool} {m n : Nat} (hmn : m ≤ n)
    (h : ∀ i, m ≤ i → P i = false) : (List.range n).countP P = (List.range m).countP P := by
  obtain ⟨d, rfl⟩ := Nat.exists_eq_add_of_le hmn
  rw [List.range_add, List.countP_append, List.countP_map, Nat.add_eq_left, List.countP_eq_zero]
  intro i _
  simp [h (m + i) (Nat.le_add_right m i)]

theorem sum_popcount (l : List UInt8) :
    (l.map popcount).sum = (List.range (8 * l.length)).countP fun i => bitOf (l.getD (i / 8) 0) (i % 8) := by
  induction l with
  | nil => rfl
  | cons a l ih =>
    -- byte `a` holds the first eight bits, and the rest are shifted by eight
    have hhead : popcount a =
        (List.range 8).countP fun i => bitOf ((a :: l).getD (i / 8) 0) (i % 8) :=
      popcount_eq_countP fun r hr => by
        rw [Nat.div_eq_of_lt hr, Nat.mod_eq_of_lt hr, List.getD_cons_zero]
    have htail : ((List.range (8 * l.length)).countP fun i => bitOf (l.getD (i / 8) 0) (i % 8)) =
        ((List.range (8 * l.length)).map (8 + ·)).countP
          fun i => bitOf ((a :: l).getD (i / 8) 0) (i % 8) := by
      rw [List.countP_map]
      apply List.countP_congr
      intro i _
      have hdiv : (8 + i) / 8 = i / 8 + 1 := by omega
      have hmod : (8 + i) % 8 = i % 8 := by omega
      simp only [Function.comp_apply, hdiv, hmod, List.getD_cons_succ]
    rw [List.map_cons, List.sum_cons, ih, List.length_cons, Nat.mul_succ, Nat.add_comm _ 8,
      List.range_add, List.countP_append, hhead, htail]

end Places

namespace BloomFilter

theorem bitsSet_eq_countP (f : BloomFilter) :
    f.bitsSet = (List.range (8 * f.bytes.size)).countP fun i => f.bit i && decide (i < f.size) := by
  rw [bitsSet, countP_range_eight_mul]
  congr 1
  funext j _ acc
  congr 1
  refine popcount_eq_countP fun r hr => ?_
  rw [bitOf_and _ _ hr, bitOf_lowMask _ hr, bit, testBit_eight_mul_add _ _ hr]
  congr 1
  exact decide_eq_decide.2 (by omega)

theorem overlap_eq_fold (f g : BloomFilter) (n : Nat) :
    Nat.fold n (fun j _ acc =>
        (acc.1 + popcount (byteAt f.bytes j &&& byteAt g.bytes j),
          acc.2 + popcount (byteAt f.bytes j ||| byteAt g.bytes j))) (0, 0) =
      (Nat.fold n (fun j _ acc => acc + popcount (byteAt f.bytes j &&& byteAt g.bytes j)) 0,
        Nat.fold n (fun j _ acc => acc + popcount (byteAt f.bytes j ||| byteAt g.bytes j)) 0) := by
  induction n with
  | zero => rfl
  | succ n ih => rw [Nat.fold_succ, Nat.fold_succ, Nat.fold_succ, ih]

theorem overlap_eq_countP (f g : BloomFilter) :
    f.overlap g = ((List.range (8 * max f.bytes.size g.bytes.size)).countP (fun i => f.bit i && g.bit i),
      (List.range (8 * max f.bytes.size g.bytes.size)).countP (fun i => f.bit i || g.bit i)) := by
  rw [overlap, overlap_eq_fold, countP_range_eight_mul, countP_range_eight_mul]
  congr 1
  · congr 1
    funext j _ acc
    congr 1
    refine popcount_eq_countP fun r hr => ?_
    rw [bitOf_and _ _ hr, bit, bit, testBit_eight_mul_add _ _ hr, testBit_eight_mul_add _ _ hr]
  · congr 1
    funext j _ acc
    congr 1
    refine popcount_eq_countP fun r hr => ?_
    rw [bitOf_or _ _ hr, bit, bit, testBit_eight_mul_add _ _ hr, testBit_eight_mul_add _ _ hr]

theorem sum_popcount_toBytes (f : BloomFilter) :
    (f.toBytes.map popcount).sum = (List.range (8 * f.bytes.size)).countP f.bit := by
  rw [sum_popcount, toBytes, length_toList]
  apply List.countP_congr
  intro i _
  rw [bit, testBit, byteAt_eq_getD]

theorem lt_eight_mul_of_bit {f : BloomFilter} {i : Nat} (h : f.bit i = true) :
    i < 8 * f.bytes.size := by
  by_contra hge
  rw [bit, testBit_of_size_le (by omega)] at h
  exact Bool.false_ne_true h

theorem jaccard_self {f : BloomFilter} (hset : ∃ i, f.bit i = true) (hsmall : f.bytes.size < 2 ^ 29) :
    f.jaccard f = Binary64.one := by
  have hov := overlap_eq_countP f f
  simp only [Bool.and_self, Bool.or_self, Nat.max_self] at hov
  have hpos : 0 < (List.range (8 * f.bytes.size)).countP f.bit := by
    obtain ⟨i, hi⟩ := hset
    exact List.countP_pos_iff.2 ⟨i, List.mem_range.2 (lt_eight_mul_of_bit hi), hi⟩
  have hlt : (List.range (8 * f.bytes.size)).countP f.bit < 2 ^ 32 := by
    have hle : (List.range (8 * f.bytes.size)).countP f.bit ≤ (List.range (8 * f.bytes.size)).length :=
      List.countP_le_length
    rw [List.length_range] at hle
    omega
  rw [jaccard_of_overlap_lt (by rw [hov]; exact hlt), hov]
  exact (if_neg hpos.ne').trans (Binary64.div_ofNat_self hpos (Nat.lt_trans hlt (by decide)))

theorem size_le_eight_mul_byteCount (m : Nat) : m ≤ 8 * byteCount m := by
  unfold byteCount
  omega

namespace WellFormed

variable {f : BloomFilter} (hf : f.WellFormed)
include hf

theorem bit_eq_false {i : Nat} (hi : f.size ≤ i) : f.bit i = false :=
  Bool.eq_false_iff.2 fun h => absurd (hf.bit_lt i h) (Nat.not_lt.2 hi)

theorem bitsSet_eq : f.bitsSet = (List.range f.size).countP f.bit := by
  have hle : f.size ≤ 8 * f.bytes.size := hf.bytes_size ▸ size_le_eight_mul_byteCount f.size
  rw [bitsSet_eq_countP, countP_range_of_le hle fun i hi => by simp [hf.bit_eq_false hi]]
  apply List.countP_congr
  intro i hi
  simp [List.mem_range.1 hi]

theorem sum_popcount_toBytes : (f.toBytes.map popcount).sum = (List.range f.size).countP f.bit := by
  have hle : f.size ≤ 8 * f.bytes.size := hf.bytes_size ▸ size_le_eight_mul_byteCount f.size
  rw [BloomFilter.sum_popcount_toBytes, countP_range_of_le hle fun i hi => hf.bit_eq_false hi]

theorem testBit_toBytes {j r : Nat} (hr : r < 8) (hm : f.size ≤ 8 * j + r) :
    (f.toBytes.getD j 0).toNat.testBit r = false := by
  have h := f.bit_eq_testBit_toBytes (8 * j + r)
  rw [show (8 * j + r) / 8 = j by omega, show (8 * j + r) % 8 = r by omega,
    hf.bit_eq_false hm] at h
  exact h.symm

end WellFormed

theorem WellFormed.overlap_eq {f g : BloomFilter} (hf : f.WellFormed) (hg : g.WellFormed) :
    f.overlap g = ((List.range (max f.size g.size)).countP (fun i => f.bit i && g.bit i),
      (List.range (max f.size g.size)).countP (fun i => f.bit i || g.bit i)) := by
  have hle : max f.size g.size ≤ 8 * max f.bytes.size g.bytes.size := by
    rw [hf.bytes_size, hg.bytes_size]
    have := size_le_eight_mul_byteCount f.size
    have := size_le_eight_mul_byteCount g.size
    omega
  have hnone : ∀ i, max f.size g.size ≤ i → f.bit i = false ∧ g.bit i = false := fun i hi =>
    ⟨hf.bit_eq_false (le_of_max_le_left hi), hg.bit_eq_false (le_of_max_le_right hi)⟩
  rw [overlap_eq_countP, countP_range_of_le hle fun i hi => by simp [(hnone i hi).1],
    countP_range_of_le hle fun i hi => by simp [(hnone i hi).1, (hnone i hi).2]]

/-- Every filter built from empty or read filters by inserts and merges has `⌈m / 8⌉` bytes
    and no bit set at or above its size `m`, and an element's positions lie below `m`. So its
    count of set bits is the popcount of its exported bytes, and the overlap of two such
    filters counts only bits below their sizes. -/
theorem representation_invariant :
    (∀ f : BloomFilter, Reachable f →
      f.bytes.size = byteCount f.size ∧ ∀ i, f.size ≤ i → f.bit i = false) ∧
    (∀ (s : Scheme) element k m, (s.positions element k m).length = (if m = 0 then 0 else k) ∧
      ∀ p ∈ s.positions element k m, p < m) ∧
    (∀ f : BloomFilter, Reachable f → ∀ e, (∀ p ∈ f.positionsOf e, p < f.size ∧ p / 8 < f.bytes.size) ∧
      ∀ i, (f.insert e).bit i = (f.bit i || decide (i ∈ f.positionsOf e))) ∧
    (∀ f : BloomFilter, Reachable f →
      f.bitsSet = (f.toBytes.map popcount).sum ∧ f.bitsSet = (List.range f.size).countP f.bit) ∧
    (∀ f : BloomFilter, Reachable f → ∀ j r, r < 8 → f.size ≤ 8 * j + r →
      (f.toBytes.getD j 0).toNat.testBit r = false) ∧
    (∀ f g : BloomFilter, Reachable f → Reachable g →
      f.overlap g = ((List.range (max f.size g.size)).countP (fun i => f.bit i && g.bit i),
        (List.range (max f.size g.size)).countP (fun i => f.bit i || g.bit i))) := by
  refine ⟨fun f hf => ⟨hf.wellFormed.bytes_size, fun i hi => hf.wellFormed.bit_eq_false hi⟩,
    fun s element k m => ⟨s.length_positions element k m, fun p hp => s.lt_of_mem_positions hp⟩,
    fun f hf e => ⟨fun p hp => ?_, hf.wellFormed.bit_insert e⟩,
    fun f hf => ⟨hf.wellFormed.bitsSet_eq.trans hf.wellFormed.sum_popcount_toBytes.symm,
      hf.wellFormed.bitsSet_eq⟩,
    fun f hf j r hr hm => hf.wellFormed.testBit_toBytes hr hm,
    fun f g hf hg => hf.wellFormed.overlap_eq hg.wellFormed⟩
  have hp' := lt_of_mem_positionsOf hp
  exact ⟨hp', hf.wellFormed.bytes_size ▸ div_lt_byteCount hp'⟩

/-- A filter of twelve bits that took one name holds two bytes, and its count of set bits is
    the popcount of its bytes. -/
theorem representation_invariant_twelve :
    Reachable ((empty 12 2 .seededFnv).insert "ada") ∧
      ((empty 12 2 .seededFnv).insert "ada").bytes.size = 2 ∧
      ((empty 12 2 .seededFnv).insert "ada").bitsSet =
        (((empty 12 2 .seededFnv).insert "ada").toBytes.map popcount).sum := by
  have hreach : Reachable ((empty 12 2 .seededFnv).insert "ada") :=
    .insert "ada" (.fresh (.empty 12 2 .seededFnv))
  exact ⟨hreach, (representation_invariant.1 _ hreach).1,
    (representation_invariant.2.2.2.1 _ hreach).1⟩

end BloomFilter

end RecordLinkage.Filter
