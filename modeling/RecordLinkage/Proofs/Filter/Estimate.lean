import RecordLinkage.Proofs.Binary64.Difference
import RecordLinkage.Proofs.Filter.Counts

/-! # The false positive estimate of a filter without set bits

The estimate is the fill ratio to the power `k`, by repeated squaring after `k` is wrapped to
32 bits. With no set bit it is zero for a positive power and one for the power zero.
-/

namespace RecordLinkage

namespace Binary64

theorem mul_zero_of_finite {r : Binary64} {m : Nat} {e : Int}
    (hr : r.classify = .finite false m e) : r * zero = zero := by
  show mul _ _ = _
  unfold mul
  rw [hr, classify_zero]
  simp only [bne_self_eq_false, Nat.mul_zero, ofScaled, scaled, Nat.zero_mul, ofRatio, if_true,
    Bool.false_eq_true]
  rfl

theorem zero_mul_zero : zero * zero = zero :=
  mul_zero_of_finite classify_zero

theorem one_mul_zero : one * zero = zero :=
  mul_zero_of_finite classify_one

theorem one_eq_zero : one.eq zero = false := by
  refine Bool.eq_false_iff.2 fun h => ?_
  have hrank := (eq_iff_rank.1 h).2.2
  rw [rank_one, rank_zero, WithBot.coe_inj, WithTop.coe_inj, Int.ofNat_inj] at hrank
  exact Nat.pos_iff_ne_zero.1 (by positivity) hrank

end Binary64

namespace Parameters

open Binary64

theorem powLoop_zero {a r : Binary64} {n : Nat} (ha : a = zero) (hr : r * zero = zero)
    (hn : 0 < n) : powLoop a r n = zero := by
  fun_induction powLoop a r n with
  | case1 a r n r' hlast =>
    -- the last bit is the lowest one, so it is set and the product takes the factor zero
    have hodd : n % 2 = 1 := by omega
    simp only [r', dif_pos hodd, ha, hr]
  | case2 a r n r' hmore ih =>
    refine ih (by rw [ha, zero_mul_zero]) ?_ (by omega)
    by_cases hodd : n % 2 = 1
    · simp only [r', dif_pos hodd, ha, hr, zero_mul_zero]
    · simp only [r', dif_neg hodd, hr]

theorem powLoop_zero_exponent (a r : Binary64) : powLoop a r 0 = r := by
  rw [powLoop]
  rfl

theorem powInt_zero_of_pos {n : Int} (hn : 0 < n) : powInt zero n = zero := by
  unfold powInt
  rw [if_neg (Int.not_lt.2 hn.le)]
  exact powLoop_zero rfl one_mul_zero (Int.natAbs_pos.2 (Int.ne_of_gt hn))

theorem powSize_zero_of_pos {k : Nat} (hk : 0 < wrapInt32 k) : powSize zero k = zero :=
  powInt_zero_of_pos hk

theorem powSize_zero_exponent (a : Binary64) : powSize a 0 = one := by
  unfold powSize powInt
  rw [show wrapInt32 0 = 0 from rfl]
  exact powLoop_zero_exponent a one

end Parameters

namespace Filter.BloomFilter

open Binary64

theorem bitsSet_empty (m k : Nat) (s : Scheme) : (empty m k s).bitsSet = 0 := by
  rw [(WellFormed.empty m k s).bitsSet_eq, List.countP_eq_zero]
  intro i _
  simp

theorem fillRatio_of_bitsSet_eq_zero {f : BloomFilter} (hno : f.bitsSet = 0) :
    f.fillRatio = zero := by
  unfold fillRatio
  split
  · rfl
  · next hsize => rw [hno]; exact zero_div_ofNat (Nat.pos_of_ne_zero hsize)

theorem falsePositiveRate_of_hashCount_eq_zero {f : BloomFilter} (hsize : 0 < f.size)
    (hk : f.hashCount = 0) : f.falsePositiveRate = one := by
  unfold falsePositiveRate
  rw [if_neg (Nat.pos_iff_ne_zero.1 hsize), hk, Parameters.powSize_zero_exponent]

/-- A filter without set bits estimates no false positives when it has no bits, or when its
    number of positions, read as a signed 32-bit integer, is positive. With bits and no
    positions it estimates one, the fill ratio zero to the power zero. -/
theorem falsePositiveRate_without_set_bits {f : BloomFilter} (hno : f.bitsSet = 0) :
    ((f.size = 0 ∨ 0 < Parameters.wrapInt32 f.hashCount) → f.falsePositiveRate = zero) ∧
      (0 < f.size → f.hashCount = 0 → f.falsePositiveRate = one) := by
  refine ⟨fun h => ?_, falsePositiveRate_of_hashCount_eq_zero⟩
  unfold falsePositiveRate
  by_cases hsize : f.size = 0
  · rw [if_pos hsize]
  · rw [if_neg hsize, fillRatio_of_bitsSet_eq_zero hno]
    exact Parameters.powSize_zero_of_pos (h.resolve_left hsize)

/-- The default filter of a thousand bits and three positions estimates zero when fresh, and
    a fresh filter of eight bits and no positions estimates one. -/
theorem falsePositiveRate_without_set_bits_fresh :
    (empty 1000 3 .seededFnv).falsePositiveRate = zero ∧
      (empty 8 0 .seededFnv).falsePositiveRate = one :=
  ⟨(falsePositiveRate_without_set_bits (bitsSet_empty 1000 3 .seededFnv)).1 (.inr (by decide)),
    (falsePositiveRate_without_set_bits (bitsSet_empty 8 0 .seededFnv)).2 (by decide) rfl⟩

/-- A fresh filter of eight bits and no positions has no set bit, and its estimate is not
    zero. -/
theorem falsePositiveRate_fresh_without_positions :
    (empty 8 0 .seededFnv).bitsSet = 0 ∧ (empty 8 0 .seededFnv).falsePositiveRate.eq zero = false := by
  refine ⟨bitsSet_empty 8 0 .seededFnv, ?_⟩
  rw [falsePositiveRate_of_hashCount_eq_zero (by decide) rfl]
  exact one_eq_zero

end Filter.BloomFilter

end RecordLinkage
