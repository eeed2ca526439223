import Mathlib
import RecordLinkage.Proofs.Binary64.Rounding

/-! # Rounding is monotone

Of two ratios over one denominator the larger is read at the larger exponent, and at one
exponent rounding to nearest is monotone in the remainder; so rounded values keep the order of
the ratios, and naturals below `2^64` convert in their order.
-/

namespace RecordLinkage.Binary64

section Monotone

variable {num num' den : Nat}

theorem quotientAt_mono (hle : num ≤ num') (e : Int) :
    quotientAt num den e ≤ quotientAt num' den e :=
  Nat.div_le_div_right (Nat.mul_le_mul_right _ hle)

theorem two_mul_quotientAt_le (e : Int) :
    2 * quotientAt num den e ≤ quotientAt num den (e - 1) := by
  unfold quotientAt
  by_cases he : e ≤ 0
  · have hp : (-(e - 1)).toNat = (-e).toNat + 1 := by omega
    have hn : (e - 1).toNat = e.toNat := by omega
    rw [hp, hn, Nat.pow_succ, ← Nat.mul_assoc, Nat.mul_comm _ 2]
    exact Nat.mul_div_le_mul_div_assoc _ _ _
  · have hp : (-(e - 1)).toNat = (-e).toNat := by omega
    have hn : e.toNat = (e - 1).toNat + 1 := by omega
    rw [hp, hn, Nat.pow_succ, ← Nat.mul_assoc, ← Nat.div_div_eq_div_mul]
    exact Nat.mul_div_le _ _

theorem binade_sub_le_exponentFor (num den : Nat) : binade num den - 53 ≤ exponentFor num den := by
  unfold exponentFor
  split <;> omega

theorem exponentFor_mono (hnum : 0 < num) (hle : num ≤ num') (hden : 0 < den) :
    exponentFor num den ≤ exponentFor num' den := by
  by_contra hlt
  rw [Int.not_le] at hlt
  -- at the larger ratio's exponent the smaller ratio would already have 54 bits
  have hfull : 2 ^ 52 ≤ quotientAt num den (exponentFor num den) :=
    le_quotientAt_exponentFor hnum hden (by have := exponentFor_ge num' den; omega)
  have hdouble : 2 * quotientAt num den (exponentFor num den) ≤
      quotientAt num den (exponentFor num den - 1) := two_mul_quotientAt_le _
  have hlower : quotientAt num den (exponentFor num den - 1) ≤
      quotientAt num den (exponentFor num' den) := quotientAt_antitone (by omega) hden
  have hbig : quotientAt num den (exponentFor num' den) ≤ quotientAt num' den (exponentFor num' den) :=
    quotientAt_mono hle _
  have hsmall : quotientAt num' den (exponentFor num' den) < 2 ^ 53 :=
    quotientAt_exponentFor_lt hden
  omega

theorem roundedAt_mono (hle : num ≤ num') (hden : 0 < den) (e : Int) :
    roundedAt num den e ≤ roundedAt num' den e := by
  have hpos : 0 < den * 2 ^ e.toNat := Nat.mul_pos hden (Nat.two_pow_pos _)
  have hq : quotientAt num den e ≤ quotientAt num' den e := quotientAt_mono hle e
  have hN : num * 2 ^ (-e).toNat ≤ num' * 2 ^ (-e).toNat := Nat.mul_le_mul_right _ hle
  have hdiv := Nat.div_add_mod (num * 2 ^ (-e).toNat) (den * 2 ^ e.toNat)
  have hdiv' := Nat.div_add_mod (num' * 2 ^ (-e).toNat) (den * 2 ^ e.toNat)
  have hr := Nat.mod_lt (num * 2 ^ (-e).toNat) hpos
  have hr' := Nat.mod_lt (num' * 2 ^ (-e).toNat) hpos
  dsimp only [roundedAt]
  unfold quotientAt at hq ⊢
  generalize num * 2 ^ (-e).toNat / (den * 2 ^ e.toNat) = q at hq hdiv ⊢
  generalize num' * 2 ^ (-e).toNat / (den * 2 ^ e.toNat) = q' at hq hdiv' ⊢
  generalize num * 2 ^ (-e).toNat % (den * 2 ^ e.toNat) = r at hdiv hr ⊢
  generalize num' * 2 ^ (-e).toNat % (den * 2 ^ e.toNat) = r' at hdiv' hr' ⊢
  generalize den * 2 ^ e.toNat = D at hpos hdiv hdiv' hr hr' ⊢
  -- equal quotients leave the remainders in order, and the rounding follows the remainder
  rcases Nat.lt_or_eq_of_le hq with hlt | rfl
  · split <;> split <;> omega
  · have hrr : r ≤ r' := by
      rw [← hdiv, ← hdiv'] at hN
      omega
    split <;> split <;> omega

theorem rank_ofRatio_mono (hle : num ≤ num') (hden : 0 < den) (ho : exponentFor num' den ≤ 970) :
    (ofRatio false num den).rank ≤ (ofRatio false num' den).rank := by
  rcases Nat.eq_zero_or_pos num with rfl | hnum
  · rw [show ofRatio false 0 den = zero from rfl, rank_zero]
    rcases Nat.eq_zero_or_pos num' with rfl | hnum'
    · rw [show ofRatio false 0 den = zero from rfl, rank_zero]
    · rw [rank_ofRatio hnum' hden ho]
      exact WithBot.coe_le_coe.mpr (WithTop.coe_le_coe.mpr (Int.ofNat_le.mpr (Nat.zero_le _)))
  · have hnum' : 0 < num' := Nat.lt_of_lt_of_le hnum hle
    have he := exponentFor_mono hnum hle hden
    rw [rank_ofRatio hnum hden (he.trans ho), rank_ofRatio hnum' hden ho]
    apply WithBot.coe_le_coe.mpr
    apply WithTop.coe_le_coe.mpr
    apply Int.ofNat_le.mpr
    rcases Int.lt_or_eq_of_le he with hlt | heq
    · -- a higher exponent: the larger ratio's quotient has 53 bits, the smaller's at most 54
      have hsmall := roundedAt_exponentFor_le num hden
      have hfull : 2 ^ 52 ≤ roundedAt num' den (exponentFor num' den) :=
        (le_quotientAt_exponentFor hnum' hden (by have := exponentFor_ge num den; omega)).trans
          (le_roundedAt _ _ _)
      obtain ⟨k, hk⟩ : ∃ k, (exponentFor num' den + 1074).toNat =
          (exponentFor num den + 1074).toNat + 1 + k :=
        ⟨(exponentFor num' den - exponentFor num den - 1).toNat, by
          have := exponentFor_ge num den
          omega⟩
      rw [hk, Nat.pow_add, Nat.pow_succ]
      generalize 2 ^ (exponentFor num den + 1074).toNat = A
      generalize roundedAt num den (exponentFor num den) = r at hsmall
      generalize roundedAt num' den (exponentFor num' den) = r' at hfull
      calc r * A ≤ 2 ^ 53 * A := Nat.mul_le_mul_right _ hsmall
        _ = 2 ^ 52 * (A * 2) * 1 := by ring
        _ ≤ r' * (A * 2) * 2 ^ k := Nat.mul_le_mul (Nat.mul_le_mul_right _ hfull) Nat.one_le_two_pow
        _ = r' * (A * 2 * 2 ^ k) := Nat.mul_assoc _ _ _
    · rw [heq]
      exact Nat.mul_le_mul_right _ (roundedAt_mono hle hden _)

theorem exponentFor_le_of_lt_two_pow {n : Nat} (h : n < 2 ^ 64) : exponentFor n 1 ≤ 11 := by
  have hle := exponentFor_le n 1
  have hlog : Nat.log2 n < 64 := by
    rcases Nat.eq_zero_or_pos n with rfl | hn
    · decide
    · exact (Nat.log2_lt (by omega)).2 h
  unfold binade at hle
  rw [show Nat.log2 1 = 0 from rfl] at hle
  omega

theorem ofNat_le_ofNat {m n : Nat} (hle : m ≤ n) (hn : n < 2 ^ 64) : ofNat m ≤ ofNat n := by
  rw [le_iff_rank]
  exact ⟨isNaN_ofRatio false Nat.one_pos, isNaN_ofRatio false Nat.one_pos,
    rank_ofRatio_mono hle Nat.one_pos ((exponentFor_le_of_lt_two_pow hn).trans (by decide))⟩

end Monotone

end RecordLinkage.Binary64
