import Mathlib.Tactic.Ring
import Mathlib.Tactic.Linarith
import RecordLinkage.Proofs.Binary64.Order

/-! # Rounding a ratio

`ofRatio` reads `num / den` at the exponent that gives a 53-bit quotient and rounds it. The
result is never NaN, a ratio of at most one rounds to at most one, and naturals below `2^53`
are exact, so quotients of counts are numbers between zero and one.
-/

namespace RecordLinkage.Binary64

/-- The quotient `num / (den · 2^e)`, rounded down. -/
def quotientAt (num den : Nat) (e : Int) : Nat :=
  num * 2 ^ (-e).toNat / (den * 2 ^ e.toNat)

/-- The binary exponent of `num / den`, up to one: the difference of their lengths. -/
def binade (num den : Nat) : Int :=
  (Nat.log2 num : Int) - (Nat.log2 den : Int)

/-- The exponent at which `ofRatio` rounds `num / den`. -/
def exponentFor (num den : Nat) : Int :=
  max (if quotientAt num den (binade num den - 52) < 2 ^ 52 then binade num den - 53
    else binade num den - 52) (-1074)

/-- The quotient `num / (den · 2^e)` rounded to the nearest integer, a tie to even. -/
def roundedAt (num den : Nat) (e : Int) : Nat :=
  let r := num * 2 ^ (-e).toNat % (den * 2 ^ e.toNat)
  let q := quotientAt num den e
  if 2 * r > den * 2 ^ e.toNat ∨ (2 * r = den * 2 ^ e.toNat ∧ q % 2 = 1) then q + 1 else q

/-- The bit pattern of the magnitude `q · 2^e`, for `q` below `2^53`: a subnormal pattern
    below `2^52`, and infinity past the largest exponent. -/
def packMagnitude (q : Nat) (e : Int) : Nat :=
  if e > 971 then infinityBits
  else if q < 2 ^ 52 then q
  else (e + 1075).toNat * 2 ^ 52 + (q - 2 ^ 52)

/-- The bit pattern of the magnitude `q · 2^e`; a carry into a 54th bit moves to the next
    exponent. -/
def encodeMagnitude (q : Nat) (e : Int) : Nat :=
  if q = 2 ^ 53 then packMagnitude (2 ^ 52) (e + 1) else packMagnitude q e

theorem nearestMagnitude_eq (num den : Nat) :
    nearestMagnitude num den =
      encodeMagnitude (roundedAt num den (exponentFor num den)) (exponentFor num den) := by
  -- Past its lets, `nearestMagnitude` packs the pair that the carry gives; the pair's
  -- projections stand for its match.
  have hpack : nearestMagnitude num den =
      (fun p : Nat × Int => packMagnitude p.1 p.2)
        (if roundedAt num den (exponentFor num den) = 2 ^ 53 then
          (2 ^ 52, exponentFor num den + 1) else
          (roundedAt num den (exponentFor num den), exponentFor num den)) := rfl
  rw [hpack, encodeMagnitude]
  by_cases h53 : roundedAt num den (exponentFor num den) = 2 ^ 53
  · rw [if_pos h53, if_pos h53]
  · rw [if_neg h53, if_neg h53]

section Quotient

variable {num den : Nat}

theorem quotientAt_antitone {e e' : Int} (h : e ≤ e') (hden : 0 < den) :
    quotientAt num den e' ≤ quotientAt num den e := by
  unfold quotientAt
  apply Nat.div_le_div
  · exact Nat.mul_le_mul_left _ (Nat.pow_le_pow_right (by decide) (by omega))
  · exact Nat.mul_le_mul_left _ (Nat.pow_le_pow_right (by decide) (by omega))
  · exact Nat.ne_of_gt (Nat.mul_pos hden (Nat.two_pow_pos _))

theorem two_mul_div_le (x y : Nat) : 2 * x / y ≤ 2 * (x / y) + 1 := by
  rcases Nat.eq_zero_or_pos y with rfl | hy
  · simp
  · have hdiv := Nat.div_add_mod x y
    have hmod := Nat.mod_lt x hy
    have hlt : 2 * x / y < 2 * (x / y) + 2 := by
      rw [Nat.div_lt_iff_lt_mul hy]
      nlinarith
    omega

theorem quotientAt_pred (e : Int) :
    quotientAt num den (e - 1) ≤ 2 * quotientAt num den e + 1 := by
  unfold quotientAt
  by_cases he : e ≤ 0
  · have hp : (-(e - 1)).toNat = (-e).toNat + 1 := by omega
    have hn : (e - 1).toNat = e.toNat := by omega
    rw [hp, hn, Nat.pow_succ, ← Nat.mul_assoc, Nat.mul_comm _ 2]
    exact two_mul_div_le _ _
  · have hp : (-(e - 1)).toNat = (-e).toNat := by omega
    have hn : e.toNat = (e - 1).toNat + 1 := by omega
    rw [hp, hn, Nat.pow_succ, ← Nat.mul_assoc]
    generalize num * 2 ^ (-e).toNat = x
    generalize den * 2 ^ (e - 1).toNat = y
    rw [← Nat.div_div_eq_div_mul]
    omega

theorem quotientAt_lt_of {e : Int} {k : Nat} (hden : 0 < den)
    (h : Nat.log2 num + 1 + (-e).toNat ≤ Nat.log2 den + e.toNat + k) :
    quotientAt num den e < 2 ^ k := by
  unfold quotientAt
  rw [Nat.div_lt_iff_lt_mul (Nat.mul_pos hden (Nat.two_pow_pos _))]
  calc num * 2 ^ (-e).toNat
      < 2 ^ (Nat.log2 num + 1) * 2 ^ (-e).toNat :=
        Nat.mul_lt_mul_of_pos_right Nat.lt_log2_self (Nat.two_pow_pos _)
    _ = 2 ^ (Nat.log2 num + 1 + (-e).toNat) := by rw [← Nat.pow_add]
    _ ≤ 2 ^ (Nat.log2 den + e.toNat + k) := Nat.pow_le_pow_right (by decide) h
    _ = 2 ^ k * (2 ^ Nat.log2 den * 2 ^ e.toNat) := by rw [Nat.pow_add, Nat.pow_add]; ring
    _ ≤ 2 ^ k * (den * 2 ^ e.toNat) :=
        Nat.mul_le_mul_left _ (Nat.mul_le_mul_right _ (Nat.log2_self_le (by omega)))

theorem le_quotientAt_of {e : Int} {k : Nat} (hnum : 0 < num) (hden : 0 < den)
    (h : Nat.log2 den + 1 + e.toNat + k ≤ Nat.log2 num + (-e).toNat) :
    2 ^ k ≤ quotientAt num den e := by
  unfold quotientAt
  rw [Nat.le_div_iff_mul_le (Nat.mul_pos hden (Nat.two_pow_pos _))]
  calc 2 ^ k * (den * 2 ^ e.toNat)
      ≤ 2 ^ k * (2 ^ (Nat.log2 den + 1) * 2 ^ e.toNat) :=
        Nat.mul_le_mul_left _ (Nat.mul_le_mul_right _ Nat.lt_log2_self.le)
    _ = 2 ^ (Nat.log2 den + 1 + e.toNat + k) := by rw [Nat.pow_add, Nat.pow_add, Nat.pow_add]; ring
    _ ≤ 2 ^ (Nat.log2 num + (-e).toNat) := Nat.pow_le_pow_right (by decide) h
    _ = 2 ^ Nat.log2 num * 2 ^ (-e).toNat := by rw [Nat.pow_add]
    _ ≤ num * 2 ^ (-e).toNat := Nat.mul_le_mul_right _ (Nat.log2_self_le (by omega))

theorem exponentFor_ge (num den : Nat) : -1074 ≤ exponentFor num den :=
  le_max_right _ _

theorem quotientAt_exponentFor_lt (hden : 0 < den) :
    quotientAt num den (exponentFor num den) < 2 ^ 53 := by
  have h52 : quotientAt num den (binade num den - 52) < 2 ^ 53 :=
    quotientAt_lt_of hden (by unfold binade; omega)
  -- one exponent lower is taken only when the quotient has fewer than 53 bits
  have hsel : quotientAt num den (if quotientAt num den (binade num den - 52) < 2 ^ 52 then
      binade num den - 53 else binade num den - 52) < 2 ^ 53 := by
    split
    · next hlt =>
      have hpred : quotientAt num den (binade num den - 52 - 1) ≤
          2 * quotientAt num den (binade num den - 52) + 1 := quotientAt_pred _
      rw [show binade num den - 52 - 1 = binade num den - 53 by omega] at hpred
      omega
    · exact h52
  exact lt_of_le_of_lt (quotientAt_antitone (le_max_left _ _) hden) hsel

theorem le_quotientAt_exponentFor (hnum : 0 < num) (hden : 0 < den)
    (h : exponentFor num den ≠ -1074) : 2 ^ 52 ≤ quotientAt num den (exponentFor num den) := by
  have hmax : exponentFor num den = if quotientAt num den (binade num den - 52) < 2 ^ 52 then
      binade num den - 53 else binade num den - 52 := by
    unfold exponentFor at h ⊢
    omega
  rw [hmax]
  split
  · exact le_quotientAt_of hnum hden (by unfold binade; omega)
  · next hge => exact Nat.le_of_not_lt hge

theorem exponentFor_le (num den : Nat) :
    exponentFor num den ≤ max (binade num den - 52) (-1074) := by
  unfold exponentFor
  split <;> omega

theorem le_roundedAt (num den : Nat) (e : Int) : quotientAt num den e ≤ roundedAt num den e := by
  dsimp only [roundedAt]
  split <;> omega

theorem roundedAt_le (num den : Nat) (e : Int) : roundedAt num den e ≤ quotientAt num den e + 1 := by
  dsimp only [roundedAt]
  split <;> omega

theorem roundedAt_of_mod_eq_zero {e : Int} (hden : 0 < den)
    (h : num * 2 ^ (-e).toNat % (den * 2 ^ e.toNat) = 0) :
    roundedAt num den e = quotientAt num den e := by
  have hpos : 0 < den * 2 ^ e.toNat := Nat.mul_pos hden (Nat.two_pow_pos _)
  dsimp only [roundedAt]
  rw [h]
  split <;> omega

theorem roundedAt_le_of_le {e : Int} (hle : num ≤ den) (hden : 0 < den) (he : e ≤ 0) :
    roundedAt num den e ≤ 2 ^ (-e).toNat := by
  have hn : e.toNat = 0 := by omega
  have hq : quotientAt num den e ≤ 2 ^ (-e).toNat := by
    unfold quotientAt
    rw [hn, Nat.pow_zero, Nat.mul_one]
    exact Nat.div_le_of_le_mul (Nat.mul_le_mul_right _ hle)
  dsimp only [roundedAt]
  rw [hn, Nat.pow_zero, Nat.mul_one]
  split
  · -- rounding up happens only below the power, where the remainder is not zero
    next hup =>
    have hlt : quotientAt num den e < 2 ^ (-e).toNat := by
      refine lt_of_le_of_ne hq fun heq => ?_
      have hdiv := Nat.div_add_mod (num * 2 ^ (-e).toNat) den
      unfold quotientAt at heq
      rw [hn, Nat.pow_zero, Nat.mul_one] at heq
      rw [heq] at hdiv
      have hmul : num * 2 ^ (-e).toNat ≤ den * 2 ^ (-e).toNat := Nat.mul_le_mul_right _ hle
      omega
    omega
  · exact hq

end Quotient

section Encoding

theorem classify_ofBitsNat {n : Nat} (h : n < 2 ^ 64) : (ofBitsNat n).classify = classifyBits n := by
  unfold classify ofBitsNat
  rw [Nat.toUInt64_eq, UInt64.toNat_ofNat_of_lt' h]

theorem classifyBits_eq_nan_iff (x : Nat) :
    classifyBits x = .nan ↔ x / 2 ^ 52 % 2 ^ 11 = 2 ^ 11 - 1 ∧ x % 2 ^ 52 ≠ 0 := by
  dsimp only [classifyBits]
  split
  · split <;> simp_all
  · split <;> simp_all

theorem isNaN_signed (negative : Bool) {mag : Nat} (h : mag ≤ infinityBits) :
    (ofBitsNat ((if negative then 2 ^ 63 else 0) + mag)).isNaN = false := by
  unfold infinityBits at h
  have hlt : (if negative then 2 ^ 63 else 0) + mag < 2 ^ 64 := by split <;> omega
  unfold isNaN
  rw [classify_ofBitsNat hlt, decide_eq_false_iff_not, classifyBits_eq_nan_iff]
  split <;> omega

theorem packMagnitude_le {q : Nat} (hq : q < 2 ^ 53) (e : Int) :
    packMagnitude q e ≤ infinityBits := by
  unfold packMagnitude infinityBits
  split
  · exact Nat.le_refl _
  · split <;> omega

theorem encodeMagnitude_le {q : Nat} (hq : q ≤ 2 ^ 53) (e : Int) :
    encodeMagnitude q e ≤ infinityBits := by
  unfold encodeMagnitude
  split
  · exact packMagnitude_le (by decide) _
  · exact packMagnitude_le (by omega) _

theorem classifyBits_packMagnitude {q : Nat} {e : Int} (hq : q < 2 ^ 53) (he : -1074 ≤ e)
    (ho : e ≤ 971) (hn : 2 ^ 52 ≤ q ∨ e = -1074) :
    classifyBits (packMagnitude q e) = .finite false q e := by
  unfold packMagnitude
  rw [if_neg (by omega)]
  split
  · next hsub =>
    have he' : e = -1074 := by omega
    have hs : decide (q ≥ 2 ^ 63) = false := decide_eq_false (by omega)
    subst he'
    dsimp only [classifyBits]
    rw [if_neg (by omega), if_pos (by omega), Nat.mod_eq_of_lt (by omega), hs]
  · next hnorm =>
    have hs : decide ((e + 1075).toNat * 2 ^ 52 + (q - 2 ^ 52) ≥ 2 ^ 63) = false :=
      decide_eq_false (by omega)
    have hb : ((e + 1075).toNat * 2 ^ 52 + (q - 2 ^ 52)) / 2 ^ 52 % 2 ^ 11 = (e + 1075).toNat := by
      omega
    have hf : ((e + 1075).toNat * 2 ^ 52 + (q - 2 ^ 52)) % 2 ^ 52 = q - 2 ^ 52 := by omega
    dsimp only [classifyBits]
    rw [hs, hb, hf, if_neg (by omega), if_neg (by omega), show q - 2 ^ 52 + 2 ^ 52 = q by omega,
      show (((e + 1075).toNat : Nat) : Int) - 1075 = e by omega]

theorem classifyBits_encodeMagnitude {q : Nat} {e : Int} (hq : q ≤ 2 ^ 53) (he : -1074 ≤ e)
    (ho : e ≤ 970) (hn : 2 ^ 52 ≤ q ∨ e = -1074) :
    ∃ m e', classifyBits (encodeMagnitude q e) = .finite false m e' ∧ -1074 ≤ e' ∧
      m * 2 ^ (e' + 1074).toNat = q * 2 ^ (e + 1074).toNat := by
  unfold encodeMagnitude
  split
  · next h53 =>
    refine ⟨2 ^ 52, e + 1, classifyBits_packMagnitude (by decide) (by omega) (by omega)
      (.inl (Nat.le_refl _)), by omega, ?_⟩
    rw [h53, show (e + 1 + 1074).toNat = (e + 1074).toNat + 1 by omega, Nat.pow_succ,
      Nat.pow_succ]
    ring
  · next h53 => exact ⟨q, e, classifyBits_packMagnitude (by omega) he (by omega) hn, he, rfl⟩

end Encoding

section Ratio

variable {num den : Nat}

theorem roundedAt_exponentFor_le (num : Nat) (hden : 0 < den) :
    roundedAt num den (exponentFor num den) ≤ 2 ^ 53 :=
  (roundedAt_le _ _ _).trans (quotientAt_exponentFor_lt hden)

theorem isNaN_ofRatio (negative : Bool) (hden : 0 < den) :
    (ofRatio negative num den).isNaN = false := by
  unfold ofRatio
  apply isNaN_signed
  split
  · exact Nat.zero_le _
  · rw [nearestMagnitude_eq]
    exact encodeMagnitude_le (roundedAt_exponentFor_le num hden) _

/-- A positive ratio rounded below the overflow exponent is the finite value of the rounded
    quotient. -/
theorem classify_ofRatio (hnum : 0 < num) (hden : 0 < den) (ho : exponentFor num den ≤ 970) :
    ∃ m e, (ofRatio false num den).classify = .finite false m e ∧ -1074 ≤ e ∧
      m * 2 ^ (e + 1074).toNat =
        roundedAt num den (exponentFor num den) * 2 ^ (exponentFor num den + 1074).toNat := by
  have hmag := encodeMagnitude_le (roundedAt_exponentFor_le num hden) (exponentFor num den)
  have hne : num ≠ 0 := Nat.pos_iff_ne_zero.mp hnum
  have hbits : ofRatio false num den = ofBitsNat (nearestMagnitude num den) := by
    simp [ofRatio, hne]
  have hn : 2 ^ 52 ≤ roundedAt num den (exponentFor num den) ∨ exponentFor num den = -1074 := by
    by_cases he : exponentFor num den = -1074
    · exact .inr he
    · exact .inl ((le_quotientAt_exponentFor hnum hden he).trans (le_roundedAt _ _ _))
  rw [hbits, nearestMagnitude_eq, classify_ofBitsNat (by unfold infinityBits at hmag; omega)]
  exact classifyBits_encodeMagnitude (roundedAt_exponentFor_le num hden) (exponentFor_ge _ _) ho hn

theorem binade_nonpos (hnum : 0 < num) (hle : num ≤ den) : binade num den ≤ 0 := by
  have hlog : Nat.log2 num ≤ Nat.log2 den := by
    by_contra hlt
    have hden : den < 2 ^ Nat.log2 num :=
      (Nat.log2_lt (by omega)).1 (Nat.lt_of_not_le hlt)
    have := Nat.log2_self_le (Nat.pos_iff_ne_zero.mp hnum)
    omega
  unfold binade
  omega

theorem classify_one : one.classify = .finite false (2 ^ 52) (-52) := by
  decide

theorem rank_one : one.rank = (((2 ^ 52 * 2 ^ 1022 : Nat) : Int) : WithTop Int) := by
  unfold rank
  rw [classify_one]
  simp only [signed, Bool.false_eq_true, if_false, -Nat.reducePow]
  rw [show ((-52 : Int) + 1074).toNat = 1022 from rfl]

theorem classify_zero : zero.classify = .finite false 0 (-1074) := by
  decide

theorem zero_le_one : zero ≤ one := by
  rw [le_iff_rank, rank_one]
  refine ⟨by decide, by decide, ?_⟩
  unfold rank
  rw [classify_zero]
  simp only [signed, Bool.false_eq_true, if_false, Nat.zero_mul]
  exact WithBot.coe_le_coe.mpr (WithTop.coe_le_coe.mpr (Int.ofNat_le.mpr (Nat.zero_le _)))

theorem rank_ofRatio (hnum : 0 < num) (hden : 0 < den) (ho : exponentFor num den ≤ 970) :
    (ofRatio false num den).rank = (((roundedAt num den (exponentFor num den) *
      2 ^ (exponentFor num den + 1074).toNat : Nat) : Int) : WithTop Int) := by
  obtain ⟨m, e, hc, -, hval⟩ := classify_ofRatio hnum hden ho
  simp only [rank, hc, signed, Bool.false_eq_true, if_false, -Nat.reducePow]
  rw [hval]

theorem pow_exponentFor_mul_pow (he : exponentFor num den ≤ 0) :
    2 ^ (-exponentFor num den).toNat * 2 ^ (exponentFor num den + 1074).toNat =
      2 ^ 52 * 2 ^ 1022 := by
  rw [← Nat.pow_add, ← Nat.pow_add]
  congr 1
  have := exponentFor_ge num den
  omega

theorem ofRatio_le_one (hle : num ≤ den) (hden : 0 < den) : ofRatio false num den ≤ one := by
  rcases Nat.eq_zero_or_pos num with rfl | hnum
  · exact zero_le_one
  · have he : exponentFor num den ≤ -52 := by
      have := exponentFor_le num den
      have := binade_nonpos hnum hle
      omega
    have hq : roundedAt num den (exponentFor num den) ≤ 2 ^ (-exponentFor num den).toNat :=
      roundedAt_le_of_le hle hden (by omega)
    rw [le_iff_rank]
    refine ⟨isNaN_ofRatio false hden, by decide, ?_⟩
    rw [rank_one, rank_ofRatio hnum hden (by omega),
      ← pow_exponentFor_mul_pow (show exponentFor num den ≤ 0 by omega)]
    exact WithBot.coe_le_coe.mpr (WithTop.coe_le_coe.mpr
      (Int.ofNat_le.mpr (Nat.mul_le_mul_right _ hq)))

theorem classify_ofNat {n : Nat} (h : n < 2 ^ 53) :
    ∃ m e, (ofNat n).classify = .finite false m e ∧ -1074 ≤ e ∧
      m * 2 ^ (e + 1074).toNat = n * 2 ^ 1074 := by
  rcases Nat.eq_zero_or_pos n with rfl | hn
  · exact ⟨0, -1074, by decide, Int.le_refl _, by rw [Nat.zero_mul, Nat.zero_mul]⟩
  · have hlog : Nat.log2 n < 53 := (Nat.log2_lt (by omega)).2 h
    have he : exponentFor n 1 ≤ 0 := by
      have := exponentFor_le n 1
      unfold binade at this
      rw [show Nat.log2 1 = 0 from rfl] at this
      omega
    have hge := exponentFor_ge n 1
    obtain ⟨m, e, hc, he', hval⟩ := classify_ofRatio hn Nat.one_pos (by omega)
    refine ⟨m, e, hc, he', ?_⟩
    have hn0 : (exponentFor n 1).toNat = 0 := by omega
    -- at an exponent of at most zero the quotient of `n` over one is exact
    rw [hval, roundedAt_of_mod_eq_zero Nat.one_pos (by rw [hn0, Nat.pow_zero, Nat.mul_one, Nat.mod_one]),
      quotientAt, hn0,
      Nat.pow_zero, Nat.mul_one, Nat.div_one, Nat.mul_assoc, ← Nat.pow_add]
    congr 2
    omega

/-- The quotient of two naturals below `2^53` rounds a ratio of naturals that, scaled by one
    positive factor, are the two numbers in units of `2^-1074`. -/
theorem div_ofNat_eq_ofRatio {a b : Nat} (ha : a < 2 ^ 53) (hb : 0 < b) (hb' : b < 2 ^ 53) :
    ∃ num den c, ofNat a / ofNat b = ofRatio false num den ∧ 0 < den ∧ 0 < c ∧
      num * c = a * 2 ^ 1074 ∧ den * c = b * 2 ^ 1074 := by
  obtain ⟨ma, ea, hca, hea, hva⟩ := classify_ofNat ha
  obtain ⟨mb, eb, hcb, heb, hvb⟩ := classify_ofNat hb'
  have hmb : mb ≠ 0 := by
    rintro rfl
    rw [Nat.zero_mul] at hvb
    exact Nat.ne_of_gt (Nat.mul_pos hb (Nat.two_pow_pos _)) hvb.symm
  have hdiv : ofNat a / ofNat b =
      ofRatio false (ma * 2 ^ (ea - eb).toNat) (mb * 2 ^ (-(ea - eb)).toNat) := by
    show div _ _ = _
    unfold div
    rw [hca, hcb]
    simp [hmb]
  refine ⟨_, _, 2 ^ (min ea eb + 1074).toNat, hdiv,
    Nat.mul_pos (Nat.pos_of_ne_zero hmb) (Nat.two_pow_pos _), Nat.two_pow_pos _, ?_, ?_⟩
  · rw [← hva, Nat.mul_assoc, ← Nat.pow_add]
    congr 2
    omega
  · rw [← hvb, Nat.mul_assoc, ← Nat.pow_add]
    congr 2
    omega

theorem div_ofNat_le_one {a b : Nat} (hab : a ≤ b) (hb : 0 < b) (hb' : b < 2 ^ 53) :
    (ofNat a / ofNat b).isNaN = false ∧ ofNat a / ofNat b ≤ one := by
  obtain ⟨num, den, c, hdiv, hden, hc, hnum, hden'⟩ :=
    div_ofNat_eq_ofRatio (Nat.lt_of_le_of_lt hab hb') hb hb'
  have hle : num ≤ den := by
    apply Nat.le_of_mul_le_mul_right _ hc
    rw [hnum, hden']
    exact Nat.mul_le_mul_right _ hab
  rw [hdiv]
  exact ⟨isNaN_ofRatio false hden, ofRatio_le_one hle hden⟩

theorem exponentFor_self (hm : 0 < m) : exponentFor m m = -52 := by
  have hq : quotientAt m m (binade m m - 52) = 2 ^ 52 := by
    rw [binade, Int.sub_self, quotientAt, show (-((0 : Int) - 52)).toNat = 52 from rfl,
      show ((0 : Int) - 52).toNat = 0 from rfl, Nat.pow_zero, Nat.mul_one, Nat.mul_comm,
      Nat.mul_div_cancel _ hm]
  unfold exponentFor
  rw [hq, if_neg (Nat.lt_irrefl _), binade, Int.sub_self]
  rfl

theorem roundedAt_self (hm : 0 < m) : roundedAt m m (-52) = 2 ^ 52 := by
  have hr : m * 2 ^ (-(-52 : Int)).toNat % (m * 2 ^ (-52 : Int).toNat) = 0 := by
    rw [show (-52 : Int).toNat = 0 from rfl, Nat.pow_zero, Nat.mul_one, Nat.mul_mod_right]
  have hq : quotientAt m m (-52) = 2 ^ 52 := by
    rw [quotientAt, show (-(-52 : Int)).toNat = 52 from rfl, show (-52 : Int).toNat = 0 from rfl,
      Nat.pow_zero, Nat.mul_one, Nat.mul_comm, Nat.mul_div_cancel _ hm]
  unfold roundedAt
  simp only [hr, hq, Nat.mul_zero]
  rw [if_neg (by omega)]

theorem ofRatio_self (hm : 0 < m) : ofRatio false m m = one := by
  unfold ofRatio
  rw [if_neg (Nat.pos_iff_ne_zero.mp hm), nearestMagnitude_eq, exponentFor_self hm, roundedAt_self hm]
  rfl

theorem div_ofNat_self {n : Nat} (hn : 0 < n) (h : n < 2 ^ 53) : ofNat n / ofNat n = one := by
  obtain ⟨m, e, hc, -, hv⟩ := classify_ofNat h
  have hpos : 0 < n * 2 ^ 1074 := Nat.mul_pos hn (pow_pos (by norm_num) 1074)
  rw [← hv] at hpos
  have hm : 0 < m := Nat.pos_of_ne_zero fun h0 => by
    rw [h0, Nat.zero_mul] at hpos
    exact Nat.lt_irrefl 0 hpos
  show div _ _ = _
  unfold div
  rw [hc]
  simp only [Nat.pos_iff_ne_zero.mp hm, if_false, Int.sub_self, Int.neg_zero,
    show (0 : Int).toNat = 0 from rfl, Nat.pow_zero, Nat.mul_one, bne_self_eq_false]
  exact ofRatio_self hm

end Ratio

section Below

variable {num den : Nat}

theorem exponentFor_le_of_lt (hnum : 0 < num) (hlt : num < den) : exponentFor num den ≤ -53 := by
  have hb := binade_nonpos hnum hlt.le
  rcases Int.lt_or_eq_of_le hb with hneg | hzero
  · have := exponentFor_le num den
    omega
  · -- of the same length, the quotient at `-52` stays below `2^52`
    have hq : quotientAt num den (binade num den - 52) < 2 ^ 52 := by
      rw [hzero, quotientAt, show (-((0 : Int) - 52)).toNat = 52 from rfl,
        show ((0 : Int) - 52).toNat = 0 from rfl, Nat.pow_zero, Nat.mul_one,
        Nat.div_lt_iff_lt_mul (by omega), Nat.mul_comm]
      exact Nat.mul_lt_mul_of_pos_left hlt (Nat.two_pow_pos 52)
    unfold exponentFor
    rw [if_pos hq, hzero]
    omega

theorem roundedAt_lt_of_gap {e : Int} (he : e ≤ -53) (hden : 0 < den)
    (hgap : den ≤ 2 ^ 53 * (den - num)) : roundedAt num den e < 2 ^ (-e).toNat := by
  have hn : e.toNat = 0 := by omega
  have hk : 2 ^ 53 ≤ 2 ^ (-e).toNat := Nat.pow_le_pow_right (by decide) (by omega)
  unfold roundedAt quotientAt
  rw [hn, Nat.pow_zero, Nat.mul_one]
  generalize 2 ^ (-e).toNat = P at hk ⊢
  -- the ratio leaves at least one unit of `1 / P` below one
  have hroom : num * P + den ≤ den * P := by
    have h1 : den ≤ P * (den - num) := hgap.trans (Nat.mul_le_mul_right _ hk)
    have h2 : P * (den - num) + num * P = den * P := by
      rw [Nat.mul_comm num P, ← Nat.mul_add, Nat.sub_add_cancel (by omega), Nat.mul_comm]
    omega
  have hdiv := Nat.div_add_mod (num * P) den
  have hmod := Nat.mod_lt (num * P) hden
  -- with `q` the quotient and `r` the remainder, `den · (q + 1) + r ≤ den · P`
  have hq : den * (num * P / den + 1) + num * P % den ≤ den * P := by
    rw [Nat.mul_succ]
    omega
  dsimp only
  split
  · next hup =>
    have hr : 0 < num * P % den := by omega
    have hlt : den * (num * P / den + 1) < den * P := by omega
    exact Nat.lt_of_mul_lt_mul_left hlt
  · have hle : den * (num * P / den + 1) ≤ den * P := by omega
    exact Nat.lt_of_succ_le (Nat.le_of_mul_le_mul_left hle hden)

theorem rank_zero : zero.rank = (((0 : Nat) : Int) : WithTop Int) := by
  unfold rank
  rw [classify_zero]
  simp only [signed, Bool.false_eq_true, if_false, Nat.zero_mul]

theorem ofRatio_lt_one (hlt : num < den) (hgap : den ≤ 2 ^ 53 * (den - num)) :
    ofRatio false num den < one := by
  have hden : 0 < den := by omega
  rcases Nat.eq_zero_or_pos num with rfl | hnum
  · rw [show ofRatio false 0 den = zero from rfl, lt_iff_rank, rank_zero, rank_one]
    refine ⟨by decide, by decide, ?_⟩
    exact WithBot.coe_lt_coe.mpr (WithTop.coe_lt_coe.mpr (Int.ofNat_lt.mpr (by positivity)))
  · have he := exponentFor_le_of_lt hnum hlt
    have hq := roundedAt_lt_of_gap he hden hgap
    rw [lt_iff_rank]
    refine ⟨isNaN_ofRatio false hden, by decide, ?_⟩
    rw [rank_one, rank_ofRatio hnum hden (by omega),
      ← pow_exponentFor_mul_pow (show exponentFor num den ≤ 0 by omega)]
    exact WithBot.coe_lt_coe.mpr (WithTop.coe_lt_coe.mpr
      (Int.ofNat_lt.mpr (Nat.mul_lt_mul_of_pos_right hq (Nat.two_pow_pos _))))

theorem zero_le_ofRatio (hle : num ≤ den) (hden : 0 < den) : zero ≤ ofRatio false num den := by
  rcases Nat.eq_zero_or_pos num with rfl | hnum
  · exact le_refl (show zero.isNaN = false by decide)
  · have he : exponentFor num den ≤ -52 := by
      have := exponentFor_le num den
      have := binade_nonpos hnum hle
      omega
    rw [le_iff_rank]
    refine ⟨by decide, isNaN_ofRatio false hden, ?_⟩
    rw [rank_zero, rank_ofRatio hnum hden (by omega)]
    exact WithBot.coe_le_coe.mpr (WithTop.coe_le_coe.mpr (Int.ofNat_le.mpr (Nat.zero_le _)))

theorem div_ofNat_lt_one {a b : Nat} (hab : a < b) (hb' : b < 2 ^ 53) : ofNat a / ofNat b < one := by
  obtain ⟨num, den, c, hdiv, hden, hc, hnum, hden'⟩ :=
    div_ofNat_eq_ofRatio (Nat.lt_trans hab hb') (by omega) hb'
  have hlt : num < den := by
    refine Nat.lt_of_mul_lt_mul_right (show num * c < den * c from ?_)
    rw [hnum, hden']
    exact Nat.mul_lt_mul_of_pos_right hab (by positivity)
  -- `b` stays a unit of `1 / 2^53` away from `a`, and both are `num` and `den` scaled by `c`
  have hgap : den ≤ 2 ^ 53 * (den - num) := by
    apply Nat.le_of_mul_le_mul_right _ hc
    have hba : b ≤ 2 ^ 53 * (b - a) := by omega
    calc den * c = b * 2 ^ 1074 := hden'
      _ ≤ 2 ^ 53 * (b - a) * 2 ^ 1074 := Nat.mul_le_mul_right _ hba
      _ = 2 ^ 53 * (den - num) * c := by
        rw [Nat.mul_assoc, Nat.mul_assoc, Nat.sub_mul, Nat.sub_mul, hnum, hden']
  rw [hdiv]
  exact ofRatio_lt_one hlt hgap

theorem zero_le_div_ofNat {a b : Nat} (hab : a ≤ b) (hb : 0 < b) (hb' : b < 2 ^ 53) :
    zero ≤ ofNat a / ofNat b := by
  obtain ⟨num, den, c, hdiv, hden, hc, hnum, hden'⟩ :=
    div_ofNat_eq_ofRatio (Nat.lt_of_le_of_lt hab hb') hb hb'
  have hle : num ≤ den := by
    apply Nat.le_of_mul_le_mul_right _ hc
    rw [hnum, hden']
    exact Nat.mul_le_mul_right _ hab
  rw [hdiv]
  exact zero_le_ofRatio hle hden

end Below

end RecordLinkage.Binary64
