import RecordLinkage.Proofs.Binary64.Monotone

/-! # One less a ratio

For a finite `x` between zero and one, `one - x` is `Q - B` units of `2^e` out of the `Q` units
of one, `e` the smaller exponent, so it rounds to a number between zero and one, below one
when `x` is at least `2^-53`. Quotients of finite values are rounded ratios of magnitudes.
-/

namespace RecordLinkage.Binary64

section Sign

theorem xor_sign_facts {n : Nat} (h : n < 2 ^ 64) :
    (n ^^^ 2 ^ 63) % 2 ^ 52 = n % 2 ^ 52 ∧ (n ^^^ 2 ^ 63) / 2 ^ 52 % 2 ^ 11 = n / 2 ^ 52 % 2 ^ 11 ∧
      (n ^^^ 2 ^ 63 ≥ 2 ^ 63 ↔ ¬ n ≥ 2 ^ 63) := by
  refine ⟨?_, ?_, ?_⟩
  · rw [Nat.xor_mod_two_pow, show 2 ^ 63 % 2 ^ 52 = 0 by decide, Nat.xor_zero]
  · rw [Nat.xor_div_two_pow, Nat.xor_mod_two_pow, show 2 ^ 63 / 2 ^ 52 % 2 ^ 11 = 0 by decide,
      Nat.xor_zero]
  · have hlt : n ^^^ 2 ^ 63 < 2 ^ 64 := Nat.xor_lt_two_pow h (by decide)
    have hd : (n ^^^ 2 ^ 63) / 2 ^ 63 = n / 2 ^ 63 ^^^ 1 := by
      rw [Nat.xor_div_two_pow, Nat.div_self (by decide)]
    -- the sign bit is the quotient by `2^63`, and the exclusive or flips it
    have hn : n / 2 ^ 63 = 0 ∨ n / 2 ^ 63 = 1 := by omega
    rcases hn with hn | hn
    · rw [hn, show (0 : Nat) ^^^ 1 = 1 from rfl] at hd
      omega
    · rw [hn, show (1 : Nat) ^^^ 1 = 0 from rfl] at hd
      omega

theorem classify_neg {x : Binary64} {negative : Bool} {m : Nat} {e : Int}
    (h : x.classify = .finite negative m e) : x.neg.classify = .finite (!negative) m e := by
  obtain ⟨hfrac, hbiased, hsign⟩ := xor_sign_facts x.bits.toNat_lt
  unfold classify neg at *
  rw [UInt64.toNat_xor, show (0x8000000000000000 : UInt64).toNat = 2 ^ 63 from rfl]
  dsimp only [classifyBits] at h ⊢
  rw [hfrac, hbiased]
  split at h
  · split at h <;> cases h
  · split at h
    · cases h
      rw [if_neg ‹_›, if_pos ‹_›, ← decide_not, decide_eq_decide.mpr hsign]
    · cases h
      rw [if_neg ‹_›, if_neg ‹_›, ← decide_not, decide_eq_decide.mpr hsign]

end Sign

section Magnitude

variable {x : Binary64} {m : Nat} {e : Int}

theorem pos_of_mul_eq_one_units {Q c : Nat} (h : Q * c = 2 ^ 52 * 2 ^ 1022) : 0 < Q := by
  apply Nat.pos_of_ne_zero
  rintro rfl
  rw [Nat.zero_mul] at h
  have hpos : 0 < 2 ^ 52 * 2 ^ 1022 := by positivity
  omega

theorem rank_of_classify (hx : x.classify = .finite false m e) :
    x.rank = (((m * 2 ^ (e + 1074).toNat : Nat) : Int) : WithTop Int) := by
  simp only [rank, hx, signed, Bool.false_eq_true, if_false]

theorem magnitude_le_of_le_one (hx : x.classify = .finite false m e) (h : x ≤ one) :
    m * 2 ^ (e + 1074).toNat ≤ 2 ^ 52 * 2 ^ 1022 := by
  have hr := (le_iff_rank.1 h).2.2
  rw [rank_one, rank_of_classify hx] at hr
  exact Int.ofNat_le.mp (WithTop.coe_le_coe.mp (WithBot.coe_le_coe.mp hr))

/-- One less a finite value `x` between zero and one rounds `Q - B` out of `Q`, where `B` and
    `Q` are `x` and one in a common unit `2^(e₀)`, which `c` scales to `2^-1074`. -/
theorem one_sub_eq_ofRatio (hx : x.classify = .finite false m e)
    (hle : m * 2 ^ (e + 1074).toNat ≤ 2 ^ 52 * 2 ^ 1022) :
    ∃ Q B c : Nat, one - x = ofRatio false (Q - B) Q ∧ 0 < c ∧
      B * c = m * 2 ^ (e + 1074).toNat ∧ Q * c = 2 ^ 52 * 2 ^ 1022 := by
  have he := classify_finite_exp hx
  have hB : m * 2 ^ (e - min (-52) e).toNat * 2 ^ (min (-52) e + 1074).toNat =
      m * 2 ^ (e + 1074).toNat := by
    rw [Nat.mul_assoc, ← Nat.pow_add]
    congr 2
    omega
  have hQ : 2 ^ (-min (-52) e).toNat * 2 ^ (min (-52) e + 1074).toNat = 2 ^ 52 * 2 ^ 1022 := by
    rw [← Nat.pow_add, ← Nat.pow_add]
    congr 1
    omega
  have hBQ : m * 2 ^ (e - min (-52) e).toNat ≤ 2 ^ (-min (-52) e).toNat := by
    apply Nat.le_of_mul_le_mul_right _ (Nat.two_pow_pos (min (-52) e + 1074).toNat)
    rw [hB, hQ]
    exact hle
  refine ⟨2 ^ (-min (-52) e).toNat, m * 2 ^ (e - min (-52) e).toNat,
    2 ^ (min (-52) e + 1074).toNat, ?_, Nat.two_pow_pos _, hB, hQ⟩
  have hone : 2 ^ 52 * 2 ^ (-52 - min (-52) e).toNat = 2 ^ (-min (-52) e).toNat := by
    rw [← Nat.pow_add]
    congr 1
    omega
  show add one x.neg = _
  unfold add
  rw [classify_one, classify_neg hx]
  dsimp only [aligned]
  rw [hone]
  generalize hP : 2 ^ (-min (-52) e).toNat = P at hBQ ⊢
  generalize m * 2 ^ (e - min (-52) e).toNat = B at hBQ ⊢
  -- the exact difference `P - B` is not negative; a zero difference is the positive zero
  have hs : (P : Int) + -(B : Int) = ((P - B : Nat) : Int) := by omega
  simp only [Bool.false_eq_true, if_false, Bool.not_false, if_true, Bool.false_and, hs]
  split
  · rw [show P - B = 0 by omega]
    rfl
  · have hneg : decide (((P - B : Nat) : Int) < 0) = false := decide_eq_false (by omega)
    have he0 : (min (-52) e).toNat = 0 := by omega
    rw [hneg, Int.natAbs_natCast, ofScaled, scaled, he0, Nat.pow_zero, Nat.mul_one, hP]

theorem one_sub_between (hx : x.classify = .finite false m e)
    (hle : m * 2 ^ (e + 1074).toNat ≤ 2 ^ 52 * 2 ^ 1022) :
    (one - x).isNaN = false ∧ zero ≤ one - x ∧ one - x ≤ one := by
  obtain ⟨Q, B, c, heq, hc, -, hQ⟩ := one_sub_eq_ofRatio hx hle
  rw [heq]
  have hQpos := pos_of_mul_eq_one_units hQ
  exact ⟨isNaN_ofRatio false hQpos, zero_le_ofRatio (Nat.sub_le Q B) hQpos,
    ofRatio_le_one (Nat.sub_le Q B) hQpos⟩

theorem one_sub_lt_one (hx : x.classify = .finite false m e)
    (hle : m * 2 ^ (e + 1074).toNat ≤ 2 ^ 52 * 2 ^ 1022)
    (hbig : 2 ^ 52 * 2 ^ 969 ≤ m * 2 ^ (e + 1074).toNat) : one - x < one := by
  obtain ⟨Q, B, c, heq, hc, hB, hQ⟩ := one_sub_eq_ofRatio hx hle
  have hBQ : B ≤ Q := by
    apply Nat.le_of_mul_le_mul_right _ hc
    rw [hB, hQ]
    exact hle
  -- `x` is at least one unit of `1 / 2^53`, so `Q ≤ 2^53 · B` and `B` is positive
  have hgap : Q ≤ 2 ^ 53 * B := by
    apply Nat.le_of_mul_le_mul_right _ hc
    have hsplit : (2 : Nat) ^ 52 * 2 ^ 1022 = 2 ^ 53 * (2 ^ 52 * 2 ^ 969) := by
      rw [show 1022 = 53 + 969 from rfl, pow_add]
      generalize (2 : Nat) ^ 52 = a
      generalize (2 : Nat) ^ 53 = b
      generalize (2 : Nat) ^ 969 = d
      exact Nat.mul_left_comm a b d
    rw [hQ, hsplit, Nat.mul_assoc]
    exact Nat.mul_le_mul_left _ (by rw [hB]; exact hbig)
  have hBpos : 0 < B := by
    apply Nat.pos_of_ne_zero
    rintro rfl
    rw [Nat.zero_mul] at hB
    rw [← hB] at hbig
    have hpos : 0 < 2 ^ 52 * 2 ^ 969 := by positivity
    omega
  rw [heq]
  exact ofRatio_lt_one (by omega) (by rw [Nat.sub_sub_self hBQ]; exact hgap)

theorem one_sub_zero : one - zero = one := by
  obtain ⟨Q, B, c, heq, hc, hB, hQ⟩ :=
    one_sub_eq_ofRatio classify_zero (by rw [Nat.zero_mul]; exact Nat.zero_le _)
  have hB0 : B = 0 := by
    rw [Nat.zero_mul] at hB
    exact (Nat.mul_eq_zero.mp hB).resolve_right (Nat.pos_iff_ne_zero.mp hc)
  rw [heq, hB0, Nat.sub_zero, ofRatio_self (pos_of_mul_eq_one_units hQ)]

end Magnitude

section Quotient

variable {num den : Nat}

theorem div_eq_ofRatio {x y : Binary64} {mx my : Nat} {ex ey : Int}
    (hx : x.classify = .finite false mx ex) (hy : y.classify = .finite false my ey) (hmy : my ≠ 0) :
    ∃ num den c, x / y = ofRatio false num den ∧ 0 < den ∧ 0 < c ∧
      num * c = mx * 2 ^ (ex + 1074).toNat ∧ den * c = my * 2 ^ (ey + 1074).toNat := by
  have hex := classify_finite_exp hx
  have hey := classify_finite_exp hy
  have hdiv : x / y = ofRatio false (mx * 2 ^ (ex - ey).toNat) (my * 2 ^ (-(ex - ey)).toNat) := by
    show div _ _ = _
    unfold div
    rw [hx, hy]
    simp [hmy]
  refine ⟨_, _, 2 ^ (min ex ey + 1074).toNat, hdiv,
    Nat.mul_pos (Nat.pos_of_ne_zero hmy) (Nat.two_pow_pos _), Nat.two_pow_pos _, ?_, ?_⟩
  · rw [Nat.mul_assoc, ← Nat.pow_add]
    congr 2
    omega
  · rw [Nat.mul_assoc, ← Nat.pow_add]
    congr 2
    omega

theorem classifyBits_packMagnitude_of_normal {q : Nat} {e : Int} (hq : 2 ^ 52 ≤ q)
    (hq' : q < 2 ^ 53) (he : -1074 ≤ e) :
    classifyBits (packMagnitude q e) = .infinite false ∨
      classifyBits (packMagnitude q e) = .finite false q e := by
  by_cases ho : e ≤ 971
  · exact .inr (classifyBits_packMagnitude hq' he ho (.inl hq))
  · left
    unfold packMagnitude
    rw [if_pos (by omega)]
    decide

theorem classify_ofRatio_of_le (hle : den ≤ num) (hden : 0 < den) :
    (ofRatio false num den).classify = .infinite false ∨
      ∃ m e, (ofRatio false num den).classify = .finite false m e ∧ 0 < m := by
  have hnum : 0 < num := Nat.lt_of_lt_of_le hden hle
  have hlog : Nat.log2 den ≤ Nat.log2 num :=
    (Nat.le_log2 (by omega)).2 ((Nat.log2_self_le (by omega)).trans hle)
  have he : -1074 < exponentFor num den := by
    have := binade_sub_le_exponentFor num den
    unfold binade at this
    omega
  have hq : 2 ^ 52 ≤ roundedAt num den (exponentFor num den) :=
    (le_quotientAt_exponentFor hnum hden (by omega)).trans (le_roundedAt _ _ _)
  have hq' := roundedAt_exponentFor_le num hden
  have hmag := encodeMagnitude_le hq' (exponentFor num den)
  have hbits : ofRatio false num den = ofBitsNat (nearestMagnitude num den) := by
    simp [ofRatio, Nat.pos_iff_ne_zero.mp hnum]
  rw [hbits, nearestMagnitude_eq, classify_ofBitsNat (by unfold infinityBits at hmag; omega),
    encodeMagnitude]
  split
  · rcases @classifyBits_packMagnitude_of_normal (2 ^ 52) (exponentFor num den + 1) (Nat.le_refl _)
      (by decide) (by omega) with h | h
    · exact .inl h
    · exact .inr ⟨_, _, h, Nat.two_pow_pos 52⟩
  · rcases @classifyBits_packMagnitude_of_normal _ (exponentFor num den) hq (by omega) (by omega)
      with h | h
    · exact .inl h
    · exact .inr ⟨_, _, h, by omega⟩

theorem zero_div_of_pos {y : Binary64}
    (hy : y.classify = .infinite false ∨ ∃ m e, y.classify = .finite false m e ∧ 0 < m) :
    zero / y = zero := by
  show div _ _ = _
  unfold div
  rw [classify_zero]
  rcases hy with hy | ⟨m, e, hy, hm⟩
  · rw [hy]
    rfl
  · rw [hy]
    dsimp only
    rw [if_neg (Nat.pos_iff_ne_zero.mp hm), Nat.zero_mul]
    rfl

theorem zero_div_ofNat {n : Nat} (hn : 0 < n) : ofNat 0 / ofNat n = zero :=
  zero_div_of_pos (classify_ofRatio_of_le hn Nat.one_pos)

theorem le_roundedAt_of_gap (hnum : 0 < num) (hden : 0 < den) (hgap : den ≤ 2 ^ 53 * num) :
    2 ^ 52 * 2 ^ 969 ≤
      roundedAt num den (exponentFor num den) * 2 ^ (exponentFor num den + 1074).toNat := by
  -- at exponent `-106` the quotient would already have 54 bits
  have he : -105 ≤ exponentFor num den := by
    by_contra hlt
    have hq : 2 ^ 53 ≤ quotientAt num den (-106) := by
      unfold quotientAt
      rw [show (-(-106 : Int)).toNat = 106 from rfl, show (-106 : Int).toNat = 0 from rfl,
        Nat.pow_zero, Nat.mul_one, Nat.le_div_iff_mul_le hden]
      calc 2 ^ 53 * den ≤ 2 ^ 53 * (2 ^ 53 * num) := Nat.mul_le_mul_left _ hgap
        _ = num * 2 ^ 106 := by rw [← Nat.mul_assoc, ← Nat.pow_add, Nat.mul_comm]
    have hanti : quotientAt num den (-106) ≤ quotientAt num den (exponentFor num den) :=
      quotientAt_antitone (by omega) hden
    have hlt : quotientAt num den (exponentFor num den) < 2 ^ 53 := quotientAt_exponentFor_lt hden
    omega
  have hq : 2 ^ 52 ≤ roundedAt num den (exponentFor num den) :=
    (le_quotientAt_exponentFor hnum hden (by omega)).trans (le_roundedAt _ _ _)
  exact Nat.mul_le_mul hq (pow_le_pow_right₀ (by norm_num) (by omega))

end Quotient

section Ratio

variable {num den : Nat}

theorem classify_ofRatio_le_one (hle : num ≤ den) (hden : 0 < den) :
    ∃ m e, (ofRatio false num den).classify = .finite false m e ∧
      m * 2 ^ (e + 1074).toNat ≤ 2 ^ 52 * 2 ^ 1022 := by
  rcases Nat.eq_zero_or_pos num with rfl | hnum
  · exact ⟨0, -1074, classify_zero, by rw [Nat.zero_mul]; exact Nat.zero_le _⟩
  · have he : exponentFor num den ≤ 970 := by
      have := exponentFor_le num den
      have := binade_nonpos hnum hle
      omega
    obtain ⟨m, e, hc, -, -⟩ := classify_ofRatio hnum hden he
    exact ⟨m, e, hc, magnitude_le_of_le_one hc (ofRatio_le_one hle hden)⟩

theorem one_sub_ofRatio_between (hle : num ≤ den) (hden : 0 < den) :
    (one - ofRatio false num den).isNaN = false ∧ zero ≤ one - ofRatio false num den ∧
      one - ofRatio false num den ≤ one := by
  obtain ⟨m, e, hc, hmag⟩ := classify_ofRatio_le_one hle hden
  exact one_sub_between hc hmag

theorem one_sub_ofRatio_lt_one (hle : num ≤ den) (hden : 0 < den) (hgap : den ≤ 2 ^ 53 * num) :
    one - ofRatio false num den < one := by
  have hnum : 0 < num := by omega
  have he : exponentFor num den ≤ 970 := by
    have := exponentFor_le num den
    have := binade_nonpos hnum hle
    omega
  obtain ⟨m, e, hc, -, hval⟩ := classify_ofRatio hnum hden he
  refine one_sub_lt_one hc (magnitude_le_of_le_one hc (ofRatio_le_one hle hden)) ?_
  rw [hval]
  exact le_roundedAt_of_gap hnum hden hgap

theorem one_sub_div_ofNat_lt_one {d L : Nat} (hd : 0 < d) (hdL : d ≤ L) (hL : L < 2 ^ 53) :
    one - ofNat d / ofNat L < one := by
  obtain ⟨num, den, c, hdiv, hden, hc, hnum, hden'⟩ :=
    div_ofNat_eq_ofRatio (Nat.lt_of_le_of_lt hdL hL) (Nat.lt_of_lt_of_le hd hdL) hL
  have hle : num ≤ den := by
    apply Nat.le_of_mul_le_mul_right _ hc
    rw [hnum, hden']
    exact Nat.mul_le_mul_right _ hdL
  -- a size below `2^53` is at most `2^53` times a positive one
  have hgap : den ≤ 2 ^ 53 * num := by
    apply Nat.le_of_mul_le_mul_right _ hc
    rw [hden', Nat.mul_assoc, hnum, ← Nat.mul_assoc]
    exact Nat.mul_le_mul_right _ (by omega)
  rw [hdiv]
  exact one_sub_ofRatio_lt_one hle hden hgap

theorem classify_ofNat_of_lt {n : Nat} (h : n < 2 ^ 64) :
    ∃ m e, (ofNat n).classify = .finite false m e ∧ (0 < n → 0 < m) := by
  rcases Nat.eq_zero_or_pos n with rfl | hn
  · exact ⟨0, -1074, classify_zero, fun h0 => absurd h0 (Nat.lt_irrefl 0)⟩
  · obtain ⟨m, e, hc, -, -⟩ := classify_ofRatio hn Nat.one_pos
      ((exponentFor_le_of_lt_two_pow h).trans (by decide))
    refine ⟨m, e, hc, fun _ => ?_⟩
    rcases classify_ofRatio_of_le hn Nat.one_pos with hinf | ⟨m', e', hc', hm'⟩
    · exact absurd (hc.symm.trans hinf) (by simp)
    · change (ofRatio false n 1).classify = _ at hc'
      rw [hc] at hc'
      cases hc'
      exact hm'

theorem div_ofNat_eq_ofRatio_of_le {d L : Nat} (hdL : d ≤ L) (hL : 0 < L) (hL' : L < 2 ^ 64) :
    ∃ num den, ofNat d / ofNat L = ofRatio false num den ∧ num ≤ den ∧ 0 < den := by
  obtain ⟨mx, ex, hx, -⟩ := classify_ofNat_of_lt (Nat.lt_of_le_of_lt hdL hL')
  obtain ⟨my, ey, hy, hmy⟩ := classify_ofNat_of_lt hL'
  have hrank := (le_iff_rank.1 (ofNat_le_ofNat hdL hL')).2.2
  rw [rank_of_classify hx, rank_of_classify hy] at hrank
  have hmag : mx * 2 ^ (ex + 1074).toNat ≤ my * 2 ^ (ey + 1074).toNat :=
    Int.ofNat_le.mp (WithTop.coe_le_coe.mp (WithBot.coe_le_coe.mp hrank))
  obtain ⟨num, den, c, hdiv, hden, hc, hnum, hden'⟩ :=
    div_eq_ofRatio hx hy (Nat.pos_iff_ne_zero.mp (hmy hL))
  refine ⟨num, den, hdiv, ?_, hden⟩
  apply Nat.le_of_mul_le_mul_right _ hc
  rw [hnum, hden']
  exact hmag

end Ratio

end RecordLinkage.Binary64
