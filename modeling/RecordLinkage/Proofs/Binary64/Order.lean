import Mathlib
import RecordLinkage.Binary64.Arith

/-! # The order of binary64 values

A value that is not NaN has a place on the integers extended by both infinities, in units of
`2^-1074`, its `rank`. Comparison is the order of ranks; NaN is unordered.
-/

namespace RecordLinkage.Binary64

/-- The integer of a sign and a magnitude. -/
def signed (negative : Bool) (n : Nat) : Int :=
  if negative then -(n : Int) else n

/-- The place of a value on the extended line, in units of `2^-1074`. NaN is put at the
    bottom but never compared. -/
def rank (x : Binary64) : WithBot (WithTop Int) :=
  match x.classify with
  | .nan => ⊥
  | .infinite negative => if negative then ⊥ else ⊤
  | .finite negative m e => ((signed negative (m * 2 ^ (e + 1074).toNat) : WithTop Int) :)

theorem classify_finite_exp {x : Binary64} {negative : Bool} {m : Nat} {e : Int}
    (h : x.classify = .finite negative m e) : -1074 ≤ e := by
  dsimp only [classify, classifyBits] at h
  split at h
  · split at h <;> cases h
  · split at h
    · cases h
      exact le_refl _
    · cases h
      omega

theorem signed_mul (negative : Bool) (n c : Nat) :
    signed negative n * c = signed negative (n * c) := by
  cases negative <;> simp [signed]

theorem signed_aligned {sa : Bool} {ma : Nat} {ea eb : Int} (ha : -1074 ≤ ea) (hb : -1074 ≤ eb) :
    signed sa (ma * 2 ^ (ea - min ea eb).toNat) * 2 ^ (min ea eb + 1074).toNat =
      signed sa (ma * 2 ^ (ea + 1074).toNat) := by
  have hsplit : (ea + 1074).toNat = (ea - min ea eb).toNat + (min ea eb + 1074).toNat := by
    omega
  have hc : ((2 ^ (min ea eb + 1074).toNat : Nat) : Int) = 2 ^ (min ea eb + 1074).toNat := by
    push_cast
    rfl
  rw [← hc, signed_mul, hsplit, pow_add, Nat.mul_assoc]

theorem cmp_coe_coe (a b : Int) :
    cmp (((a : WithTop Int) : WithBot (WithTop Int))) ((b : WithTop Int) :) = cmp a b :=
  (WithBot.coe_strictMono.comp WithTop.coe_strictMono).cmp_map_eq a b

theorem compare?_of_isNaN_left {x : Binary64} (y : Binary64) (h : x.isNaN = true) :
    x.compare? y = none := by
  unfold isNaN at h
  unfold compare?
  rw [of_decide_eq_true h]

theorem compare?_of_isNaN_right (x : Binary64) {y : Binary64} (h : y.isNaN = true) :
    x.compare? y = none := by
  unfold isNaN at h
  unfold compare?
  rw [of_decide_eq_true h]
  cases x.classify <;> rfl

theorem compare?_eq_cmp {x y : Binary64} (hx : x.isNaN = false) (hy : y.isNaN = false) :
    x.compare? y = some (cmp x.rank y.rank) := by
  unfold isNaN at hx hy
  unfold compare? rank
  cases cx : x.classify with
  | nan => simp [cx] at hx
  | infinite a =>
    cases cy : y.classify with
    | nan => simp [cy] at hy
    | infinite b =>
      have hlt : (⊥ : WithBot (WithTop Int)) < ⊤ := WithBot.bot_lt_coe _
      cases a <;> cases b
      · simp
      · exact congrArg some ((cmp_eq_gt_iff _ _).mpr hlt).symm
      · exact congrArg some ((cmp_eq_lt_iff _ _).mpr hlt).symm
      · simp
    | finite sb mb eb =>
      cases a
      · exact congrArg some ((cmp_eq_gt_iff _ _).mpr (WithBot.coe_lt_coe.mpr (WithTop.coe_lt_top _))).symm
      · exact congrArg some ((cmp_eq_lt_iff _ _).mpr (WithBot.bot_lt_coe _)).symm
  | finite sa ma ea =>
    cases cy : y.classify with
    | nan => simp [cy] at hy
    | infinite b =>
      cases b
      · exact congrArg some ((cmp_eq_lt_iff _ _).mpr (WithBot.coe_lt_coe.mpr (WithTop.coe_lt_top _))).symm
      · exact congrArg some ((cmp_eq_gt_iff _ _).mpr (WithBot.bot_lt_coe _)).symm
    | finite sb mb eb =>
      have ha := classify_finite_exp cx
      have hb := classify_finite_exp cy
      have hpos : (0 : Int) < 2 ^ (min ea eb + 1074).toNat := pow_pos (by decide) _
      have hb' : signed sb (mb * 2 ^ (eb - min ea eb).toNat) * 2 ^ (min ea eb + 1074).toNat =
          signed sb (mb * 2 ^ (eb + 1074).toNat) := by
        rw [min_comm]
        exact signed_aligned hb ha
      simp only [aligned, Option.some.injEq]
      rw [cmp_coe_coe, ← signed_aligned ha hb, ← hb', cmp_mul_pos_right hpos, cmp_eq_compare]
      cases sa <;> cases sb <;> rfl

theorem not_isNaN_of_compare? {x y : Binary64} {o : Ordering} (h : x.compare? y = some o) :
    x.isNaN = false ∧ y.isNaN = false := by
  constructor
  · cases hx : x.isNaN
    · rfl
    · rw [compare?_of_isNaN_left y hx] at h
      cases h
  · cases hy : y.isNaN
    · rfl
    · rw [compare?_of_isNaN_right x hy] at h
      cases h

theorem compare?_eq_some_iff {x y : Binary64} {o : Ordering} :
    x.compare? y = some o ↔ x.isNaN = false ∧ y.isNaN = false ∧ cmp x.rank y.rank = o := by
  constructor
  · intro h
    obtain ⟨hx, hy⟩ := not_isNaN_of_compare? h
    rw [compare?_eq_cmp hx hy, Option.some.injEq] at h
    exact ⟨hx, hy, h⟩
  · rintro ⟨hx, hy, h⟩
    rw [compare?_eq_cmp hx hy, h]

theorem lt_iff_rank {x y : Binary64} :
    x < y ↔ x.isNaN = false ∧ y.isNaN = false ∧ x.rank < y.rank := by
  change decide _ = true ↔ _
  rw [decide_eq_true_iff, compare?_eq_some_iff, cmp_eq_lt_iff]

theorem le_iff_rank {x y : Binary64} :
    x ≤ y ↔ x.isNaN = false ∧ y.isNaN = false ∧ x.rank ≤ y.rank := by
  change (decide _ || decide _) = true ↔ _
  rw [Bool.or_eq_true, decide_eq_true_iff, decide_eq_true_iff, compare?_eq_some_iff,
    compare?_eq_some_iff, cmp_eq_lt_iff, cmp_eq_eq_iff, le_iff_lt_or_eq]
  tauto

theorem eq_iff_rank {x y : Binary64} :
    x.eq y = true ↔ x.isNaN = false ∧ y.isNaN = false ∧ x.rank = y.rank := by
  rw [eq, decide_eq_true_iff, compare?_eq_some_iff, cmp_eq_eq_iff]

theorem lt_irrefl (x : Binary64) : ¬x < x :=
  fun h => (lt_iff_rank.1 h).2.2.false

theorem lt_trans {x y z : Binary64} (h₁ : x < y) (h₂ : y < z) : x < z := by
  obtain ⟨hx, -, h₁⟩ := lt_iff_rank.1 h₁
  obtain ⟨-, hz, h₂⟩ := lt_iff_rank.1 h₂
  exact lt_iff_rank.2 ⟨hx, hz, h₁.trans h₂⟩

theorem le_trans {x y z : Binary64} (h₁ : x ≤ y) (h₂ : y ≤ z) : x ≤ z := by
  obtain ⟨hx, -, h₁⟩ := le_iff_rank.1 h₁
  obtain ⟨-, hz, h₂⟩ := le_iff_rank.1 h₂
  exact le_iff_rank.2 ⟨hx, hz, h₁.trans h₂⟩

theorem lt_of_lt_of_le {x y z : Binary64} (h₁ : x < y) (h₂ : y ≤ z) : x < z := by
  obtain ⟨hx, -, h₁⟩ := lt_iff_rank.1 h₁
  obtain ⟨-, hz, h₂⟩ := le_iff_rank.1 h₂
  exact lt_iff_rank.2 ⟨hx, hz, h₁.trans_le h₂⟩

theorem le_of_lt {x y : Binary64} (h : x < y) : x ≤ y := by
  obtain ⟨hx, hy, h⟩ := lt_iff_rank.1 h
  exact le_iff_rank.2 ⟨hx, hy, h.le⟩

theorem le_refl {x : Binary64} (hx : x.isNaN = false) : x ≤ x :=
  le_iff_rank.2 ⟨hx, hx, Preorder.le_refl x.rank⟩

theorem eq_refl {x : Binary64} (hx : x.isNaN = false) : x.eq x = true :=
  eq_iff_rank.2 ⟨hx, hx, rfl⟩

theorem lt_or_eq_or_lt {x y : Binary64} (hx : x.isNaN = false) (hy : y.isNaN = false) :
    x < y ∨ x.eq y = true ∨ y < x := by
  rcases lt_trichotomy x.rank y.rank with h | h | h
  · exact .inl (lt_iff_rank.2 ⟨hx, hy, h⟩)
  · exact .inr (.inl (eq_iff_rank.2 ⟨hx, hy, h⟩))
  · exact .inr (.inr (lt_iff_rank.2 ⟨hy, hx, h⟩))

theorem not_le {x y : Binary64} (hx : x.isNaN = false) (hy : y.isNaN = false) :
    ¬x ≤ y ↔ y < x := by
  rw [le_iff_rank, lt_iff_rank]
  simp [hx, hy]

theorem eq_symm {x y : Binary64} (h : x.eq y = true) : y.eq x = true := by
  obtain ⟨hx, hy, h⟩ := eq_iff_rank.1 h
  exact eq_iff_rank.2 ⟨hy, hx, h.symm⟩

theorem eq_trans {x y z : Binary64} (h₁ : x.eq y = true) (h₂ : y.eq z = true) :
    x.eq z = true := by
  obtain ⟨hx, -, h₁⟩ := eq_iff_rank.1 h₁
  obtain ⟨-, hz, h₂⟩ := eq_iff_rank.1 h₂
  exact eq_iff_rank.2 ⟨hx, hz, h₁.trans h₂⟩

theorem lt_of_eq_of_lt {x y z : Binary64} (h₁ : x.eq y = true) (h₂ : y < z) : x < z := by
  obtain ⟨hx, -, h₁⟩ := eq_iff_rank.1 h₁
  obtain ⟨-, hz, h₂⟩ := lt_iff_rank.1 h₂
  exact lt_iff_rank.2 ⟨hx, hz, h₁ ▸ h₂⟩

theorem lt_of_lt_of_eq {x y z : Binary64} (h₁ : x < y) (h₂ : y.eq z = true) : x < z := by
  obtain ⟨hx, -, h₁⟩ := lt_iff_rank.1 h₁
  obtain ⟨-, hz, h₂⟩ := eq_iff_rank.1 h₂
  exact lt_iff_rank.2 ⟨hx, hz, h₂ ▸ h₁⟩

theorem not_lt_of_eq {x y : Binary64} (h : x.eq y = true) : ¬x < y := by
  obtain ⟨-, -, h⟩ := eq_iff_rank.1 h
  exact fun hlt => (lt_iff_rank.1 hlt).2.2.ne h

theorem le_of_eq {x y : Binary64} (h : x.eq y = true) : x ≤ y := by
  obtain ⟨hx, hy, h⟩ := eq_iff_rank.1 h
  exact le_iff_rank.2 ⟨hx, hy, h.le⟩

theorem lt_or_eq_of_le {x y : Binary64} (h : x ≤ y) : x < y ∨ x.eq y = true := by
  obtain ⟨hx, hy, h⟩ := le_iff_rank.1 h
  rcases h.lt_or_eq with h | h
  · exact .inl (lt_iff_rank.2 ⟨hx, hy, h⟩)
  · exact .inr (eq_iff_rank.2 ⟨hx, hy, h⟩)

theorem eq_of_le_of_le {x y : Binary64} (h₁ : x ≤ y) (h₂ : y ≤ x) : x.eq y = true := by
  obtain ⟨hx, hy, h₁⟩ := le_iff_rank.1 h₁
  exact eq_iff_rank.2 ⟨hx, hy, le_antisymm h₁ (le_iff_rank.1 h₂).2.2⟩

theorem isNaN_left_of_le {x y : Binary64} (h : x ≤ y) : x.isNaN = false :=
  (le_iff_rank.1 h).1

theorem isNaN_right_of_le {x y : Binary64} (h : x ≤ y) : y.isNaN = false :=
  (le_iff_rank.1 h).2.1

end RecordLinkage.Binary64
