import Mathlib
import RecordLinkage.Config

/-! # Settings overlaid on a configuration

Each field of a configuration is overlaid by one rule, `Overlays`: it takes the value its
setting reads as, and keeps its own when the setting is absent or unreadable. A calibrated
configuration sizes its filter for two tokens per field as a machine word, which wraps from
`2^63` fields on.
-/

namespace RecordLinkage.Config

/-- `text` writes the count `n`: an optional `+`, then one or more ASCII digits, most
    significant first, whose decimal value `n` is below `2^64`. -/
def WritesCount (text : String) (n : Nat) : Prop :=
  ∃ digits : List Char, (text.toList = digits ∨ text.toList = '+' :: digits) ∧ digits ≠ [] ∧
    (∀ c ∈ digits, c.isDigit = true) ∧
    n = Nat.ofDigits 10 (digits.reverse.map fun c => c.toNat - '0'.toNat) ∧ n < 2 ^ 64

/-- A field overlaid from a setting that `reads` reads: it takes the value read when the
    setting is present and can be read, and keeps its old value otherwise. -/
def Overlays {α : Type} (reads : String → α → Prop) (setting : Option String) (old new : α) :
    Prop :=
  (∃ text, setting = some text ∧ reads text new) ∨
    ((∀ text, setting = some text → ∀ v, ¬reads text v) ∧ new = old)

section Counts

theorem foldl_digits (digits : List Char) (acc : Nat) :
    digits.foldl (fun acc c => 10 * acc + (c.toNat - '0'.toNat)) acc =
      acc * 10 ^ digits.length + Nat.ofDigits 10 (digits.reverse.map fun c => c.toNat - '0'.toNat) := by
  induction digits generalizing acc with
  | nil => simp
  | cons c rest ih =>
    rw [List.foldl_cons, ih, List.reverse_cons, List.map_append, Nat.ofDigits_append,
      List.length_map, List.length_reverse, List.map_singleton, Nat.ofDigits_singleton,
      List.length_cons, pow_succ]
    ring

theorem readDigits_eq_some_iff (digits : List Char) (n : Nat) :
    (if (digits.isEmpty || !digits.all Char.isDigit) = true then none
      else if digits.foldl (fun acc c => 10 * acc + (c.toNat - '0'.toNat)) 0 < 2 ^ 64 then
        some (digits.foldl (fun acc c => 10 * acc + (c.toNat - '0'.toNat)) 0) else none) = some n ↔
      digits ≠ [] ∧ (∀ c ∈ digits, c.isDigit = true) ∧
        n = Nat.ofDigits 10 (digits.reverse.map fun c => c.toNat - '0'.toNat) ∧ n < 2 ^ 64 := by
  rw [foldl_digits, Nat.zero_mul, Nat.zero_add]
  by_cases hbad : (digits.isEmpty || !digits.all Char.isDigit) = true
  · rw [if_pos hbad]
    simp only [Bool.or_eq_true, List.isEmpty_iff, Bool.not_eq_true', List.all_eq_false] at hbad
    refine ⟨fun h => ?_, fun ⟨hne, hall, _⟩ => ?_⟩
    · cases h
    rcases hbad with hnil | ⟨c, hc, hdig⟩
    · exact (hne hnil).elim
    · exact absurd (hall c hc) (by simp [hdig])
  · rw [if_neg hbad]
    simp only [Bool.or_eq_true, List.isEmpty_iff, Bool.not_eq_true', List.all_eq_false,
      not_or, not_exists, not_and] at hbad
    have hall : ∀ c ∈ digits, c.isDigit = true := fun c hc => by simpa using hbad.2 c hc
    split
    · next hlt =>
      rw [Option.some.injEq]
      exact ⟨fun h => ⟨hbad.1, hall, h.symm, h ▸ hlt⟩, fun h => h.2.2.1.symm⟩
    · next hlt =>
      refine ⟨fun h => ?_, fun h => absurd (h.2.2.1 ▸ h.2.2.2) hlt⟩
      cases h

theorem parseCount?_eq_some_iff (text : String) (n : Nat) :
    parseCount? text = some n ↔ WritesCount text n := by
  unfold parseCount?
  split
  · next rest hplus =>
    -- the text starts with `+`, and the digits are what follows it
    dsimp only
    rw [readDigits_eq_some_iff, WritesCount]
    constructor
    · rintro ⟨hne, hall, rfl, hlt⟩
      exact ⟨rest, .inr hplus, hne, hall, rfl, hlt⟩
    · rintro ⟨digits, htext | htext, hne, hall, rfl, hlt⟩
      · rw [hplus] at htext
        exact absurd (hall '+' (htext ▸ List.mem_cons_self)) (by decide)
      · rw [hplus, List.cons.injEq] at htext
        rw [htext.2]
        exact ⟨hne, hall, rfl, hlt⟩
  · next hnoplus =>
    -- the text has no sign, and all of it must be digits
    dsimp only
    rw [readDigits_eq_some_iff, WritesCount]
    constructor
    · rintro ⟨hne, hall, rfl, hlt⟩
      exact ⟨text.toList, .inl rfl, hne, hall, rfl, hlt⟩
    · rintro ⟨digits, htext | htext, hne, hall, rfl, hlt⟩
      · rw [htext]
        exact ⟨hne, hall, rfl, hlt⟩
      · exact absurd htext (hnoplus digits)

/- Leading zeros and a plus sign are read; the count must fit in 64 bits. -/
example : parseCount? "+007" = some 7 ∧ parseCount? "18446744073709551615" = some (2 ^ 64 - 1) ∧
    parseCount? "18446744073709551616" = none ∧ parseCount? "+" = none ∧ parseCount? "-0" = none := by
  decide

theorem WritesCount.unique {text : String} {n m : Nat} (hn : WritesCount text n)
    (hm : WritesCount text m) : n = m :=
  Option.some.inj (((parseCount?_eq_some_iff text n).2 hn).symm.trans
    ((parseCount?_eq_some_iff text m).2 hm))

end Counts

section Overlay

variable {α : Type}

theorem overlays_bind_getD (read : String → Option α) (reads : String → α → Prop)
    (hread : ∀ text v, read text = some v ↔ reads text v) (setting : Option String) (old : α) :
    Overlays reads setting old ((setting.bind read).getD old) := by
  cases setting with
  | none =>
    refine .inr ⟨fun _ h => ?_, rfl⟩
    cases h
  | some text =>
    rw [Option.bind_some]
    cases hr : read text with
    | none =>
      refine .inr ⟨fun text' h v hv => ?_, rfl⟩
      cases h
      rw [← hread, hr] at hv
      cases hv
    | some v => exact .inl ⟨text, rfl, (hread text v).1 hr⟩

theorem Overlays.idem {reads : String → α → Prop}
    (hunique : ∀ text v v', reads text v → reads text v' → v = v') {setting : Option String}
    {old new new' : α} (h : Overlays reads setting old new) (h' : Overlays reads setting new new') :
    new' = new := by
  rcases h' with ⟨text, hs, hv'⟩ | ⟨-, rfl⟩
  · rcases h with ⟨text₀, hs₀, hv⟩ | ⟨hnone, -⟩
    · rw [hs] at hs₀
      cases hs₀
      exact hunique text _ _ hv' hv
    · exact absurd hv' (hnone text hs _)
  · rfl

end Overlay

theorem eq_of_fields {a b : Config} (hsize : a.filterSize = b.filterSize)
    (hcount : a.hashCount = b.hashCount) (hsalt : a.salt = b.salt) (hscheme : a.scheme = b.scheme)
    (hthreshold : a.parallelThreshold = b.parallelThreshold) : a = b := by
  cases a
  cases b
  simp only at hsize hcount hsalt hscheme hthreshold
  rw [hsize, hcount, hsalt, hscheme, hthreshold]

theorem salt_overlayEnv (c : Config) (lookup : String → Option String) :
    (c.overlayEnv lookup).salt =
      ((lookup "PPRL_SALT").bind fun s => if s.isEmpty then none else some s).getD c.salt := by
  unfold overlayEnv
  cases lookup "PPRL_SALT" with
  | none => rfl
  | some s =>
    rw [Option.bind_some]
    by_cases h : s.isEmpty = true
    · simp only [if_pos h]
      rfl
    · simp only [if_neg h]
      rfl

theorem readSalt_eq_some_iff (text v : String) :
    (if text.isEmpty then none else some text) = some v ↔ text ≠ "" ∧ v = text := by
  by_cases h : text.isEmpty = true
  · rw [if_pos h]
    refine ⟨fun h' => ?_, fun h' => absurd (String.isEmpty_iff.1 h) h'.1⟩
    cases h'
  · rw [if_neg h, Option.some.injEq]
    constructor
    · rintro rfl
      exact ⟨fun he => h (String.isEmpty_iff.2 he), rfl⟩
    · rintro ⟨-, rfl⟩
      rfl

/-- Overlaying settings sets the salt to a non-empty salt setting, and each count to the value
    its setting writes as a count, an optional `+` and ASCII digits up to `2^64 - 1`. A field
    whose setting is absent or unreadable keeps its value, the scheme is kept, and a second
    overlay with the same lookup changes nothing. -/
theorem overlayEnv_spec (c : Config) (lookup : String → Option String) :
    Overlays (fun text v => text ≠ "" ∧ v = text) (lookup "PPRL_SALT") c.salt
        (c.overlayEnv lookup).salt ∧
      Overlays WritesCount (lookup "PPRL_FILTER_SIZE") c.filterSize
        (c.overlayEnv lookup).filterSize ∧
      Overlays WritesCount (lookup "PPRL_HASH_COUNT") c.hashCount (c.overlayEnv lookup).hashCount ∧
      Overlays WritesCount (lookup "PPRL_PARALLEL_THRESHOLD") c.parallelThreshold
        (c.overlayEnv lookup).parallelThreshold ∧
      (c.overlayEnv lookup).scheme = c.scheme ∧
      (c.overlayEnv lookup).overlayEnv lookup = c.overlayEnv lookup := by
  -- every field follows the one rule, with its own reader
  have hfields : ∀ c : Config,
      Overlays (fun text v => text ≠ "" ∧ v = text) (lookup "PPRL_SALT") c.salt
        (c.overlayEnv lookup).salt ∧
      Overlays WritesCount (lookup "PPRL_FILTER_SIZE") c.filterSize
        (c.overlayEnv lookup).filterSize ∧
      Overlays WritesCount (lookup "PPRL_HASH_COUNT") c.hashCount (c.overlayEnv lookup).hashCount ∧
      Overlays WritesCount (lookup "PPRL_PARALLEL_THRESHOLD") c.parallelThreshold
        (c.overlayEnv lookup).parallelThreshold := fun c =>
    ⟨salt_overlayEnv c lookup ▸ overlays_bind_getD _ _ readSalt_eq_some_iff _ _,
      overlays_bind_getD _ _ parseCount?_eq_some_iff _ _,
      overlays_bind_getD _ _ parseCount?_eq_some_iff _ _,
      overlays_bind_getD _ _ parseCount?_eq_some_iff _ _⟩
  obtain ⟨hsalt, hsize, hcount, hthreshold⟩ := hfields c
  obtain ⟨hsalt', hsize', hcount', hthreshold'⟩ := hfields (c.overlayEnv lookup)
  refine ⟨hsalt, hsize, hcount, hthreshold, rfl, ?_⟩
  have hsaltUnique : ∀ (text v v' : String), text ≠ "" ∧ v = text → text ≠ "" ∧ v' = text →
      v = v' := fun _ _ _ hv hv' => hv.2.trans hv'.2.symm
  have hcountUnique : ∀ text (v v' : Nat), WritesCount text v → WritesCount text v' → v = v' :=
    fun _ _ _ => WritesCount.unique
  exact eq_of_fields (Overlays.idem hcountUnique hsize hsize') (Overlays.idem hcountUnique hcount hcount')
    (Overlays.idem hsaltUnique hsalt hsalt') rfl (Overlays.idem hcountUnique hthreshold hthreshold')

section Calibration

/-- The default configuration sized for exactly `tokens` tokens per record. -/
def sizedFor (tokens : Nat) (targetFpr : Binary64) : Config :=
  { default with
    filterSize := (Parameters.optimal tokens targetFpr).sizeBits
    hashCount := (Parameters.optimal tokens targetFpr).hashCount }

theorem calibrated_eq_sizedFor (e : Nat) (t : Binary64) :
    calibrated e t = sizedFor (e * tokensPerField % 2 ^ 64) t := rfl

theorem mul_tokensPerField_lt_iff (e : Nat) : e * tokensPerField < 2 ^ 64 ↔ e < 2 ^ 63 := by
  rw [tokensPerField, Nat.pow_succ 2 63]
  omega

theorem mul_tokensPerField_mod (e : Nat) : e * tokensPerField % 2 ^ 64 = 2 * (e % 2 ^ 63) := by
  rw [tokensPerField, Nat.pow_succ 2 63, Nat.mul_comm e 2, Nat.mul_comm (2 ^ 63) 2,
    Nat.mul_mod_mul_left]

@[simp] theorem sizedFor_zero (t : Binary64) :
    sizedFor 0 t = { default with filterSize := 1, hashCount := 1 } := rfl

/-- The calibrated configuration is sized for twice the field count exactly when that count
    fits in a machine word, below `2^63` fields. Past it the count wraps: any number of fields
    is sized for twice its remainder modulo `2^63`. -/
theorem calibrated_tokens (e : Nat) (t : Binary64) :
    (e * tokensPerField < 2 ^ 64 ↔ e < 2 ^ 63) ∧
    calibrated e t = sizedFor (2 * (e % 2 ^ 63)) t ∧
    (e < 2 ^ 63 → calibrated e t = sizedFor (2 * e) t) := by
  have hsized : calibrated e t = sizedFor (2 * (e % 2 ^ 63)) t := by
    rw [calibrated_eq_sizedFor, mul_tokensPerField_mod]
  refine ⟨mul_tokensPerField_lt_iff e, hsized, fun he => ?_⟩
  rw [hsized, Nat.mod_eq_of_lt he]

/-- Four fields are sized for eight tokens. -/
theorem calibrated_tokens_four_fields :
    4 < 2 ^ 63 ∧ calibrated 4 (.ofBitsNat 0x3F847AE147AE147B) =
      sizedFor 8 (.ofBitsNat 0x3F847AE147AE147B) :=
  ⟨by norm_num, (calibrated_tokens 4 (.ofBitsNat 0x3F847AE147AE147B)).2.2 (by norm_num)⟩

/-- At `2^63` fields the token count no longer fits in a machine word and wraps to zero: the
    filter is sized for no tokens, one bit with one position, and the configuration passes the
    checks. -/
theorem calibrated_half_word_wraps :
    2 ^ 64 ≤ 2 ^ 63 * tokensPerField ∧
    calibrated (2 ^ 63) (.ofBitsNat 0x3F847AE147AE147B) = sizedFor 0 (.ofBitsNat 0x3F847AE147AE147B) ∧
    (calibrated (2 ^ 63) (.ofBitsNat 0x3F847AE147AE147B)).filterSize = 1 ∧
    (calibrated (2 ^ 63) (.ofBitsNat 0x3F847AE147AE147B)).hashCount = 1 ∧
    (calibrated (2 ^ 63) (.ofBitsNat 0x3F847AE147AE147B)).validate = .ok () := by
  have hwrap : calibrated (2 ^ 63) (.ofBitsNat 0x3F847AE147AE147B) =
      sizedFor 0 (.ofBitsNat 0x3F847AE147AE147B) := by
    rw [calibrated_eq_sizedFor, mul_tokensPerField_mod, Nat.mod_self]
  -- the sizes are those for no tokens, which the checks accept
  refine ⟨by rw [tokensPerField, Nat.pow_succ 2 63], hwrap, ?_, ?_, ?_⟩ <;>
    rw [hwrap, sizedFor_zero]
  rfl

end Calibration

end RecordLinkage.Config
