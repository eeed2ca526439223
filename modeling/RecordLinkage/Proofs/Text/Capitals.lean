import Mathlib.Data.List.Basic
import RecordLinkage.Field.Normalize

/-! # The capitals of case forms

Trimming and lower-casing keep the capitals `A`–`Z` of a text's upper case, except at three
characters whose lower case gains capitals. Each fact about the case tables is one Boolean
check over the table, decided by the kernel, and a lemma that reads it for every character.
-/

namespace RecordLinkage.Text

/-! ### Reading a case table backwards -/

/-- The `i`-th code point of the run. -/
def CaseRun.source (r : CaseRun) (i : Nat) : Nat :=
  r.first + i * r.stride

/-- The image of the `i`-th code point of the run. -/
def CaseRun.target (r : CaseRun) (i : Nat) : Nat :=
  ((r.source i : Int) + r.delta).toNat

theorem CaseRun.image?_eq_some {r : CaseRun} {n m : Nat} (h : r.image? n = some m) :
    ∃ i < r.count, n = r.source i ∧ m = r.target i := by
  unfold image? at h
  split at h
  · rename_i hrun
    obtain ⟨hfirst, hmod, hlt⟩ := hrun
    have hdiv := Nat.div_add_mod (n - r.first) r.stride
    have hn : n = r.source ((n - r.first) / r.stride) := by
      unfold source
      rw [Nat.mul_comm]
      omega
    refine ⟨_, hlt, hn, ?_⟩
    rw [target, ← hn]
    exact (Option.some.inj h).symm
  · cases h

theorem CaseTable.mem_image {t : CaseTable} {c x : Char} (hx : x ∈ t.image c) :
    (∃ l, (c.toNat, l) ∈ t.expansions ∧ ∃ m ∈ l, x = Char.ofNat m) ∨
    (∃ r ∈ t.runs, ∃ i < r.count, c.toNat = r.source i ∧ x = Char.ofNat (r.target i)) ∨
    x = c := by
  unfold image at hx
  split at hx
  · rename_i l hl
    obtain ⟨pre, post, hsplit, -⟩ := List.lookup_eq_some_iff.1 hl
    obtain ⟨m, hm, rfl⟩ := List.mem_map.1 hx
    refine .inl ⟨l, ?_, m, hm, rfl⟩
    rw [hsplit]
    exact List.mem_append_right _ List.mem_cons_self
  · split at hx
    · rename_i n hn
      obtain ⟨r, hr, hrn⟩ := List.exists_of_findSome?_eq_some hn
      obtain ⟨i, hi, hsrc, rfl⟩ := CaseRun.image?_eq_some hrn
      exact .inr (.inl ⟨r, hr, i, hi, hsrc, List.mem_singleton.1 hx⟩)
    · exact .inr (.inr (List.mem_singleton.1 hx))

/-- Whether every code point of the run whose image satisfies `T` satisfies `Src`. -/
def CaseRun.sourcesWithin (r : CaseRun) (T : Char → Bool) (Src : Nat → Bool) : Bool :=
  (List.range r.count).all fun i => !T (Char.ofNat (r.target i)) || Src (r.source i)

/-- Whether every code point that the table maps to a character satisfying `T` satisfies
    `Src`, the code points that map to themselves left aside. -/
def CaseTable.sourcesWithin (t : CaseTable) (T : Char → Bool) (Src : Nat → Bool) : Bool :=
  t.expansions.all (fun e => !(e.2.any fun m => T (Char.ofNat m)) || Src e.1) &&
    t.runs.all (·.sourcesWithin T Src)

theorem CaseTable.source_of_mem_image {t : CaseTable} {T : Char → Bool} {Src : Nat → Bool}
    (ht : t.sourcesWithin T Src = true) {c x : Char} (hx : x ∈ t.image c) (hT : T x = true) :
    Src c.toNat = true ∨ x = c := by
  simp only [sourcesWithin, Bool.and_eq_true, List.all_eq_true] at ht
  obtain ⟨hexp, hruns⟩ := ht
  rcases mem_image hx with ⟨l, hl, m, hm, rfl⟩ | ⟨r, hr, i, hi, hsrc, rfl⟩ | hxc
  · have hany : (l.any fun m => T (Char.ofNat m)) = true := List.any_eq_true.2 ⟨m, hm, hT⟩
    have hsrc := hexp _ hl
    rw [hany, Bool.not_true, Bool.false_or] at hsrc
    exact .inl hsrc
  · have hsrc' := List.all_eq_true.1 (hruns r hr) i (List.mem_range.2 hi)
    rw [hT, Bool.not_true, Bool.false_or, ← hsrc] at hsrc'
    exact .inl hsrc'
  · exact .inr hxc

/-- The code points of a range, in order. -/
def CodeRange.points (r : CodeRange) : List Nat :=
  List.range' r.lo (r.hi + 1 - r.lo)

theorem mem_points_of_covers {rs : List CodeRange} {n : Nat} (h : CodeRange.covers rs n = true) :
    n ∈ rs.flatMap CodeRange.points := by
  simp only [CodeRange.covers, List.any_eq_true, Bool.and_eq_true, decide_eq_true_eq] at h
  obtain ⟨r, hr, hlo, hhi⟩ := h
  exact List.mem_flatMap.2 ⟨r, hr, List.mem_range'_1.2 ⟨hlo, by omega⟩⟩

/-! ### Where capitals come from -/

/-- The capitals `A`–`Z` of the full upper case of a character. -/
def capitalsOf (c : Char) : List Char :=
  (upperChar c).filter Phonetic.isCapital

/-- The code points whose full upper case holds a capital `A`–`Z`: the letters `A`–`Z` and
    `a`–`z`, `ß`, the dotless `ı`, `ŉ`, the long `ſ`, `ǰ`, the letters `ẖ`–`ẚ` and the
    ligatures `ﬀ`–`ﬆ`. -/
def capitalSources : List CodeRange := [
  ⟨0x41, 0x5A⟩, ⟨0x61, 0x7A⟩, ⟨0xDF, 0xDF⟩, ⟨0x131, 0x131⟩, ⟨0x149, 0x149⟩, ⟨0x17F, 0x17F⟩,
  ⟨0x1F0, 0x1F0⟩, ⟨0x1E96, 0x1E9A⟩, ⟨0xFB00, 0xFB06⟩]

/-- The characters whose lower case has capitals their upper case lacks: the capital `I`
    with dot above, the capital sharp `s` and the Kelvin sign. -/
def lowerChangesCapitals : List Char := ['\u0130', '\u1E9E', '\u212A']

set_option maxRecDepth 100000 in
theorem upperCaseTable_sourcesWithin :
    upperCaseTable.sourcesWithin Phonetic.isCapital (CodeRange.covers capitalSources) = true := by
  decide +kernel

set_option maxRecDepth 100000 in
theorem lowerCaseTable_sourcesWithin :
    lowerCaseTable.sourcesWithin (fun x => CodeRange.covers capitalSources x.toNat)
      (fun n => CodeRange.covers capitalSources n || n ∈ lowerChangesCapitals.map Char.toNat) =
      true := by
  decide +kernel

theorem covers_of_isCapital {c : Char} (h : Phonetic.isCapital c = true) :
    CodeRange.covers capitalSources c.toNat = true := by
  simp only [Phonetic.isCapital, Bool.and_eq_true, decide_eq_true_eq, Char.le_def,
    UInt32.le_iff_toNat_le] at h
  simp only [CodeRange.covers, capitalSources, List.any_cons, Bool.or_eq_true, Bool.and_eq_true,
    decide_eq_true_eq]
  exact .inl ⟨h.1, h.2⟩

theorem capitalsOf_eq_nil {c : Char} (hc : CodeRange.covers capitalSources c.toNat = false) :
    capitalsOf c = [] := by
  refine List.filter_eq_nil_iff.2 fun x hx hcap => ?_
  rcases CaseTable.source_of_mem_image upperCaseTable_sourcesWithin hx hcap with h | rfl
  · rw [hc] at h
    cases h
  · rw [covers_of_isCapital hcap] at hc
    cases hc

theorem covers_of_mem_lowerChar {c x : Char} (hx : x ∈ lowerChar c)
    (hxS : CodeRange.covers capitalSources x.toNat = true) :
    CodeRange.covers capitalSources c.toNat = true ∨ c ∈ lowerChangesCapitals := by
  rcases CaseTable.source_of_mem_image lowerCaseTable_sourcesWithin hx hxS with h | rfl
  · rw [Bool.or_eq_true, decide_eq_true_eq] at h
    rcases h with h | h
    · exact .inl h
    · obtain ⟨d, hd, hdc⟩ := List.mem_map.1 h
      exact .inr (Char.toNat_inj.1 hdc ▸ hd)
  · exact .inl hxS

set_option maxRecDepth 100000 in
theorem capitals_lowerChar_sources :
    (capitalSources.flatMap CodeRange.points).all (fun n =>
      (lowerChar (Char.ofNat n)).flatMap capitalsOf == capitalsOf (Char.ofNat n)) = true := by
  decide +kernel

theorem flatMap_capitalsOf_lowerChar {c : Char} (hc : c ∉ lowerChangesCapitals) :
    (lowerChar c).flatMap capitalsOf = capitalsOf c := by
  cases hS : CodeRange.covers capitalSources c.toNat
  · -- off the sources: neither `c` nor any character of its lower case has capitals
    rw [capitalsOf_eq_nil hS, List.flatMap_eq_nil_iff]
    intro x hx
    cases hxS : CodeRange.covers capitalSources x.toNat
    · exact capitalsOf_eq_nil hxS
    · rcases covers_of_mem_lowerChar hx hxS with h | h
      · rw [hS] at h
        cases h
      · exact absurd h hc
  · have h := List.all_eq_true.1 capitals_lowerChar_sources _ (mem_points_of_covers hS)
    rw [Char.ofNat_toNat] at h
    exact beq_iff_eq.1 h

theorem flatMap_capitalsOf_lowerAt (cs : List Char) {c : Char} (i : Nat)
    (hc : c ∉ lowerChangesCapitals) :
    (lowerAt cs c i).flatMap capitalsOf = capitalsOf c := by
  unfold lowerAt
  split
  · -- both forms of a small sigma, like the capital, lie off the sources
    rename_i hsigma
    have hfinal : capitalsOf 'ς' = [] := capitalsOf_eq_nil (by decide)
    have hmedial : capitalsOf 'σ' = [] := capitalsOf_eq_nil (by decide)
    rw [hsigma, capitalsOf_eq_nil (by decide), lowerSigma]
    split <;> simp [hfinal, hmedial]
  · exact flatMap_capitalsOf_lowerChar hc

theorem flatMap_capitalsOf_lowerChars {cs : List Char}
    (hcs : ∀ c ∈ cs, c ∉ lowerChangesCapitals) :
    (lowerChars cs).flatMap capitalsOf = cs.flatMap capitalsOf := by
  unfold lowerChars
  rw [List.flatMap_assoc]
  calc cs.zipIdx.flatMap (fun p => (lowerAt cs p.1 p.2).flatMap capitalsOf)
      = cs.zipIdx.flatMap (fun p => capitalsOf p.1) := List.flatMap_congr fun p hp =>
        flatMap_capitalsOf_lowerAt cs p.2 (hcs _ (List.fst_mem_of_mem_zipIdx hp))
    _ = (cs.zipIdx.map Prod.fst).flatMap capitalsOf := (List.flatMap_map _ _ _).symm
    _ = cs.flatMap capitalsOf := by rw [List.zipIdx_map_fst]

/-! ### Trimming -/

theorem trimChars_between_blanks (cs : List Char) :
    ∃ pre post, cs = pre ++ trimChars cs ++ post ∧
      (∀ c ∈ pre, isBlank c = true) ∧ ∀ c ∈ post, isBlank c = true := by
  -- the part after the leading blanks is split again, read from its end
  have hd : cs.dropWhile isBlank = ((cs.dropWhile isBlank).reverse.dropWhile isBlank).reverse ++
      ((cs.dropWhile isBlank).reverse.takeWhile isBlank).reverse := by
    rw [← List.reverse_append, List.takeWhile_append_dropWhile, List.reverse_reverse]
  refine ⟨cs.takeWhile isBlank, ((cs.dropWhile isBlank).reverse.takeWhile isBlank).reverse, ?_,
    fun c hc => List.all_eq_true.1 List.all_takeWhile c hc,
    fun c hc => List.all_eq_true.1 List.all_takeWhile c (List.mem_reverse.1 hc)⟩
  calc cs = cs.takeWhile isBlank ++ cs.dropWhile isBlank := List.takeWhile_append_dropWhile.symm
    _ = _ := by rw [trimChars, List.append_assoc, ← hd]

set_option maxRecDepth 100000 in
theorem blanks_off_capitalSources :
    (blankRanges.flatMap CodeRange.points).all
      (fun n => !CodeRange.covers capitalSources n) = true := by
  decide +kernel

theorem capitalsOf_of_isBlank {c : Char} (h : isBlank c = true) : capitalsOf c = [] := by
  have hoff := List.all_eq_true.1 blanks_off_capitalSources _ (mem_points_of_covers h)
  rw [Bool.not_eq_true'] at hoff
  exact capitalsOf_eq_nil hoff

theorem flatMap_capitalsOf_trimChars (cs : List Char) :
    (trimChars cs).flatMap capitalsOf = cs.flatMap capitalsOf := by
  obtain ⟨pre, post, hcs, hpre, hpost⟩ := trimChars_between_blanks cs
  have hnil : ∀ l : List Char, (∀ c ∈ l, isBlank c = true) → l.flatMap capitalsOf = [] :=
    fun l hl => List.flatMap_eq_nil_iff.2 fun c hc => capitalsOf_of_isBlank (hl c hc)
  calc (trimChars cs).flatMap capitalsOf
      = (pre ++ trimChars cs ++ post).flatMap capitalsOf := by
        simp only [List.flatMap_append, hnil pre hpre, hnil post hpost, List.nil_append,
          List.append_nil]
    _ = cs.flatMap capitalsOf := by rw [← hcs]

/-! ### The letters of a normalized value -/

theorem letters_eq_flatMap (s : String) : Phonetic.letters s = s.toList.flatMap capitalsOf :=
  List.filter_flatMap

theorem letters_baseForm {v : String} (hv : ∀ c ∈ v.toList, c ∉ lowerChangesCapitals) :
    Phonetic.letters (baseForm v) = Phonetic.letters v := by
  obtain ⟨pre, post, hcs, -, -⟩ := trimChars_between_blanks v.toList
  have htrim : ∀ c ∈ trimChars v.toList, c ∉ lowerChangesCapitals := by
    intro c hc
    have hmem : c ∈ pre ++ trimChars v.toList ++ post := by simp [hc]
    rw [← hcs] at hmem
    exact hv c hmem
  rw [letters_eq_flatMap, letters_eq_flatMap, baseForm, lower, trim, String.toList_ofList,
    String.toList_ofList, flatMap_capitalsOf_lowerChars htrim, flatMap_capitalsOf_trimChars]

end RecordLinkage.Text
