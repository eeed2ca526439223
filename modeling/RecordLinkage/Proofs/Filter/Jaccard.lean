import Mathlib.Data.Finset.Card
import Mathlib.Data.List.Range
import RecordLinkage.Proofs.Filter.Counts

/-! # The Jaccard similarity of two filters

The similarity is the number of positions set in both filters over the number set in either,
counted byte by byte in 32-bit words, and zero when no position is set. Below `2^32` bits the
words do not wrap, and the counts are those of the sets of set bits.
-/

namespace RecordLinkage.Filter.BloomFilter

/-- The positions below the size whose bit is set. -/
def setBits (f : BloomFilter) : Finset Nat :=
  (Finset.range f.size).filter fun i => f.bit i = true

@[simp] theorem mem_setBits {f : BloomFilter} {i : Nat} :
    i ∈ f.setBits ↔ i < f.size ∧ f.bit i = true := by
  simp [setBits]

theorem card_filter_range (p : Nat → Bool) (n : Nat) :
    ((Finset.range n).filter fun i => p i = true).card = (List.range n).countP p := by
  rw [List.countP_eq_length_filter, ← List.toFinset_card_of_nodup (List.nodup_range.filter _)]
  congr 1
  ext i
  simp

theorem card_union_setBits_le (f g : BloomFilter) :
    (f.setBits ∪ g.setBits).card ≤ max f.size g.size := by
  calc (f.setBits ∪ g.setBits).card ≤ (Finset.range (max f.size g.size)).card := by
        apply Finset.card_le_card
        intro i hi
        rw [Finset.mem_union, mem_setBits, mem_setBits] at hi
        rw [Finset.mem_range]
        rcases hi with ⟨hi, -⟩ | ⟨hi, -⟩
        · exact lt_max_of_lt_left hi
        · exact lt_max_of_lt_right hi
    _ = max f.size g.size := Finset.card_range _

section Loop

/-- The two counts of `overlap` after its first `n` bytes. -/
def overlapUpTo (f g : BloomFilter) (n : Nat) : Nat × Nat :=
  Nat.fold n (fun j _ acc =>
    let x := byteAt f.bytes j
    let y := byteAt g.bytes j
    (acc.1 + popcount (x &&& y), acc.2 + popcount (x ||| y))) (0, 0)

variable (f g : BloomFilter)

theorem overlap_eq_overlapUpTo : f.overlap g = f.overlapUpTo g (max f.bytes.size g.bytes.size) :=
  rfl

theorem overlapUpTo_succ (n : Nat) :
    f.overlapUpTo g (n + 1) =
      ((f.overlapUpTo g n).1 + popcount (byteAt f.bytes n &&& byteAt g.bytes n),
        (f.overlapUpTo g n).2 + popcount (byteAt f.bytes n ||| byteAt g.bytes n)) := by
  rw [overlapUpTo, Nat.fold_succ]
  rfl

theorem overlapUpTo_fst_le_snd (n : Nat) : (f.overlapUpTo g n).1 ≤ (f.overlapUpTo g n).2 := by
  induction n with
  | zero => exact le_refl _
  | succ n ih =>
    rw [overlapUpTo_succ]
    have := popcount_and_le_or (byteAt f.bytes n) (byteAt g.bytes n)
    dsimp only
    omega

theorem overlapUpTo_mono {n n' : Nat} (h : n ≤ n') :
    (f.overlapUpTo g n).1 ≤ (f.overlapUpTo g n').1 ∧
      (f.overlapUpTo g n).2 ≤ (f.overlapUpTo g n').2 := by
  induction n', h using Nat.le_induction with
  | base => exact ⟨le_refl _, le_refl _⟩
  | succ n' _ ih =>
    rw [overlapUpTo_succ]
    dsimp only
    omega

end Loop

namespace WellFormed

variable {f g : BloomFilter} (hf : f.WellFormed) (hg : g.WellFormed)
include hf hg

theorem inter_setBits : f.setBits ∩ g.setBits =
    (Finset.range (max f.size g.size)).filter fun i => (f.bit i && g.bit i) = true := by
  ext i
  simp only [Finset.mem_inter, mem_setBits, Finset.mem_filter, Finset.mem_range, Bool.and_eq_true]
  constructor
  · rintro ⟨⟨hi, hfi⟩, -, hgi⟩
    exact ⟨lt_max_of_lt_left hi, hfi, hgi⟩
  · rintro ⟨-, hfi, hgi⟩
    exact ⟨⟨hf.bit_lt i hfi, hfi⟩, hg.bit_lt i hgi, hgi⟩

theorem union_setBits : f.setBits ∪ g.setBits =
    (Finset.range (max f.size g.size)).filter fun i => (f.bit i || g.bit i) = true := by
  ext i
  simp only [Finset.mem_union, mem_setBits, Finset.mem_filter, Finset.mem_range, Bool.or_eq_true]
  constructor
  · rintro (⟨hi, hfi⟩ | ⟨hi, hgi⟩)
    · exact ⟨lt_max_of_lt_left hi, .inl hfi⟩
    · exact ⟨lt_max_of_lt_right hi, .inr hgi⟩
  · rintro ⟨-, hfi | hgi⟩
    · exact .inl ⟨hf.bit_lt i hfi, hfi⟩
    · exact .inr ⟨hg.bit_lt i hgi, hgi⟩

theorem overlap_eq_card :
    f.overlap g = ((f.setBits ∩ g.setBits).card, (f.setBits ∪ g.setBits).card) := by
  rw [hf.overlap_eq hg, hf.inter_setBits hg, hf.union_setBits hg, card_filter_range,
    card_filter_range]

theorem overlapUpTo_le {n : Nat} (hn : n ≤ max f.bytes.size g.bytes.size) :
    (f.overlapUpTo g n).2 ≤ max f.size g.size := by
  have hlast : (f.overlapUpTo g (max f.bytes.size g.bytes.size)).2 =
      (f.setBits ∪ g.setBits).card := by
    rw [← overlap_eq_overlapUpTo, hf.overlap_eq_card hg]
  calc (f.overlapUpTo g n).2 ≤ (f.overlapUpTo g (max f.bytes.size g.bytes.size)).2 :=
        (overlapUpTo_mono f g hn).2
    _ = (f.setBits ∪ g.setBits).card := hlast
    _ ≤ max f.size g.size := card_union_setBits_le f g

section Small

variable (hsmall : max f.size g.size < 2 ^ 32)
include hsmall

theorem card_union_setBits_lt : (f.setBits ∪ g.setBits).card < 2 ^ 53 := by
  have := card_union_setBits_le f g
  omega

theorem jaccard_eq : f.jaccard g = if f.setBits ∪ g.setBits = ∅ then Binary64.zero
    else .ofNat (f.setBits ∩ g.setBits).card / .ofNat (f.setBits ∪ g.setBits).card := by
  -- no more bits are set than the filters have, so the 32-bit counts do not wrap
  have hunion : (f.overlap g).2 < 2 ^ 32 := by
    rw [hf.overlap_eq_card hg]
    exact lt_of_le_of_lt (card_union_setBits_le f g) hsmall
  rw [jaccard_of_overlap_lt hunion, hf.overlap_eq_card hg]
  simp only [Finset.card_eq_zero]

theorem jaccard_comm : f.jaccard g = g.jaccard f := by
  rw [hf.jaccard_eq hg hsmall, hg.jaccard_eq hf (by rwa [max_comm]), Finset.union_comm,
    Finset.inter_comm]

theorem zero_le_jaccard : Binary64.zero ≤ f.jaccard g := by
  rw [hf.jaccard_eq hg hsmall]
  split
  · exact Binary64.le_refl (by decide)
  · next hne =>
    exact Binary64.zero_le_div_ofNat (Finset.card_le_card Finset.inter_subset_union)
      (Finset.card_pos.2 (Finset.nonempty_iff_ne_empty.2 hne)) (hf.card_union_setBits_lt hg hsmall)

theorem jaccard_le_one : f.jaccard g ≤ Binary64.one := by
  rw [hf.jaccard_eq hg hsmall]
  split
  · exact Binary64.zero_le_one
  · next hne =>
    exact (Binary64.div_ofNat_le_one (Finset.card_le_card Finset.inter_subset_union)
      (Finset.card_pos.2 (Finset.nonempty_iff_ne_empty.2 hne))
      (hf.card_union_setBits_lt hg hsmall)).2

theorem jaccard_eq_one_iff :
    f.jaccard g = Binary64.one ↔ f.setBits = g.setBits ∧ f.setBits.Nonempty := by
  have hunion := hf.card_union_setBits_lt hg hsmall
  rw [hf.jaccard_eq hg hsmall]
  constructor
  · intro h
    split at h
    · exact absurd h (by decide)
    · next hne =>
      -- a proper part of the union would give a quotient below one
      have hcard : (f.setBits ∩ g.setBits).card = (f.setBits ∪ g.setBits).card := by
        refine (Finset.card_le_card Finset.inter_subset_union).antisymm (not_lt.1 fun hlt => ?_)
        have hbelow := Binary64.div_ofNat_lt_one hlt hunion
        rw [h] at hbelow
        exact Binary64.lt_irrefl _ hbelow
      have heq := Finset.eq_of_subset_of_card_le Finset.inter_subset_union hcard.ge
      have hfg : f.setBits = g.setBits := inf_eq_sup.1 heq
      refine ⟨hfg, Finset.nonempty_iff_ne_empty.2 fun hempty => hne ?_⟩
      rw [← hfg, hempty, Finset.union_empty]
  · rintro ⟨hfg, hne⟩
    have hpos : 0 < f.setBits.card := Finset.card_pos.2 hne
    have hlt : f.setBits.card < 2 ^ 53 :=
      (Finset.card_le_card Finset.subset_union_left).trans_lt hunion
    rw [← hfg, Finset.union_self, Finset.inter_self, if_neg (Finset.nonempty_iff_ne_empty.1 hne)]
    exact Binary64.div_ofNat_self hpos hlt

end Small

end WellFormed

/-- Of two reachable filters below `2^32` bits, the similarity is the number of positions set
    in both over the number set in either, and zero when none is set: symmetric, between zero
    and one, and one exactly for the same non-empty set bits. The loop's counts stay below
    `2^32`. -/
theorem jaccard_eq_card_ratio {f g : BloomFilter} (hf : Reachable f) (hg : Reachable g)
    (hfs : f.size < 2 ^ 32) (hgs : g.size < 2 ^ 32) :
    f.jaccard g = (if f.setBits ∪ g.setBits = ∅ then Binary64.zero
      else .ofNat (f.setBits ∩ g.setBits).card / .ofNat (f.setBits ∪ g.setBits).card) ∧
    f.jaccard g = g.jaccard f ∧
    (f.jaccard g).isNaN = false ∧ Binary64.zero ≤ f.jaccard g ∧ f.jaccard g ≤ Binary64.one ∧
    (f.jaccard g = Binary64.one ↔ f.setBits = g.setBits ∧ f.setBits.Nonempty) ∧
    ∀ n ≤ max f.bytes.size g.bytes.size,
      (f.overlapUpTo g n).1 ≤ (f.overlapUpTo g n).2 ∧ (f.overlapUpTo g n).2 < 2 ^ 32 := by
  have hwf := hf.wellFormed
  have hwg := hg.wellFormed
  have hsmall : max f.size g.size < 2 ^ 32 := by omega
  refine ⟨hwf.jaccard_eq hwg hsmall, hwf.jaccard_comm hwg hsmall, isNaN_jaccard f g,
    hwf.zero_le_jaccard hwg hsmall, hwf.jaccard_le_one hwg hsmall,
    hwf.jaccard_eq_one_iff hwg hsmall, fun n hn => ⟨overlapUpTo_fst_le_snd f g n, ?_⟩⟩
  have := hwf.overlapUpTo_le hwg hn
  omega

/-- An empty filter and one that took a name: both are built by the operations, and their
    similarity is a number, the same either way round. -/
theorem jaccard_eq_card_ratio_ada :
    Reachable (empty 16 2 .seededFnv) ∧ Reachable ((empty 16 2 .seededFnv).insert "ada") ∧
      (empty 16 2 .seededFnv).jaccard ((empty 16 2 .seededFnv).insert "ada") =
        ((empty 16 2 .seededFnv).insert "ada").jaccard (empty 16 2 .seededFnv) ∧
      ((empty 16 2 .seededFnv).jaccard ((empty 16 2 .seededFnv).insert "ada")).isNaN = false := by
  have he : Reachable (empty 16 2 .seededFnv) := .fresh (.empty 16 2 .seededFnv)
  have hi : Reachable ((empty 16 2 .seededFnv).insert "ada") := .insert "ada" he
  have h := jaccard_eq_card_ratio he hi (by decide) (by decide)
  exact ⟨he, hi, h.2.1, h.2.2.1⟩

end RecordLinkage.Filter.BloomFilter
