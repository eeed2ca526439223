import Mathlib
import RecordLinkage.Filter.Scheme
import RecordLinkage.Proofs.Hex

/-! # FNV-1a over chunks, and the seeded positions

FNV-1a is a left fold over bytes, so it does not see how its input is cut into chunks, and the
`i`-th seeded position hashes `decimal(i) ++ ":" ++ element` as one byte string.
-/

namespace RecordLinkage.Hash

theorem fnvStep_toNat (h : UInt64) (b : UInt8) :
    (fnvStep h b).toNat = (h.toNat ^^^ b.toNat) * 1099511628211 % 2 ^ 64 := by
  rw [fnvStep, UInt64.toNat_mul, UInt64.toNat_xor, UInt8.toNat_toUInt64]
  rfl

-- The reference vector of the letter `a`: one step from the offset basis.
example : fnv1a [[97]] = 0xaf63dc4c8601ec8c := by decide

theorem foldl_fnvFrom (h : UInt64) (chunks : List (List UInt8)) :
    chunks.foldl fnvFrom h = fnvFrom h chunks.flatten := by
  induction chunks generalizing h with
  | nil => rfl
  | cons c cs ih => rw [List.foldl_cons, ih, List.flatten_cons, fnvFrom_append]

theorem fnv1a_eq_foldl_flatten (chunks : List (List UInt8)) :
    fnv1a chunks = chunks.flatten.foldl fnvStep fnvOffsetBasis :=
  foldl_fnvFrom fnvOffsetBasis chunks

theorem fnv1a_flatten (chunks : List (List UInt8)) : fnv1a [chunks.flatten] = fnv1a chunks :=
  (fnv1a_eq_foldl_flatten chunks).symm

example : fnv1a ["0:".toUTF8.toList, "value".toUTF8.toList] = fnv1a ["0:value".toUTF8.toList] := by
  decide +kernel

theorem fnv1a_append (xs ys : List UInt8) : fnv1a [xs ++ ys] = ys.foldl fnvStep (fnv1a [xs]) :=
  fnvFrom_append fnvOffsetBasis xs ys

end RecordLinkage.Hash

namespace RecordLinkage.Filter

section SeedPrefix

theorem utf8EncodeChar_of_isDigit {c : Char} (hc : c.isDigit = true) :
    String.utf8EncodeChar c = [c.toUInt8] := by
  have hle : c.val ≤ '9'.val := by
    simp only [Char.isDigit, Bool.and_eq_true, decide_eq_true_eq] at hc
    exact hc.2
  apply String.utf8EncodeChar_eq_singleton
  rw [Char.utf8Size_eq_one_iff]
  exact UInt32.le_trans hle (by decide)

theorem toUTF8_ofList_of_single_bytes {cs : List Char}
    (hcs : ∀ c ∈ cs, String.utf8EncodeChar c = [c.toUInt8]) :
    (String.ofList cs).toUTF8.toList = cs.map Char.toUInt8 := by
  rw [String.toUTF8_eq_toByteArray, String.toByteArray_ofList, Hex.toList_eq_data, List.utf8Encode,
    List.toList_data_toByteArray, List.map_eq_flatMap]
  exact List.flatMap_congr hcs

theorem seedPrefix_eq_digits (i : Nat) :
    seedPrefix i = (Nat.toDigits 10 i ++ [':']).map Char.toUInt8 := by
  rw [seedPrefix, Nat.toString_eq_ofList_toDigits, ← String.ofList_append]
  apply toUTF8_ofList_of_single_bytes
  intro c hc
  rcases List.mem_append.1 hc with hdigit | hcolon
  · exact utf8EncodeChar_of_isDigit (Nat.isDigit_of_mem_toDigits (by decide) (by decide) hdigit)
  · rw [List.mem_singleton.1 hcolon]
    rfl

end SeedPrefix

theorem fnvPosition_eq_flat (element : List UInt8) (m i : Nat) :
    fnvPosition element m i =
      (Hash.fnv1a [(Nat.toDigits 10 i ++ [':']).map Char.toUInt8 ++ element]).toNat % m := by
  rw [fnvPosition, ← Hash.fnv1a_flatten, ← seedPrefix_eq_digits, List.flatten_cons,
    List.flatten_singleton]

theorem positions_seededFnv (element : List UInt8) (k : Nat) {m : Nat} (hm : 0 < m) :
    Scheme.seededFnv.positions element k m =
      (List.range k).map fun i =>
        (Hash.fnv1a [(Nat.toDigits 10 i ++ [':']).map Char.toUInt8 ++ element]).toNat % m := by
  rw [Scheme.positions, if_neg (Nat.pos_iff_ne_zero.1 hm)]
  exact List.map_congr_left fun i _ => fnvPosition_eq_flat element m i

/-- FNV-1a over chunks is the flat fold of `fnvStep` over their concatenation, so any cut of the
bytes into chunks, empty ones included, gives the same hash; hashing `xs ++ ys` goes on from the
hash of `xs`; a step is the exclusive or with the byte times the prime modulo `2^64`; and every
seeded position hashes `decimal(i) ++ ":" ++ element` as one byte string. -/
theorem seededFnv_hashes_concatenation :
    (∀ chunks : List (List UInt8),
        Hash.fnv1a chunks = Hash.fnv1a [chunks.flatten] ∧
          Hash.fnv1a chunks = chunks.flatten.foldl Hash.fnvStep Hash.fnvOffsetBasis) ∧
      (∀ xs ys : List UInt8, Hash.fnv1a [xs ++ ys] = ys.foldl Hash.fnvStep (Hash.fnv1a [xs])) ∧
      (∀ (h : UInt64) (b : UInt8),
        (Hash.fnvStep h b).toNat = (h.toNat ^^^ b.toNat) * 1099511628211 % 2 ^ 64) ∧
      (∀ (element : List UInt8) (k m : Nat), 0 < m →
        Scheme.seededFnv.positions element k m =
          (List.range k).map fun i =>
            (Hash.fnv1a [(Nat.toDigits 10 i ++ [':']).map Char.toUInt8 ++ element]).toNat % m) :=
  ⟨fun chunks => ⟨(Hash.fnv1a_flatten chunks).symm, Hash.fnv1a_eq_foldl_flatten chunks⟩,
    Hash.fnv1a_append, Hash.fnvStep_toNat, fun element k _ hm => positions_seededFnv element k hm⟩

/-- The pinned positions of `test-value-1`, three in a filter of 100 bits. -/
theorem seededFnv_hashes_concatenation_test_value :
    0 < 100 ∧ Scheme.seededFnv.positions "test-value-1".toUTF8.toList 3 100 = [5, 24, 99] := by
  refine ⟨by decide, ?_⟩
  rw [seededFnv_hashes_concatenation.2.2.2 _ 3 100 (by decide)]
  decide +kernel

end RecordLinkage.Filter
