import RecordLinkage.Hex
import RecordLinkage.Text.Blank

/-! # Hexadecimal round trips and refusals

A byte is written as two lower case digits, so reading the text of bytes gives them back. The
reader refuses a text of odd length for its length, and otherwise names the first byte that is
no digit.
-/

namespace RecordLinkage.Hex

section ByteStrings

theorem toList_loop_eq_drop (bs : ByteArray) (i : Nat) (r : List UInt8) :
    ByteArray.toList.loop bs i r = r.reverse ++ bs.data.toList.drop i := by
  fun_induction ByteArray.toList.loop bs i r with
  | case1 i r hi ih =>
    have hlen : i < bs.data.toList.length := by simpa using hi
    have hget : bs.get! i = bs.data.toList[i] := by
      simp [ByteArray.get!, hi]
    rw [ih, List.reverse_cons, List.append_assoc, List.singleton_append, hget,
      ← List.drop_eq_getElem_cons hlen]
  | case2 i r hi =>
    rw [List.drop_eq_nil_of_le (by simpa using Nat.le_of_not_lt hi), List.append_nil]

theorem toList_eq_data (bs : ByteArray) : bs.toList = bs.data.toList := by
  rw [ByteArray.toList, toList_loop_eq_drop]
  rfl

end ByteStrings

/-- Whether a character is a lower case hexadecimal digit. -/
def isLowerDigit (c : Char) : Bool :=
  ('0' ≤ c && c ≤ '9') || ('a' ≤ c && c ≤ 'f')

section Digits

theorem digitChar_table : ∀ n < 16,
    String.utf8EncodeChar (digitChar (UInt8.ofNat n)) = [(digitChar (UInt8.ofNat n)).val.toUInt8] ∧
      digitValue? (digitChar (UInt8.ofNat n)).val.toUInt8 = some (UInt8.ofNat n) ∧
      isLowerDigit (digitChar (UInt8.ofNat n)) = true ∧
      Text.isBlank (digitChar (UInt8.ofNat n)) = false := by
  decide

variable {v : UInt8} (hv : v < 16)
include hv

theorem digitChar_facts :
    String.utf8EncodeChar (digitChar v) = [(digitChar v).val.toUInt8] ∧
      digitValue? (digitChar v).val.toUInt8 = some v ∧ isLowerDigit (digitChar v) = true ∧
      Text.isBlank (digitChar v) = false := by
  have h := digitChar_table v.toNat (UInt8.lt_iff_toNat_lt.1 hv)
  rwa [UInt8.ofNat_toNat] at h

theorem utf8EncodeChar_digitChar :
    String.utf8EncodeChar (digitChar v) = [(digitChar v).val.toUInt8] :=
  (digitChar_facts hv).1

theorem digitValue?_digitChar : digitValue? (digitChar v).val.toUInt8 = some v :=
  (digitChar_facts hv).2.1

theorem isLowerDigit_digitChar : isLowerDigit (digitChar v) = true :=
  (digitChar_facts hv).2.2.1

theorem isBlank_digitChar : Text.isBlank (digitChar v) = false :=
  (digitChar_facts hv).2.2.2

end Digits

section Nibbles

variable (b : UInt8)

theorem high_lt : b >>> 4 < 16 := by
  rw [UInt8.lt_iff_toNat_lt, UInt8.toNat_shiftRight]
  have hb := b.toNat_lt
  simp only [show (4 : UInt8).toNat % 8 = 4 from rfl, Nat.shiftRight_eq_div_pow]
  exact Nat.div_lt_of_lt_mul (by simpa using hb)

theorem low_lt : b &&& 15 < 16 := by
  rw [UInt8.lt_iff_toNat_lt, UInt8.toNat_and, show (15 : UInt8).toNat = 2 ^ 4 - 1 from rfl,
    Nat.and_two_pow_sub_one_eq_mod]
  exact Nat.mod_lt _ (by decide)

theorem nibbles_join : ((b >>> 4) <<< 4 ||| (b &&& 15)) = b := by
  have hb := b.toNat_lt
  have hhi : ((b >>> 4) <<< 4).toNat = 2 ^ 4 * (b.toNat / 2 ^ 4) := by
    rw [UInt8.toNat_shiftLeft, UInt8.toNat_shiftRight]
    simp only [show (4 : UInt8).toNat % 8 = 4 from rfl, Nat.shiftRight_eq_div_pow, Nat.shiftLeft_eq]
    omega
  have hlo : (b &&& 15).toNat = b.toNat % 2 ^ 4 := by
    rw [UInt8.toNat_and, show (15 : UInt8).toNat = 2 ^ 4 - 1 from rfl, Nat.and_two_pow_sub_one_eq_mod]
  rw [← UInt8.toNat_inj, UInt8.toNat_or, hhi, hlo,
    ← Nat.two_pow_add_eq_or_of_lt (Nat.mod_lt _ (by decide))]
  omega

/-- The UTF-8 bytes of the two digits of a byte. -/
def digitBytes : List UInt8 :=
  [(digitChar (b >>> 4)).val.toUInt8, (digitChar (b &&& 15)).val.toUInt8]

theorem byteChars_flatMap_utf8 : (byteChars b).flatMap String.utf8EncodeChar = digitBytes b := by
  simp only [byteChars, List.flatMap_cons, List.flatMap_nil, List.append_nil,
    utf8EncodeChar_digitChar (high_lt b), utf8EncodeChar_digitChar (low_lt b)]
  rfl

end Nibbles

section Encode

variable (bytes : List UInt8)

theorem toList_encode : (encode bytes).toList = bytes.flatMap byteChars :=
  String.toList_ofList

theorem toUTF8_encode : (encode bytes).toUTF8.toList = bytes.flatMap digitBytes := by
  rw [String.toUTF8_eq_toByteArray, encode, String.toByteArray_ofList, toList_eq_data, List.utf8Encode,
    List.toList_data_toByteArray, List.flatMap_assoc]
  simp only [byteChars_flatMap_utf8]

theorem length_flatMap_pairs {α : Type} (g : UInt8 → List α) (hg : ∀ b, (g b).length = 2) :
    (bytes.flatMap g).length = 2 * bytes.length := by
  induction bytes with
  | nil => rfl
  | cons b rest ih =>
    rw [List.flatMap_cons, List.length_append, ih, hg, List.length_cons]
    omega

theorem length_encode : (encode bytes).length = 2 * bytes.length := by
  rw [← String.length_toList, toList_encode]
  exact length_flatMap_pairs bytes byteChars fun _ => rfl

theorem mem_encode {c : Char} (hc : c ∈ (encode bytes).toList) : ∃ v < 16, c = digitChar v := by
  rw [toList_encode, List.mem_flatMap] at hc
  obtain ⟨b, -, hc⟩ := hc
  simp only [byteChars, List.mem_cons, List.not_mem_nil, or_false] at hc
  rcases hc with rfl | rfl
  · exact ⟨_, high_lt b, rfl⟩
  · exact ⟨_, low_lt b, rfl⟩

theorem isLowerDigit_of_mem_encode {c : Char} (hc : c ∈ (encode bytes).toList) :
    isLowerDigit c = true := by
  obtain ⟨v, hv, rfl⟩ := mem_encode bytes hc
  exact isLowerDigit_digitChar hv

theorem trimChars_of_not_blank {cs : List Char} (h : ∀ c ∈ cs, Text.isBlank c = false) :
    Text.trimChars cs = cs := by
  have hdrop : ∀ ds : List Char, (∀ c ∈ ds, Text.isBlank c = false) →
      ds.dropWhile Text.isBlank = ds := by
    intro ds hds
    cases ds with
    | nil => rfl
    | cons d ds => exact List.dropWhile_cons_of_neg (by simp [hds d List.mem_cons_self])
  unfold Text.trimChars
  rw [hdrop cs h, hdrop cs.reverse (fun c hc => h c (List.mem_reverse.1 hc)), List.reverse_reverse]

theorem trim_encode : Text.trim (encode bytes) = encode bytes := by
  unfold Text.trim
  rw [trimChars_of_not_blank, String.ofList_toList]
  intro c hc
  obtain ⟨v, hv, rfl⟩ := mem_encode bytes hc
  exact isBlank_digitChar hv

theorem decodePairs_digitBytes (i : Nat) (acc : Array UInt8) :
    decodePairs i acc (bytes.flatMap digitBytes) = .ok (acc ++ bytes.toArray) := by
  induction bytes generalizing i acc with
  | nil => simp [decodePairs]
  | cons b rest ih =>
    rw [List.flatMap_cons, digitBytes, List.cons_append, List.cons_append, List.nil_append,
      decodePairs, digitValue?_digitChar (high_lt b), digitValue?_digitChar (low_lt b)]
    show decodePairs (i + 2) (acc.push ((b >>> 4) <<< 4 ||| (b &&& 15))) _ = _
    rw [nibbles_join, ih]
    congr 1
    rw [← Array.toList_inj]
    simp

theorem decode_encode : decode (encode bytes) = .ok bytes := by
  have hlen : (bytes.flatMap digitBytes).length = 2 * bytes.length :=
    length_flatMap_pairs bytes digitBytes fun _ => rfl
  unfold decode decodeBytes
  rw [toUTF8_encode, hlen, if_neg (by omega), decodePairs_digitBytes, Array.empty_append]
  rfl

end Encode

section Refusals

/-- A hexadecimal digit of either case, as a byte: `0` to `9`, `a` to `f` or `A` to `F`. -/
def IsDigitByte (b : UInt8) : Prop :=
  ('0'.toNat ≤ b.toNat ∧ b.toNat ≤ '9'.toNat) ∨ ('a'.toNat ≤ b.toNat ∧ b.toNat ≤ 'f'.toNat) ∨
    ('A'.toNat ≤ b.toNat ∧ b.toNat ≤ 'F'.toNat)

/-- The first byte of `text` that is no digit is `b`, at index `i`. -/
def FirstNonDigit (text : List UInt8) (b : UInt8) (i : Nat) : Prop :=
  text[i]? = some b ∧ ¬IsDigitByte b ∧ ∀ c ∈ text.take i, IsDigitByte c

/-- Why the format refuses a text: an odd number of bytes, or, in a text of even length, the
    first byte that is no digit. -/
def Refuses (text : List UInt8) : DecodeError → Prop
  | .oddLength => text.length % 2 = 1
  | .invalidByte b i => text.length % 2 = 0 ∧ FirstNonDigit text b i

theorem digitValue?_eq_none_iff (b : UInt8) : digitValue? b = none ↔ ¬IsDigitByte b := by
  unfold digitValue? IsDigitByte
  have h48 : (48 : UInt8).toNat = '0'.toNat := rfl
  have h57 : (57 : UInt8).toNat = '9'.toNat := rfl
  have h97 : (97 : UInt8).toNat = 'a'.toNat := rfl
  have h102 : (102 : UInt8).toNat = 'f'.toNat := rfl
  have h65 : (65 : UInt8).toNat = 'A'.toNat := rfl
  have h70 : (70 : UInt8).toNat = 'F'.toNat := rfl
  simp only [UInt8.le_iff_toNat_le, h48, h57, h97, h102, h65, h70]
  split
  · simp_all
  · split
    · simp_all
    · split <;> simp_all

theorem isDigitByte_of_digitValue? {b v : UInt8} (h : digitValue? b = some v) : IsDigitByte b :=
  Classical.not_not.1 fun hn => by rw [(digitValue?_eq_none_iff b).2 hn] at h; cases h

theorem FirstNonDigit.unique {text : List UInt8} {b b' : UInt8} {i i' : Nat}
    (h : FirstNonDigit text b i) (h' : FirstNonDigit text b' i') : b = b' ∧ i = i' := by
  -- a non-digit before the other's index would lie among the digits before it
  have hle : ∀ {b b' i i'}, FirstNonDigit text b i → FirstNonDigit text b' i' → ¬i < i' :=
    fun h h' hlt => h.2.1 (h'.2.2 _ (List.mem_of_getElem? (by rw [List.getElem?_take,
      if_pos hlt, h.1])))
  have hi : i = i' := by
    have := hle h h'
    have := hle h' h
    omega
  subst hi
  exact ⟨Option.some.inj (h.1.symm.trans h'.1), rfl⟩

theorem FirstNonDigit.cons_cons {hi lo : UInt8} {rest : List UInt8} {b : UInt8} {i : Nat}
    (hhi : IsDigitByte hi) (hlo : IsDigitByte lo) :
    FirstNonDigit (hi :: lo :: rest) b (i + 2) ↔ FirstNonDigit rest b i := by
  simp only [FirstNonDigit, List.getElem?_cons_succ, List.take_succ_cons, List.mem_cons,
    forall_eq_or_imp, hhi, hlo, true_and]

theorem decodePairs_eq_error {index : Nat} {acc : Array UInt8} {text : List UInt8}
    {e : DecodeError} (h : decodePairs index acc text = .error e) :
    ∃ b i, e = .invalidByte b (index + i) ∧ FirstNonDigit text b i := by
  fun_induction decodePairs index acc text with
  | case1 index acc hi lo rest hhi =>
    cases h
    exact ⟨hi, 0, rfl, rfl, (digitValue?_eq_none_iff hi).1 hhi, by simp⟩
  | case2 index acc hi lo rest v hhi hlo =>
    cases h
    refine ⟨lo, 1, rfl, rfl, (digitValue?_eq_none_iff lo).1 hlo, ?_⟩
    show ∀ c ∈ [hi], IsDigitByte c
    simp only [List.mem_singleton, forall_eq]
    exact isDigitByte_of_digitValue? hhi
  | case3 index acc hi lo rest v hhi w hlo ih =>
    -- both digits of the pair are read, and the failure lies further on
    obtain ⟨b, i, rfl, hfirst⟩ := ih h
    refine ⟨b, i + 2, by rw [Nat.add_assoc, Nat.add_comm 2 i], ?_⟩
    exact (FirstNonDigit.cons_cons (isDigitByte_of_digitValue? hhi)
      (isDigitByte_of_digitValue? hlo)).2 hfirst
  | case4 => cases h

theorem decodePairs_eq_ok {index : Nat} {acc r : Array UInt8} {text : List UInt8}
    (h : decodePairs index acc text = .ok r) (heven : text.length % 2 = 0) :
    ∀ b ∈ text, IsDigitByte b := by
  fun_induction decodePairs index acc text with
  | case1 => cases h
  | case2 => cases h
  | case3 index acc hi lo rest v hhi w hlo ih =>
    have hrest := ih h (by simp only [List.length_cons] at heven; omega)
    intro b hb
    rcases List.mem_cons.1 hb with rfl | hb
    · exact isDigitByte_of_digitValue? hhi
    rcases List.mem_cons.1 hb with rfl | hb
    · exact isDigitByte_of_digitValue? hlo
    · exact hrest b hb
  | case4 text index acc hshort =>
    -- a text of even length that is no pair followed by more is empty
    match text, hshort, heven with
    | [], _, _ => exact fun b hb => absurd hb List.not_mem_nil
    | [_], _, heven => simp at heven
    | hi :: lo :: rest, hshort, _ => exact absurd rfl (hshort hi lo rest)

/-- The reader refuses a text exactly for the reasons of the format: its odd length first,
    then its first byte that is no digit. -/
theorem decodeBytes_eq_error_iff (text : List UInt8) (cause : DecodeError) :
    decodeBytes text = .error cause ↔ Refuses text cause := by
  unfold decodeBytes
  by_cases hodd : text.length % 2 = 1
  · rw [if_pos hodd]
    cases cause with
    | oddLength => exact ⟨fun _ => hodd, fun _ => rfl⟩
    | invalidByte b i =>
      refine ⟨fun h => ?_, fun h => ?_⟩
      · cases h
      · exact absurd h.1 (by omega)
  · have heven : text.length % 2 = 0 := by omega
    rw [if_neg hodd]
    cases hd : decodePairs 0 #[] text with
    | error e =>
      obtain ⟨b, i, rfl, hfirst⟩ := decodePairs_eq_error hd
      cases cause with
      | oddLength =>
        refine ⟨fun h => ?_, fun h => absurd h hodd⟩
        cases h
      | invalidByte b' i' =>
        simp only [Except.map, Nat.zero_add, Except.error.injEq, DecodeError.invalidByte.injEq]
        constructor
        · rintro ⟨rfl, rfl⟩
          exact ⟨heven, hfirst⟩
        · exact fun h => hfirst.unique h.2
    | ok r =>
      have hdigits := decodePairs_eq_ok hd heven
      refine ⟨fun h => ?_, fun h => ?_⟩
      · cases h
      · cases cause with
        | oddLength => exact absurd h hodd
        | invalidByte b i => exact absurd (hdigits b (List.mem_of_getElem? h.2.1)) h.2.2.1

theorem decodeBytes_isOk_iff (text : List UInt8) :
    (∃ bytes, decodeBytes text = .ok bytes) ↔ text.length % 2 = 0 ∧ ∀ b ∈ text, IsDigitByte b := by
  unfold decodeBytes
  by_cases hodd : text.length % 2 = 1
  · rw [if_pos hodd]
    refine ⟨fun ⟨_, h⟩ => ?_, fun h => absurd h.1 (by omega)⟩
    cases h
  · have heven : text.length % 2 = 0 := by omega
    rw [if_neg hodd]
    cases hd : decodePairs 0 #[] text with
    | ok r => exact ⟨fun _ => ⟨heven, decodePairs_eq_ok hd heven⟩, fun _ => ⟨r.toList, rfl⟩⟩
    | error e =>
      obtain ⟨b, i, -, hfirst⟩ := decodePairs_eq_error hd
      refine ⟨fun ⟨_, h⟩ => ?_, fun h => absurd (h.2 b (List.mem_of_getElem? hfirst.1)) hfirst.2.1⟩
      cases h

end Refusals

end RecordLinkage.Hex
