import RecordLinkage.Proofs.Hex
import RecordLinkage.Proofs.Linkage.Answers

/-! # Sending filters as hexadecimal

The text of a well formed filter of `m` bits is its `⌈m / 8⌉` bytes, two lower case digits
each. Reading it back gives the same bits, and any accepted text is read as its canonical
form, cut or padded to `⌈m / 8⌉` bytes with the bits at or above `m` cleared.
-/

namespace RecordLinkage.Filter

theorem ofList_toList (bs : ByteArray) : (⟨bs.toList.toArray⟩ : ByteArray) = bs := by
  rw [Hex.toList_eq_data, Array.toArray_toList]

theorem byteAt_eq_getD (bs : ByteArray) (j : Nat) : byteAt bs j = bs.toList.getD j 0 := by
  rw [← byteAt_ofList, ofList_toList]

theorem length_toList (bs : ByteArray) : bs.toList.length = bs.size := by
  rw [Hex.toList_eq_data, Array.length_toList, ByteArray.size_data]

namespace BloomFilter

theorem bit_eq_testBit_toBytes (f : BloomFilter) (i : Nat) :
    f.bit i = (f.toBytes.getD (i / 8) 0).toNat.testBit (i % 8) := by
  rw [bit, testBit, byteAt_eq_getD, bitOf_eq_testBit _ (Nat.mod_lt _ (by decide))]
  rfl

variable {f : BloomFilter} (hf : f.WellFormed)
include hf

theorem length_toBytes : f.toBytes.length = byteCount f.size := by
  rw [toBytes, length_toList, hf.bytes_size]

theorem fitBytes_toBytes : fitBytes f.size f.toBytes = f.bytes := by
  refine eq_of_testBit_eq ((size_fitBytes _ _).trans hf.bytes_size.symm) fun i => ?_
  rw [testBit_fitBytes, toBytes, ofList_toList]
  cases hi : testBit f.bytes i with
  | false => rfl
  | true => exact decide_eq_true (hf.bit_lt i hi)

theorem ofHex_toHex (hv : validParameters f.size f.hashCount = true) (s : Scheme) :
    ofHex f.toHex f.size f.hashCount s = .ok { f with scheme := s, inserted := 0 } := by
  unfold ofHex toHex
  rw [if_pos hv, Hex.trim_encode, Hex.decode_encode]
  show (Except.ok (⟨f.size, f.hashCount, s, 0, fitBytes f.size f.toBytes⟩ : BloomFilter) :
    Except DecodeError BloomFilter) = _
  rw [fitBytes_toBytes hf]

end BloomFilter

/-- A text the reader accepts is read as the decoded bytes fitted to the size. -/
theorem BloomFilter.ofHex_canonical (s : Scheme) {hex : String} {m k : Nat} {bytes : List UInt8}
    (hdec : Hex.decode (Text.trim hex) = .ok bytes) (hv : validParameters m k = true) :
    ∃ g, BloomFilter.ofHex hex m k s = .ok g ∧ g.toBytes.length = byteCount m ∧
      ∀ i, g.bit i = ((bytes.getD (i / 8) 0).toNat.testBit (i % 8) && decide (i < m)) := by
  refine ⟨⟨m, k, s, 0, fitBytes m bytes⟩, ?_, ?_, fun i => ?_⟩
  · unfold BloomFilter.ofHex
    rw [if_pos hv, hdec]
  · rw [BloomFilter.toBytes, length_toList, size_fitBytes]
  · rw [BloomFilter.bit, testBit_fitBytes, testBit, byteAt_ofList,
      bitOf_eq_testBit _ (Nat.mod_lt _ (by decide))]

/-- The wire form of a filter: its text, reading the text back, reading any accepted text,
    and a service's filters through export and import. -/
theorem hex_transfer {f : BloomFilter} (hf : BloomFilter.Reachable f)
    (hm : 1 ≤ f.size ∧ f.size ≤ 2 ^ 24) (hk : 1 ≤ f.hashCount ∧ f.hashCount ≤ 32) (s : Scheme) :
    (f.toHex.length = 2 * byteCount f.size ∧ (∀ c ∈ f.toHex.toList, Hex.isLowerDigit c = true) ∧
      Hex.decode f.toHex = .ok f.toBytes ∧
      ∀ i, f.bit i = (f.toBytes.getD (i / 8) 0).toNat.testBit (i % 8)) ∧
    (∃ g, BloomFilter.ofHex f.toHex f.size f.hashCount s = .ok g ∧ g.toHex = f.toHex ∧
      g.size = f.size ∧ g.hashCount = f.hashCount ∧ g.scheme = s ∧ g.inserted = 0 ∧
      (s = f.scheme → ∀ e, g.contains e = f.contains e) ∧
      ∀ h, g.jaccard h = f.jaccard h ∧ h.jaccard g = h.jaccard f) ∧
    (∀ hex m k bytes, Hex.decode (Text.trim hex) = .ok bytes → validParameters m k = true →
      ∃ g, BloomFilter.ofHex hex m k s = .ok g ∧ Hex.decode g.toHex = .ok g.toBytes ∧
        g.toBytes.length = byteCount m ∧
        ∀ i, (g.toBytes.getD (i / 8) 0).toNat.testBit (i % 8) =
          ((bytes.getD (i / 8) 0).toNat.testBit (i % 8) && decide (i < m))) ∧
    (∀ c : Config, c.validate = .ok () ↔
      validParameters c.filterSize c.hashCount = true ∧ c.salt.isEmpty = false) ∧
    (∀ (svc : Service) (fields : FieldMap), ∃ g,
      svc.importFilter (svc.fieldFilter fields).export = .ok g ∧
        ∀ e, g.contains e = (svc.fieldFilter fields).contains e) := by
  have hwf := hf.wellFormed
  have hv : validParameters f.size f.hashCount = true :=
    Filter.validParameters_iff.2 ⟨hm.1, hm.2, hk.1, hk.2⟩
  refine ⟨⟨?_, fun c hc => Hex.isLowerDigit_of_mem_encode _ hc, Hex.decode_encode _,
    BloomFilter.bit_eq_testBit_toBytes f⟩, ⟨_, BloomFilter.ofHex_toHex hwf hv s, rfl, rfl, rfl, rfl,
    rfl, fun hs e => by subst hs; rfl, fun h => ⟨rfl, rfl⟩⟩, ?_, Config.validate_eq_ok_iff, ?_⟩
  · rw [BloomFilter.toHex, Hex.length_encode, BloomFilter.length_toBytes hwf]
  · intro hex m k bytes hdec hvmk
    obtain ⟨g, hg, hlen, hbit⟩ := BloomFilter.ofHex_canonical s hdec hvmk
    refine ⟨g, hg, Hex.decode_encode _, hlen, fun i => ?_⟩
    rw [← BloomFilter.bit_eq_testBit_toBytes, hbit]
  · intro svc fields
    have hsvc := svc.validParameters_config
    have hvs : validParameters (svc.fieldFilter fields).size (svc.fieldFilter fields).hashCount =
        true := by
      rw [Service.size_fieldFilter, Service.hashCount_fieldFilter]
      exact hsvc
    refine ⟨_, BloomFilter.ofHex_toHex (svc.reachable_fieldFilter fields).wellFormed hvs
      svc.config.scheme, fun e => ?_⟩
    rw [← Service.scheme_fieldFilter svc fields]
    rfl

/-- A filter of twelve bits holding two elements comes back with its text and its elements,
    and a byte read into four bits keeps only its low four. -/
theorem hex_transfer_inserted :
    let f := ((BloomFilter.empty 12 2 .seededFnv).insert "ada").insert "bob"
    BloomFilter.Reachable f ∧ f.inserted = 2 ∧ f.toHex.length = 4 ∧
      (∃ g, BloomFilter.ofHex f.toHex 12 2 .seededFnv = .ok g ∧ g.toHex = f.toHex ∧
        g.inserted = 0 ∧ g.contains "ada" = true ∧ g.contains "bob" = true) ∧
      ∃ g, BloomFilter.ofHex (Hex.encode [0xff]) 4 1 .seededFnv = .ok g ∧
        g.toBytes.length = 1 ∧ (g.toBytes.getD 0 0).toNat.testBit 3 = true ∧
        (g.toBytes.getD 0 0).toNat.testBit 4 = false := by
  intro f
  have hreach : BloomFilter.Reachable f := .insert _ (.insert _ (.fresh (.empty 12 2 _)))
  have h := hex_transfer hreach ⟨by decide, by decide⟩ ⟨by decide, by decide⟩ .seededFnv
  obtain ⟨g, hg, htext, -, -, -, hins, hmem, -⟩ := h.2.1
  have hada : f.contains "ada" = true := by decide +kernel
  have hbob : f.contains "bob" = true := by decide +kernel
  have hdec : Hex.decode (Text.trim (Hex.encode [0xff])) = .ok [0xff] := by
    rw [Hex.trim_encode, Hex.decode_encode]
  obtain ⟨g', hg', -, hlen, hbit⟩ := h.2.2.1 _ 4 1 [0xff] hdec (by decide)
  refine ⟨hreach, rfl, h.1.1.trans (by decide), ⟨g, hg, htext, hins, ?_, ?_⟩, g', hg', hlen, ?_, ?_⟩
  · rw [hmem rfl, hada]
  · rw [hmem rfl, hbob]
  · rw [hbit 3]
    decide
  · rw [hbit 4]
    decide

section Refusals

/-- Exported filters have a size in `1 ..= 2^24` and `1 ..= 32` positions per element. -/
def ParametersInRange (size hashCount : Nat) : Prop :=
  1 ≤ size ∧ size ≤ 2 ^ 24 ∧ 1 ≤ hashCount ∧ hashCount ≤ 32

theorem validParameters_iff_inRange {size hashCount : Nat} :
    validParameters size hashCount = true ↔ ParametersInRange size hashCount :=
  Filter.validParameters_iff

variable (hex : String) (size hashCount : Nat) (s : Scheme)

theorem BloomFilter.ofHex_of_not_inRange (h : ¬ParametersInRange size hashCount) :
    BloomFilter.ofHex hex size hashCount s = .error (.invalidParameters size hashCount) := by
  unfold BloomFilter.ofHex
  rw [if_neg (mt validParameters_iff_inRange.1 h)]

theorem BloomFilter.ofHex_eq_invalidHex_iff (h : ParametersInRange size hashCount)
    (cause : Hex.DecodeError) :
    BloomFilter.ofHex hex size hashCount s = .error (.invalidHex cause) ↔
      Hex.decode (Text.trim hex) = .error cause := by
  unfold BloomFilter.ofHex
  rw [if_pos (validParameters_iff_inRange.2 h)]
  cases Hex.decode (Text.trim hex) with
  | error e => simp
  | ok bytes => simp

theorem BloomFilter.ofHex_isOk_iff (h : ParametersInRange size hashCount) :
    (∃ f, BloomFilter.ofHex hex size hashCount s = .ok f) ↔
      ∃ bytes, Hex.decode (Text.trim hex) = .ok bytes := by
  unfold BloomFilter.ofHex
  rw [if_pos (validParameters_iff_inRange.2 h)]
  cases Hex.decode (Text.trim hex) with
  | error e => simp
  | ok bytes => simp

/-- Reading a filter refuses its parameters, whatever its text, exactly when they are out of
    range. With parameters in range it refuses the trimmed text exactly for the reasons of the
    hexadecimal format, its odd byte length before any byte that is no digit, and it gives a
    filter exactly when the format accepts the text. -/
theorem BloomFilter.ofHex_outcome :
    (BloomFilter.ofHex hex size hashCount s = .error (.invalidParameters size hashCount) ↔
      ¬ParametersInRange size hashCount) ∧
    (∀ cause, BloomFilter.ofHex hex size hashCount s = .error (.invalidHex cause) ↔
      ParametersInRange size hashCount ∧ Hex.Refuses (Text.trim hex).toUTF8.toList cause) ∧
    ((∃ f, BloomFilter.ofHex hex size hashCount s = .ok f) ↔
      ParametersInRange size hashCount ∧ (Text.trim hex).toUTF8.toList.length % 2 = 0 ∧
        ∀ b ∈ (Text.trim hex).toUTF8.toList, Hex.IsDigitByte b) := by
  by_cases h : ParametersInRange size hashCount
  · -- the parameters pass, so the outcome is the reader's answer on the trimmed text
    refine ⟨⟨fun he => ?_, fun hn => absurd h hn⟩, fun cause => ?_, ?_⟩
    · unfold BloomFilter.ofHex at he
      rw [if_pos (validParameters_iff_inRange.2 h)] at he
      split at he <;> cases he
    · rw [BloomFilter.ofHex_eq_invalidHex_iff hex size hashCount s h, Hex.decode,
        Hex.decodeBytes_eq_error_iff]
      exact ⟨fun hr => ⟨h, hr⟩, fun hr => hr.2⟩
    · rw [BloomFilter.ofHex_isOk_iff hex size hashCount s h, Hex.decode, Hex.decodeBytes_isOk_iff]
      exact ⟨fun hr => ⟨h, hr⟩, fun hr => hr.2⟩
  · -- the parameters fail, and no text is looked at
    have hout := BloomFilter.ofHex_of_not_inRange hex size hashCount s h
    refine ⟨⟨fun _ => h, fun _ => hout⟩, fun cause => ?_, ?_⟩
    · rw [hout]
      refine ⟨fun he => ?_, fun hr => absurd hr.1 h⟩
      cases he
    · rw [hout]
      refine ⟨fun ⟨_, he⟩ => ?_, fun hr => absurd hr.1 h⟩
      cases he

end Refusals

end RecordLinkage.Filter
