import RecordLinkage.Filter.Wire

/-! # The bits of a filter

A filter is read through `BloomFilter.bit`: bit `i` is place `i % 8` of byte `i / 8`. Well
formed filters hold `⌈m / 8⌉` bytes and no bit at or above `m`; inserting sets the element's
positions and merging adds the other filter's bits.
-/

namespace RecordLinkage.Filter

section Bytes

theorem size_setByte (bs : ByteArray) (j : Nat) (v : UInt8) : (setByte bs j v).size = bs.size := by
  unfold setByte
  split
  · simp [← ByteArray.size_data, ByteArray.data_set]
  · rfl

theorem byteAt_setByte (bs : ByteArray) (j : Nat) (v : UInt8) (k : Nat) :
    byteAt (setByte bs j v) k = if j < bs.size ∧ k = j then v else byteAt bs k := by
  unfold byteAt setByte
  by_cases hj : j < bs.size
  · have hsize : (bs.set j v hj).size = bs.size := by
      simp [← ByteArray.size_data, ByteArray.data_set]
    by_cases hk : k = j
    · subst hk
      simp [hj, hsize, ByteArray.getElem_eq_getElem_data, ByteArray.data_set]
    · simp only [hj, dif_pos, hk, and_false, if_false, hsize]
      split
      · simp [ByteArray.getElem_eq_getElem_data, ByteArray.data_set, Array.getElem_set, Ne.symm hk]
      · rfl
  · simp [hj]

theorem byteAt_of_size_le {bs : ByteArray} {j : Nat} (h : bs.size ≤ j) : byteAt bs j = 0 := by
  unfold byteAt
  rw [dif_neg (by omega)]

end Bytes

section Places

theorem bitOf_eq_testBit (b : UInt8) {r : Nat} (hr : r < 8) : bitOf b r = b.toNat.testBit r := by
  have hr' : r.toUInt8.toNat = r := by
    simp only [Nat.toUInt8_eq, UInt8.toNat_ofNat']
    omega
  have hval : ((b >>> r.toUInt8) &&& 1).toNat = b.toNat / 2 ^ r % 2 := by
    rw [UInt8.toNat_and, UInt8.toNat_shiftRight, hr', Nat.mod_eq_of_lt hr,
      Nat.shiftRight_eq_div_pow]
    exact Nat.and_one_is_mod _
  rw [bitOf, Nat.testBit_eq_decide_div_mod_eq]
  by_cases h : b.toNat / 2 ^ r % 2 = 1
  · rw [decide_eq_true h, beq_iff_eq, ← UInt8.toNat_inj, hval, h]
    rfl
  · rw [decide_eq_false h, beq_eq_false_iff_ne, ne_eq, ← UInt8.toNat_inj, hval]
    exact h

theorem bitOf_or (a b : UInt8) {r : Nat} (hr : r < 8) :
    bitOf (a ||| b) r = (bitOf a r || bitOf b r) := by
  rw [bitOf_eq_testBit _ hr, bitOf_eq_testBit _ hr, bitOf_eq_testBit _ hr, UInt8.toNat_or,
    Nat.testBit_or]

theorem bitOf_and (a b : UInt8) {r : Nat} (hr : r < 8) :
    bitOf (a &&& b) r = (bitOf a r && bitOf b r) := by
  rw [bitOf_eq_testBit _ hr, bitOf_eq_testBit _ hr, bitOf_eq_testBit _ hr, UInt8.toNat_and,
    Nat.testBit_and]

theorem bitOf_zero (r : Nat) : bitOf 0 r = false := by
  unfold bitOf
  rw [UInt8.zero_shiftRight, UInt8.zero_and]
  rfl

theorem bitOf_shiftLeft_one {r s : Nat} (hr : r < 8) (hs : s < 8) :
    bitOf ((1 : UInt8) <<< r.toUInt8) s = decide (s = r) := by
  have hr' : r.toUInt8.toNat = r := by
    simp only [Nat.toUInt8_eq, UInt8.toNat_ofNat']
    omega
  have hpow : ((1 : UInt8) <<< r.toUInt8).toNat = 2 ^ r := by
    rw [UInt8.toNat_shiftLeft, hr', Nat.mod_eq_of_lt hr, UInt8.toNat_one, Nat.one_shiftLeft]
    exact Nat.mod_eq_of_lt (Nat.pow_lt_pow_right (by decide) hr)
  rw [bitOf_eq_testBit _ hs, hpow, Nat.testBit_two_pow]
  exact decide_eq_decide.mpr eq_comm

theorem bitOf_lowMask (k : Nat) {s : Nat} (hs : s < 8) : bitOf (lowMask k) s = decide (s < k) := by
  unfold lowMask
  split
  · next hk =>
    rw [bitOf_eq_testBit _ hs, show (0xFF : UInt8).toNat = 2 ^ 8 - 1 from rfl,
      Nat.testBit_two_pow_sub_one]
    exact decide_eq_decide.mpr (by omega)
  · next hk =>
    have hk' : k.toUInt8.toNat = k := by
      simp only [Nat.toUInt8_eq, UInt8.toNat_ofNat']
      omega
    have hpow : ((1 : UInt8) <<< k.toUInt8).toNat = 2 ^ k := by
      rw [UInt8.toNat_shiftLeft, hk', Nat.mod_eq_of_lt (show k < 8 by omega), UInt8.toNat_one,
        Nat.one_shiftLeft]
      exact Nat.mod_eq_of_lt (Nat.pow_lt_pow_right (by decide) (show k < 8 by omega))
    have hsub : (((1 : UInt8) <<< k.toUInt8) - 1).toNat = 2 ^ k - 1 := by
      rw [UInt8.toNat_sub_of_le _ _ (by rw [UInt8.le_iff_toNat_le, hpow]; exact Nat.one_le_two_pow),
        hpow, UInt8.toNat_one]
    rw [bitOf_eq_testBit _ hs, hsub, Nat.testBit_two_pow_sub_one]

theorem eq_of_bitOf_eq {a b : UInt8} (h : ∀ r < 8, bitOf a r = bitOf b r) : a = b := by
  rw [← UInt8.toNat_inj]
  apply Nat.eq_of_testBit_eq
  intro r
  by_cases hr : r < 8
  · rw [← bitOf_eq_testBit _ hr, ← bitOf_eq_testBit _ hr, h r hr]
  · have hpow : 2 ^ 8 ≤ 2 ^ r := Nat.pow_le_pow_right (by decide) (by omega)
    rw [Nat.testBit_lt_two_pow (Nat.lt_of_lt_of_le a.toNat_lt hpow),
      Nat.testBit_lt_two_pow (Nat.lt_of_lt_of_le b.toNat_lt hpow)]

end Places

section Packed

theorem testBit_of_size_le {bs : ByteArray} {i : Nat} (h : bs.size ≤ i / 8) : testBit bs i = false := by
  unfold testBit
  rw [byteAt_of_size_le h, bitOf_zero]

theorem size_setBit (bs : ByteArray) (i : Nat) : (setBit bs i).size = bs.size :=
  size_setByte _ _ _

theorem testBit_setBit (bs : ByteArray) (i k : Nat) :
    testBit (setBit bs i) k = (testBit bs k || (decide (i / 8 < bs.size) && decide (k = i))) := by
  unfold testBit setBit
  rw [byteAt_setByte]
  by_cases h : i / 8 < bs.size ∧ k / 8 = i / 8
  · rw [if_pos h, bitOf_or _ _ (Nat.mod_lt _ (by decide)),
      bitOf_shiftLeft_one (Nat.mod_lt _ (by decide)) (Nat.mod_lt _ (by decide)), h.2]
    have hki : (k % 8 = i % 8) ↔ k = i := by omega
    simp [h.1, hki]
  · rw [if_neg h]
    have hne : ¬(i / 8 < bs.size ∧ k = i) := fun ⟨hi, hki⟩ => h ⟨hi, hki ▸ rfl⟩
    rw [← Bool.decide_and, decide_eq_false hne, Bool.or_false]

theorem size_foldl_setBit (ps : List Nat) (bs : ByteArray) : (ps.foldl setBit bs).size = bs.size := by
  induction ps generalizing bs with
  | nil => rfl
  | cons p ps ih => rw [List.foldl_cons, ih, size_setBit]

theorem testBit_foldl_setBit (ps : List Nat) (bs : ByteArray) (hps : ∀ p ∈ ps, p / 8 < bs.size)
    (k : Nat) : testBit (ps.foldl setBit bs) k = (testBit bs k || decide (k ∈ ps)) := by
  induction ps generalizing bs with
  | nil => simp
  | cons p ps ih =>
    rw [List.foldl_cons, ih (setBit bs p) (fun q hq => size_setBit bs p ▸ hps q (by simp [hq])),
      testBit_setBit, decide_eq_true (hps p (by simp))]
    simp only [Bool.true_and, List.mem_cons, Bool.decide_or, Bool.or_assoc]

theorem foldl_orByte_eq (a b : ByteArray) (n : Nat) (hn : n ≤ a.size) :
    (Nat.fold n (fun j _ acc => setByte acc j (byteAt acc j ||| byteAt b j)) a).size = a.size ∧
      ∀ j, byteAt (Nat.fold n (fun j _ acc => setByte acc j (byteAt acc j ||| byteAt b j)) a) j =
        if j < n then byteAt a j ||| byteAt b j else byteAt a j := by
  induction n with
  | zero => simp
  | succ n ih =>
    obtain ⟨hsize, hbyte⟩ := ih (by omega)
    rw [Nat.fold_succ]
    refine ⟨by rw [size_setByte, hsize], fun j => ?_⟩
    rw [byteAt_setByte, hsize]
    by_cases hj : j = n
    · subst hj
      rw [if_pos ⟨by omega, rfl⟩, hbyte, if_neg (Nat.lt_irrefl j), if_pos (Nat.lt_succ_self j)]
    · rw [if_neg (fun h => hj h.2), hbyte]
      by_cases hjn : j < n
      · rw [if_pos hjn, if_pos (by omega)]
      · rw [if_neg hjn, if_neg (by omega)]

theorem size_orBytes (a b : ByteArray) : (orBytes a b).size = a.size :=
  (foldl_orByte_eq a b _ (Nat.min_le_left _ _)).1

theorem byteAt_orBytes (a b : ByteArray) (j : Nat) :
    byteAt (orBytes a b) j = if j < min a.size b.size then byteAt a j ||| byteAt b j else byteAt a j :=
  (foldl_orByte_eq a b _ (Nat.min_le_left _ _)).2 j

theorem testBit_orBytes (a b : ByteArray) (i : Nat) :
    testBit (orBytes a b) i = (testBit a i || (decide (i / 8 < a.size) && testBit b i)) := by
  unfold testBit
  rw [byteAt_orBytes]
  by_cases hab : i / 8 < min a.size b.size
  · rw [if_pos hab, bitOf_or _ _ (Nat.mod_lt _ (by decide)), decide_eq_true (by omega)]
    rfl
  · rw [if_neg hab]
    by_cases ha : i / 8 < a.size
    · rw [byteAt_of_size_le (show b.size ≤ i / 8 by omega), bitOf_zero]
      simp
    · rw [decide_eq_false ha]
      simp

theorem testBit_clearTail {m : Nat} {bs : ByteArray} (h : bs.size = byteCount m) (i : Nat) :
    testBit (clearTail m bs) i = (testBit bs i && decide (i < m)) := by
  unfold byteCount at h
  unfold clearTail
  split
  · next hcase =>
    by_cases hi : i < m
    · simp [hi]
    · rw [testBit_of_size_le (by omega)]
      rfl
  · next hcase =>
    unfold testBit
    rw [byteAt_setByte]
    by_cases hlast : i / 8 = bs.size - 1
    · rw [if_pos ⟨by omega, hlast⟩, bitOf_and _ _ (Nat.mod_lt _ (by decide)),
        bitOf_lowMask _ (Nat.mod_lt _ (by decide)), ← hlast]
      congr 1
      exact decide_eq_decide.mpr (by omega)
    · rw [if_neg (fun hc => hlast hc.2)]
      by_cases hi : i < m
      · simp [hi]
      · rw [byteAt_of_size_le (by omega), bitOf_zero]
        rfl

theorem size_clearTail (m : Nat) (bs : ByteArray) : (clearTail m bs).size = bs.size := by
  unfold clearTail
  split
  · rfl
  · exact size_setByte _ _ _

end Packed

section Extensionality

theorem testBit_eight_mul_add (bs : ByteArray) (j : Nat) {r : Nat} (hr : r < 8) :
    testBit bs (8 * j + r) = bitOf (byteAt bs j) r := by
  unfold testBit
  rw [show (8 * j + r) / 8 = j by omega, show (8 * j + r) % 8 = r by omega]

theorem eq_of_testBit_eq {a b : ByteArray} (hsize : a.size = b.size)
    (h : ∀ i, testBit a i = testBit b i) : a = b := by
  apply ByteArray.ext
  apply Array.ext (by simpa using hsize)
  intro j hja hjb
  have hbyte : byteAt a j = byteAt b j := eq_of_bitOf_eq fun r hr => by
    rw [← testBit_eight_mul_add a j hr, ← testBit_eight_mul_add b j hr, h]
  have hja' : j < a.size := by simpa using hja
  have hjb' : j < b.size := by simpa using hjb
  unfold byteAt at hbyte
  rw [dif_pos hja', dif_pos hjb', ByteArray.getElem_eq_getElem_data,
    ByteArray.getElem_eq_getElem_data] at hbyte
  exact hbyte

theorem byteAt_zeroBytes (n j : Nat) : byteAt (zeroBytes n) j = 0 := by
  unfold byteAt zeroBytes
  split
  · simp [ByteArray.getElem_eq_getElem_data]
  · rfl

theorem byteAt_ofList (l : List UInt8) (j : Nat) : byteAt ⟨l.toArray⟩ j = l.getD j 0 := by
  unfold byteAt
  split
  · next h =>
    have hj : j < l.length := by simpa [ByteArray.size] using h
    simp [ByteArray.getElem_eq_getElem_data, List.getD_eq_getElem?_getD, hj]
  · next h =>
    have hj : l.length ≤ j := by simpa [ByteArray.size] using h
    simp [List.getD_eq_getElem?_getD, List.getElem?_eq_none hj]

end Extensionality

theorem size_fitBytes (m : Nat) (bytes : List UInt8) : (fitBytes m bytes).size = byteCount m := by
  unfold fitBytes
  rw [size_clearTail]
  simp only [ByteArray.size, List.size_toArray, List.length_append, List.length_take,
    List.length_replicate]
  omega

theorem testBit_fitBytes (m : Nat) (bytes : List UInt8) (i : Nat) :
    testBit (fitBytes m bytes) i = (testBit ⟨bytes.toArray⟩ i && decide (i < m)) := by
  unfold fitBytes
  have hsize : (⟨(bytes.take (byteCount m) ++ List.replicate (byteCount m - bytes.length) 0).toArray⟩
      : ByteArray).size = byteCount m := by
    simp only [ByteArray.size, List.size_toArray, List.length_append, List.length_take,
      List.length_replicate]
    omega
  rw [testBit_clearTail hsize]
  by_cases hi : i < m
  · have hj : i / 8 < byteCount m := by unfold byteCount; omega
    unfold testBit
    rw [byteAt_ofList, byteAt_ofList, List.getD_eq_getElem?_getD, List.getD_eq_getElem?_getD,
      List.getElem?_append, List.getElem?_take, if_pos hj]
    by_cases hl : i / 8 < bytes.length
    · rw [List.length_take, if_pos (show i / 8 < min (byteCount m) bytes.length by omega)]
    · rw [List.length_take, if_neg (show ¬i / 8 < min (byteCount m) bytes.length by omega), List.getElem?_replicate,
        if_pos (show i / 8 - min (byteCount m) bytes.length < byteCount m - bytes.length by omega),
        List.getElem?_eq_none (Nat.le_of_not_lt hl)]
      rfl
  · simp [hi]

theorem Scheme.lt_of_mem_positions (s : Scheme) {element : List UInt8} {k m p : Nat}
    (h : p ∈ s.positions element k m) : p < m := by
  unfold Scheme.positions at h
  split at h
  · simp at h
  · next hm =>
    have hpos : 0 < m := Nat.pos_of_ne_zero hm
    split at h
    · obtain ⟨i, -, rfl⟩ := List.mem_map.1 h
      exact Nat.mod_lt _ hpos
    · obtain ⟨i, -, rfl⟩ := List.mem_map.1 h
      exact Nat.mod_lt _ hpos

theorem Scheme.length_positions (s : Scheme) (element : List UInt8) (k m : Nat) :
    (s.positions element k m).length = if m = 0 then 0 else k := by
  unfold Scheme.positions
  split
  · rfl
  · cases s <;> simp

namespace BloomFilter

theorem lt_of_mem_positionsOf {f : BloomFilter} {e : String} {p : Nat}
    (h : p ∈ f.positionsOf e) : p < f.size :=
  f.scheme.lt_of_mem_positions h

theorem div_lt_byteCount {i m : Nat} (h : i < m) : i / 8 < byteCount m := by
  unfold byteCount
  omega

@[simp] theorem bit_empty (m k : Nat) (s : Scheme) (i : Nat) : (empty m k s).bit i = false := by
  unfold bit testBit empty
  rw [byteAt_zeroBytes, bitOf_zero]

/-- What every filter built by the operations satisfies: `⌈m / 8⌉` bytes for `m` bits, and
    no bit set at or above `m`. -/
structure WellFormed (f : BloomFilter) : Prop where
  bytes_size : f.bytes.size = byteCount f.size
  bit_lt : ∀ i, f.bit i = true → i < f.size

namespace WellFormed

variable {f : BloomFilter} (hf : f.WellFormed)
include hf

theorem bit_insert (e : String) (i : Nat) :
    (f.insert e).bit i = (f.bit i || decide (i ∈ f.positionsOf e)) :=
  testBit_foldl_setBit _ _
    (fun _ hp => hf.bytes_size ▸ div_lt_byteCount (lt_of_mem_positionsOf hp)) i

theorem bit_union (g : BloomFilter) (i : Nat) :
    (f.union g).bit i = (f.bit i || (decide (i < f.size) && g.bit i)) := by
  have hsize : (orBytes f.bytes g.bytes).size = byteCount f.size := by
    rw [size_orBytes, hf.bytes_size]
  show testBit (clearTail f.size (orBytes f.bytes g.bytes)) i = _
  rw [testBit_clearTail hsize, testBit_orBytes]
  by_cases hi : i < f.size
  · rw [decide_eq_true (hf.bytes_size ▸ div_lt_byteCount hi), decide_eq_true hi]
    simp only [Bool.true_and, Bool.and_true]
    rfl
  · have hfi : f.bit i = false := Bool.eq_false_iff.2 fun h => hi (hf.bit_lt i h)
    rw [decide_eq_false hi, Bool.and_false, Bool.false_and, Bool.or_false, hfi]

theorem insert (e : String) : (f.insert e).WellFormed where
  bytes_size := (size_foldl_setBit _ _).trans hf.bytes_size
  bit_lt i h := by
    rw [hf.bit_insert, Bool.or_eq_true, decide_eq_true_eq] at h
    rcases h with h | h
    · exact hf.bit_lt i h
    · exact lt_of_mem_positionsOf h

theorem union (g : BloomFilter) : (f.union g).WellFormed where
  bytes_size := by
    show (clearTail f.size (orBytes f.bytes g.bytes)).size = byteCount f.size
    rw [size_clearTail, size_orBytes, hf.bytes_size]
  bit_lt i h := by
    rw [hf.bit_union, Bool.or_eq_true, Bool.and_eq_true, decide_eq_true_eq] at h
    rcases h with h | ⟨h, -⟩
    · exact hf.bit_lt i h
    · exact h

theorem bytes_eq {g : BloomFilter} (hg : g.WellFormed) (hsize : f.size = g.size)
    (hbit : ∀ i, f.bit i = g.bit i) : f.bytes = g.bytes :=
  eq_of_testBit_eq (by rw [hf.bytes_size, hg.bytes_size, hsize]) hbit

end WellFormed

theorem WellFormed.empty (m k : Nat) (s : Scheme) : (empty m k s).WellFormed where
  bytes_size := bytes_size_empty m k s
  bit_lt i h := by simp at h

theorem ofHex_eq_ok {hex : String} {m k : Nat} {s : Scheme} {f : BloomFilter}
    (h : ofHex hex m k s = .ok f) :
    validParameters m k = true ∧ ∃ bytes, Hex.decode (Text.trim hex) = .ok bytes ∧
      f = ⟨m, k, s, 0, fitBytes m bytes⟩ := by
  unfold ofHex at h
  split at h
  · next hvalid =>
    split at h
    · exact absurd h (by simp)
    · next bytes hdecode =>
      exact ⟨hvalid, bytes, hdecode, (Except.ok.inj h).symm⟩
  · exact absurd h (by simp)

theorem WellFormed.ofHex {hex : String} {m k : Nat} {s : Scheme} {f : BloomFilter}
    (h : ofHex hex m k s = .ok f) : f.WellFormed := by
  obtain ⟨-, bytes, -, rfl⟩ := ofHex_eq_ok h
  exact ⟨size_fitBytes m bytes, fun i hi => by
    rw [bit, testBit_fitBytes, Bool.and_eq_true, decide_eq_true_eq] at hi
    exact hi.2⟩

section Membership

theorem and_bitByte (a b : Bool) :
    ((if a then 1 else 0 : UInt8) &&& if b then 1 else 0) = if (a && b) then 1 else 0 := by
  cases a <;> cases b <;> rfl

theorem foldl_and_bitByte (test : Nat → Bool) (ps : List Nat) (a : Bool) :
    ps.foldl (fun r p => r &&& (if test p then 1 else 0 : UInt8)) (if a then 1 else 0) =
      if (a && ps.all test) then 1 else 0 := by
  induction ps generalizing a with
  | nil => simp
  | cons p rest ih => rw [List.foldl_cons, and_bitByte, ih, List.all_cons, Bool.and_assoc]

theorem contains_of_size_eq_zero {f : BloomFilter} (h : f.size = 0) (e : String) :
    f.contains e = true := by
  have hnone : f.positionsOf e = [] := by
    simp [positionsOf, Scheme.positions, h]
  rw [contains, hnone, List.all_nil]

/-- The test that reads every position answers as the test that stops at the first clear
    bit, for every filter and element, whatever the positions and however often one repeats;
    in a filter without bits both are vacuously `true`. -/
theorem containsConstantTime_agrees (f : BloomFilter) (e : String) :
    f.containsConstantTime e = f.contains e ∧ (f.size = 0 → f.containsConstantTime e = true) := by
  have hagree : f.containsConstantTime e = f.contains e := by
    have hfold := foldl_and_bitByte f.bit (f.positionsOf e) true
    rw [if_pos rfl, Bool.true_and] at hfold
    rw [containsConstantTime, contains, hfold]
    cases (f.positionsOf e).all f.bit <;> rfl
  exact ⟨hagree, fun h => hagree.trans (contains_of_size_eq_zero h e)⟩

/-- A filter without bits, probed by the test that reads every position. -/
theorem containsConstantTime_agrees_without_bits :
    (empty 0 3 .seededFnv).size = 0 ∧ (empty 0 3 .seededFnv).containsConstantTime "Ada" = true :=
  ⟨rfl, (containsConstantTime_agrees (empty 0 3 .seededFnv) "Ada").2 rfl⟩

end Membership

end BloomFilter

end RecordLinkage.Filter
