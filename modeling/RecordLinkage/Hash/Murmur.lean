/-! # MurmurHash3, x64 variant

MurmurHash3 x64 128 keeps two 64-bit lanes, both seeded with the 32-bit seed. Each block of
16 bytes is read as two little-endian words that are mixed into the lanes; the last, shorter
block is mixed in without the lane rounds; then the length is added and both lanes are
finalised. The hash here is the low 64 bits of the 128-bit result, the first lane.
-/

namespace RecordLinkage.Hash

/-- Rotate a word left by `r` bits, `0 < r < 64`. -/
def rotl (x : UInt64) (r : UInt64) : UInt64 :=
  (x <<< r) ||| (x >>> (64 - r))

/-- The first mixing constant. -/
def murmurC1 : UInt64 := 0x87c37b91114253d5

/-- The second mixing constant. -/
def murmurC2 : UInt64 := 0x4cf5ad432745937f

/-- The little-endian word of up to eight bytes, missing high bytes being zero. -/
def wordLE (bytes : List UInt8) : UInt64 :=
  bytes.foldr (fun b acc => (acc <<< 8) ||| b.toUInt64) 0

/-- The scrambled first word of a block. -/
def mixFirst (k : UInt64) : UInt64 :=
  rotl (k * murmurC1) 31 * murmurC2

/-- The scrambled second word of a block. -/
def mixSecond (k : UInt64) : UInt64 :=
  rotl (k * murmurC2) 33 * murmurC1

/-- The final avalanche of a lane. -/
def fmix (k : UInt64) : UInt64 :=
  let k := k ^^^ (k >>> 33)
  let k := k * 0xff51afd7ed558ccd
  let k := k ^^^ (k >>> 33)
  let k := k * 0xc4ceb9fe1a85ec53
  k ^^^ (k >>> 33)

/-- The two lanes of the hash. -/
structure Lanes where
  /-- The first lane, the low half of the result. -/
  h1 : UInt64
  /-- The second lane, the high half of the result. -/
  h2 : UInt64

/-- Mix one full block of sixteen bytes into the lanes. -/
def Lanes.block (s : Lanes) (block : List UInt8) : Lanes :=
  let h1 := s.h1 ^^^ mixFirst (wordLE (block.take 8))
  let h1 := (rotl h1 27 + s.h2) * 5 + 0x52dce729
  let h2 := s.h2 ^^^ mixSecond (wordLE (block.drop 8))
  let h2 := (rotl h2 31 + h1) * 5 + 0x38495ab5
  ⟨h1, h2⟩

/-- Mix the last block of fewer than sixteen bytes into the lanes; nothing is mixed for an
    empty block, and the second word only when the block is longer than eight bytes. -/
def Lanes.tail (s : Lanes) (rest : List UInt8) : Lanes :=
  let h2 := if rest.length > 8 then s.h2 ^^^ mixSecond (wordLE (rest.drop 8)) else s.h2
  let h1 := if rest.isEmpty then s.h1 else s.h1 ^^^ mixFirst (wordLE (rest.take 8))
  ⟨h1, h2⟩

/-- Mix all blocks of the bytes into the lanes. -/
def Lanes.absorb (s : Lanes) (bytes : List UInt8) : Lanes :=
  if _h : (bytes.take 16).length < 16 then s.tail bytes
  else (s.block (bytes.take 16)).absorb (bytes.drop 16)
termination_by bytes.length
decreasing_by simp only [List.length_take, List.length_drop] at *; omega

/-- Add the length and finalise both lanes. -/
def Lanes.finish (s : Lanes) (length : UInt64) : Lanes :=
  let h1 := s.h1 ^^^ length
  let h2 := s.h2 ^^^ length
  let h1 := h1 + h2
  let h2 := h2 + h1
  let h1 := fmix h1
  let h2 := fmix h2
  let h1 := h1 + h2
  ⟨h1, h2 + h1⟩

/-- The low 64 bits of MurmurHash3 x64 128 of the bytes under the seed. -/
def murmur3 (bytes : List UInt8) (seed : UInt32) : UInt64 :=
  let start : Lanes := ⟨seed.toUInt64, seed.toUInt64⟩
  ((start.absorb bytes).finish bytes.length.toUInt64).h1

end RecordLinkage.Hash
