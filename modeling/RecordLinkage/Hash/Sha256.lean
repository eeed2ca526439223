/-! # SHA-256

The SHA-256 digest of a byte string (FIPS 180-4): the message is padded with a one bit,
zeros and its bit length to a whole number of 64-byte blocks, and each block is folded into
a state of eight 32-bit words by the compression function. The digest is the final state,
big-endian.
-/

namespace RecordLinkage.Hash.Sha256

-- Powers of naturals are core's `Nat.pow`, also where an algebra library is imported.
attribute [local instance (high)] instPowNat

/-- The round constants. -/
def roundConstants : Array UInt32 := #[
  0x428a2f98, 0x71374491, 0xb5c0fbcf, 0xe9b5dba5, 0x3956c25b, 0x59f111f1, 0x923f82a4, 0xab1c5ed5,
  0xd807aa98, 0x12835b01, 0x243185be, 0x550c7dc3, 0x72be5d74, 0x80deb1fe, 0x9bdc06a7, 0xc19bf174,
  0xe49b69c1, 0xefbe4786, 0x0fc19dc6, 0x240ca1cc, 0x2de92c6f, 0x4a7484aa, 0x5cb0a9dc, 0x76f988da,
  0x983e5152, 0xa831c66d, 0xb00327c8, 0xbf597fc7, 0xc6e00bf3, 0xd5a79147, 0x06ca6351, 0x14292967,
  0x27b70a85, 0x2e1b2138, 0x4d2c6dfc, 0x53380d13, 0x650a7354, 0x766a0abb, 0x81c2c92e, 0x92722c85,
  0xa2bfe8a1, 0xa81a664b, 0xc24b8b70, 0xc76c51a3, 0xd192e819, 0xd6990624, 0xf40e3585, 0x106aa070,
  0x19a4c116, 0x1e376c08, 0x2748774c, 0x34b0bcb5, 0x391c0cb3, 0x4ed8aa4a, 0x5b9cca4f, 0x682e6ff3,
  0x748f82ee, 0x78a5636f, 0x84c87814, 0x8cc70208, 0x90befffa, 0xa4506ceb, 0xbef9a3f7, 0xc67178f2]

/-- The eight working words. -/
structure Working where
  a : UInt32
  b : UInt32
  c : UInt32
  d : UInt32
  e : UInt32
  f : UInt32
  g : UInt32
  h : UInt32

/-- The initial hash value. -/
def initial : Working :=
  ⟨0x6a09e667, 0xbb67ae85, 0x3c6ef372, 0xa54ff53a, 0x510e527f, 0x9b05688c, 0x1f83d9ab, 0x5be0cd19⟩

/-- Rotate a word right by `r` bits, `0 < r < 32`. -/
def rotr (x : UInt32) (r : UInt32) : UInt32 :=
  (x >>> r) ||| (x <<< (32 - r))

/-- The word at index `i`, or zero past the end. -/
def wordAt (ws : Array UInt32) (i : Nat) : UInt32 :=
  ws.getD i 0

/-- The big-endian word of four bytes. -/
def wordBE (bytes : List UInt8) : UInt32 :=
  bytes.foldl (fun acc b => (acc <<< 8) ||| b.toUInt32) 0

/-- The sixteen words of a block. -/
def blockWords (block : List UInt8) : Array UInt32 :=
  ((List.range 16).map fun i => wordBE ((block.drop (4 * i)).take 4)).toArray

/-- The message schedule of 64 words, extended from the sixteen words of the block. -/
def schedule (block : List UInt8) : Array UInt32 :=
  (List.range' 16 48).foldl (fun ws t =>
    let w15 := wordAt ws (t - 15)
    let w2 := wordAt ws (t - 2)
    let s0 := rotr w15 7 ^^^ rotr w15 18 ^^^ (w15 >>> 3)
    let s1 := rotr w2 17 ^^^ rotr w2 19 ^^^ (w2 >>> 10)
    ws.push (wordAt ws (t - 16) + s0 + wordAt ws (t - 7) + s1)) (blockWords block)

/-- One round of the compression function with round constant `k` and schedule word `w`. -/
def round (s : Working) (k w : UInt32) : Working :=
  let s1 := rotr s.e 6 ^^^ rotr s.e 11 ^^^ rotr s.e 25
  let ch := (s.e &&& s.f) ^^^ (~~~s.e &&& s.g)
  let t1 := s.h + s1 + ch + k + w
  let s0 := rotr s.a 2 ^^^ rotr s.a 13 ^^^ rotr s.a 22
  let maj := (s.a &&& s.b) ^^^ (s.a &&& s.c) ^^^ (s.b &&& s.c)
  let t2 := s0 + maj
  ⟨t1 + t2, s.a, s.b, s.c, s.d + t1, s.e, s.f, s.g⟩

/-- Fold one 64-byte block into the state. -/
def compressBlock (s : Working) (block : List UInt8) : Working :=
  let ws := schedule block
  let r := (List.range 64).foldl (fun r i => round r (wordAt roundConstants i) (wordAt ws i)) s
  ⟨s.a + r.a, s.b + r.b, s.c + r.c, s.d + r.d, s.e + r.e, s.f + r.f, s.g + r.g, s.h + r.h⟩

/-- The message padded with a one bit, zeros, and its length in bits as eight big-endian
    bytes, to a multiple of 64 bytes. -/
def padding (msg : List UInt8) : List UInt8 :=
  let bits := 8 * msg.length
  let zeros := (119 - msg.length % 64) % 64
  msg ++ 0x80 :: List.replicate zeros 0 ++
    (List.range 8).reverse.map fun i => (bits / 2 ^ (8 * i)).toUInt8

/-- Fold the blocks of a padded message into the state. -/
def blocks (s : Working) (msg : List UInt8) : Working :=
  if _h : (msg.take 64).length < 64 then s
  else blocks (compressBlock s (msg.take 64)) (msg.drop 64)
termination_by msg.length
decreasing_by simp only [List.length_take, List.length_drop] at *; omega

/-- The big-endian bytes of a word. -/
def bytesBE (w : UInt32) : List UInt8 :=
  [(w >>> 24).toUInt8, (w >>> 16).toUInt8, (w >>> 8).toUInt8, w.toUInt8]

/-- The 32-byte digest of a message. -/
def digest (msg : List UInt8) : List UInt8 :=
  let s := blocks initial (padding msg)
  [s.a, s.b, s.c, s.d, s.e, s.f, s.g, s.h].flatMap bytesBE

end RecordLinkage.Hash.Sha256
