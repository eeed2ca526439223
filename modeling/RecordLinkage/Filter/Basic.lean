import RecordLinkage.Filter.Scheme
import RecordLinkage.Text.Case
import RecordLinkage.Parameters
import RecordLinkage.Hex

/-! # Bloom filters

A Bloom filter of `m` bits with `k` positions per element is a set of bit positions below
`m`. Inserting an element sets the positions of its lower case form; an element may be in
the filter when all its positions are set, and is certainly not when one is clear. Bits are
never cleared, so there are no false negatives.

The bits are packed into `⌈m / 8⌉` bytes, bit `i` in byte `i / 8` at place `i % 8` counted
from the least significant bit; the places of the last byte at or above `m` stay clear.
-/

namespace RecordLinkage.Filter

-- Powers of naturals are core's `Nat.pow`, also where an algebra library is imported; a literal
-- exponent is marked `Nat`, so that no default power of such a library is chosen for it.
attribute [local instance (high)] instPowNat

/-- A Bloom filter. -/
structure BloomFilter where
  /-- The number of bits, `m`. -/
  size : Nat
  /-- The number of positions per element, `k`. -/
  hashCount : Nat
  /-- How positions are derived. -/
  scheme : Scheme
  /-- The number of elements inserted, counting those of filters merged in. -/
  inserted : Nat
  bytes : ByteArray

/-- The number of bytes that hold `m` bits. -/
def byteCount (m : Nat) : Nat :=
  (m + 7) / 8

/-- A run of `n` zero bytes. -/
def zeroBytes (n : Nat) : ByteArray :=
  ⟨Array.replicate n 0⟩

/-- The byte at index `j`, or zero past the end. -/
def byteAt (bs : ByteArray) (j : Nat) : UInt8 :=
  if h : j < bs.size then bs[j] else 0

/-- Replace the byte at index `j`; nothing changes past the end. -/
def setByte (bs : ByteArray) (j : Nat) (v : UInt8) : ByteArray :=
  if h : j < bs.size then bs.set j v else bs

/-- Whether place `r` (from the least significant bit) of a byte is set. -/
def bitOf (b : UInt8) (r : Nat) : Bool :=
  (b >>> r.toUInt8) &&& 1 == 1

/-- The number of set bits of a byte. -/
def popcount (b : UInt8) : Nat :=
  (List.range 8).countP (bitOf b)

/-- Whether bit `i` of packed bytes is set. -/
def testBit (bs : ByteArray) (i : Nat) : Bool :=
  bitOf (byteAt bs (i / 8)) (i % 8)

/-- Set bit `i` of packed bytes. -/
def setBit (bs : ByteArray) (i : Nat) : ByteArray :=
  setByte bs (i / 8) (byteAt bs (i / 8) ||| ((1 : UInt8) <<< (i % 8).toUInt8))

/-- The mask of the places of a byte that lie below `r` bits. -/
def lowMask (r : Nat) : UInt8 :=
  if r ≥ 8 then 0xFF else ((1 : UInt8) <<< r.toUInt8) - 1

/-- Clear the places of the last byte at or above bit `m`. -/
def clearTail (m : Nat) (bs : ByteArray) : ByteArray :=
  if m % 8 = 0 ∨ bs.size = 0 then bs
  else setByte bs (bs.size - 1) (byteAt bs (bs.size - 1) &&& lowMask (m % 8))

/-- Or the bytes of `b` into `a`, over the shorter of the two lengths. -/
def orBytes (a b : ByteArray) : ByteArray :=
  Nat.fold (min a.size b.size) (fun j _ acc => setByte acc j (byteAt acc j ||| byteAt b j)) a

namespace BloomFilter

/-- An empty filter of `m` bits with `k` positions per element. -/
def empty (m k : Nat) (scheme : Scheme) : BloomFilter :=
  ⟨m, k, scheme, 0, zeroBytes (byteCount m)⟩

/-- Whether bit `i` is set. -/
def bit (f : BloomFilter) (i : Nat) : Bool :=
  testBit f.bytes i

/-- The positions of an element: those of the bytes of its lower case form. -/
def positionsOf (f : BloomFilter) (element : String) : List Nat :=
  f.scheme.positions (Text.lower element).toUTF8.toList f.hashCount f.size

/-- Insert an element. -/
def insert (f : BloomFilter) (element : String) : BloomFilter :=
  { f with bytes := (f.positionsOf element).foldl setBit f.bytes, inserted := f.inserted + 1 }

/-- Insert the elements in order. -/
def insertAll (f : BloomFilter) (elements : List String) : BloomFilter :=
  elements.foldl insert f

/-- Whether the element may be in the filter: all its positions are set. -/
def contains (f : BloomFilter) (element : String) : Bool :=
  (f.positionsOf element).all f.bit

/-- The same test, reading every position: the bits are combined with `and` and the
    result is read at the end. -/
def containsConstantTime (f : BloomFilter) (element : String) : Bool :=
  (f.positionsOf element).foldl (fun r p => r &&& (if f.bit p then 1 else 0 : UInt8)) 1 == 1

/-- Merge `g` into `f`: the bytes are or-ed over the shorter length, bits of `g` at or above
    `f`'s size are dropped, and the insert counts add up. -/
def union (f g : BloomFilter) : BloomFilter :=
  { f with bytes := clearTail f.size (orBytes f.bytes g.bytes), inserted := f.inserted + g.inserted }

/-- The number of set bits below the size. -/
def bitsSet (f : BloomFilter) : Nat :=
  Nat.fold f.bytes.size (fun j _ acc => acc + popcount (byteAt f.bytes j &&& lowMask (f.size - 8 * j))) 0

/-- The fraction of bits set; zero for a filter without bits. -/
def fillRatio (f : BloomFilter) : Binary64 :=
  if f.size = 0 then .zero else .ofNat f.bitsSet / .ofNat f.size

/-- The false positive rate estimated from the fill: the fill ratio to the power `k`; zero
    for a filter without bits. -/
def falsePositiveRate (f : BloomFilter) : Binary64 :=
  if f.size = 0 then .zero else Parameters.powSize f.fillRatio f.hashCount

/-- The counts of set bits in both filters and in either, over the bytes of the longer one,
    the shorter read as zero past its end. -/
def overlap (f g : BloomFilter) : Nat × Nat :=
  Nat.fold (max f.bytes.size g.bytes.size) (fun j _ acc =>
    let x := byteAt f.bytes j
    let y := byteAt g.bytes j
    (acc.1 + popcount (x &&& y), acc.2 + popcount (x ||| y))) (0, 0)

/-- The Jaccard similarity of the set bits: both over either, zero when neither filter has
    a bit set. The two counts are kept in 32-bit words, which wrap. -/
def jaccard (f g : BloomFilter) : Binary64 :=
  let (both, either) := f.overlap g
  let both := both % 2 ^ (32 : Nat)
  let either := either % 2 ^ (32 : Nat)
  if either = 0 then .zero else .ofNat both / .ofNat either

/-- The packed bytes, as a list. -/
def toBytes (f : BloomFilter) : List UInt8 :=
  f.bytes.toList

/-- The packed bytes in lower case hexadecimal. -/
def toHex (f : BloomFilter) : String :=
  Hex.encode f.toBytes

@[simp] theorem size_insert (f : BloomFilter) (e : String) : (f.insert e).size = f.size := rfl

@[simp] theorem hashCount_insert (f : BloomFilter) (e : String) :
    (f.insert e).hashCount = f.hashCount := rfl

@[simp] theorem scheme_insert (f : BloomFilter) (e : String) : (f.insert e).scheme = f.scheme := rfl

@[simp] theorem inserted_insert (f : BloomFilter) (e : String) :
    (f.insert e).inserted = f.inserted + 1 := rfl

@[simp] theorem size_union (f g : BloomFilter) : (f.union g).size = f.size := rfl

@[simp] theorem hashCount_union (f g : BloomFilter) : (f.union g).hashCount = f.hashCount := rfl

@[simp] theorem scheme_union (f g : BloomFilter) : (f.union g).scheme = f.scheme := rfl

@[simp] theorem inserted_union (f g : BloomFilter) :
    (f.union g).inserted = f.inserted + g.inserted := rfl

@[simp] theorem size_empty (m k : Nat) (s : Scheme) : (empty m k s).size = m := rfl

@[simp] theorem bytes_size_empty (m k : Nat) (s : Scheme) :
    (empty m k s).bytes.size = byteCount m := by
  simp [empty, zeroBytes, ByteArray.size]

end BloomFilter

end RecordLinkage.Filter
