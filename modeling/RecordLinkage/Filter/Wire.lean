import RecordLinkage.Filter.Basic
import RecordLinkage.Error
import RecordLinkage.Text.Blank

/-! # Exported filters

A filter travels as its size, its number of positions per element and its packed bytes in
hexadecimal. Reading it back checks the size (`1 ..= 2^24`) and the number of positions
(`1 ..= 32`) first, then decodes the trimmed hexadecimal text; the decoded bytes are cut or
padded with zeros to the filter's length and the bits at or above the size are cleared. The
insert count of a read filter is zero.
-/

namespace RecordLinkage.Filter

/-- A filter in transit. -/
structure Exported where
  size : Nat
  /-- The number of positions per element. -/
  hashCount : Nat
  /-- The packed bytes in hexadecimal. -/
  bitsHex : String
  deriving Repr, DecidableEq

/-- The exported form of a filter. -/
def BloomFilter.export (f : BloomFilter) : Exported :=
  ⟨f.size, f.hashCount, f.toHex⟩

/-- The packed bytes of a filter of `m` bits holding the given bytes: cut or padded with
    zeros to `⌈m / 8⌉` bytes, with the bits at or above `m` cleared. -/
def fitBytes (m : Nat) (bytes : List UInt8) : ByteArray :=
  let n := byteCount m
  clearTail m ⟨(bytes.take n ++ List.replicate (n - bytes.length) 0).toArray⟩

/-- Whether a size and a number of positions are within the limits for exchanged filters. -/
def validParameters (size hashCount : Nat) : Bool :=
  1 ≤ size && size ≤ maxFilterSize && 1 ≤ hashCount && hashCount ≤ maxHashCount

/-- Read a filter from hexadecimal bits. -/
def BloomFilter.ofHex (hex : String) (size hashCount : Nat) (scheme : Scheme) :
    Except DecodeError BloomFilter :=
  if validParameters size hashCount then
    match Hex.decode (Text.trim hex) with
    | .error cause => .error (.invalidHex cause)
    | .ok bytes => .ok ⟨size, hashCount, scheme, 0, fitBytes size bytes⟩
  else .error (.invalidParameters size hashCount)

/-- Read an exported filter. -/
def Exported.toFilter (e : Exported) (scheme : Scheme) : Except DecodeError BloomFilter :=
  BloomFilter.ofHex e.bitsHex e.size e.hashCount scheme

end RecordLinkage.Filter
