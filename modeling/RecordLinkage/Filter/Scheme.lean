import RecordLinkage.Hash.Fnv
import RecordLinkage.Hash.Murmur

/-! # Bit positions of an element

A filter of `m` bits sets `k` positions for each element, each below `m`; a filter without
bits has no positions. Two schemes derive them:

* seeded FNV-1a hashes the element `k` times, the `i`-th time behind the prefix `i:` (the
  decimal `i` and a colon), and reduces each hash modulo `m`;
* double MurmurHash3 takes `h1` and `h2`, the hashes of the element under seeds 0 and 1, and
  reduces `h1 + i · h2` (modulo `2^64`) modulo `m`.
-/

namespace RecordLinkage.Filter

/-- How the positions of an element are derived. -/
inductive Scheme where
  /-- FNV-1a behind a distinct decimal prefix for each position. -/
  | seededFnv
  /-- Double hashing over MurmurHash3. -/
  | doubleMurmur
  deriving Repr, DecidableEq

/-- The name of a scheme in configurations. -/
def Scheme.name : Scheme → String
  | .seededFnv => "seeded_fnv1a"
  | .doubleMurmur => "double_murmur3"

/-- The scheme with the given name. -/
def Scheme.ofName? (text : String) : Option Scheme :=
  if text = "seeded_fnv1a" then some .seededFnv
  else if text = "double_murmur3" then some .doubleMurmur
  else none

/-- The bytes of the prefix `i:`. -/
def seedPrefix (i : Nat) : List UInt8 :=
  (toString i ++ ":").toUTF8.toList

/-- The `i`-th seeded FNV-1a position of an element in a filter of `m` bits. -/
def fnvPosition (element : List UInt8) (m i : Nat) : Nat :=
  (Hash.fnv1a [seedPrefix i, element]).toNat % m

/-- The `i`-th double-hashing position from the two hashes, in a filter of `m` bits. -/
def murmurPosition (h1 h2 : UInt64) (m i : Nat) : Nat :=
  (h1 + i.toUInt64 * h2).toNat % m

/-- The `k` positions of an element in a filter of `m` bits. -/
def Scheme.positions (s : Scheme) (element : List UInt8) (k m : Nat) : List Nat :=
  if m = 0 then []
  else
    match s with
    | .seededFnv => (List.range k).map (fnvPosition element m)
    | .doubleMurmur =>
      let h1 := Hash.murmur3 element 0
      let h2 := Hash.murmur3 element 1
      (List.range k).map (murmurPosition h1 h2 m)

end RecordLinkage.Filter
