/-! # FNV-1a, 64 bits

The 64-bit FNV-1a hash starts from the offset basis and, for each byte, takes the exclusive
or with the byte and multiplies by the FNV prime modulo `2^64`. Hashing several chunks one
after another is hashing their concatenation, because the hash is a left fold over bytes.
-/

namespace RecordLinkage.Hash

/-- The FNV offset basis for 64 bits. -/
def fnvOffsetBasis : UInt64 := 14695981039346656037

/-- The FNV prime for 64 bits. -/
def fnvPrime : UInt64 := 1099511628211

/-- One FNV-1a step: mix in a byte. -/
def fnvStep (h : UInt64) (b : UInt8) : UInt64 :=
  (h ^^^ b.toUInt64) * fnvPrime

/-- The FNV-1a state after the bytes, from the state `h`. -/
def fnvFrom (h : UInt64) (bytes : List UInt8) : UInt64 :=
  bytes.foldl fnvStep h

/-- The FNV-1a hash of the concatenation of the chunks. -/
def fnv1a (chunks : List (List UInt8)) : UInt64 :=
  chunks.foldl fnvFrom fnvOffsetBasis

theorem fnvFrom_append (h : UInt64) (xs ys : List UInt8) :
    fnvFrom h (xs ++ ys) = fnvFrom (fnvFrom h xs) ys :=
  List.foldl_append

theorem fnv1a_cons (c : List UInt8) (cs : List (List UInt8)) :
    fnv1a (c :: cs) = cs.foldl fnvFrom (fnvFrom fnvOffsetBasis c) := rfl

end RecordLinkage.Hash
