/-! # Binary64 values

A binary64 value is a 64-bit pattern: one sign bit, eleven exponent bits and fifty-two
fraction bits. An exponent field of all ones holds an infinity (fraction zero) or NaN; a
zero exponent field holds the subnormals `fraction · 2^-1074`; any other holds
`(2^52 + fraction) · 2^(exponent - 1075)`.

Arithmetic on binary64 values takes the exact result and rounds it once to the nearest
value, a tie going to the even mantissa. Rounding is `ofRatio`: the value nearest a ratio of
naturals, infinity past the largest finite value, and a zero of the given sign below the
least subnormal.
-/

namespace RecordLinkage

-- Powers of naturals are core's `Nat.pow`, also where an algebra library is imported; a literal
-- exponent is marked `Nat`, so that no default power of such a library is chosen for it.
attribute [local instance (high)] instPowNat

/-- A binary64 floating-point value, by its bit pattern. -/
structure Binary64 where
  bits : UInt64
  deriving Repr, DecidableEq

namespace Binary64

/-- What a bit pattern holds. -/
inductive Class where
  /-- Not a number. -/
  | nan
  /-- An infinity of the given sign. -/
  | infinite (negative : Bool)
  /-- The value `±mantissa · 2^exp2`, with `mantissa < 2^53`. -/
  | finite (negative : Bool) (mantissa : Nat) (exp2 : Int)
  deriving Repr, DecidableEq

/-- Decode a bit pattern given as a natural number below `2^64`. -/
def classifyBits (bits : Nat) : Class :=
  let negative := decide (bits ≥ 2 ^ (63 : Nat))
  let biased : Nat := (bits / 2 ^ (52 : Nat)) % 2 ^ (11 : Nat)
  let fraction : Nat := bits % 2 ^ (52 : Nat)
  if biased = 2 ^ (11 : Nat) - 1 then
    if fraction = 0 then .infinite negative else .nan
  else if biased = 0 then .finite negative fraction (-1074)
  else .finite negative (fraction + 2 ^ (52 : Nat)) ((biased : Int) - 1075)

/-- Decode a value. -/
def classify (x : Binary64) : Class :=
  classifyBits x.bits.toNat

/-- The bit pattern of positive infinity. -/
def infinityBits : Nat := 0x7FF0000000000000

/-- The value with the bit pattern `n`, taken modulo `2^64`. -/
def ofBitsNat (n : Nat) : Binary64 :=
  ⟨n.toUInt64⟩

/-- Positive zero. -/
def zero : Binary64 := ofBitsNat 0

/-- Negative zero. -/
def negZero : Binary64 := ofBitsNat (2 ^ (63 : Nat))

/-- One. -/
def one : Binary64 := ofBitsNat 0x3FF0000000000000

/-- The NaN that operations produce. -/
def nan : Binary64 := ofBitsNat 0x7FF8000000000000

/-- Positive infinity. -/
def infinity : Binary64 := ofBitsNat infinityBits

/-- A zero of the given sign. -/
def zeroOf (negative : Bool) : Binary64 :=
  if negative then negZero else zero

/-- An infinity of the given sign. -/
def infinityOf (negative : Bool) : Binary64 :=
  ofBitsNat ((if negative then 2 ^ (63 : Nat) else 0) + infinityBits)

/-- The value with the sign flipped. -/
def neg (x : Binary64) : Binary64 :=
  ⟨x.bits ^^^ 0x8000000000000000⟩

/-- Whether the value is NaN. -/
def isNaN (x : Binary64) : Bool :=
  x.classify = .nan

/-- Whether the value is finite. -/
def isFinite (x : Binary64) : Bool :=
  match x.classify with
  | .finite _ _ _ => true
  | _ => false

/-- The bit pattern of the magnitude nearest `num / den`, for `num > 0`: the binary exponent
    `e` makes the quotient `num / (den · 2^e)` a 53-bit mantissa, or is the least exponent
    `-1074` for subnormals; the quotient is rounded on its exact remainder, a tie to even;
    past the largest finite magnitude the pattern is that of infinity. -/
def nearestMagnitude (num den : Nat) : Nat :=
  let t : Int := (Nat.log2 num : Int) - (Nat.log2 den : Int)
  let quotientAt := fun (e : Int) => num * 2 ^ (-e).toNat / (den * 2 ^ e.toNat)
  let e := if quotientAt (t - 52) < 2 ^ (52 : Nat) then t - 53 else t - 52
  let e := max e (-1074)
  let scaledNum := num * 2 ^ (-e).toNat
  let scaledDen := den * 2 ^ e.toNat
  let q := scaledNum / scaledDen
  let r := scaledNum % scaledDen
  let q := if 2 * r > scaledDen ∨ (2 * r = scaledDen ∧ q % 2 = 1) then q + 1 else q
  let (q, e) := if q = 2 ^ (53 : Nat) then (2 ^ (52 : Nat), e + 1) else (q, e)
  if e > 971 then infinityBits
  else if q < 2 ^ (52 : Nat) then q
  else (e + 1075).toNat * 2 ^ (52 : Nat) + (q - 2 ^ (52 : Nat))

/-- The value nearest `±num / den` (for `den > 0`), a zero of the given sign when `num` is
    zero. -/
def ofRatio (negative : Bool) (num den : Nat) : Binary64 :=
  let magnitude := if num = 0 then 0 else nearestMagnitude num den
  ofBitsNat ((if negative then 2 ^ (63 : Nat) else 0) + magnitude)

/-- The numerator and denominator of `m · 2^e`. -/
def scaled (m : Nat) (e : Int) : Nat × Nat :=
  (m * 2 ^ e.toNat, 2 ^ (-e).toNat)

/-- The value nearest `±m · 2^e`. -/
def ofScaled (negative : Bool) (m : Nat) (e : Int) : Binary64 :=
  let (num, den) := scaled m e
  ofRatio negative num den

/-- The value nearest a natural number. -/
def ofNat (n : Nat) : Binary64 :=
  ofRatio false n 1

end Binary64

end RecordLinkage
