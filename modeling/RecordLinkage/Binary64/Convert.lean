import RecordLinkage.Binary64.Arith

/-! # Binary64 conversions

Rounding to an integral value keeps the sign of the value, also when the result is zero:
`ceil` rounds up and `round` rounds half away from zero. A value becomes a machine size by
truncation toward zero, with NaN and negative values giving zero and values of `2^64` or
more giving `2^64 - 1`.

The exponential and the natural logarithm are those of the platform's floats.
-/

namespace RecordLinkage.Binary64

-- Powers of naturals are core's `Nat.pow`, also where an algebra library is imported; a literal
-- exponent is marked `Nat`, so that no default power of such a library is chosen for it.
attribute [local instance (high)] instPowNat

/-- The least integral value not below `x`. -/
def ceil (x : Binary64) : Binary64 :=
  match x.classify with
  | .finite negative m e =>
    if 0 ≤ e then x
    else
      let d := 2 ^ (-e).toNat
      if m % d = 0 then x
      else if negative then ofRatio true (m / d) 1
      else ofRatio false (m / d + 1) 1
  | _ => x

/-- The nearest integral value, a half going away from zero. -/
def round (x : Binary64) : Binary64 :=
  match x.classify with
  | .finite negative m e =>
    if 0 ≤ e then x
    else
      let d := 2 ^ (-e).toNat
      let q := if 2 * (m % d) ≥ d then m / d + 1 else m / d
      ofRatio negative q 1
  | _ => x

/-- The largest machine size, `2^64 - 1`. -/
def maxSize : Nat := 2 ^ (64 : Nat) - 1

/-- The value as a machine size: truncated toward zero, zero for NaN and negative values,
    and `2^64 - 1` for values too large. -/
def toSize (x : Binary64) : Nat :=
  match x.classify with
  | .nan => 0
  | .infinite negative => if negative then 0 else maxSize
  | .finite negative m e =>
    if negative then 0
    else min (m * 2 ^ e.toNat / 2 ^ (-e).toNat) maxSize

/-- The platform float with the same bit pattern. -/
def toFloat (x : Binary64) : Float :=
  Float.ofBits x.bits

/-- The value with the bit pattern of a platform float. -/
def ofFloat (f : Float) : Binary64 :=
  ⟨f.toBits⟩

/-- The exponential, as the platform computes it. -/
def exp (x : Binary64) : Binary64 :=
  ofFloat x.toFloat.exp

/-- The natural logarithm, as the platform computes it. -/
def log (x : Binary64) : Binary64 :=
  ofFloat x.toFloat.log

end RecordLinkage.Binary64
