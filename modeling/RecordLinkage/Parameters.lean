import RecordLinkage.Binary64.Convert

/-! # Filter parameters

For `n` elements and a target false positive rate `p`, the classical sizing is
`m = ⌈-n · ln p / (ln 2)²⌉` bits (at least one) and `k = round(m / n · ln 2)` positions
(between one and thirty-two). The expected false positive rate of `m` bits, `n` elements and
`k` positions is `(1 - e^(-k n / m))^k`. All of it is computed in binary64 arithmetic.

Sizes become binary64 values by rounding to nearest, and return by truncation toward zero
that sends negative values and NaN to zero and saturates at `2^64 - 1`. Powers with an
integer exponent multiply by repeated squaring, with the exponent first wrapped to a
signed 32-bit integer.
-/

namespace RecordLinkage.Parameters

-- Powers of naturals are core's `Nat.pow`, also where an algebra library is imported; a literal
-- exponent is marked `Nat`, so that no default power of such a library is chosen for it.
attribute [local instance (high)] instPowNat

open Binary64

/-- The natural logarithm of 2, the binary64 value nearest it. -/
def ln2 : Binary64 := ofBitsNat 0x3FE62E42FEFA39EF

/-- The signed 32-bit integer with the low 32 bits of `n`. -/
def wrapInt32 (n : Nat) : Int :=
  let low : Nat := n % 2 ^ (32 : Nat)
  if low < 2 ^ (31 : Nat) then low else (low : Int) - 2 ^ (32 : Nat)

/-- Repeated squaring: multiply `r` by `a` for every set bit of `n`, squaring `a` between
    bits and stopping after the highest one. -/
def powLoop (a r : Binary64) (n : Nat) : Binary64 :=
  let r := if n % 2 = 1 then r * a else r
  if _h : n / 2 = 0 then r else powLoop (a * a) r (n / 2)
termination_by n
decreasing_by omega

/-- The power of `a` to an integer, by repeated squaring; a negative power is the
    reciprocal of the positive one. -/
def powInt (a : Binary64) (n : Int) : Binary64 :=
  let r := powLoop a one n.natAbs
  if n < 0 then one / r else r

/-- The power of `a` to `k`, with `k` wrapped to a signed 32-bit integer. -/
def powSize (a : Binary64) (k : Nat) : Binary64 :=
  powInt a (wrapInt32 k)

/-- The expected false positive rate of `m` bits holding `n` elements with `k` positions
    each; `1` for a filter without bits. -/
def expectedFpr (m n k : Nat) : Binary64 :=
  if m = 0 then one
  else
    let exponent := -ofNat k * ofNat n / ofNat m
    powSize (one - exponent.exp) k

/-- A filter sizing: bits, positions per element and the false positive rate it expects. -/
structure Sizing where
  sizeBits : Nat
  /-- The number of positions per element. -/
  hashCount : Nat
  /-- The expected false positive rate. -/
  expectedFpr : Binary64

/-- The sizing for `n` elements at the target false positive rate; a filter for no elements
    has one bit and one position. -/
def optimal (n : Nat) (targetFpr : Binary64) : Sizing :=
  if n = 0 then ⟨1, 1, one⟩
  else
    let nf := ofNat n
    let m := max (-nf * targetFpr.log / (ln2 * ln2)).ceil.toSize 1
    let k := min (max (ofNat m / nf * ln2).round.toSize 1) 32
    ⟨m, k, expectedFpr m n k⟩

end RecordLinkage.Parameters
