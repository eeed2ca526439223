/-! # Limits on filters

Configurations and imported filters keep the filter size between one bit and `2^24` bits
(two mebibytes of filter state) and the number of positions per element between one and
thirty-two.
-/

namespace RecordLinkage

-- Powers of naturals are core's `Nat.pow`, also where an algebra library is imported; a literal
-- exponent is marked `Nat`, so that no default power of such a library is chosen for it.
attribute [local instance (high)] instPowNat

/-- The largest filter size, in bits. -/
def maxFilterSize : Nat := 2 ^ (24 : Nat)

/-- The largest number of positions per element. -/
def maxHashCount : Nat := 32

end RecordLinkage
