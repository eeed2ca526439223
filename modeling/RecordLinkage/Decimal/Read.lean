import RecordLinkage.Decimal.Shortest

/-! # Reading decimals

A decimal reads as the binary64 value nearest to it; of two equally near, the one with the
even mantissa. A decimal at or beyond the halfway point past the largest finite value reads
as infinity, and one too small for the least subnormal as a zero of its sign.
-/

namespace RecordLinkage.Decimal

-- Powers of naturals are core's `Nat.pow`, also where an algebra library is imported.
attribute [local instance (high)] instPowNat

/-- The binary64 value nearest the decimal. -/
def Decimal.toBinary64 (d : Decimal) : Binary64 :=
  Binary64.ofRatio d.negative (d.coefficient * 10 ^ d.exponent.toNat) (10 ^ (-d.exponent).toNat)

end RecordLinkage.Decimal
