import RecordLinkage.Decimal.Shortest

/-! # Decimal text of floats

A float is written from its shortest decimal. A layout decides which magnitudes are written
positionally and which with an exponent, whether a whole number keeps a `.0`, how the
exponent is spelled, which of two equally near shortest decimals is taken, and the words for
the values that are not numbers.
-/

namespace RecordLinkage.Decimal

/-- How a decimal is laid out as text. -/
structure Layout where
  /-- The leading-digit exponents written positionally: from `positionalFrom` (inclusive)
      to `positionalBelow` (exclusive); `none` leaves that side open. -/
  positionalFrom : Option Int
  /-- See `positionalFrom`. -/
  positionalBelow : Option Int
  /-- Whether a whole number written positionally ends in `.0`. -/
  pointZero : Bool
  /-- The least number of digits of an exponent. -/
  exponentDigits : Nat
  /-- Whether a non-negative exponent carries a `+`. -/
  exponentPlus : Bool
  /-- Which of two shortest decimals equally near the value is written. -/
  tie : Tie
  /-- The text of a value that is not a number. -/
  notANumber : String
  /-- The text of positive infinity; negative infinity has a minus before it. -/
  infinity : String

/-- Messages write every finite value positionally, with no `.0` on a whole number, take
    the larger of two equally near shortest decimals, and spell the other values `NaN`,
    `inf` and `-inf`. -/
def Layout.plain : Layout :=
  ⟨none, none, false, 1, false, .up, "NaN", "inf"⟩

/-- Numbers in answers are written positionally when the leading digit stands between
    `10^-4` and `10^15`, and otherwise with an exponent of at least two digits and a sign
    (`1e+16`, `5e-324`); a whole number keeps its `.0`, so that it reads as a float; of two
    equally near shortest decimals the even one is written. -/
def Layout.json : Layout :=
  ⟨some (-4), some 16, true, 2, true, .toEven, "NaN", "inf"⟩

/-- Numbers that the wire reader quotes back in its messages are written positionally when the
    leading digit stands between `10^-5` and `10^15`, and otherwise with a signed exponent of as
    few digits as it needs (`1e+16`, `1e-6`); a whole number written positionally keeps its
    `.0`; of two equally near shortest decimals the even one is written. -/
def Layout.wire : Layout :=
  ⟨some (-5), some 16, true, 1, true, .toEven, "NaN", "inf"⟩

/-- The digits of a coefficient. -/
def coefficientDigits (c : Nat) : List Char :=
  Nat.toDigits 10 c

/-- The digits `ds · 10^k` written positionally. -/
def positional (pointZero : Bool) (ds : List Char) (k : Int) : List Char :=
  if 0 ≤ k then
    ds ++ List.replicate k.toNat '0' ++ (if pointZero then ['.', '0'] else [])
  else
    let whole := (ds.length : Int) + k
    if 0 < whole then
      ds.take whole.toNat ++ '.' :: ds.drop whole.toNat
    else
      '0' :: '.' :: List.replicate (-whole).toNat '0' ++ ds

/-- The digits `ds · 10^k` written as one digit, the rest after a point, and the exponent of
    the leading digit. -/
def scientific (l : Layout) (ds : List Char) (k : Int) : List Char :=
  let e := k + ds.length - 1
  let mantissa := match ds with
    | [] => []
    | d :: [] => [d]
    | d :: rest => d :: '.' :: rest
  let expDigits := Nat.toDigits 10 e.natAbs
  let padded := List.replicate (l.exponentDigits - expDigits.length) '0' ++ expDigits
  let sign := if e < 0 then ['-'] else if l.exponentPlus then ['+'] else []
  mantissa ++ 'e' :: sign ++ padded

/-- Whether the layout writes a decimal whose leading digit has exponent `e` positionally. -/
def Layout.isPositional (l : Layout) (e : Int) : Bool :=
  (match l.positionalFrom with | some lo => decide (lo ≤ e) | none => true) &&
  (match l.positionalBelow with | some hi => decide (e < hi) | none => true)

/-- The text of a decimal under the layout. -/
def Decimal.render (l : Layout) (d : Decimal) : String :=
  let ds := coefficientDigits d.coefficient
  let body :=
    if d.coefficient = 0 then positional l.pointZero ['0'] 0
    else if l.isPositional (d.exponent + ds.length - 1) then positional l.pointZero ds d.exponent
    else scientific l ds d.exponent
  String.ofList ((if d.negative then ['-'] else []) ++ body)

/-- The text of a binary64 value under the layout. -/
def render (l : Layout) (x : Binary64) : String :=
  match x.classify with
  | .nan => l.notANumber
  | .infinite negative => (if negative then "-" else "") ++ l.infinity
  | .finite negative m e => (shortest l.tie negative (Binary.ofFinite m e)).render l

end RecordLinkage.Decimal
