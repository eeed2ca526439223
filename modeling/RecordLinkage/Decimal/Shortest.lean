import RecordLinkage.Binary64.Basic

/-! # Shortest decimals of binary64 values

A finite binary64 value is `m · 2^q`. Every real number strictly between it and the
halfway points to its two neighbours reads back as the value, and so do the halfway points
themselves when `m` is even (reading rounds a tie to the even mantissa). The shortest
decimal of the value is a point of the coarsest grid `c · 10^k` that meets this interval; of
two such points the one nearer the value is taken, and of two equally near the one that the
tie rule names: the one with the even coefficient, or the larger one.

All comparisons are exact, in natural numbers: the value and the ends of its interval are
kept as numerators over one common denominator.
-/

namespace RecordLinkage.Decimal

-- Powers of naturals are core's `Nat.pow`, also where an algebra library is imported; a literal
-- exponent is marked `Nat`, so that no default power of such a library is chosen for it.
attribute [local instance (high)] instPowNat

/-- A finite binary64 magnitude `mantissa · 2^exp2`, with what the shortest decimal needs to
    know of its neighbours. -/
structure Binary where
  /-- The integer mantissa, below `2^53`. -/
  mantissa : Nat
  exp2 : Int
  /-- Whether the next smaller value is half as far away as the next larger one, which
      happens at a power of two above the least normal exponent. -/
  narrowBelow : Bool
  deriving Repr, DecidableEq

/-- The magnitude `m · 2^e` of a finite binary64 value. -/
def Binary.ofFinite (m : Nat) (e : Int) : Binary :=
  ⟨m, e, m = 2 ^ (52 : Nat) && e > -1074⟩

/-- A signed decimal `coefficient · 10^exponent`. -/
structure Decimal where
  /-- Whether the sign is minus (also for a zero). -/
  negative : Bool
  coefficient : Nat
  exponent : Int
  deriving Repr, DecidableEq

/-- The number of decimal digits of `n`, and `1` for zero. -/
def digitCount (n : Nat) : Nat :=
  (Nat.toDigits 10 n).length

/-- Which of two grid points equally near the value the shortest decimal takes. -/
inductive Tie where
  /-- The point with the even coefficient. -/
  | toEven
  /-- The larger point, away from zero. -/
  | up
  deriving Repr, DecidableEq

/-- The value's interval and scale: numerators of the value and of the two ends over the
    denominator `den`, all multiplied by four so that the halfway points are whole. -/
structure Interval where
  value : Nat
  /-- The lower end. -/
  low : Nat
  /-- The upper end. -/
  high : Nat
  /-- The common denominator. -/
  den : Nat
  /-- Whether both ends read back as the value. -/
  closed : Bool

/-- The interval of reals that read back as the magnitude. -/
def Binary.interval (b : Binary) : Interval :=
  let up := 2 ^ b.exp2.toNat
  let down := 2 ^ (-b.exp2).toNat
  { value := 4 * b.mantissa * up
    low := (4 * b.mantissa - (if b.narrowBelow then 1 else 2)) * up
    high := (4 * b.mantissa + 2) * up
    den := 4 * down
    closed := b.mantissa % 2 = 0 }

/-- The factors that put a point `c · 10^k` and a numerator `x` (over `den`) on one scale:
    `c · 10^k` compares with `x / den` as `c * fst` with `x * snd`. -/
def gridScale (den : Nat) (k : Int) : Nat × Nat :=
  if 0 ≤ k then (10 ^ k.toNat * den, 1) else (den, 10 ^ (-k).toNat)

/-- Whether the grid point `c · 10^k` lies in the interval. -/
def Interval.holds (iv : Interval) (k : Int) (c : Nat) : Bool :=
  let (g, s) := gridScale iv.den k
  if iv.closed then iv.low * s ≤ c * g && c * g ≤ iv.high * s
  else iv.low * s < c * g && c * g < iv.high * s

/-- The point of the grid `10^k` in the interval that is nearest the value (of two equally
    near, the one the tie rule names), if the grid meets the interval. Only the value's two
    neighbours on the grid need testing, since the interval holds the value and has no gaps. -/
def Interval.pick? (tie : Tie) (iv : Interval) (k : Int) : Option Nat :=
  let (g, s) := gridScale iv.den k
  let below := iv.value * s / g
  let above := if below * g = iv.value * s then below else below + 1
  match iv.holds k below, iv.holds k above with
  | true, true =>
    let dBelow := iv.value * s - below * g
    let dAbove := above * g - iv.value * s
    if dBelow < dAbove then some below
    else if dAbove < dBelow then some above
    else match tie with
      | .toEven => if below % 2 = 0 then some below else some above
      | .up => some above
  | true, false => some below
  | false, true => some above
  | false, false => none

/-- A grid exponent so coarse that its unit is at least the upper end of the interval, so
    that no coarser grid meets the interval except at its first point. -/
def Interval.coarsest (iv : Interval) : Int :=
  let whole := iv.high / iv.den
  if whole ≥ 1 then (digitCount whole : Int)
  else 1 - (digitCount (iv.den / iv.high) : Int)

/-- The number of grids tried from the coarsest one down; seventeen significant digits
    always read back, so twenty-five grids are plenty. -/
def gridTries : Nat := 25

/-- The value cut down to the grid `10^k`. -/
def Interval.floorAt (iv : Interval) (k : Int) : Nat :=
  let (g, s) := gridScale iv.den k
  iv.value * s / g

/-- The coefficient and exponent of the first grid, from coarse to fine, that meets the
    interval. Seventeen significant digits always meet it, so the fallback (the value cut
    down to the finest grid tried) is never taken. -/
def Interval.firstHit (tie : Tie) (iv : Interval) : Nat × Int :=
  let start := iv.coarsest
  let hit := (List.range gridTries).findSome? fun (j : Nat) =>
    (iv.pick? tie (start - j)).map fun c => (c, start - j)
  hit.getD (iv.floorAt (start - gridTries), start - gridTries)

/-- Move trailing zeros of the coefficient into the exponent. -/
def stripZeros (c : Nat) (k : Int) : Nat × Int :=
  if h : c ≠ 0 ∧ c % 10 = 0 then stripZeros (c / 10) (k + 1) else (c, k)
termination_by c
decreasing_by omega

/-- The shortest decimal of a finite magnitude, with no trailing zero in its coefficient. -/
def Binary.shortest (tie : Tie) (b : Binary) : Nat × Int :=
  if b.mantissa = 0 then (0, 0)
  else
    let (c, k) := b.interval.firstHit tie
    stripZeros c k

/-- The shortest decimal of a finite value of the given sign. -/
def shortest (tie : Tie) (negative : Bool) (b : Binary) : Decimal :=
  let (c, k) := b.shortest tie
  ⟨negative, c, k⟩

end RecordLinkage.Decimal
