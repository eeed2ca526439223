import RecordLinkage.Binary64.Basic

/-! # Binary64 arithmetic and order

Sums, differences, products and quotients are the exact results rounded once. The special
values follow IEEE 754: NaN in gives NaN out; `∞ - ∞`, `0 · ∞`, `0 / 0` and `∞ / ∞` are NaN; a
non-zero value over zero is an infinity; an exact zero sum is `+0` unless both terms are
`-0`; the sign of a product or quotient is the exclusive or of the signs.

Comparison is by value: NaN is unordered (every comparison with it is false), and the two
zeros are equal.
-/

namespace RecordLinkage.Binary64

-- Powers of naturals are core's `Nat.pow`, also where an algebra library is imported.
attribute [local instance (high)] instPowNat

/-- The two finite values `±ma · 2^ea` and `±mb · 2^eb` as integers over the common power
    `2^(min ea eb)`. -/
def aligned (sa : Bool) (ma : Nat) (ea : Int) (sb : Bool) (mb : Nat) (eb : Int) :
    Int × Int × Int :=
  let e := min ea eb
  let a : Int := (ma * 2 ^ (ea - e).toNat : Nat)
  let b : Int := (mb * 2 ^ (eb - e).toNat : Nat)
  (if sa then -a else a, if sb then -b else b, e)

/-- The sum of two values. -/
def add (x y : Binary64) : Binary64 :=
  match x.classify, y.classify with
  | .nan, _ => nan
  | _, .nan => nan
  | .infinite a, .infinite b => if a = b then infinityOf a else nan
  | .infinite a, .finite _ _ _ => infinityOf a
  | .finite _ _ _, .infinite b => infinityOf b
  | .finite sa ma ea, .finite sb mb eb =>
    let (a, b, e) := aligned sa ma ea sb mb eb
    let s := a + b
    if s = 0 then zeroOf (sa && sb) else ofScaled (s < 0) s.natAbs e

/-- The difference of two values. -/
def sub (x y : Binary64) : Binary64 :=
  add x y.neg

/-- The product of two values. -/
def mul (x y : Binary64) : Binary64 :=
  match x.classify, y.classify with
  | .nan, _ => nan
  | _, .nan => nan
  | .infinite a, .infinite b => infinityOf (a != b)
  | .infinite a, .finite b m _ => if m = 0 then nan else infinityOf (a != b)
  | .finite a m _, .infinite b => if m = 0 then nan else infinityOf (a != b)
  | .finite a ma ea, .finite b mb eb => ofScaled (a != b) (ma * mb) (ea + eb)

/-- The quotient of two values. -/
def div (x y : Binary64) : Binary64 :=
  match x.classify, y.classify with
  | .nan, _ => nan
  | _, .nan => nan
  | .infinite _, .infinite _ => nan
  | .infinite a, .finite b _ _ => infinityOf (a != b)
  | .finite a _ _, .infinite b => zeroOf (a != b)
  | .finite a ma ea, .finite b mb eb =>
    if mb = 0 then (if ma = 0 then nan else infinityOf (a != b))
    else
      let e := ea - eb
      ofRatio (a != b) (ma * 2 ^ e.toNat) (mb * 2 ^ (-e).toNat)

instance : Add Binary64 := ⟨add⟩
instance : Sub Binary64 := ⟨sub⟩
instance : Mul Binary64 := ⟨mul⟩
instance : Div Binary64 := ⟨div⟩
instance : Neg Binary64 := ⟨neg⟩

/-- The order of two values, or `none` when one is NaN. -/
def compare? (x y : Binary64) : Option Ordering :=
  match x.classify, y.classify with
  | .nan, _ => none
  | _, .nan => none
  | .infinite a, .infinite b =>
    some (if a = b then .eq else if a then .lt else .gt)
  | .infinite a, .finite _ _ _ => some (if a then .lt else .gt)
  | .finite _ _ _, .infinite b => some (if b then .gt else .lt)
  | .finite sa ma ea, .finite sb mb eb =>
    let (a, b, _) := aligned sa ma ea sb mb eb
    some (Ord.compare a b)

/-- Whether `x < y`. -/
def lt (x y : Binary64) : Bool :=
  x.compare? y = some .lt

/-- Whether `x ≤ y`. -/
def le (x y : Binary64) : Bool :=
  x.compare? y = some .lt || x.compare? y = some .eq

/-- Whether `x` and `y` are equal as numbers (so `-0 = +0`, and NaN equals nothing). -/
def eq (x y : Binary64) : Bool :=
  x.compare? y = some .eq

instance : LT Binary64 := ⟨fun x y => x.lt y = true⟩
instance : LE Binary64 := ⟨fun x y => x.le y = true⟩

instance (x y : Binary64) : Decidable (x < y) :=
  inferInstanceAs (Decidable (x.lt y = true))

instance (x y : Binary64) : Decidable (x ≤ y) :=
  inferInstanceAs (Decidable (x.le y = true))

end RecordLinkage.Binary64
