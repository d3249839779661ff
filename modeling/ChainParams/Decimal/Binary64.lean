/-!
# Finite double-precision magnitudes

A finite binary64 number without its sign is `mantissa * 2 ^ exponent`. An operation is the exact
one on rationals, rounded once to the nearest representable value, a tie to the even mantissa; the
result is missing where it would exceed the largest finite number.
-/

namespace ChainParams.Decimal

structure Binary64 where
  mantissa : Nat
  exponent : Int
  deriving DecidableEq, Repr

namespace Binary64

def zero : Binary64 := ⟨0, -1074⟩

/-- The least mantissa of a number that is not subnormal. -/
def minNormal : Nat := 1 <<< 52

def isZero (x : Binary64) : Bool :=
  x.mantissa = 0

/-- The integer nearest to a quotient, of two equally near ones the even one. -/
def roundDiv (num den : Nat) : Nat :=
  let q := num / den
  let r := num % den
  if 2 * r < den then q
  else if den < 2 * r then q + 1
  else if q % 2 = 0 then q else q + 1

/-- The number nearest to `num / den`. The first estimate of the exponent leaves a quotient of 53 or
54 bits; one bit too many moves it up, and it never goes below the exponent of the subnormals. -/
def ofRatio (num den : Nat) : Option Binary64 :=
  if num = 0 then some zero
  else
    let scaledNum (q : Int) := num <<< (-q).toNat
    let scaledDen (q : Int) := den <<< q.toNat
    let low : Int := num.log2 - den.log2 - 53
    let q := max (-1074) (if scaledNum low / scaledDen low < 2 * minNormal then low else low + 1)
    let m := roundDiv (scaledNum q) (scaledDen q)
    let (m, q) := if m = 2 * minNormal then (minNormal, q + 1) else (m, q)
    if q ≤ 971 then some ⟨m, q⟩ else none

def mul (x y : Binary64) : Option Binary64 :=
  let e := x.exponent + y.exponent
  ofRatio ((x.mantissa * y.mantissa) <<< e.toNat) (1 <<< (-e).toNat)

def div (x y : Binary64) : Option Binary64 :=
  let e := x.exponent - y.exponent
  ofRatio (x.mantissa <<< e.toNat) (y.mantissa <<< (-e).toNat)

def powerOfTen (n : Nat) : Option Binary64 :=
  ofRatio (Nat.pow 10 n) 1

/-- Divides `k` times by the largest power of ten, or until nothing is left. -/
def divLargestPower (x : Binary64) : Nat → Option Binary64
  | 0 => some x
  | k + 1 =>
    if x.isZero then some x
    else do
      let y ← x.div (← powerOfTen 308)
      y.divLargestPower k

/-- Divides by `10 ^ n`, at most 308 powers of ten at a time. -/
def divPowerOfTen (x : Binary64) (n : Nat) : Option Binary64 := do
  let k := (n - 1) / 308
  let y ← x.divLargestPower k
  y.div (← powerOfTen (n - 308 * k))

/-- The number read from the integer `significand` and a power of ten. It is rounded at each step,
so it may be a neighbour of the number nearest to the text. -/
def ofScientific (significand : Nat) (exponent : Int) : Option Binary64 := do
  let x ← ofRatio significand 1
  if exponent < 0 then x.divPowerOfTen exponent.natAbs
  else if exponent ≤ 308 then x.mul (← powerOfTen exponent.natAbs)
  else if x.isZero then some x
  else none

end Binary64

end ChainParams.Decimal
