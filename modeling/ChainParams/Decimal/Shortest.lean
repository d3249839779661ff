import ChainParams.Decimal.Binary64

/-!
# Shortest decimal text

A number is written with the fewest digits that read back to it, and of those with the nearest. The
digits are found by exact integer arithmetic: the reals that round to a number form an interval, and
on each decimal grid, from one digit on, the two neighbours of the number are tried against it.
-/

namespace ChainParams.Decimal

/-- The number `digits * 10 ^ exponent`. -/
structure Scientific where
  digits : Nat
  exponent : Int
  deriving DecidableEq, Repr

namespace Binary64

/-- Compares `a * 10 ^ i` with `b * 2 ^ j`. -/
def compareScaled (a : Nat) (i : Int) (b : Nat) (j : Int) : Ordering :=
  compare ((a * Nat.pow 10 i.toNat) <<< (-j).toNat) ((b <<< j.toNat) * Nat.pow 10 (-i).toNat)

/-- The decimal lies between the midpoints to the two neighbours, which belong to the number if its
mantissa is even. Below a power of two the neighbour is only half as far away. -/
def readsBack (x : Binary64) (d : Scientific) : Bool :=
  let narrow := x.mantissa = minNormal && -1074 < x.exponent
  let low := if narrow then 4 * x.mantissa - 1 else 4 * x.mantissa - 2
  let atLow := compareScaled d.digits d.exponent low (x.exponent - 2)
  let atHigh := compareScaled d.digits d.exponent (4 * x.mantissa + 2) (x.exponent - 2)
  let even := x.mantissa % 2 = 0
  (atLow = .gt || even && atLow = .eq) && (atHigh = .lt || even && atHigh = .eq)

/-- The exponent of the first decimal digit of a number other than zero. -/
def leadingExponent (x : Binary64) : Int :=
  let estimate := (x.mantissa.log2 + x.exponent) * 30103 / 100000
  if compareScaled 1 (estimate + 1) x.mantissa x.exponent = .gt then
    if compareScaled 1 estimate x.mantissa x.exponent = .gt then estimate - 1 else estimate
  else estimate + 1

/-- The neighbour of the number on the grid `10 ^ exponent` that reads back, the nearer one if both
do and of two equally near ones the even one. -/
def onGrid? (x : Binary64) (exponent : Int) : Option Scientific :=
  let num := (x.mantissa <<< x.exponent.toNat) * Nat.pow 10 (-exponent).toNat
  let den := (1 <<< (-x.exponent).toNat) * Nat.pow 10 exponent.toNat
  let below : Scientific := ⟨num / den, exponent⟩
  let above : Scientific := ⟨num / den + 1, exponent⟩
  if x.readsBack below then
    if x.readsBack above then some ⟨roundDiv num den, exponent⟩ else some below
  else if x.readsBack above then some above
  else none

/-- The number itself, with all its digits. -/
def exact (x : Binary64) : Scientific :=
  ⟨(x.mantissa <<< x.exponent.toNat) * Nat.pow 5 (-x.exponent).toNat, min 0 x.exponent⟩

def shortest (x : Binary64) : Scientific :=
  let lead := x.leadingExponent
  let found := (List.range 17).findSome? fun (n : Nat) ↦ x.onGrid? (lead - n)
  found.getD x.exact

end Binary64

/-- Moves trailing zeros of the digits into the exponent. -/
def Scientific.strip (d : Scientific) : Scientific :=
  if d.digits = 0 then d
  else if d.digits % 10 = 0 then strip ⟨d.digits / 10, d.exponent + 1⟩
  else d
termination_by d.digits

/-- Positional from five places after the point to sixteen before it, with at least one digit on
either side; otherwise with a signed exponent after the first digit. -/
def Scientific.layout (d : Scientific) : List Char :=
  let digits := Nat.toDigits 10 d.digits
  let lead := d.exponent + digits.length - 1
  if lead < -5 ∨ 15 < lead then
    let fraction := if digits.length = 1 then [] else '.' :: digits.drop 1
    let sign := if lead < 0 then '-' else '+'
    digits.take 1 ++ fraction ++ 'e' :: sign :: Nat.toDigits 10 lead.natAbs
  else if 0 ≤ d.exponent then
    digits ++ List.replicate d.exponent.toNat '0' ++ ['.', '0']
  else if 0 ≤ lead then
    digits.take (lead.toNat + 1) ++ '.' :: digits.drop (lead.toNat + 1)
  else
    '0' :: '.' :: (List.replicate (-lead - 1).toNat '0' ++ digits)

/-- The shortest text of a number with its sign, which zero keeps. -/
def Binary64.text (negative : Bool) (x : Binary64) : String :=
  let magnitude := if x.isZero then ['0', '.', '0'] else x.shortest.strip.layout
  String.ofList (if negative then '-' :: magnitude else magnitude)

end ChainParams.Decimal
