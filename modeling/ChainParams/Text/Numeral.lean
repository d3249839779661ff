/-!
# Numerals in text

Unsigned integers as they stand in ports, magics and prefix bytes: an optional plus sign and at
least one digit of the radix, nothing else. Leading zeros are allowed. The digits are judged from
left to right, and the first one that is none or that carries the value to the limit decides.
-/

namespace ChainParams.Text.Numeral

/-- Why a text is no numeral. -/
inductive Fault where
  | empty
  | badDigit
  | tooLarge
  deriving DecidableEq, Repr

def Fault.message : Fault → String
  | .empty => "cannot parse integer from empty string"
  | .badDigit => "invalid digit found in string"
  | .tooLarge => "number too large to fit in target type"

/-- The value of a digit; letters of either case go on from ten. -/
def digit? (radix : Nat) (c : Char) : Option Nat :=
  let d :=
    if '0' ≤ c ∧ c ≤ '9' then c.toNat - '0'.toNat
    else if 'a' ≤ c ∧ c ≤ 'z' then c.toNat - 'a'.toNat + 10
    else if 'A' ≤ c ∧ c ≤ 'Z' then c.toNat - 'A'.toNat + 10
    else radix
  if d < radix then some d else none

/-- Goes on reading digits after those that gave `n`. -/
def readDigits (radix limit : Nat) (n : Nat) : List Char → Except Fault Nat
  | [] => .ok n
  | c :: cs =>
    match digit? radix c with
    | none => .error .badDigit
    | some d =>
      if radix * n + d < limit then readDigits radix limit (radix * n + d) cs
      else .error .tooLarge

/-- Reads a numeral below `limit`. -/
def read (radix limit : Nat) : List Char → Except Fault Nat
  | [] => .error .empty
  | ['+'] => .error .badDigit
  | '+' :: c :: cs => readDigits radix limit 0 (c :: cs)
  | c :: cs => readDigits radix limit 0 (c :: cs)

end ChainParams.Text.Numeral
