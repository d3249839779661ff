import ChainParams.Time.Instant

/-!
# Writing date-times

Two forms, one for definitions (`2026-01-01T00:00:00Z`) and one for messages
(`2026-01-01 00:00:00 UTC`). A fraction has three, six or nine digits, the fewest that are exact,
and is left out if it is zero. Years outside 0 to 9999 have a sign and at least four digits.
-/

namespace ChainParams.Time

/-- The digits of `n`, with zeros before them up to a width. -/
def padded (width n : Nat) : List Char :=
  let digits := Nat.toDigits 10 n
  List.replicate (width - digits.length) '0' ++ digits

def yearChars (year : Int) : List Char :=
  if 0 ≤ year ∧ year ≤ 9999 then padded 4 year.toNat
  else (if year < 0 then '-' else '+') :: padded 4 year.natAbs

def fractionChars (nano : Nat) : List Char :=
  if nano = 0 then []
  else if nano % 1000000 = 0 then '.' :: padded 3 (nano / 1000000)
  else if nano % 1000 = 0 then '.' :: padded 6 (nano / 1000)
  else '.' :: padded 9 nano

namespace Instant

def dateChars (t : Instant) : List Char :=
  let date := Date.ofCount t.day
  yearChars date.year ++ '-' :: padded 2 date.month ++ '-' :: padded 2 date.day

/-- A leap second is written as second 60. -/
def clockChars (t : Instant) : List Char :=
  let second := t.second % 60 + t.nano / 1000000000
  padded 2 (t.second / 3600) ++ ':' :: padded 2 (t.second / 60 % 60) ++ ':' :: padded 2 second
    ++ fractionChars (t.nano % 1000000000)

/-- The form in definitions. -/
def chars (t : Instant) : List Char :=
  t.dateChars ++ 'T' :: t.clockChars ++ ['Z']

def text (t : Instant) : String :=
  String.ofList t.chars

/-- The form in messages. -/
def display (t : Instant) : String :=
  String.ofList (t.dateChars ++ ' ' :: t.clockChars ++ [' ', 'U', 'T', 'C'])

end Instant

end ChainParams.Time
