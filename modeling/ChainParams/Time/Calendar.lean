/-!
# The Gregorian calendar

Days are counted from 1970-01-01, years run through zero to negative ones. The year of a day is
estimated from the mean length of a year, which is never off by more than one, and then corrected by
the counts at which the years begin.
-/

namespace ChainParams.Time

/-- A day of the calendar; months and days count from one. -/
structure Date where
  year : Int
  month : Nat
  day : Nat
  deriving DecidableEq, Repr

def isLeap (year : Int) : Bool :=
  year % 4 = 0 && (year % 100 ≠ 0 || year % 400 = 0)

/-- The count of the first day of a year. -/
def firstOfYear (year : Int) : Int :=
  let past := year - 1
  365 * past + past / 4 - past / 100 + past / 400 - 719162

def monthLengths (leap : Bool) : List Nat :=
  [31, if leap then 29 else 28, 31, 30, 31, 30, 31, 31, 30, 31, 30, 31]

def yearOf (count : Int) : Int :=
  let estimate := 400 * (count + 719162) / 146097 + 1
  if count < firstOfYear estimate then estimate - 1
  else if firstOfYear (estimate + 1) ≤ count then estimate + 1
  else estimate

/-- Splits a number of days into whole months of the given lengths and the days left. -/
def splitMonths : List Nat → Nat → Nat × Nat
  | [], days => (0, days)
  | length :: rest, days =>
    if days < length then (0, days)
    else
      let (months, left) := splitMonths rest (days - length)
      (months + 1, left)

namespace Date

/-- The day with a count. -/
def ofCount (count : Int) : Date :=
  let year := yearOf count
  let (months, days) := splitMonths (monthLengths (isLeap year)) (count - firstOfYear year).toNat
  ⟨year, months + 1, days + 1⟩

/-- The count of a day, or nothing if its month does not have it. -/
def count? (date : Date) : Option Int :=
  let lengths := monthLengths (isLeap date.year)
  match date.month, date.day with
  | months + 1, days + 1 =>
    match lengths[months]? with
    | some length =>
      if days < length then some (firstOfYear date.year + ((lengths.take months).foldl Nat.add 0 + days : Nat))
      else none
    | none => none
  | _, _ => none

end Date

end ChainParams.Time
