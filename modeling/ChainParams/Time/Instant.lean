import ChainParams.Time.Calendar

/-!
# Instants

A point of universal time to the nanosecond, from year -262143 to year 262142. A leap second is the
last second of its minute with a thousand million nanoseconds or more: it comes after every other
instant of that second and before the next one.
-/

namespace ChainParams.Time

/-- The first day of year -262143. -/
def firstDay : Int := -96465292

/-- The last day of year 262142. -/
def lastDay : Int := 95026236

structure Instant where
  /-- The count of the day. -/
  day : Int
  /-- The seconds since midnight. -/
  second : Nat
  nano : Nat
  firstDay_le : firstDay ≤ day
  le_lastDay : day ≤ lastDay
  second_lt : second < 86400
  nano_lt : nano < 2000000000
  leap : 1000000000 ≤ nano → second % 60 = 59
  deriving DecidableEq, Repr

namespace Instant

/-- The instant with the given parts, if there is one. -/
def ofParts? (day : Int) (second nano : Nat) : Option Instant :=
  if h : firstDay ≤ day ∧ day ≤ lastDay ∧ second < 86400 ∧ nano < 2000000000 ∧
      (1000000000 ≤ nano → second % 60 = 59) then
    some ⟨day, second, nano, h.1, h.2.1, h.2.2.1, h.2.2.2.1, h.2.2.2.2⟩
  else none

/-- The instant so many seconds and nanoseconds after 1970-01-01. -/
def ofUnix? (seconds : Int) (nanos : Nat) : Option Instant :=
  ofParts? (seconds / 86400) (seconds % 86400).toNat nanos

/-- The instant so many seconds after 1970-01-01. -/
def ofSeconds (seconds : Int)
    (h : firstDay * 86400 ≤ seconds ∧ seconds < (lastDay + 1) * 86400 := by decide) : Instant where
  day := seconds / 86400
  second := (seconds % 86400).toNat
  nano := 0
  firstDay_le := by unfold firstDay lastDay at *; omega
  le_lastDay := by unfold firstDay lastDay at *; omega
  second_lt := by omega
  nano_lt := by decide
  leap := by omega

/-- A count of nanoseconds that leaves room for a leap second after each second. -/
def rank (t : Instant) : Int :=
  (t.day * 86400 + t.second) * 2000000000 + t.nano

instance : LE Instant where
  le s t := s.rank ≤ t.rank

instance : LT Instant where
  lt s t := s.rank < t.rank

instance (s t : Instant) : Decidable (s ≤ t) :=
  inferInstanceAs (Decidable (s.rank ≤ t.rank))

instance (s t : Instant) : Decidable (s < t) :=
  inferInstanceAs (Decidable (s.rank < t.rank))

end Instant

end ChainParams.Time
