import Mathlib.Tactic
import Mathlib.Order.SuccPred.IntervalSucc
import ChainParams.Time.Instant

/-!
# Days and dates

Every count of days is the count of a date, namely of the one that it is turned into. The estimate
of the year is off by at most one, so the year found is the one whose days hold the count; the
months of that year then split the rest.
-/

namespace ChainParams.Time

/-! ## Years -/

/-- The days of a year. -/
def daysInYear (year : Int) : Nat :=
  if isLeap year then 366 else 365

theorem firstOfYear_succ (year : Int) :
    firstOfYear (year + 1) = firstOfYear year + daysInYear year := by
  have hleap : isLeap year = true ↔ year % 4 = 0 ∧ (year % 100 ≠ 0 ∨ year % 400 = 0) := by
    simp [isLeap]
  unfold daysInYear
  simp only [firstOfYear]
  split <;> rename_i h <;> rw [hleap] at h <;> push_cast <;> omega

theorem firstOfYear_strictMono : StrictMono firstOfYear := by
  apply strictMono_int_of_lt_succ
  intro year
  have hdays : 0 < daysInYear year := by
    unfold daysInYear
    split <;> decide
  rw [firstOfYear_succ]
  omega

theorem firstOfYear_yearOf_le (count : Int) : firstOfYear (yearOf count) ≤ count := by
  simp only [yearOf]
  split
  · simp only [firstOfYear]
    omega
  · split
    · assumption
    · omega

theorem lt_firstOfYear_yearOf (count : Int) : count < firstOfYear (yearOf count + 1) := by
  simp only [yearOf]
  split
  · simpa using by assumption
  · split
    · simp only [firstOfYear]
      omega
    · omega

/-- A year is the year of just those days that its first day and that of the next year enclose. -/
theorem yearOf_mem_Icc {count low high : Int} (hlow : firstOfYear low ≤ count)
    (hhigh : count < firstOfYear (high + 1)) : low ≤ yearOf count ∧ yearOf count ≤ high := by
  have hafter := hlow.trans_lt (lt_firstOfYear_yearOf count)
  have hbefore := (firstOfYear_yearOf_le count).trans_lt hhigh
  rw [firstOfYear_strictMono.lt_iff_lt] at hafter hbefore
  omega

/-! ## Months -/

theorem foldl_add_eq_sum (lengths : List Nat) : lengths.foldl Nat.add 0 = lengths.sum := by
  rw [List.sum_eq_foldl]
  rfl

theorem sum_monthLengths (year : Int) : (monthLengths (isLeap year)).sum = daysInYear year := by
  unfold daysInYear monthLengths
  cases isLeap year <;> rfl

theorem length_monthLengths (leap : Bool) : (monthLengths leap).length = 12 := rfl

theorem monthLength_le (leap : Bool) {length : Nat} (h : length ∈ monthLengths leap) :
    length ≤ 31 := by
  have hall : ∀ leap, ∀ length ∈ monthLengths leap, length ≤ 31 := by decide
  exact hall leap length h

/-- The split goes to a month that has the day, after the whole months before it. -/
theorem splitMonths_spec (lengths : List Nat) (days : Nat) (h : days < lengths.sum) :
    ∃ length, lengths[(splitMonths lengths days).1]? = some length ∧
      (splitMonths lengths days).2 < length ∧
      (lengths.take (splitMonths lengths days).1).sum + (splitMonths lengths days).2 = days := by
  induction lengths generalizing days with
  | nil => simp at h
  | cons length rest ih =>
    rw [List.sum_cons] at h
    rw [splitMonths]
    split
    · next hdays => exact ⟨length, by simp, hdays, by simp⟩
    · next hdays =>
      obtain ⟨found, hget, hlt, hsum⟩ := ih (days - length) (by omega)
      refine ⟨found, by simpa using hget, hlt, ?_⟩
      simp only [List.take_succ_cons, List.sum_cons]
      omega

/-! ## Dates -/

namespace Date

/-- The days of a count's year before it. -/
theorem dayOfYear_lt (count : Int) :
    (count - firstOfYear (yearOf count)).toNat < daysInYear (yearOf count) := by
  have hlow := firstOfYear_yearOf_le count
  have hhigh := lt_firstOfYear_yearOf count
  rw [firstOfYear_succ] at hhigh
  omega

theorem ofCount_bounds (count : Int) :
    (1 ≤ (ofCount count).month ∧ (ofCount count).month ≤ 12) ∧
      1 ≤ (ofCount count).day ∧ (ofCount count).day ≤ 31 := by
  have hdays := dayOfYear_lt count
  rw [← sum_monthLengths] at hdays
  obtain ⟨length, hget, hlt, -⟩ := splitMonths_spec _ _ hdays
  have hmonth := (List.getElem?_eq_some_iff.mp hget).1
  rw [length_monthLengths] at hmonth
  have hlength := monthLength_le _ (List.mem_of_getElem? hget)
  simp only [ofCount]
  omega

theorem count?_ofCount (count : Int) : (ofCount count).count? = some count := by
  have hdays := dayOfYear_lt count
  rw [← sum_monthLengths] at hdays
  obtain ⟨length, hget, hlt, hsum⟩ := splitMonths_spec _ _ hdays
  have hlow := firstOfYear_yearOf_le count
  simp only [count?, ofCount, hget, if_pos hlt, foldl_add_eq_sum, hsum, Option.some.injEq]
  omega

/-- The years from which days are taken. -/
theorem ofCount_year_mem {count : Int} (hfirst : firstDay ≤ count) (hlast : count ≤ lastDay) :
    -262143 ≤ (ofCount count).year ∧ (ofCount count).year ≤ 262142 := by
  apply yearOf_mem_Icc
  · exact hfirst
  · exact Int.lt_of_le_of_lt hlast (by decide)

end Date

end ChainParams.Time
