import Mathlib.Tactic
import ChainParams.Time.Parser
import ChainParams.Time.Printer
import ChainParams.Proofs.Time.Calendar

/-!
# Reading date-times back

The text of an instant in definitions is read as the same instant, leap seconds and years outside
0 to 9999 included. Each part is read off the front of the text and leaves the rest.
-/

namespace ChainParams.Time

/-! ## Digits -/

theorem isDigit_of_mem_padded {width n : Nat} {c : Char} (h : c ∈ padded width n) :
    Reader.isDigit c = true := by
  have hdigit : c.isDigit = true := by
    rcases List.mem_append.mp h with hzero | hdigits
    · rw [List.eq_of_mem_replicate hzero]
      rfl
    · exact Nat.isDigit_of_mem_toDigits (by decide) (by decide) hdigits
  exact hdigit

theorem valueOf_eq_ofDigitChars (digits : List Char) :
    Reader.valueOf digits = Nat.ofDigitChars 10 digits 0 :=
  Nat.ofDigitChars_eq_foldl.symm

theorem valueOf_padded (width n : Nat) : Reader.valueOf (padded width n) = n := by
  calc
    Reader.valueOf (padded width n) = Nat.ofDigitChars 10 (padded width n) 0 :=
      valueOf_eq_ofDigitChars _
    _ = Nat.ofDigitChars 10 (Nat.toDigits 10 n) 0 := by
      rw [padded, Nat.ofDigitChars_append, Nat.ofDigitChars_replicate_zero, Nat.mul_zero]
    _ = n := Nat.ofDigitChars_ten_toDigits

theorem padded_ne_nil (width n : Nat) : padded width n ≠ [] := by
  simp [padded, Nat.toDigits_ne_nil]

theorem length_padded {width n : Nat} (hwidth : 0 < width) (h : n < 10 ^ width) :
    (padded width n).length = width := by
  have hlength := (Nat.length_toDigits_le_iff (b := 10) (by decide) hwidth).mpr h
  rw [padded, List.length_append, List.length_replicate]
  omega

/-! ## Numbers -/

namespace Reader

open Text.Blank

/-- The text does not go on with a digit. -/
def EndsNumber (rest : List Char) : Prop :=
  ∀ c ∈ rest.head?, isDigit c = false

theorem splitDigits_append {width : Nat} {digits rest : List Char}
    (hdigits : ∀ c ∈ digits, isDigit c = true) (hwidth : digits.length ≤ width)
    (hend : digits.length = width ∨ EndsNumber rest) :
    splitDigits width (digits ++ rest) = (digits, rest) := by
  induction digits generalizing width with
  | nil =>
    cases width with
    | zero => rfl
    | succ width =>
      have hstop := hend.resolve_left (Nat.zero_ne_add_one width)
      cases rest with
      | nil => rfl
      | cons c rest => simp [splitDigits, hstop c rfl]
  | cons c digits ih =>
    obtain ⟨hc, hdigits⟩ := List.forall_mem_cons.mp hdigits
    cases width with
    | zero => simp at hwidth
    | succ width =>
      simp only [List.length_cons, Nat.add_le_add_iff_right, Nat.add_right_cancel_iff]
        at hwidth hend
      simp [splitDigits, hc, ih hdigits hwidth hend]

theorem number_padded {width limit n : Nat} {rest : List Char}
    (hwidth : (padded width n).length ≤ limit)
    (hend : (padded width n).length = limit ∨ EndsNumber rest) :
    number limit (padded width n ++ rest) = .ok (n, rest) := by
  have hsplit := splitDigits_append (fun c hc ↦ isDigit_of_mem_padded hc) hwidth hend
  have hvalue := valueOf_padded width n
  cases hdigits : padded width n with
  | nil => exact absurd hdigits (padded_ne_nil width n)
  | cons c digits =>
    rw [hdigits] at hsplit hvalue
    simp only [List.cons_append] at hsplit
    simp only [List.cons_append, number, hsplit, hvalue, reduceCtorEq, if_false]

theorem isBlank_of_isDigit {c : Char} (h : isDigit c = true) : isBlank c = false := by
  simp only [isDigit, Bool.and_eq_true, decide_eq_true_eq, Char.le_def, UInt32.le_iff_toNat_le] at h
  have hlow : 48 ≤ c.toNat := h.1
  have hhigh : c.toNat ≤ 57 := h.2
  simp only [isBlank, ranges, List.any_cons, List.any_nil, Bool.or_eq_false_iff,
    Bool.and_eq_false_iff, decide_eq_false_iff_not, and_true]
  omega

theorem skip_cons {c : Char} (rest : List Char) (h : isBlank c = false) :
    skip (c :: rest) = c :: rest := by
  simp [skip, h]

theorem skip_padded (width n : Nat) (rest : List Char) :
    skip (padded width n ++ rest) = padded width n ++ rest := by
  cases hdigits : padded width n with
  | nil => exact absurd hdigits (padded_ne_nil width n)
  | cons c digits =>
    have hmem : c ∈ padded width n := by simp [hdigits]
    exact skip_cons _ (isBlank_of_isDigit (isDigit_of_mem_padded hmem))

theorem part_padded {low high n : Nat} (rest : List Char) (hlow : low ≤ n) (hhigh : n ≤ high)
    (h : n < 100) : part low high (padded 2 n ++ rest) = .ok (n, rest) := by
  have hlength : (padded 2 n).length = 2 := length_padded (by decide) h
  have hnumber : number 2 (padded 2 n ++ rest) = .ok (n, rest) :=
    number_padded hlength.le (.inl hlength)
  simp only [part, skip_padded, hnumber, bind, Except.bind, if_pos (And.intro hlow hhigh)]

theorem partAfter_padded {separator : Char} (hblank : isBlank separator = false)
    {low high n : Nat} (rest : List Char) (hlow : low ≤ n) (hhigh : n ≤ high) (h : n < 100) :
    partAfter separator low high (separator :: (padded 2 n ++ rest)) = .ok (n, rest) := by
  have hpart := part_padded rest hlow hhigh h
  simp only [partAfter, skip_cons _ hblank, literal, if_true, bind, Except.bind, hpart]

/-! ## Dates -/

theorem endsNumber_hyphen (rest : List Char) : EndsNumber ('-' :: rest) := by
  rintro c ⟨⟩
  rfl

/-- A year with a sign may have any number of digits, as a hyphen comes after them. -/
theorem number_signed {n : Nat} (rest : List Char) :
    number (padded 4 n ++ '-' :: rest).length (padded 4 n ++ '-' :: rest) =
      .ok (n, '-' :: rest) := by
  apply number_padded
  · simp
  · exact .inr (endsNumber_hyphen rest)

theorem year_yearChars {y : Int} (hlow : -262143 ≤ y) (hhigh : y ≤ 262142) (rest : List Char) :
    year (yearChars y ++ '-' :: rest) = .ok (y, '-' :: rest) := by
  have hrange : Int32.minValue.toInt ≤ y ∧ y ≤ Int32.maxValue.toInt := by
    have hmin : Int32.minValue.toInt = -2147483648 := rfl
    have hmax : Int32.maxValue.toInt = 2147483647 := rfl
    rw [hmin, hmax]
    omega
  by_cases hplain : 0 ≤ y ∧ y ≤ 9999
  · have hlength : (padded 4 y.toNat).length = 4 := length_padded (by decide) (by omega)
    have hnumber : number 4 (padded 4 y.toNat ++ '-' :: rest) = .ok (y.toNat, '-' :: rest) :=
      number_padded hlength.le (.inl hlength)
    have hvalue : (y.toNat : Int) = y := Int.toNat_of_nonneg hplain.1
    rw [yearChars, if_pos hplain, year, skip_padded]
    cases hdigits : padded 4 y.toNat with
    | nil => exact absurd hdigits (padded_ne_nil 4 y.toNat)
    | cons c digits =>
      have hmem : c ∈ padded 4 y.toNat := by simp [hdigits]
      have hc := isDigit_of_mem_padded hmem
      have hminus : c ≠ '-' := by rintro rfl; cases hc
      have hplus : c ≠ '+' := by rintro rfl; cases hc
      rw [hdigits] at hnumber
      simp only [List.cons_append] at hnumber
      simp [hnumber, hvalue, hminus, hplus, Except.map, bind, Except.bind]
      omega
  · rw [yearChars, if_neg hplain, List.cons_append, year]
    split_ifs with hneg
    · have hvalue : -(y.natAbs : Int) = y := by omega
      rw [skip_cons _ (by rfl)]
      simp only [number_signed, Except.map, bind, Except.bind, hvalue, if_pos hrange]
    · have hvalue : (y.natAbs : Int) = y := by omega
      rw [skip_cons _ (by rfl)]
      simp only [number_signed, Except.map, bind, Except.bind, hvalue, if_pos hrange]

theorem date_dateChars (t : Instant) (rest : List Char) :
    date (t.dateChars ++ rest) = .ok (Date.ofCount t.day, rest) := by
  obtain ⟨hlow, hhigh⟩ := Date.ofCount_year_mem t.firstDay_le t.le_lastDay
  obtain ⟨⟨hmonth, hmonth'⟩, hday, hday'⟩ := Date.ofCount_bounds t.day
  have hseparator : Text.Blank.isBlank '-' = false := by rfl
  simp only [date, Instant.dateChars, List.append_assoc, List.cons_append,
    year_yearChars hlow hhigh, bind, Except.bind, pure, Except.pure,
    partAfter_padded hseparator _ hmonth hmonth' (by omega),
    partAfter_padded hseparator _ hday hday' (by omega)]

/-! ## Clock times -/

theorem fraction_fractionChars {n : Nat} (h : n < 1000000000) :
    fraction (fractionChars n ++ ['Z']) = .ok (n, ['Z']) := by
  have hend : EndsNumber ['Z'] := by
    rintro c ⟨⟩
    rfl
  have hread (width m : Nat) (hwidth : 0 < width) (hle : width ≤ 9) (hm : m < 10 ^ width) :
      fraction ('.' :: padded width m ++ ['Z']) = .ok (m * 10 ^ (9 - width), ['Z']) := by
    have hlength := length_padded hwidth hm
    have hnumber : number 9 (padded width m ++ ['Z']) = .ok (m, ['Z']) :=
      number_padded (hlength.trans_le hle) (.inr hend)
    have hdigits : width + 1 - 1 = width := Nat.add_sub_cancel width 1
    simp [fraction, hnumber, hlength, hdigits, bind, Except.bind, pure, Except.pure, isDigit]
  unfold fractionChars
  split_ifs with hzero hmilli hmicro
  · rw [hzero]
    rfl
  · rw [hread 3 _ (by decide) (by decide) (by omega)]
    congr 2
    omega
  · rw [hread 6 _ (by decide) (by decide) (by omega)]
    congr 2
    omega
  · rw [hread 9 _ (by decide) (by decide) (by omega)]
    congr 2
    omega

theorem clock_clockChars (t : Instant) :
    clock (t.clockChars ++ ['Z']) = .ok (⟨t.second / 3600, t.second / 60 % 60,
      t.second % 60 + t.nano / 1000000000, t.nano % 1000000000⟩, ['Z']) := by
  have hsecond := t.second_lt
  have hnano := t.nano_lt
  have hleap := t.leap
  have hseparator : Text.Blank.isBlank ':' = false := by rfl
  have hfraction := fraction_fractionChars (n := t.nano % 1000000000) (by omega)
  simp only [clock, Instant.clockChars, List.append_assoc, List.cons_append, bind, Except.bind,
    pure, Except.pure,
    part_padded _ (Nat.zero_le _) (show t.second / 3600 ≤ 23 by omega) (by omega),
    partAfter_padded hseparator _ (Nat.zero_le _) (show t.second / 60 % 60 ≤ 59 by omega)
      (by omega),
    partAfter_padded hseparator _ (Nat.zero_le _)
      (show t.second % 60 + t.nano / 1000000000 ≤ 60 by omega) (by omega), hfraction]

end Reader

/-! ## Instants -/

namespace Instant

theorem ofParts?_parts (t : Instant) : ofParts? t.day t.second t.nano = some t :=
  dif_pos ⟨t.firstDay_le, t.le_lastDay, t.second_lt, t.nano_lt, t.leap⟩

/-- Every instant is that of a timestamp; one in a leap second has a second's worth of nanoseconds
or more. -/
theorem ofUnix?_timestamp (t : Instant) :
    ofUnix? (t.day * 86400 + t.second) t.nano = some t := by
  have hlt := t.second_lt
  have hday : (t.day * 86400 + t.second) / 86400 = t.day := by omega
  have hsecond : ((t.day * 86400 + t.second) % 86400).toNat = t.second := by omega
  rw [ofUnix?, hday, hsecond, ofParts?_parts]

/-- Second 60 stands for the last second of the minute with a thousand million nanoseconds more. -/
theorem ofLocal_parts (t : Instant) :
    ofLocal (Date.ofCount t.day) ⟨t.second / 3600, t.second / 60 % 60,
      t.second % 60 + t.nano / 1000000000, t.nano % 1000000000⟩ 0 = .ok t := by
  obtain ⟨hlow, hhigh⟩ := Date.ofCount_year_mem t.firstDay_le t.le_lastDay
  have hsecond := t.second_lt
  have hnano := t.nano_lt
  have hleap := t.leap
  have hyear : ¬((Date.ofCount t.day).year < -262143 ∨ 262142 < (Date.ofCount t.day).year ∨
      86400 ≤ (0 : Int).natAbs) := by
    rw [Int.natAbs_zero]
    omega
  have hleap' : t.second % 60 + t.nano / 1000000000 = 60 ↔ 1000000000 ≤ t.nano := by omega
  have hsecond' : (if 1000000000 ≤ t.nano then 59 else t.second % 60 + t.nano / 1000000000) =
      t.second % 60 := by
    split <;> omega
  have hnano' : (if 1000000000 ≤ t.nano then t.nano % 1000000000 + 1000000000
      else t.nano % 1000000000) = t.nano := by
    split <;> omega
  have htotal : (((t.second / 3600 : Nat) : Int) * 60 + (t.second / 60 % 60 : Nat)) * 60 +
      (t.second % 60 : Nat) - 0 = t.second := by
    omega
  have hday : t.day + (t.second : Int) / 86400 = t.day := by omega
  have hwithin : ((t.second : Int) % 86400).toNat = t.second := by omega
  simp only [ofLocal, Date.count?_ofCount, if_neg hyear, hleap', hsecond',
    hnano', htotal, hday, hwithin, ofParts?_parts]

theorem parse_text (t : Instant) : parse t.text = .ok t := by
  have hoffset : Reader.offset (Text.Blank.skip ['Z']) = .ok (0, []) := by rfl
  rw [parse, text, String.toList_ofList, chars, parseChars]
  simp only [List.append_assoc, List.cons_append, Reader.date_dateChars, bind, Except.bind,
    Reader.separator, or_true, true_or, if_true, Reader.clock_clockChars, hoffset]
  exact ofLocal_parts t

end Instant

end ChainParams.Time
