import Mathlib.Tactic
import ChainParams.Json.Parser
import ChainParams.Json.Printer

/-!
# Reading scalars back

What the machine does with the text of a number or of a string. It takes in a string up to its last
mark. A number it takes in without knowing that it ends; only the character after it tells, so the
number is followed by one that no number goes on with, or by nothing.
-/

namespace ChainParams.Json

namespace State

/-- The value of a text of which the machine has taken in the front. -/
def readRest (s : State) (text : List Char) : Except SyntaxFault Json := do
  (← s.run text).finish

theorem parse_eq_readRest (text : String) : parse text = start.readRest text.toList := rfl

theorem readRest_cons {s t : State} {c : Char} (h : s.step c = .ok t) (rest : List Char) :
    s.readRest (c :: rest) = t.readRest rest := by
  simp only [readRest, run, List.foldlM_cons, h, bind, Except.bind]

/-- White space does not move the machine. -/
def Idle (s : State) : Prop :=
  ∀ c, isSpace c = true → s.step c = .ok s

theorem Idle.readRest_append {s : State} (h : s.Idle) {blank : List Char}
    (hblank : ∀ c ∈ blank, isSpace c = true) (rest : List Char) :
    s.readRest (blank ++ rest) = s.readRest rest := by
  induction blank with
  | nil => rfl
  | cons c blank ih =>
    obtain ⟨hc, hblank⟩ := List.forall_mem_cons.mp hblank
    rw [List.cons_append, readRest_cons (h c hc), ih hblank]

/-! ## Numbers -/

/-- The text ends, or goes on with what may come after a value. -/
def Follows (rest : List Char) : Prop :=
  ∀ c ∈ rest.head?, isSpace c = true ∨ c = ',' ∨ c = ']' ∨ c = '\x7d'

theorem step_deliver (value : Json) (stack : List Frame) (c : Char) :
    (deliver value stack).step c = (deliver value stack).stepAfter c := by
  rcases stack with _ | ⟨frame, outer⟩
  · rfl
  · cases frame <;> rfl

theorem finish_deliver (value : Json) (stack : List Frame) :
    (deliver value stack).finish =
      match (deliver value stack).mode with
      | .done value => .ok value
      | _ => .error .unfinished := by
  rcases stack with _ | ⟨frame, outer⟩
  · rfl
  · cases frame <;> rfl

theorem digitValue?_of_follows {c : Char}
    (h : isSpace c = true ∨ c = ',' ∨ c = ']' ∨ c = '\x7d') : digitValue? c = none := by
  simp only [isSpace, Bool.or_eq_true, decide_eq_true_eq, or_assoc] at h
  rcases h with rfl | rfl | rfl | rfl | rfl | rfl | rfl <;> rfl

/-- A literal that may end does so at the first character after it. -/
theorem push_of_follows {t : NumberText} (hcomplete : t.phase.complete = true) {c : Char}
    (h : isSpace c = true ∨ c = ',' ∨ c = ']' ∨ c = '\x7d') : t.push c = .ended := by
  have hdigit := digitValue?_of_follows h
  have hmarks : c ≠ '.' ∧ c ≠ 'e' ∧ c ≠ 'E' := by
    simp only [isSpace, Bool.or_eq_true, decide_eq_true_eq, or_assoc] at h
    rcases h with rfl | rfl | rfl | rfl | rfl | rfl | rfl <;> decide
  cases hphase : t.phase <;> simp [hphase, NumberPhase.complete] at hcomplete <;>
    simp [NumberText.push, hphase, hdigit, hmarks]

theorem readRest_number {t : NumberText} {value : Json} (stack : List Frame)
    (hcomplete : t.phase.complete = true) (hvalue : t.value? = some value)
    {rest : List Char} (hrest : Follows rest) :
    readRest ⟨stack, .number t⟩ rest = (deliver value stack).readRest rest := by
  have hend : endNumber stack t = .ok (deliver value stack) := by rw [endNumber, hvalue]
  cases rest with
  | nil =>
    calc
      finish ⟨stack, .number t⟩ = (endNumber stack t).bind fun s ↦
          match s.mode with
          | .done value => .ok value
          | _ => .error .unfinished := if_pos hcomplete
      _ = (deliver value stack).finish :=
        (congrArg (Except.bind · _) hend).trans (finish_deliver value stack).symm
  | cons c rest =>
    have hpush := push_of_follows hcomplete (hrest c rfl)
    have hstep : step ⟨stack, .number t⟩ c = (deliver value stack).step c := by
      rw [step_deliver]
      simp only [step, hpush, hend, bind, Except.bind]
    simp only [readRest, run, List.foldlM_cons, hstep]

theorem digitValue?_of_isDigit {c : Char} (h : c.isDigit = true) :
    digitValue? c = some (c.toNat - '0'.toNat) := by
  have hrange : '0' ≤ c ∧ c ≤ '9' := by
    simpa [Char.isDigit, Char.le_def] using h
  rw [digitValue?, if_pos hrange]

/-- An integer literal with the digits of its number, the last one first. -/
def integerText (phase : NumberPhase) (negative : Bool) (whole : List Nat) : NumberText :=
  ⟨phase, negative, whole, [], false, []⟩

theorem readRest_digits (stack : List Frame) (negative : Bool) (whole : List Nat)
    {digits : List Char} (hdigits : ∀ c ∈ digits, c.isDigit = true) (rest : List Char) :
    readRest ⟨stack, .number (integerText .whole negative whole)⟩ (digits ++ rest) =
      readRest ⟨stack, .number (integerText .whole negative
        ((digits.map fun c ↦ c.toNat - '0'.toNat).reverse ++ whole))⟩ rest := by
  induction digits generalizing whole with
  | nil => rfl
  | cons c digits ih =>
    obtain ⟨hc, hdigits⟩ := List.forall_mem_cons.mp hdigits
    have hstep : step ⟨stack, .number (integerText .whole negative whole)⟩ c =
        .ok ⟨stack, .number (integerText .whole negative ((c.toNat - '0'.toNat) :: whole))⟩ := by
      simp only [step, NumberText.push, integerText, digitValue?_of_isDigit hc]
    rw [List.cons_append, readRest_cons hstep, ih _ hdigits]
    simp

theorem ofDigits_reverse (digits : List Char) :
    ofDigits (digits.map fun c ↦ c.toNat - '0'.toNat).reverse = Nat.ofDigitChars 10 digits 0 := by
  induction digits using List.reverseRecOn with
  | nil => rfl
  | append_singleton digits c ih =>
    rw [Nat.ofDigitChars_append, Nat.ofDigitChars_cons, Nat.ofDigitChars_nil, ← ih]
    simp [ofDigits, Nat.add_comm]

theorem toDigits_eq_cons (n : Nat) :
    ∃ c digits, Nat.toDigits 10 n = c :: digits ∧ c.isDigit = true := by
  cases hdigits : Nat.toDigits 10 n with
  | nil => exact absurd hdigits Nat.toDigits_ne_nil
  | cons c digits =>
    refine ⟨c, digits, rfl, ?_⟩
    apply Nat.isDigit_of_mem_toDigits (b := 10) (n := n) (by decide) (by decide)
    rw [hdigits]
    exact List.mem_cons_self

/-- Only zero is written with a leading zero. -/
theorem head_toDigits_ne_zero {n : Nat} (h : 0 < n) {digits : List Char} :
    Nat.toDigits 10 n ≠ '0' :: digits := by
  induction n using Nat.strong_induction_on generalizing digits with
  | _ n ih =>
    by_cases hbase : n < 10
    · rw [Nat.toDigits_of_lt_base hbase]
      intro heq
      have hzero := Nat.digitChar_eq_zero.mp (List.cons.inj heq).1
      omega
    · rw [Nat.toDigits_of_base_le (by decide) (Nat.le_of_not_lt hbase)]
      intro heq
      cases hfront : Nat.toDigits 10 (n / 10) with
      | nil => exact Nat.toDigits_ne_nil hfront
      | cons c front =>
        rw [hfront, List.cons_append] at heq
        rw [(List.cons.inj heq).1] at hfront
        exact ih (n / 10) (by omega) (by omega) hfront

/-- An integer literal after its first digit; after a zero there may be no other. -/
def firstDigit (negative : Bool) (c : Char) : NumberText :=
  integerText (if c.toNat - '0'.toNat = 0 then .zero else .whole) negative [c.toNat - '0'.toNat]

/-- The digits after the first, of a literal with the given value. -/
theorem readRest_moreDigits (stack : List Frame) {negative : Bool} {n : Nat} {value : Json}
    (hvalue : ∀ phase whole, ofDigits whole = n →
      (integerText phase negative whole).value? = some value)
    {c : Char} {digits : List Char} (hdigits : Nat.toDigits 10 n = c :: digits)
    {rest : List Char} (hrest : Follows rest) :
    readRest ⟨stack, .number (firstDigit negative c)⟩ (digits ++ rest) =
      (deliver value stack).readRest rest := by
  have hall : ∀ d ∈ c :: digits, d.isDigit = true := fun d hd ↦
    Nat.isDigit_of_mem_toDigits (by decide) (by decide) (hdigits ▸ hd)
  have hn : ofDigits (((c :: digits).map fun c ↦ c.toNat - '0'.toNat).reverse) = n := by
    rw [ofDigits_reverse, ← hdigits, Nat.ofDigitChars_ten_toDigits]
  rw [List.map_cons, List.reverse_cons] at hn
  obtain rfl | hpos := Nat.eq_zero_or_pos n
  · rw [Nat.toDigits_zero] at hdigits
    obtain ⟨rfl, rfl⟩ := List.cons.inj hdigits
    exact readRest_number stack rfl (hvalue _ _ hn) hrest
  · have hc : c.toNat - '0'.toNat ≠ 0 := by
      have hdigit := hall c (List.mem_cons_self ..)
      simp only [Char.isDigit, Bool.and_eq_true, decide_eq_true_eq, UInt32.le_iff_toNat_le]
        at hdigit
      have hlow : 48 ≤ c.toNat := hdigit.1
      have hzero : '0'.toNat = 48 := rfl
      intro heq
      have hc : c = '0' := Char.toNat_inj.mp (by omega)
      exact head_toDigits_ne_zero hpos (hc ▸ hdigits)
    rw [firstDigit, if_neg hc,
      readRest_digits stack negative _ fun d hd ↦ hall d (List.mem_cons_of_mem _ hd)]
    exact readRest_number stack rfl (hvalue _ _ hn) hrest

theorem ne_of_isDigit {c d : Char} (hc : c.isDigit = true) (hd : d.isDigit = false) : c ≠ d := by
  rintro rfl
  rw [hc] at hd
  cases hd

theorem isSpace_of_isDigit {c : Char} (h : c.isDigit = true) : isSpace c = false := by
  have hne (d : Char) (hd : d.isDigit = false) : c ≠ d := ne_of_isDigit h hd
  simp [isSpace, hne ' ' rfl, hne '\t' rfl, hne '\n' rfl, hne '\r' rfl]

theorem step_value_of_isDigit (stack : List Frame) {c : Char} (h : c.isDigit = true) :
    step ⟨stack, .value⟩ c = .ok ⟨stack, .number (firstDigit false c)⟩ := by
  have hne (d : Char) (hd : d.isDigit = false) : c ≠ d := ne_of_isDigit h hd
  simp [step, stepValue, isSpace_of_isDigit h, hne '"' rfl, hne '[' rfl, hne '\x7b' rfl,
    hne 'n' rfl, hne 't' rfl, hne 'f' rfl, NumberText.start?, hne '-' rfl,
    digitValue?_of_isDigit h, firstDigit, integerText]

theorem step_sign_of_isDigit (stack : List Frame) {c : Char} (h : c.isDigit = true) :
    step ⟨stack, .number (integerText .sign true [])⟩ c =
      .ok ⟨stack, .number (firstDigit true c)⟩ := by
  simp only [step, NumberText.push, integerText, firstDigit, digitValue?_of_isDigit h]

theorem value?_integerText_ofNat {n : Nat} (h : n < 18446744073709551616) (phase : NumberPhase)
    {whole : List Nat} (hwhole : ofDigits whole = n) :
    (integerText phase false whole).value? = some (.int (.ofNat n)) := by
  have hn : n < UInt64.size := h
  simp [NumberText.value?, integerText, hwhole, hn]

theorem value?_integerText_negSucc {n : Nat} (h : n + 1 ≤ 9223372036854775808)
    (phase : NumberPhase) {whole : List Nat} (hwhole : ofDigits whole = n + 1) :
    (integerText phase true whole).value? = some (.int (.negSucc n)) := by
  have hn : n + 1 ≤ UInt64.size / 2 := h
  simp [NumberText.value?, integerText, hwhole, hn, Int.negSucc_eq]

theorem readRest_intChars (stack : List Frame) {n : Int}
    (hlow : -9223372036854775808 ≤ n) (hhigh : n < 18446744073709551616)
    {rest : List Char} (hrest : Follows rest) :
    readRest ⟨stack, .value⟩ (intChars n ++ rest) = (deliver (.int n) stack).readRest rest := by
  cases n with
  | ofNat n =>
    obtain ⟨c, digits, hdigits, hc⟩ := toDigits_eq_cons n
    have hn : n < 18446744073709551616 := Int.ofNat_lt.mp hhigh
    rw [intChars, hdigits, List.cons_append, readRest_cons (step_value_of_isDigit stack hc)]
    apply readRest_moreDigits stack _ hdigits hrest
    intro phase whole hwhole
    exact value?_integerText_ofNat hn phase hwhole
  | negSucc n =>
    obtain ⟨c, digits, hdigits, hc⟩ := toDigits_eq_cons (n + 1)
    have hn : n + 1 ≤ 9223372036854775808 := by omega
    have hsign : step ⟨stack, .value⟩ '-' = .ok ⟨stack, .number (integerText .sign true [])⟩ := rfl
    rw [intChars, hdigits, List.cons_append, List.cons_append, readRest_cons hsign,
      readRest_cons (step_sign_of_isDigit stack hc)]
    apply readRest_moreDigits stack _ hdigits hrest
    intro phase whole hwhole
    exact value?_integerText_negSucc hn phase hwhole

/-! ## Strings -/

/-- Where the machine goes on after a string. -/
def afterString (stack : List Frame) (s : String) : StringRole → State
  | .value => deliver (.str s) stack
  | .key members => ⟨stack, .colon members s⟩

theorem unitValue?_control {n : Nat} (h : n < 32) :
    unitValue? [(n % 16).digitChar, (n / 16).digitChar, '0', '0'] = some n ∧
      Text.Utf8.size [(n / 16).digitChar, '0', '0'] = 3 ∧
      Text.Utf8.size [(n % 16).digitChar, (n / 16).digitChar, '0', '0'] = 4 := by
  have hall : ∀ n < 32,
      unitValue? [(n % 16).digitChar, (n / 16).digitChar, '0', '0'] = some n ∧
        Text.Utf8.size [(n / 16).digitChar, '0', '0'] = 3 ∧
        Text.Utf8.size [(n % 16).digitChar, (n / 16).digitChar, '0', '0'] = 4 := by decide
  exact hall n h

/-- The two digits of a control that differ from one to the other. -/
theorem readRest_control (stack : List Frame) (role : StringRole) (before : List Char) {c : Char}
    (h : c.toNat < 32) (rest : List Char) :
    readRest ⟨stack, .string role ⟨before, .unit none ['0', '0']⟩⟩
        ((c.toNat / 16).digitChar :: (c.toNat % 16).digitChar :: rest) =
      readRest ⟨stack, .string role ⟨c :: before, .none⟩⟩ rest := by
  obtain ⟨hunit, hhigh, hlow⟩ := unitValue?_control h
  have hfirst : step ⟨stack, .string role ⟨before, .unit none ['0', '0']⟩⟩
      (c.toNat / 16).digitChar = .ok ⟨stack, .string role
        ⟨before, .unit none [(c.toNat / 16).digitChar, '0', '0']⟩⟩ := by
    simp [step, stepString, StringText.push, hhigh]
  have hsecond : step ⟨stack, .string role
      ⟨before, .unit none [(c.toNat / 16).digitChar, '0', '0']⟩⟩ (c.toNat % 16).digitChar =
        .ok ⟨stack, .string role ⟨c :: before, .none⟩⟩ := by
    have hleading : ¬(0xD800 ≤ c.toNat ∧ c.toNat ≤ 0xDBFF) := by omega
    have htrailing : ¬(0xDC00 ≤ c.toNat ∧ c.toNat ≤ 0xDFFF) := by omega
    simp only [step, stepString, StringText.push, hlow, hunit, StringText.pushUnit,
      if_neg hleading, if_neg htrailing, Char.ofNat_toNat, Nat.lt_irrefl, if_false]
  rw [readRest_cons hfirst, readRest_cons hsecond]

theorem readRest_escapeChar (stack : List Frame) (role : StringRole) (before : List Char) (c : Char)
    (rest : List Char) :
    readRest ⟨stack, .string role ⟨before, .none⟩⟩ (escapeChar c ++ rest) =
      readRest ⟨stack, .string role ⟨c :: before, .none⟩⟩ rest := by
  unfold escapeChar
  split
  · rfl
  · rfl
  · rfl
  · rfl
  · rfl
  · rfl
  · rfl
  · next hquote hbackslash _ _ _ _ _ =>
    split
    · next hcontrol => exact readRest_control stack role before hcontrol rest
    · next hplain =>
      have hmark : c ≠ '"' := hquote
      have hescape : c ≠ '\\' := hbackslash
      have hstep : step ⟨stack, .string role ⟨before, .none⟩⟩ c =
          .ok ⟨stack, .string role ⟨c :: before, .none⟩⟩ := by
        simp [step, stepString, StringText.push, hmark, hescape, hplain]
      exact readRest_cons hstep rest

theorem readRest_chars_of_string (stack : List Frame) (role : StringRole) (before s : List Char)
    (rest : List Char) :
    readRest ⟨stack, .string role ⟨before, .none⟩⟩ (s.flatMap escapeChar ++ '"' :: rest) =
      (afterString stack (String.ofList (before.reverse ++ s)) role).readRest rest := by
  induction s generalizing before with
  | nil =>
    rw [List.append_nil]
    cases role <;> rfl
  | cons c s ih =>
    calc
      _ = readRest ⟨stack, .string role ⟨before, .none⟩⟩
          (escapeChar c ++ (s.flatMap escapeChar ++ '"' :: rest)) := by
        rw [List.flatMap_cons, List.append_assoc]
      _ = readRest ⟨stack, .string role ⟨c :: before, .none⟩⟩
          (s.flatMap escapeChar ++ '"' :: rest) := readRest_escapeChar stack role before c _
      _ = (afterString stack (String.ofList (before.reverse ++ c :: s)) role).readRest rest := by
        rw [ih, List.reverse_cons, List.append_assoc, List.singleton_append]

theorem readRest_stringChars (stack : List Frame) (role : StringRole) (s : String)
    (rest : List Char) :
    readRest ⟨stack, .string role ⟨[], .none⟩⟩ (s.toList.flatMap escapeChar ++ '"' :: rest) =
      (afterString stack s role).readRest rest := by
  rw [readRest_chars_of_string, List.reverse_nil, List.nil_append, String.ofList_toList]

end State

end ChainParams.Json
