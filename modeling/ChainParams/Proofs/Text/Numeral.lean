import Mathlib.Tactic
import ChainParams.Text.Numeral

/-!
# Which texts are numerals

The reader of numerals stops at the first digit that carries the value to the limit. As further
digits never make the value smaller, it accepts exactly the numerals whose whole value is below the
limit: a plus sign or none, and then one digit or more.
-/

namespace ChainParams.Text.Numeral

/-- The value of digits that go on from those that gave `n`. -/
def valueFrom (radix n : Nat) (digits : List Char) : Nat :=
  digits.foldl (fun n c ↦ radix * n + (digit? radix c).getD 0) n

/-- At least one digit, with a plus sign before it or none, spells the number. -/
def Spells (radix : Nat) (text : List Char) (n : Nat) : Prop :=
  ∃ digits, (text = digits ∨ text = '+' :: digits) ∧ digits ≠ [] ∧
    (∀ c ∈ digits, (digit? radix c).isSome) ∧ valueFrom radix 0 digits = n

theorem le_valueFrom {radix : Nat} (hradix : 0 < radix) (n : Nat) (digits : List Char) :
    n ≤ valueFrom radix n digits := by
  induction digits generalizing n with
  | nil => exact Nat.le_refl n
  | cons c digits ih =>
    calc
      n ≤ radix * n := Nat.le_mul_of_pos_left n hradix
      _ ≤ radix * n + (digit? radix c).getD 0 := Nat.le_add_right _ _
      _ ≤ valueFrom radix n (c :: digits) := ih _

theorem readDigits_eq_ok_iff {radix limit n m : Nat} {digits : List Char} (hradix : 0 < radix)
    (hn : n < limit) :
    readDigits radix limit n digits = .ok m ↔
      (∀ c ∈ digits, (digit? radix c).isSome) ∧ valueFrom radix n digits = m ∧ m < limit := by
  induction digits generalizing n with
  | nil =>
    rw [readDigits, Except.ok.injEq]
    constructor
    · rintro rfl
      exact ⟨List.forall_mem_nil _, rfl, hn⟩
    · exact fun h ↦ h.2.1
  | cons c digits ih =>
    rw [readDigits, List.forall_mem_cons]
    cases hdigit : digit? radix c with
    | none => simp
    | some d =>
      have hvalue : valueFrom radix n (c :: digits) = valueFrom radix (radix * n + d) digits := by
        rw [valueFrom, List.foldl_cons, hdigit, Option.getD_some, valueFrom]
      rw [hvalue]
      by_cases hlimit : radix * n + d < limit
      · simp [hlimit, ih hlimit]
      · -- The rest of the digits cannot bring the value below the limit again.
        have hle := le_valueFrom hradix (radix * n + d) digits
        simp only [hlimit, if_false]
        constructor
        · intro h
          cases h
        · rintro ⟨-, rfl, hlt⟩
          omega

theorem digit?_plus (radix : Nat) : digit? radix '+' = none := by
  simp [digit?]

theorem spells_plus_iff {radix n : Nat} {digits : List Char} :
    Spells radix ('+' :: digits) n ↔ digits ≠ [] ∧ (∀ c ∈ digits, (digit? radix c).isSome) ∧
      valueFrom radix 0 digits = n := by
  constructor
  · rintro ⟨others, rfl | heq, hne, hdigits, hvalue⟩
    · have hplus := hdigits '+' (List.mem_cons_self ..)
      rw [digit?_plus] at hplus
      cases hplus
    · cases heq
      exact ⟨hne, hdigits, hvalue⟩
  · intro h
    exact ⟨digits, .inr rfl, h⟩

theorem spells_digits_iff {radix n : Nat} {c : Char} {digits : List Char} (hc : c ≠ '+') :
    Spells radix (c :: digits) n ↔ (∀ d ∈ c :: digits, (digit? radix d).isSome) ∧
      valueFrom radix 0 (c :: digits) = n := by
  constructor
  · rintro ⟨others, rfl | heq, -, h⟩
    · exact h
    · cases heq
      exact absurd rfl hc
  · intro h
    exact ⟨c :: digits, .inl rfl, List.cons_ne_nil c digits, h⟩

/-- A text is read as a number if it spells the number and the number is below the limit. -/
theorem read_eq_ok_iff {radix limit n : Nat} {text : List Char} (hradix : 0 < radix)
    (hlimit : 0 < limit) : read radix limit text = .ok n ↔ Spells radix text n ∧ n < limit := by
  fun_cases read radix limit text with
  | case1 =>
    refine iff_of_false (fun h ↦ by cases h) ?_
    rintro ⟨⟨digits, rfl | heq, hne, -⟩, -⟩
    · exact hne rfl
    · cases heq
  | case2 =>
    refine iff_of_false (fun h ↦ by cases h) ?_
    rw [spells_plus_iff]
    exact fun h ↦ h.1.1 rfl
  | case3 c cs =>
    rw [readDigits_eq_ok_iff hradix hlimit, spells_plus_iff]
    simp [and_assoc]
  | case4 c cs hsign hplus =>
    have hc : c ≠ '+' := by
      rintro rfl
      cases cs with
      | nil => exact hsign rfl rfl
      | cons d ds => exact hplus d ds rfl rfl
    rw [readDigits_eq_ok_iff hradix hlimit, spells_digits_iff hc, and_assoc]

/-- The reader finds whichever number is spelled once the limit is far enough. -/
theorem Spells.unique {radix n m : Nat} {text : List Char} (hradix : 0 < radix)
    (h : Spells radix text n) (hother : Spells radix text m) : n = m := by
  have hread : read radix (n + m + 1) text = .ok n :=
    (read_eq_ok_iff hradix (Nat.succ_pos _)).mpr ⟨h, by omega⟩
  have hreadOther : read radix (n + m + 1) text = .ok m :=
    (read_eq_ok_iff hradix (Nat.succ_pos _)).mpr ⟨hother, by omega⟩
  exact Except.ok.inj (hread.symm.trans hreadOther)

/-! ## Decimal numerals -/

theorem digit?_ten (c : Char) :
    digit? 10 c = if c.isDigit then some (c.toNat - '0'.toNat) else none := by
  have hle (a b : Char) : a ≤ b ↔ a.toNat ≤ b.toNat := UInt32.le_iff_toNat_le
  simp only [digit?, hle, Char.isDigit_iff_toNat, Char.reduceToNat]
  split_ifs <;> simp_all
  omega

theorem valueFrom_ten {digits : List Char} (h : ∀ c ∈ digits, c.isDigit) (n : Nat) :
    valueFrom 10 n digits = Nat.ofDigitChars 10 digits n := by
  induction digits generalizing n with
  | nil => rfl
  | cons c digits ih =>
    obtain ⟨hc, hdigits⟩ := List.forall_mem_cons.mp h
    rw [Nat.ofDigitChars_cons, ← ih hdigits, valueFrom, List.foldl_cons, digit?_ten, if_pos hc]
    rfl

theorem spells_ten_iff {text : List Char} {n : Nat} :
    Spells 10 text n ↔ ∃ digits, (text = digits ∨ text = '+' :: digits) ∧ digits ≠ [] ∧
      (∀ c ∈ digits, c.isDigit) ∧ Nat.ofDigitChars 10 digits 0 = n := by
  have hdigit (c : Char) : (digit? 10 c).isSome ↔ c.isDigit := by
    rw [digit?_ten]
    split <;> simp [*]
  simp only [Spells, hdigit]
  refine exists_congr fun digits ↦ and_congr_right fun _ ↦ and_congr_right fun _ ↦
    and_congr_right fun hdigits ↦ ?_
  rw [valueFrom_ten hdigits]

/-- The usual digits of a number spell it, behind any number of zeros. -/
theorem spells_toDigits (zeros n : Nat) :
    Spells 10 (List.replicate zeros '0' ++ Nat.toDigits 10 n) n := by
  have hne : List.replicate zeros '0' ++ Nat.toDigits 10 n ≠ [] :=
    List.append_ne_nil_of_right_ne_nil _ Nat.toDigits_ne_nil
  refine spells_ten_iff.mpr ⟨_, .inl rfl, hne, ?_, ?_⟩
  · intro c hc
    rcases List.mem_append.mp hc with hzero | hdigit
    · rw [List.eq_of_mem_replicate hzero]
      rfl
    · exact Nat.isDigit_of_mem_toDigits (by decide) (by decide) hdigit
  · rw [Nat.ofDigitChars_append, Nat.ofDigitChars_replicate_zero, Nat.mul_zero,
      Nat.ofDigitChars_ten_toDigits]

end ChainParams.Text.Numeral
