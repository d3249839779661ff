import ChainParams.Proofs.Text.Digits
import ChainParams.Proofs.Text.Numeral

/-!
# Numerals in two radices

Some numbers can be given in hexadecimal, which a zero and a mark before the digits tell, or else in
decimal. As long as no mark is a digit, a text spells one number at most.
-/

namespace ChainParams.Text.Numeral

/-! ## Hexadecimal numerals -/

theorem digit?_sixteen_of_mem {c : Char} (h : c ∈ Hex.digits) :
    digit? 16 c = some (Hex.digitValue c) := by
  have hall : Hex.digits.Forall fun c ↦ digit? 16 c = some (Hex.digitValue c) := by decide
  exact List.forall_iff_forall_mem.mp hall c h

theorem lt_of_digit? {radix : Nat} {c : Char} (h : (digit? radix c).isSome) : c.toNat < 128 := by
  by_contra hlarge
  have above (last : Char) (hlast : last.toNat < 128) : ¬c ≤ last :=
    fun hle ↦ hlarge ((UInt32.le_iff_toNat_le.mp hle).trans_lt hlast)
  have hnone : digit? radix c = none := by
    simp only [digit?, above '9' (by decide), above 'z' (by decide), above 'Z' (by decide),
      and_false, if_false, Nat.lt_irrefl]
  rw [hnone] at h
  cases h

theorem isSome_digit?_sixteen_iff {c : Char} : (digit? 16 c).isSome ↔ c ∈ Hex.digits := by
  constructor
  · intro h
    have hall : ∀ n < 128, (digit? 16 (Char.ofNat n)).isSome → Char.ofNat n ∈ Hex.digits := by
      decide +kernel
    have hc := hall c.toNat (lt_of_digit? h)
    rw [Char.ofNat_toNat] at hc
    exact hc h
  · intro h
    rw [digit?_sixteen_of_mem h]
    rfl

theorem valueFrom_sixteen {digits : List Char} (h : ∀ c ∈ digits, c ∈ Hex.digits) (n : Nat) :
    valueFrom 16 n digits = 16 ^ digits.length * n + Hex.number digits := by
  induction digits generalizing n with
  | nil => simp [valueFrom, Hex.number]
  | cons c digits ih =>
    obtain ⟨hc, hdigits⟩ := List.forall_mem_cons.mp h
    calc
      valueFrom 16 n (c :: digits) = valueFrom 16 (16 * n + Hex.digitValue c) digits := by
        rw [valueFrom, List.foldl_cons, digit?_sixteen_of_mem hc, Option.getD_some, valueFrom]
      _ = 16 ^ (digits.length + 1) * n +
          (16 ^ digits.length * Hex.digitValue c + Hex.number digits) := by
        rw [ih hdigits]
        ring
      _ = _ := by rw [Hex.number_cons, List.length_cons]

theorem spells_sixteen_iff {text : List Char} {n : Nat} :
    Spells 16 text n ↔ ∃ digits, (text = digits ∨ text = '+' :: digits) ∧ digits ≠ [] ∧
      (∀ c ∈ digits, c ∈ Hex.digits) ∧ Hex.number digits = n := by
  simp only [Spells, isSome_digit?_sixteen_iff]
  refine exists_congr fun digits ↦ and_congr_right fun _ ↦ and_congr_right fun _ ↦
    and_congr_right fun hdigits ↦ ?_
  rw [valueFrom_sixteen hdigits, Nat.mul_zero, Nat.zero_add]

/-! ## Marks -/

/-- A text spells the number of its hexadecimal digits after a zero and a mark, or that of its
decimal digits. A plus sign may stand before the digits, and any number of them may be zeros. -/
inductive SpellsMarked (marks : List Char) : List Char → Nat → Prop
  | hexadecimal {mark : Char} {numeral digits : List Char} (hmark : mark ∈ marks)
      (hsign : numeral = digits ∨ numeral = '+' :: digits) (hne : digits ≠ [])
      (hdigits : ∀ c ∈ digits, c ∈ Hex.digits) :
      SpellsMarked marks ('0' :: mark :: numeral) (Hex.number digits)
  | decimal {numeral digits : List Char} (hsign : numeral = digits ∨ numeral = '+' :: digits)
      (hne : digits ≠ []) (hdigits : ∀ c ∈ digits, c.isDigit) :
      SpellsMarked marks numeral (Nat.ofDigitChars 10 digits 0)

variable {marks : List Char} {n : Nat}

theorem spellsMarked_of_spells {numeral : List Char} (h : Spells 10 numeral n) :
    SpellsMarked marks numeral n := by
  obtain ⟨digits, hsign, hne, hdigits, rfl⟩ := spells_ten_iff.mp h
  exact .decimal hsign hne hdigits

theorem spellsMarked_mark_iff {mark : Char} (hmark : mark ∈ marks) (hdigit : ¬mark.isDigit)
    {numeral : List Char} :
    SpellsMarked marks ('0' :: mark :: numeral) n ↔ Spells 16 numeral n := by
  rw [spells_sixteen_iff]
  constructor
  · intro h
    cases h with
    | hexadecimal _ hsign hne hdigits => exact ⟨_, hsign, hne, hdigits, rfl⟩
    | decimal hsign _ hdigits =>
      rcases hsign with rfl | hplus
      · exact absurd (hdigits mark (by simp)) hdigit
      · cases hplus
  · rintro ⟨digits, hsign, hne, hdigits, rfl⟩
    exact .hexadecimal hmark hsign hne hdigits

theorem spellsMarked_plain_iff {text : List Char}
    (h : ∀ mark ∈ marks, ∀ numeral, text ≠ '0' :: mark :: numeral) :
    SpellsMarked marks text n ↔ Spells 10 text n := by
  constructor
  · intro hspells
    cases hspells with
    | hexadecimal hmark => exact absurd rfl (h _ hmark _)
    | decimal hsign hne hdigits => exact spells_ten_iff.mpr ⟨_, hsign, hne, hdigits, rfl⟩
  · exact spellsMarked_of_spells

/-- A text spells one number at most. -/
theorem SpellsMarked.unique {text : List Char} {m : Nat} (hmarks : ∀ mark ∈ marks, ¬mark.isDigit)
    (h : SpellsMarked marks text n) (hother : SpellsMarked marks text m) : n = m := by
  by_cases hmarked : ∃ mark ∈ marks, ∃ numeral, text = '0' :: mark :: numeral
  · obtain ⟨mark, hmark, numeral, rfl⟩ := hmarked
    rw [spellsMarked_mark_iff hmark (hmarks mark hmark)] at h hother
    exact h.unique (by decide) hother
  · push Not at hmarked
    rw [spellsMarked_plain_iff hmarked] at h hother
    exact h.unique (by decide) hother

/-- The usual decimal digits of a number spell it. -/
theorem spellsMarked_repr (n : Nat) : SpellsMarked marks (Nat.repr n).toList n := by
  apply spellsMarked_of_spells
  rw [Nat.toList_repr]
  exact spells_toDigits 0 n

end ChainParams.Text.Numeral
