import ChainParams.Error
import ChainParams.Proofs.Text.Marked

/-!
# Magics as texts

A magic is read from every text that spells its number, in hexadecimal or in decimal, and from no
other. Its own text is one of them, so that no two magics are written alike.
-/

namespace ChainParams.Magic

open Text

/-- The text spells the number, in hexadecimal after a mark in either case. -/
def Spells (text : String) (n : Nat) : Prop :=
  Numeral.SpellsMarked ['x', 'X'] text.toList n

theorem readNumeral_eq_ok_iff {text : List Char} {n : Nat} :
    readNumeral text = .ok n ↔ Numeral.SpellsMarked ['x', 'X'] text n ∧ n < 4294967296 := by
  fun_cases readNumeral text with
  | case1 digits =>
    rw [Numeral.read_eq_ok_iff (by decide) (by decide),
      Numeral.spellsMarked_mark_iff (by decide) (by decide)]
  | case2 digits =>
    rw [Numeral.read_eq_ok_iff (by decide) (by decide),
      Numeral.spellsMarked_mark_iff (by decide) (by decide)]
  | case3 text hx hX =>
    have hplain : ∀ mark ∈ ['x', 'X'], ∀ numeral, text ≠ '0' :: mark :: numeral := by
      simpa using ⟨hx, hX⟩
    rw [Numeral.read_eq_ok_iff (by decide) (by decide), Numeral.spellsMarked_plain_iff hplain]

theorem parse_eq_ok_iff {text : String} {magic : Magic} :
    parse text = .ok magic ↔ Spells text magic.value.toNat := by
  constructor
  · intro h
    unfold parse at h
    split at h
    · next n hread =>
      cases h
      obtain ⟨hspells, hlt⟩ := readNumeral_eq_ok_iff.mp hread
      rwa [Spells, UInt32.toNat_ofNat_of_lt' hlt]
    · cases h
  · intro h
    rw [parse, readNumeral_eq_ok_iff.mpr ⟨h, magic.value.toNat_lt⟩]
    simp only [UInt32.ofNat_toNat]

theorem toNat_ofNat {n : Nat} (h : n < 4294967296) : (mk (UInt32.ofNat n)).value.toNat = n :=
  UInt32.toNat_ofNat_of_lt' h

theorem parse_of_spells {text : String} {n : Nat} (h : Spells text n) (hlt : n < 4294967296) :
    parse text = .ok ⟨UInt32.ofNat n⟩ := by
  apply parse_eq_ok_iff.mpr
  rwa [toNat_ofNat hlt]

theorem exists_parse_iff {text : String} :
    (∃ magic, parse text = .ok magic) ↔ ∃ n < 4294967296, Spells text n := by
  constructor
  · rintro ⟨magic, h⟩
    exact ⟨magic.value.toNat, magic.value.toNat_lt, parse_eq_ok_iff.mp h⟩
  · rintro ⟨n, hlt, h⟩
    exact ⟨_, parse_of_spells h hlt⟩

theorem text_of_parse_eq_error {text : String} {fault : Fault} (h : parse text = .error fault) :
    fault.text = text := by
  unfold parse at h
  split at h
  · cases h
  · cases h
    rfl

/-- A text is refused, with an error that names it, exactly if it spells no number that fits. -/
theorem exists_parse_error_iff {text : String} :
    (∃ fault, parse text = .error fault ∧ fault.text = text) ↔
      ∀ n < 4294967296, ¬Spells text n := by
  constructor
  · rintro ⟨fault, h, -⟩ n hlt hspells
    rw [parse_of_spells hspells hlt] at h
    cases h
  · intro h
    cases hparse : parse text with
    | error fault => exact ⟨fault, rfl, text_of_parse_eq_error hparse⟩
    | ok magic => exact absurd (parse_eq_ok_iff.mp hparse) (h _ magic.value.toNat_lt)

/-! ## Written magics -/

/-- The digits of the text. -/
def digits (magic : Magic) : List Char :=
  Hex.encodeChars (Word.bigEndian magic.value)

theorem toList_text (magic : Magic) : magic.text.toList = '0' :: 'x' :: magic.digits := by
  simp only [text, Hex.encode, String.toList_append, String.toList_ofList]
  rfl

theorem number_digits (magic : Magic) : Hex.number magic.digits = magic.value.toNat := by
  rw [digits, (Hex.spells_encodeChars _).number_eq, Word.ofBigEndian_bigEndian]

theorem parse_text (magic : Magic) : parse magic.text = .ok magic := by
  have hdigits := (Hex.spells_encodeChars (Word.bigEndian magic.value)).forall_mem
  apply parse_eq_ok_iff.mpr
  rw [Spells, toList_text, ← number_digits]
  exact .hexadecimal (by decide) (.inl rfl) (List.cons_ne_nil _ _) hdigits

theorem parse_repr (magic : Magic) : parse (Nat.repr magic.value.toNat) = .ok magic :=
  parse_eq_ok_iff.mpr (Numeral.spellsMarked_repr _)

theorem text_injective : Function.Injective text := by
  intro magic other h
  have hparse := parse_text magic
  rw [h, parse_text other] at hparse
  cases hparse
  rfl

/-- A text is read as a magic exactly if it spells its number: in hexadecimal after a zero and a
mark in either case, or else in decimal, with a plus sign or not and with any number of zeros before
it. A text that spells no number below `2 ^ 32` is an invalid network. A magic is read from its own
text and from its number in decimal, and no other magic has its text. -/
theorem parse_numerals :
    (∀ text magic, parse text = .ok magic ↔ Spells text magic.value.toNat) ∧
    (∀ text, (∃ magic, parse text = .ok magic) ↔ ∃ n < 4294967296, Spells text n) ∧
    (∀ text n m, Spells text n → Spells text m → n = m) ∧
    (∀ text, (∃ fault, parse text = .error fault ∧ fault.text = text) ↔
      ∀ n < 4294967296, ¬Spells text n) ∧
    (∀ fault, (Error.magic fault).kind = .invalidNetwork) ∧
    (∀ magic : Magic, parse magic.text = .ok magic ∧
      parse (Nat.repr magic.value.toNat) = .ok magic) ∧
    ∀ magic other : Magic, magic ≠ other → magic.text ≠ other.text := by
  refine ⟨fun _ _ ↦ parse_eq_ok_iff, fun _ ↦ exists_parse_iff, ?_, fun _ ↦ exists_parse_error_iff,
    fun _ ↦ rfl, fun magic ↦ ⟨magic.parse_text, magic.parse_repr⟩,
    fun _ _ hne ↦ text_injective.ne hne⟩
  intro text n m h hother
  exact h.unique (List.forall_iff_forall_mem.mp (by decide)) hother

/-- A number with zeros before it in both radices, the first number that is too large, and a mark
without digits. -/
theorem parse_numerals_leadingZeros :
    parse "0X+00E9fdC490" = .ok ⟨0xe9fdc490⟩ ∧
    parse "+003925722256" = .ok ⟨0xe9fdc490⟩ ∧
    (∃ fault, parse "4294967296" = .error fault ∧ fault.text = "4294967296") ∧
    (∃ fault, parse "0x" = .error fault ∧ fault.text = "0x") ∧
    (⟨0xe9fdc490⟩ : Magic).text ≠ (⟨0x0e9fdc49⟩ : Magic).text := by
  obtain ⟨hread, -, hunique, hrefused, -, -, htext⟩ := parse_numerals
  have hmarked : Spells "0X+00E9fdC490" 3925722256 :=
    .hexadecimal (by decide) (.inr rfl) (List.cons_ne_nil _ _)
      (List.forall_iff_forall_mem.mp (by decide))
  have hplain : Spells "+003925722256" 3925722256 :=
    .decimal (.inr rfl) (List.cons_ne_nil _ _)
      (List.forall_iff_forall_mem.mp (by decide))
  have hlarge : Spells "4294967296" 4294967296 :=
    .decimal (.inl rfl) (List.cons_ne_nil _ _)
      (List.forall_iff_forall_mem.mp (by decide))
  have hnone (n : Nat) : ¬Spells "0x" n := by
    intro h
    obtain ⟨digits, hsign | hsign, hne, -⟩ :=
      Numeral.spells_sixteen_iff.mp ((Numeral.spellsMarked_mark_iff (by decide) (by decide)).mp h)
    · exact hne hsign.symm
    · cases hsign
  refine ⟨(hread _ _).mpr hmarked, (hread _ _).mpr hplain, ?_, ?_, htext _ _ (by decide)⟩
  · apply (hrefused _).mpr
    intro n hlt hspells
    cases hunique _ _ _ hspells hlarge
    exact Nat.lt_irrefl _ hlt
  · exact (hrefused _).mpr fun n _ ↦ hnone n

end ChainParams.Magic
