import ChainParams.Proofs.Text.Hex
import ChainParams.Proofs.Word

/-!
# What digits stand for

The value of a digit is its place among the sixteen. A pair of digits stands for a byte and a text
of pairs for the number that its bytes stand for, in whichever case the digits are. A text that
cannot be read has an odd number of bytes or a byte that is no digit, and the first such byte is
reported.
-/

namespace ChainParams.Text.Hex

/-- The place of a digit among those that are written. -/
def digitValue (c : Char) : Nat :=
  lowerDigits.idxOf c.toLower

/-- The number that digits stand for, of which the first counts most. -/
def number (text : List Char) : Nat :=
  Nat.ofDigits 16 (text.map digitValue).reverse

theorem digitValue_lt {c : Char} (h : c ∈ digits) : digitValue c < 16 := by
  have hall : digits.Forall fun c ↦ digitValue c < 16 := by decide
  exact List.forall_iff_forall_mem.mp hall c h

theorem digit_digitValue {c : Char} (h : c ∈ digits) : digit (digitValue c) = c.toLower := by
  have hall : digits.Forall fun c ↦ digit (digitValue c) = c.toLower := by decide
  exact List.forall_iff_forall_mem.mp hall c h

theorem digitValue?_of_mem {c : Char} (h : c ∈ digits) :
    digitValue? (UInt8.ofNat c.toNat) = some (UInt8.ofNat (digitValue c)) := by
  have hall : digits.Forall fun c ↦
      digitValue? (UInt8.ofNat c.toNat) = some (UInt8.ofNat (digitValue c)) := by decide
  exact List.forall_iff_forall_mem.mp hall c h

theorem number_cons (c : Char) (text : List Char) :
    number (c :: text) = 16 ^ text.length * digitValue c + number text := by
  rw [number, number, List.map_cons, Nat.ofDigits_reverse_cons, List.length_map, Nat.add_comm]

/-! ## Pairs of digits -/

/-- The text consists of one pair of digits for each byte, with the digit that counts more first. -/
inductive Spells : List Char → List UInt8 → Prop
  | nil : Spells [] []
  | cons {high low : Char} {byte : UInt8} {text : List Char} {bytes : List UInt8}
      (hhigh : high ∈ digits) (hlow : low ∈ digits)
      (hbyte : byte.toNat = 16 * digitValue high + digitValue low) (hrest : Spells text bytes) :
      Spells (high :: low :: text) (byte :: bytes)

/-- The pair of digits at a place stands for the byte. -/
def IsPairAt (text : List Char) (place : Nat) (byte : UInt8) : Prop :=
  ∃ high low, text[2 * place]? = some high ∧ text[2 * place + 1]? = some low ∧
    byte.toNat = 16 * digitValue high + digitValue low

theorem exists_spells : ∀ {text : List Char}, text.length % 2 = 0 → (∀ c ∈ text, c ∈ digits) →
    ∃ bytes, Spells text bytes
  | [], _, _ => ⟨[], .nil⟩
  | [_], hlength, _ => by cases hlength
  | high :: low :: text, hlength, hdigits => by
    obtain ⟨hhigh, hlow, htext⟩ : high ∈ digits ∧ low ∈ digits ∧ ∀ c ∈ text, c ∈ digits := by
      simpa using hdigits
    have heven : text.length % 2 = 0 := by
      simp only [List.length_cons] at hlength
      omega
    obtain ⟨bytes, hbytes⟩ := exists_spells heven htext
    have hhighValue := digitValue_lt hhigh
    have hlowValue := digitValue_lt hlow
    have hbyte : (UInt8.ofNat (16 * digitValue high + digitValue low)).toNat =
        16 * digitValue high + digitValue low := by
      rw [UInt8.toNat_ofNat']
      omega
    exact ⟨_, .cons hhigh hlow hbyte hbytes⟩

namespace Spells

variable {text : List Char} {bytes : List UInt8}

theorem forall_mem (h : Spells text bytes) : ∀ c ∈ text, c ∈ digits := by
  induction h with
  | nil => exact List.forall_mem_nil _
  | cons hhigh hlow _ _ ih =>
    exact List.forall_mem_cons.mpr ⟨hhigh, List.forall_mem_cons.mpr ⟨hlow, ih⟩⟩

theorem length_eq (h : Spells text bytes) : text.length = 2 * bytes.length := by
  induction h with
  | nil => rfl
  | cons _ _ _ _ ih =>
    simp only [List.length_cons, ih]
    omega

theorem decodePairs_eq (h : Spells text bytes) (position : Nat) :
    decodePairs position (text.map fun c ↦ UInt8.ofNat c.toNat) = .ok bytes := by
  induction h generalizing position with
  | nil => rfl
  | @cons high low byte text bytes hhigh hlow hbyte hrest ih =>
    have hsum : 16 * UInt8.ofNat (digitValue high) + UInt8.ofNat (digitValue low) = byte := by
      apply UInt8.toNat_inj.mp
      have hlt : byte.toNat < 256 := byte.toNat_lt
      simp only [UInt8.toNat_add, UInt8.toNat_mul, UInt8.toNat_ofNat', UInt8.reduceToNat]
      omega
    simp only [List.map_cons, decodePairs, digitAt, digitValue?_of_mem hhigh,
      digitValue?_of_mem hlow, ih, hsum, bind, Except.bind, pure, Except.pure]

/-- The bytes are written as the text in lower case. -/
theorem encodeChars_eq (h : Spells text bytes) : encodeChars bytes = text.map Char.toLower := by
  induction h with
  | nil => rfl
  | @cons high low byte text bytes hhigh hlow hbyte hrest ih =>
    have hlowValue := digitValue_lt hlow
    have hhalves : byte.toNat / 16 = digitValue high ∧ byte.toNat % 16 = digitValue low := by
      omega
    calc
      encodeChars (byte :: bytes) =
          digit (byte.toNat / 16) :: digit (byte.toNat % 16) :: encodeChars bytes := rfl
      _ = high.toLower :: low.toLower :: text.map Char.toLower := by
        rw [hhalves.1, hhalves.2, digit_digitValue hhigh, digit_digitValue hlow, ih]

/-- The text as a whole stands for the same number as the bytes. -/
theorem number_eq (h : Spells text bytes) : number text = Word.ofBigEndian bytes := by
  induction h with
  | nil => rfl
  | @cons high low byte text bytes hhigh hlow hbyte hrest ih =>
    have hplaces : 16 ^ text.length = 256 ^ bytes.length := by
      rw [hrest.length_eq, Nat.pow_mul]
    calc
      number (high :: low :: text) =
          256 ^ bytes.length * (16 * digitValue high + digitValue low) +
            Word.ofBigEndian bytes := by
        rw [number_cons, number_cons, ih, List.length_cons, Nat.pow_succ, hplaces]
        ring
      _ = Word.ofBigEndian (byte :: bytes) := by rw [Word.ofBigEndian_cons, hbyte]

theorem exists_pair (h : Spells text bytes) {place : Nat} (hplace : place < bytes.length) :
    ∃ byte, bytes[place]? = some byte ∧ IsPairAt text place byte := by
  induction h generalizing place with
  | nil => cases hplace
  | @cons high low byte text bytes _ _ hbyte _ ih =>
    cases place with
    | zero => exact ⟨byte, rfl, high, low, rfl, rfl, hbyte⟩
    | succ place => exact ih (Nat.lt_of_succ_lt_succ hplace)

end Spells

theorem decode_of_spells {s : String} {bytes : List UInt8} (h : Spells s.toList bytes) :
    decode s = .ok bytes := by
  have hcodes : Utf8.bytes s = s.toList.map fun c ↦ UInt8.ofNat c.toNat :=
    Utf8.encode_of_ascii fun c hc ↦ lt_of_mem_digits (h.forall_mem c hc)
  have heven : (Utf8.bytes s).length % 2 = 0 := by
    rw [hcodes, List.length_map, h.length_eq]
    omega
  rw [decode, decodeBytes, if_pos heven, hcodes]
  exact h.decodePairs_eq 0

/-- A text is read as the bytes that its pairs of digits stand for. -/
theorem decode_eq_ok_iff {s : String} {bytes : List UInt8} :
    decode s = .ok bytes ↔ Spells s.toList bytes := by
  constructor
  · intro h
    obtain ⟨heven, hdigits⟩ := exists_decode_iff.mp ⟨bytes, h⟩
    rw [← String.length_toList] at heven
    obtain ⟨others, hothers⟩ := exists_spells heven hdigits
    rw [decode_of_spells hothers] at h
    cases h
    exact hothers
  · exact decode_of_spells

/-- Written bytes are pairs of digits. -/
theorem spells_encodeChars (bytes : List UInt8) : Spells (encodeChars bytes) bytes := by
  have h := decode_eq_ok_iff.mp (decode_encode bytes)
  rwa [encode, String.toList_ofList] at h

theorem encode_of_decode {s : String} {bytes : List UInt8} (h : decode s = .ok bytes) :
    encode bytes = s.toLower := by
  apply String.toList_inj.mp
  calc
    (encode bytes).toList = encodeChars bytes := String.toList_ofList
    _ = s.toList.map Char.toLower := (decode_eq_ok_iff.mp h).encodeChars_eq
    _ = s.toLower.toList := String.toList_map.symm

/-! ## Bytes that are no digits -/

/-- The digits as bytes. -/
def digitCodes : List UInt8 :=
  Utf8.encode digits

/-- The byte is the first one that is no digit, and stands at the position. -/
def IsFirstBad (codes : List UInt8) (byte : UInt8) (position : Nat) : Prop :=
  ∃ before rest, codes = before ++ byte :: rest ∧ before.length = position ∧
    (∀ earlier ∈ before, earlier ∈ digitCodes) ∧ byte ∉ digitCodes

theorem mem_digitCodes_iff {b : UInt8} : b ∈ digitCodes ↔ (digitValue? b).isSome := by
  have hall : ∀ n < 256, UInt8.ofNat n ∈ digitCodes ↔ (digitValue? (UInt8.ofNat n)).isSome := by
    decide +kernel
  have hb := hall b.toNat b.toNat_lt
  rwa [UInt8.ofNat_toNat] at hb

theorem forall_mem_digitCodes_iff {s : String} :
    (∀ b ∈ Utf8.bytes s, b ∈ digitCodes) ↔ ∀ c ∈ s.toList, c ∈ digits := by
  simp only [mem_digitCodes_iff, forall_bytes_iff]

theorem not_isFirstBad_nil (byte : UInt8) (position : Nat) : ¬IsFirstBad [] byte position := by
  rintro ⟨before, rest, hcodes, -⟩
  exact List.append_ne_nil_of_right_ne_nil _ (List.cons_ne_nil _ _) hcodes.symm

theorem isFirstBad_cons_of_mem {b : UInt8} (hb : b ∈ digitCodes) {codes : List UInt8}
    {byte : UInt8} {position : Nat} :
    IsFirstBad (b :: codes) byte position ↔
      ∃ place, position = place + 1 ∧ IsFirstBad codes byte place := by
  constructor
  · rintro ⟨before, rest, hcodes, rfl, hbefore, hbyte⟩
    cases before with
    | nil =>
      cases hcodes
      exact absurd hb hbyte
    | cons _ before =>
      cases hcodes
      exact ⟨before.length, rfl, before, rest, rfl, rfl, (List.forall_mem_cons.mp hbefore).2, hbyte⟩
  · rintro ⟨_, rfl, before, rest, rfl, rfl, hbefore, hbyte⟩
    exact ⟨b :: before, rest, rfl, rfl, List.forall_mem_cons.mpr ⟨hb, hbefore⟩, hbyte⟩

theorem isFirstBad_cons_of_not_mem {b : UInt8} (hb : b ∉ digitCodes) {codes : List UInt8}
    {byte : UInt8} {position : Nat} :
    IsFirstBad (b :: codes) byte position ↔ byte = b ∧ position = 0 := by
  constructor
  · rintro ⟨before, rest, hcodes, rfl, hbefore, -⟩
    cases before with
    | nil =>
      cases hcodes
      exact ⟨rfl, rfl⟩
    | cons _ before =>
      cases hcodes
      exact absurd (List.forall_mem_cons.mp hbefore).1 hb
  · rintro ⟨rfl, rfl⟩
    exact ⟨[], codes, rfl, rfl, List.forall_mem_nil _, hb⟩

theorem digitAt_of_not_mem {b : UInt8} (h : b ∉ digitCodes) (position : Nat) :
    digitAt b position = .error (.badDigit b position) := by
  rw [mem_digitCodes_iff, Option.not_isSome_iff_eq_none] at h
  rw [digitAt, h]

theorem exists_digitAt_of_mem {b : UInt8} (h : b ∈ digitCodes) (position : Nat) :
    ∃ v, digitAt b position = .ok v :=
  exists_digitAt_iff.mpr (mem_digitCodes_iff.mp h)

theorem decodePairs_eq_error_iff {position : Nat} {codes : List UInt8} {fault : Fault}
    (h : codes.length % 2 = 0) :
    decodePairs position codes = .error fault ↔
      ∃ byte place, IsFirstBad codes byte place ∧ fault = .badDigit byte (position + place) := by
  fun_induction decodePairs position codes with
  | case1 => simp [not_isFirstBad_nil]
  | case2 => cases h
  | case3 position a b rest ih =>
    have heven : rest.length % 2 = 0 := by
      simp only [List.length_cons] at h
      omega
    by_cases ha : a ∈ digitCodes
    · by_cases hb : b ∈ digitCodes
      · -- Both are digits, so the fault lies in the rest.
        obtain ⟨high, hhigh⟩ := exists_digitAt_of_mem ha position
        obtain ⟨low, hlow⟩ := exists_digitAt_of_mem hb (position + 1)
        have hrest : ((decodePairs (position + 2) rest).bind fun tail ↦
            Except.ok ((16 * high + low) :: tail)) = .error fault ↔
              decodePairs (position + 2) rest = .error fault := by
          cases decodePairs (position + 2) rest <;> simp [Except.bind]
        simp only [hhigh, hlow, bind, pure, Except.bind, Except.pure] at hrest ⊢
        rw [hrest, ih heven]
        simp only [isFirstBad_cons_of_mem ha, isFirstBad_cons_of_mem hb]
        constructor
        · rintro ⟨byte, place, hbad, rfl⟩
          exact ⟨byte, place + 2, ⟨_, rfl, _, rfl, hbad⟩, by congr 1; omega⟩
        · rintro ⟨byte, _, ⟨_, rfl, place, rfl, hbad⟩, rfl⟩
          exact ⟨byte, place, hbad, by congr 1; omega⟩
      · obtain ⟨high, hhigh⟩ := exists_digitAt_of_mem ha position
        simp [hhigh, digitAt_of_not_mem hb, isFirstBad_cons_of_mem ha,
          isFirstBad_cons_of_not_mem hb, bind, Except.bind, eq_comm]
    · simp [digitAt_of_not_mem ha, isFirstBad_cons_of_not_mem ha, bind, Except.bind, eq_comm]

/-- A text cannot be read because of its length or else because of its first byte that is no
digit. -/
theorem decode_eq_error_iff {s : String} {fault : Fault} :
    decode s = .error fault ↔
      ((Utf8.bytes s).length % 2 = 1 ∧ fault = .oddLength) ∨
        ((Utf8.bytes s).length % 2 = 0 ∧ ∃ byte position,
          IsFirstBad (Utf8.bytes s) byte position ∧ fault = .badDigit byte position) := by
  rw [decode, decodeBytes]
  split
  · next heven => simp [heven, decodePairs_eq_error_iff heven]
  · next hodd => simp [Nat.mod_two_ne_zero.mp hodd, eq_comm]

end ChainParams.Text.Hex
