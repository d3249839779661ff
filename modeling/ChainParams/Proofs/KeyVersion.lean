import ChainParams.Error
import ChainParams.Proofs.Definition.Form
import ChainParams.Proofs.Text.Digits

/-!
# Forms of key versions

A key version can be given as eight digits, as four bytes and as a text in a definition, and stands
for a number. All of these tell the same version, and versions are ordered as their numbers are.
-/

namespace ChainParams.KeyVersion

open Text
open Definition (Form)

theorem bytes_inj {version other : KeyVersion} : version.bytes = other.bytes ↔ version = other := by
  cases version
  cases other
  exact (mk.injEq ..).symm.to_iff

/-! ## Bytes -/

theorem ofBytes_eq_ok_iff {bytes : List UInt8} {version : KeyVersion} :
    ofBytes bytes = .ok version ↔ version.bytes = bytes := by
  constructor
  · intro h
    unfold ofBytes at h
    split at h
    · cases h
      rfl
    · cases h
  · rintro rfl
    exact dif_pos version.length_bytes

theorem exists_ofBytes_iff {bytes : List UInt8} :
    (∃ version, ofBytes bytes = .ok version) ↔ bytes.length = 4 := by
  simp only [ofBytes_eq_ok_iff]
  constructor
  · rintro ⟨version, rfl⟩
    exact version.length_bytes
  · intro h
    exact ⟨⟨bytes, h⟩, rfl⟩

theorem ofBytes_eq_error_iff {bytes : List UInt8} {fault : Fault} :
    ofBytes bytes = .error fault ↔ bytes.length ≠ 4 ∧ fault = .badLength bytes.length := by
  rw [ofBytes]
  split <;> simp [*, eq_comm]

/-! ## Texts -/

/-- Why a text is refused. -/
inductive Refuses (text : String) : Fault → Prop
  | oddLength (h : (Utf8.bytes text).length % 2 = 1) : Refuses text (.badDigits text .oddLength)
  | badDigit {byte : UInt8} {position : Nat} (heven : (Utf8.bytes text).length % 2 = 0)
      (hbad : Hex.IsFirstBad (Utf8.bytes text) byte position) :
      Refuses text (.badDigits text (.badDigit byte position))
  /-- The digits stand for more or fewer than four bytes. -/
  | badLength {bytes : List UInt8} (hspells : Hex.Spells text.toList bytes)
      (hlength : bytes.length ≠ 4) : Refuses text (.badLength bytes.length)

theorem ofHex_of_decode {text : String} {bytes : List UInt8} (h : Hex.decode text = .ok bytes) :
    ofHex text = ofBytes bytes := by
  rw [ofHex, h]

theorem ofHex_eq_ok_iff {text : String} {version : KeyVersion} :
    ofHex text = .ok version ↔ Hex.Spells text.toList version.bytes := by
  rw [← Hex.decode_eq_ok_iff]
  cases hdecode : Hex.decode text with
  | error cause => simp [ofHex, hdecode]
  | ok bytes => rw [ofHex_of_decode hdecode, ofBytes_eq_ok_iff, Except.ok.injEq, eq_comm]

/-- The digits are judged first, and of a text of digits their number. -/
theorem refuses_iff {text : String} {fault : Fault} :
    Refuses text fault ↔
      (∃ cause, Hex.decode text = .error cause ∧ fault = .badDigits text cause) ∨
        ∃ bytes, Hex.decode text = .ok bytes ∧ bytes.length ≠ 4 ∧
          fault = .badLength bytes.length := by
  constructor
  · intro h
    cases h with
    | oddLength hodd => exact .inl ⟨_, Hex.decode_eq_error_iff.mpr (.inl ⟨hodd, rfl⟩), rfl⟩
    | badDigit heven hbad =>
      exact .inl ⟨_, Hex.decode_eq_error_iff.mpr (.inr ⟨heven, _, _, hbad, rfl⟩), rfl⟩
    | badLength hspells hlength => exact .inr ⟨_, Hex.decode_of_spells hspells, hlength, rfl⟩
  · rintro (⟨cause, hcause, rfl⟩ | ⟨bytes, hbytes, hlength, rfl⟩)
    · rcases Hex.decode_eq_error_iff.mp hcause with ⟨hodd, rfl⟩ | ⟨heven, _, _, hbad, rfl⟩
      · exact .oddLength hodd
      · exact .badDigit heven hbad
    · exact .badLength (Hex.decode_eq_ok_iff.mp hbytes) hlength

theorem ofHex_eq_error_iff {text : String} {fault : Fault} :
    ofHex text = .error fault ↔ Refuses text fault := by
  rw [refuses_iff]
  cases hdecode : Hex.decode text with
  | error cause => simp [ofHex, hdecode, eq_comm]
  | ok bytes => simp [ofHex_of_decode hdecode, ofBytes_eq_error_iff]

theorem toHex_of_ofHex {text : String} {version : KeyVersion} (h : ofHex text = .ok version) :
    version.toHex = text.toLower := by
  rw [ofHex_eq_ok_iff, ← Hex.decode_eq_ok_iff] at h
  exact Hex.encode_of_decode h

/-! ## Numbers -/

theorem toNat_lt (version : KeyVersion) : version.toNat < 4294967296 := by
  have h := Word.ofBigEndian_lt version.bytes
  rwa [version.length_bytes] at h

theorem length_bytes_eq (version other : KeyVersion) :
    version.bytes.length = other.bytes.length := by
  rw [version.length_bytes, other.length_bytes]

theorem lt_iff_toNat_lt {version other : KeyVersion} :
    version < other ↔ version.toNat < other.toNat :=
  Word.lt_iff_ofBigEndian_lt (version.length_bytes_eq other)

theorem toNat_inj {version other : KeyVersion} (h : version.toNat = other.toNat) :
    version = other :=
  bytes_inj.mp (Word.ofBigEndian_inj (version.length_bytes_eq other) h)

theorem le_iff_toNat_le {version other : KeyVersion} :
    version ≤ other ↔ version.toNat ≤ other.toNat := by
  rw [← Nat.not_lt, ← lt_iff_toNat_lt]
  exact List.not_lt.symm

/-- The digits of a text spell the number that its version stands for. -/
theorem toNat_of_ofHex {text : String} {version : KeyVersion} (h : ofHex text = .ok version) :
    version.toNat = Hex.number text.toList :=
  (ofHex_eq_ok_iff.mp h).number_eq.symm

/-! ## All forms -/

theorem read_text {version : KeyVersion} {text : String}
    (h : text = (Form.keyVersion.write version).compact ∨
      text = (Form.keyVersion.write version).pretty) :
    ∃ value, Json.parse text = .ok value ∧ Form.keyVersion.read value = .ok version := by
  have hkeeps := Form.keeps_keyVersion Json.maxDepth version
  refine ⟨(Form.keyVersion.write version).sorted, ?_, hkeeps.read⟩
  rcases h with rfl | rfl
  · exact Json.parse_compact hkeeps.fits
  · exact Json.parse_pretty hkeeps.fits

/-- A text is read as a version exactly if it consists of eight digits, and bytes are exactly if
there are four of them; what is refused has an error of key versions. The version has the bytes that
were given, or those that the pairs of digits stand for, and is written as the text in lower case. A
version comes back from its text, from its bytes and from its definition. It stands for the number
that its digits spell; versions are ordered by these numbers, which no two of them share. -/
theorem forms_agree :
    (∀ text, (∃ version, ofHex text = .ok version) ↔ IsText text) ∧
    (∀ text version, ofHex text = .ok version →
      version.toHex = text.toLower ∧ version.toNat = Hex.number text.toList ∧
        ∀ i < 4, ∃ byte, version.bytes[i]? = some byte ∧ Hex.IsPairAt text.toList i byte) ∧
    (∀ text fault, ofHex text = .error fault ↔ Refuses text fault) ∧
    (∀ bytes, (∃ version, ofBytes bytes = .ok version) ↔ bytes.length = 4) ∧
    (∀ bytes version, ofBytes bytes = .ok version ↔ version.bytes = bytes) ∧
    (∀ bytes fault, ofBytes bytes = .error fault ↔
      bytes.length ≠ 4 ∧ fault = .badLength bytes.length) ∧
    (∀ fault : Fault, (Error.keyVersion fault).kind = .invalidKeyVersion) ∧
    (∀ version : KeyVersion, ofHex version.toHex = .ok version ∧
      ofBytes version.bytes = .ok version ∧
      ∀ text, text = (Form.keyVersion.write version).compact ∨
          text = (Form.keyVersion.write version).pretty →
        ∃ value, Json.parse text = .ok value ∧ Form.keyVersion.read value = .ok version) ∧
    (∀ version : KeyVersion, version.toNat < 4294967296) ∧
    (∀ version other : KeyVersion, (version < other ↔ version.toNat < other.toNat) ∧
      (version ≤ other ↔ version.toNat ≤ other.toNat)) ∧
    ∀ version other : KeyVersion, version.toNat = other.toNat → version = other := by
  refine ⟨fun _ ↦ exists_ofHex_iff, ?_, fun _ _ ↦ ofHex_eq_error_iff,
    fun _ ↦ exists_ofBytes_iff, fun _ _ ↦ ofBytes_eq_ok_iff, fun _ _ ↦ ofBytes_eq_error_iff,
    fun _ ↦ rfl, ?_, toNat_lt, fun _ _ ↦ ⟨lt_iff_toNat_lt, le_iff_toNat_le⟩, fun _ _ ↦ toNat_inj⟩
  · intro text version h
    refine ⟨toHex_of_ofHex h, toNat_of_ofHex h, ?_⟩
    intro i hi
    rw [← version.length_bytes] at hi
    exact (ofHex_eq_ok_iff.mp h).exists_pair hi
  · intro version
    exact ⟨version.ofHex_toHex, ofBytes_eq_ok_iff.mpr rfl, fun _ ↦ read_text⟩

/-- A text of capital letters and digits, one of three bytes, and one whose first byte beyond the
digits stands in the middle of a character. -/
theorem forms_agree_capitalText :
    ((ofWord 0xff805837).toHex = "FF805837".toLower ∧
      (ofWord 0xff805837).toNat = Hex.number "FF805837".toList) ∧
    ofHex "ff8058" = .error (.badLength 3) ∧
    ofHex "ff80é" = .error (.badDigits "ff80é" (.badDigit 0xC3 4)) ∧
    ofBytes [0xff, 0x80, 0x58] = .error (.badLength 3) ∧
    ofWord 0x3a805837 < ofWord 0xff805837 := by
  obtain ⟨-, hread, hrefuses, -, -, hbytes, -, -, -, horder, -⟩ := forms_agree
  have hcapital : ofHex "FF805837" = .ok (ofWord 0xff805837) := rfl
  obtain ⟨htext, hnumber, -⟩ := hread _ _ hcapital
  have hshort : Hex.Spells "ff8058".toList [0xff, 0x80, 0x58] := Hex.decode_eq_ok_iff.mp rfl
  have hbad : Hex.IsFirstBad (Utf8.bytes "ff80é") 0xC3 4 :=
    ⟨(Utf8.bytes "ff80é").take 4, [0xA9], rfl, rfl,
      List.forall_iff_forall_mem.mp (by decide), by decide⟩
  refine ⟨⟨htext, hnumber⟩, ?_, ?_, ?_, ?_⟩
  · exact (hrefuses _ _).mpr (.badLength hshort (by decide))
  · exact (hrefuses _ _).mpr (.badDigit rfl hbad)
  · exact (hbytes _ _).mpr ⟨by decide, rfl⟩
  · exact (horder _ _).1.mpr (by decide)

end ChainParams.KeyVersion
