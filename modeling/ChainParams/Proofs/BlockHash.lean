import ChainParams.Error
import ChainParams.Proofs.Definition.Form
import ChainParams.Proofs.Text.Digits
import ChainParams.StandardNetwork

/-!
# Block hashes as texts

A text of 64 bytes that are all digits is read as a hash, whose bytes are its pairs of digits in
reverse, and the hash is written as the text in lower case. Any other text is refused for its
length, or for its first byte that is no digit if the length is right. Texts in definitions are read
in the same way.
-/

namespace ChainParams.BlockHash

open Text
open Definition (Form)

theorem length_reverse_bytes (hash : BlockHash) : hash.bytes.reverse.length = 32 := by
  rw [List.length_reverse, hash.length_bytes]

theorem ofHex_eq_ok_iff {text : String} {hash : BlockHash} :
    ofHex text = .ok hash ↔ Hex.Spells text.toList hash.bytes.reverse := by
  rw [← Hex.decode_eq_ok_iff]
  constructor
  · intro h
    unfold ofHex at h
    split at h
    · split at h
      · next bytes hdecode =>
        cases h
        change Hex.decode text = .ok bytes.reverse.reverse
        rwa [List.reverse_reverse]
      · cases h
    · cases h
  · intro h
    have hlength : (Utf8.bytes text).length = 64 := by
      rw [← Hex.length_of_decode h, hash.length_reverse_bytes]
    rw [ofHex, dif_pos hlength]
    split
    · next bytes hbytes =>
      rw [h] at hbytes
      cases hbytes
      simp only [List.reverse_reverse]
    · next cause hcause =>
      rw [h] at hcause
      cases hcause

theorem ofHex_of_length {text : String} (h : (Utf8.bytes text).length = 64) {fault : Fault} :
    ofHex text = .error fault ↔
      ∃ cause, Hex.decode text = .error cause ∧ fault = .badDigits text cause := by
  rw [ofHex, dif_pos h]
  split
  · next hdecode => simp [hdecode]
  · next hdecode => simp [hdecode, eq_comm]

/-- The length is judged first, and of a text with the right length its first byte that is no
digit is reported. -/
theorem ofHex_eq_error_iff {text : String} {fault : Fault} :
    ofHex text = .error fault ↔
      ((Utf8.bytes text).length ≠ 64 ∧ fault = .badLength (Utf8.bytes text).length) ∨
        ((Utf8.bytes text).length = 64 ∧ ∃ byte position,
          Hex.IsFirstBad (Utf8.bytes text) byte position ∧
            fault = .badDigits text (.badDigit byte position)) := by
  by_cases hlength : (Utf8.bytes text).length = 64
  · rw [ofHex_of_length hlength]
    simp [Hex.decode_eq_error_iff, hlength]
  · rw [ofHex, dif_neg hlength]
    simp [hlength, eq_comm]

theorem exists_ofHex_iff_codes {text : String} :
    (∃ hash, ofHex text = .ok hash) ↔
      (Utf8.bytes text).length = 64 ∧ ∀ byte ∈ Utf8.bytes text, byte ∈ Hex.digitCodes := by
  rw [exists_ofHex_iff, IsText, Hex.forall_mem_digitCodes_iff]
  apply and_congr_left
  intro hdigits
  rw [Hex.length_bytes_of_digits hdigits]

theorem toHex_of_ofHex {text : String} {hash : BlockHash} (h : ofHex text = .ok hash) :
    hash.toHex = text.toLower := by
  rw [ofHex_eq_ok_iff, ← Hex.decode_eq_ok_iff] at h
  exact Hex.encode_of_decode h

/-- The last pair of digits is the first byte. -/
theorem exists_pair_of_ofHex {text : String} {hash : BlockHash} (h : ofHex text = .ok hash)
    {i : Nat} (hi : i < 32) :
    ∃ byte, hash.bytes[i]? = some byte ∧ Hex.IsPairAt text.toList (31 - i) byte := by
  have hplace : 31 - i < hash.bytes.reverse.length := by
    rw [hash.length_reverse_bytes]
    omega
  obtain ⟨byte, hbyte, hpair⟩ := (ofHex_eq_ok_iff.mp h).exists_pair hplace
  have hindex : hash.bytes.length - 1 - (31 - i) = i := by
    rw [hash.length_bytes]
    omega
  rw [List.length_reverse] at hplace
  rw [List.getElem?_reverse hplace, hindex] at hbyte
  exact ⟨byte, hbyte, hpair⟩

/-- A text is read as a hash exactly if it has 64 bytes that are all digits. The hash has the pairs
of digits as its bytes, from the last pair to the first, and is written as the text in lower case.
Any other text is refused for its length if that is wrong, and otherwise for its first byte that is
no digit. Every hash is read from its own text, and a definition has a hash wherever it has a text
that is read as one. -/
theorem ofHex_pairs (text : String) :
    ((∃ hash, ofHex text = .ok hash) ↔
      (Utf8.bytes text).length = 64 ∧ ∀ byte ∈ Utf8.bytes text, byte ∈ Hex.digitCodes) ∧
    (∀ hash, ofHex text = .ok hash → hash.toHex = text.toLower ∧
      ∀ i < 32, ∃ byte, hash.bytes[i]? = some byte ∧ Hex.IsPairAt text.toList (31 - i) byte) ∧
    (∀ fault, ofHex text = .error fault ↔
      ((Utf8.bytes text).length ≠ 64 ∧ fault = .badLength (Utf8.bytes text).length) ∨
        ((Utf8.bytes text).length = 64 ∧ ∃ byte position,
          Hex.IsFirstBad (Utf8.bytes text) byte position ∧
            fault = .badDigits text (.badDigit byte position))) ∧
    (∀ fault, ofHex text = .error fault → (Error.blockHash fault).kind = .invalidHash) ∧
    (∀ hash : BlockHash, ofHex hash.toHex = .ok hash) ∧
    Json.parse (Json.str text).compact = .ok (.str text) ∧
    Form.hash.read (.str text) = (ofHex text).mapError .badHash ∧
    ∀ value hash, Form.hash.read value = .ok hash ↔
      ∃ s, value = .str s ∧ ofHex s = .ok hash := by
  refine ⟨exists_ofHex_iff_codes, ?_, fun _ ↦ ofHex_eq_error_iff, fun _ _ ↦ rfl, ofHex_toHex,
    Json.parse_compact trivial, rfl, ?_⟩
  · intro hash hhash
    exact ⟨toHex_of_ofHex hhash, fun _ ↦ exists_pair_of_ofHex hhash⟩
  · intro value hash
    rw [Form.hash, Form.read_refine_string_eq_ok_iff]
    simp only [mapError_eq_ok_iff]

/-- The hash of the main genesis block in capital letters. -/
def capitalText : String :=
  "0000000069E244F73D78E8FD29BA2FD2ED618BD6FA2EE92559F542FDB26E7C1D"

/-- Characters fewer than 64, of which the last one takes two bytes. -/
def accentedText : String :=
  "0000000069e244f73d78e8fd29ba2fd2ed618bd6fa2ee92559f542fdb26e7cé"

theorem ofHex_pairs_accentedText :
    (StandardNetwork.mainGenesis.toHex = capitalText.toLower ∧
      ∃ byte, StandardNetwork.mainGenesis.bytes[0]? = some byte ∧
        Hex.IsPairAt capitalText.toList 31 byte) ∧
    ofHex accentedText = .error (.badDigits accentedText (.badDigit 0xC3 62)) ∧
    (Error.blockHash (.badDigits accentedText (.badDigit 0xC3 62))).kind = .invalidHash := by
  obtain ⟨-, hread, -⟩ := ofHex_pairs capitalText
  obtain ⟨-, -, hfault, hkind, -⟩ := ofHex_pairs accentedText
  have hcapital : ofHex capitalText = .ok StandardNetwork.mainGenesis := rfl
  have hbad : Hex.IsFirstBad (Utf8.bytes accentedText) 0xC3 62 :=
    ⟨(Utf8.bytes accentedText).take 62, [0xA9], rfl, rfl,
      List.forall_iff_forall_mem.mp (by decide), by decide⟩
  have haccented := (hfault _).mpr (.inr ⟨rfl, _, _, hbad, rfl⟩)
  obtain ⟨htext, hbytes⟩ := hread _ hcapital
  exact ⟨⟨htext, hbytes 0 (by decide)⟩, haccented, hkind _ haccented⟩

end ChainParams.BlockHash
