import Mathlib.Tactic
import ChainParams.BlockHash
import ChainParams.KeyVersion
import ChainParams.Proofs.Computation

/-!
# Reading hexadecimal text back

Two digits stand for each byte, so reading what was written gives the bytes again. Hashes and key
versions inherit this: their texts always have the right number of digits. Nothing but pairs of
digits can be read; as the reader goes over bytes, this rests on every character beyond ASCII having
a byte that is no digit.
-/

namespace ChainParams.Text

theorem Utf8.encode_singleton_of_lt {c : Char} (h : c.toNat < 128) :
    String.utf8EncodeChar c = [UInt8.ofNat c.toNat] := by
  have hsize : c.utf8Size = 1 := by
    rw [Char.utf8Size_eq_one_iff, UInt32.le_iff_toNat_le]
    exact Nat.le_of_lt_succ h
  rw [String.utf8EncodeChar_eq_singleton hsize]
  rfl

/-- A text of ASCII characters has one byte for each. -/
theorem Utf8.encode_of_ascii {s : List Char} (h : ∀ c ∈ s, c.toNat < 128) :
    Utf8.encode s = s.map fun c ↦ UInt8.ofNat c.toNat := by
  induction s with
  | nil => rfl
  | cons c s ih =>
    obtain ⟨hc, hs⟩ := List.forall_mem_cons.mp h
    rw [Utf8.encode, List.flatMap_cons, Utf8.encode_singleton_of_lt hc]
    exact congrArg _ (ih hs)

/-- Every longer form ends with a byte from 128 on. -/
theorem Utf8.lt_of_encode_lt {c : Char} (h : ∀ b ∈ String.utf8EncodeChar c, b < 128) :
    c.toNat < 128 := by
  by_contra hc
  have hlong : ¬c.val.toNat ≤ 127 := by
    change ¬c.toNat ≤ 127
    omega
  have hlast : UInt8.ofNat (c.val.toNat % 64 + 128) ∈ String.utf8EncodeChar c := by
    unfold String.utf8EncodeChar
    rw [if_neg hlong]
    split_ifs <;> simp
  have hlt := h _ hlast
  rw [UInt8.lt_iff_toNat_lt, UInt8.toNat_ofNat'] at hlt
  change _ < 128 at hlt
  omega

namespace Hex

theorem digitChar_lt_of_lt {n : Nat} (h : n < 16) : (digit n).toNat < 128 := by
  have hall : ∀ n < 16, (digit n).toNat < 128 := by decide
  exact hall n h

theorem digitValue?_digit {n : Nat} (h : n < 16) :
    digitValue? (UInt8.ofNat (digit n).toNat) = some (UInt8.ofNat n) := by
  have hall : ∀ n < 16, digitValue? (UInt8.ofNat (digit n).toNat) = some (UInt8.ofNat n) := by
    decide
  exact hall n h

theorem lt_of_mem_encodeChars {bytes : List UInt8} {c : Char} (h : c ∈ encodeChars bytes) :
    c.toNat < 128 := by
  obtain ⟨b, -, hc⟩ := List.mem_flatMap.mp h
  have hb : b.toNat < 256 := b.toNat_lt
  rcases List.mem_pair.mp hc with rfl | rfl
  · exact digitChar_lt_of_lt (by omega)
  · exact digitChar_lt_of_lt (by omega)

/-- The digits that are written. -/
def lowerDigits : List Char :=
  "0123456789abcdef".toList

theorem mem_lowerDigits_of_mem_encode {bytes : List UInt8} {c : Char}
    (h : c ∈ (encode bytes).toList) : c ∈ lowerDigits := by
  have hall : ∀ n < 16, digit n ∈ lowerDigits := by decide
  rw [encode, String.toList_ofList] at h
  obtain ⟨b, -, hc⟩ := List.mem_flatMap.mp h
  have hb : b.toNat < 256 := b.toNat_lt
  rcases List.mem_pair.mp hc with rfl | rfl
  · exact hall _ (by omega)
  · exact hall _ (by omega)

theorem length_encodeChars (bytes : List UInt8) :
    (encodeChars bytes).length = 2 * bytes.length := by
  induction bytes with
  | nil => rfl
  | cons b bytes ih =>
    calc
      (encodeChars (b :: bytes)).length = (encodeChars bytes).length + 1 + 1 := rfl
      _ = 2 * (bytes.length + 1) := by
        rw [ih]
        omega

theorem bytes_encode (bytes : List UInt8) :
    Utf8.bytes (encode bytes) = (encodeChars bytes).map fun c ↦ UInt8.ofNat c.toNat := by
  rw [Utf8.bytes, encode, String.toList_ofList]
  apply Utf8.encode_of_ascii
  intro c hc
  exact lt_of_mem_encodeChars hc

theorem decodePairs_encodeChars (bytes : List UInt8) (position : Nat) :
    decodePairs position ((encodeChars bytes).map fun c ↦ UInt8.ofNat c.toNat) = .ok bytes := by
  induction bytes generalizing position with
  | nil => rfl
  | cons b bytes ih =>
    have hb : b.toNat < 256 := b.toNat_lt
    have hhigh := digitValue?_digit (n := b.toNat / 16) (by omega)
    have hlow := digitValue?_digit (n := b.toNat % 16) (by omega)
    have hbyte : 16 * UInt8.ofNat (b.toNat / 16) + UInt8.ofNat (b.toNat % 16) = b := by
      apply UInt8.toNat_inj.mp
      simp only [UInt8.toNat_add, UInt8.toNat_mul, UInt8.toNat_ofNat', UInt8.reduceToNat]
      omega
    simp only [encodeChars] at ih
    simp only [encodeChars, List.flatMap_cons, List.cons_append, List.nil_append, List.map_cons,
      decodePairs, digitAt, hhigh, hlow, ih, hbyte, bind, Except.bind, pure, Except.pure]

theorem decode_encode (bytes : List UInt8) : decode (encode bytes) = .ok bytes := by
  have hlength : ((encodeChars bytes).map fun c ↦ UInt8.ofNat c.toNat).length % 2 = 0 := by
    rw [List.length_map, length_encodeChars]
    omega
  rw [decode, bytes_encode, decodeBytes, if_pos hlength]
  exact decodePairs_encodeChars bytes 0

/-! ## What can be read -/

/-- The digits that are read. -/
def digits : List Char :=
  "0123456789abcdefABCDEF".toList

theorem isSome_digitValue?_iff {c : Char} (h : c.toNat < 128) :
    (digitValue? (UInt8.ofNat c.toNat)).isSome ↔ c ∈ digits := by
  have hall : ∀ n < 128, (digitValue? (UInt8.ofNat n)).isSome ↔ Char.ofNat n ∈ digits := by
    decide +kernel
  have hc := hall c.toNat h
  rwa [Char.ofNat_toNat] at hc

theorem lt_of_digitValue? {b : UInt8} (h : (digitValue? b).isSome) : b < 128 := by
  unfold digitValue? at h
  simp only [UInt8.le_iff_toNat_le, UInt8.lt_iff_toNat_lt, UInt8.reduceToNat] at h ⊢
  split_ifs at h
  · omega
  · omega
  · omega
  · cases h

theorem lt_of_mem_digits {c : Char} (h : c ∈ digits) : c.toNat < 128 := by
  have hall : digits.all (fun c ↦ c.toNat < 128) = true := by decide
  exact of_decide_eq_true (List.all_eq_true.mp hall c h)

theorem exists_digitAt_iff {b : UInt8} {position : Nat} :
    (∃ v, digitAt b position = .ok v) ↔ (digitValue? b).isSome := by
  unfold digitAt
  split <;> simp [*]

theorem exists_decodePairs_iff {position : Nat} {codes : List UInt8} :
    (∃ bytes, decodePairs position codes = .ok bytes) ↔
      codes.length % 2 = 0 ∧ ∀ code ∈ codes, (digitValue? code).isSome := by
  fun_induction decodePairs position codes with
  | case1 => simp
  | case2 => simp
  | case3 position a b rest ih =>
    simp only [List.length_cons, List.forall_mem_cons]
    constructor
    · rintro ⟨bytes, h⟩
      obtain ⟨high, ha, h⟩ := bind_eq_ok_iff.mp h
      obtain ⟨low, hb, h⟩ := bind_eq_ok_iff.mp h
      obtain ⟨tail, hrest, -⟩ := bind_eq_ok_iff.mp h
      obtain ⟨hlength, hdigits⟩ := ih.mp ⟨tail, hrest⟩
      exact ⟨by omega, exists_digitAt_iff.mp ⟨high, ha⟩, exists_digitAt_iff.mp ⟨low, hb⟩, hdigits⟩
    · rintro ⟨hlength, ha, hb, hdigits⟩
      obtain ⟨high, ha⟩ := exists_digitAt_iff.mpr ha
      obtain ⟨low, hb⟩ := exists_digitAt_iff.mpr hb
      obtain ⟨tail, hrest⟩ := ih.mpr ⟨by omega, hdigits⟩
      refine ⟨(16 * high + low) :: tail, ?_⟩
      rw [ha, hb, hrest]
      rfl

theorem forall_bytes_iff {s : String} :
    (∀ b ∈ Utf8.bytes s, (digitValue? b).isSome) ↔ ∀ c ∈ s.toList, c ∈ digits := by
  simp only [Utf8.bytes, Utf8.encode, List.mem_flatMap, forall_exists_index, and_imp]
  constructor
  · intro h c hc
    have hascii : c.toNat < 128 :=
      Utf8.lt_of_encode_lt fun b hb ↦ lt_of_digitValue? (h b c hc hb)
    apply (isSome_digitValue?_iff hascii).mp
    apply h _ c hc
    rw [Utf8.encode_singleton_of_lt hascii]
    exact List.mem_singleton_self _
  · intro h b c hc hb
    have hascii := lt_of_mem_digits (h c hc)
    rw [Utf8.encode_singleton_of_lt hascii, List.mem_singleton] at hb
    rw [hb, isSome_digitValue?_iff hascii]
    exact h c hc

theorem length_bytes_of_digits {s : String} (h : ∀ c ∈ s.toList, c ∈ digits) :
    (Utf8.bytes s).length = s.length := by
  rw [Utf8.bytes, Utf8.encode_of_ascii fun c hc ↦ lt_of_mem_digits (h c hc), List.length_map,
    String.length_toList]

/-- A text spells a byte string exactly if it consists of pairs of digits. -/
theorem exists_decode_iff {s : String} :
    (∃ bytes, decode s = .ok bytes) ↔ s.length % 2 = 0 ∧ ∀ c ∈ s.toList, c ∈ digits := by
  have hpairs : (∃ bytes, decodePairs 0 (Utf8.bytes s) = .ok bytes) ↔ _ := exists_decodePairs_iff
  have hdecode : (∃ bytes, decode s = .ok bytes) ↔
      (Utf8.bytes s).length % 2 = 0 ∧ ∀ b ∈ Utf8.bytes s, (digitValue? b).isSome := by
    unfold decode decodeBytes
    split
    · exact hpairs
    · simp [*]
  rw [hdecode, forall_bytes_iff]
  apply and_congr_left
  intro hdigits
  rw [length_bytes_of_digits hdigits]

end Hex

end ChainParams.Text

namespace ChainParams

open Text

theorem BlockHash.ofHex_toHex (hash : BlockHash) : BlockHash.ofHex hash.toHex = .ok hash := by
  have hlength : (Utf8.bytes hash.toHex).length = 64 := by
    rw [toHex, Hex.bytes_encode, List.length_map, Hex.length_encodeChars, List.length_reverse,
      hash.length_bytes]
  have hdecode := Hex.decode_encode hash.bytes.reverse
  rw [ofHex, dif_pos hlength]
  split
  · next bytes h =>
    rw [toHex, hdecode] at h
    cases h
    simp only [List.reverse_reverse]
  · next cause h =>
    rw [toHex, hdecode] at h
    cases h

theorem KeyVersion.ofHex_toHex (version : KeyVersion) :
    KeyVersion.ofHex version.toHex = .ok version := by
  rw [ofHex, toHex, Hex.decode_encode]
  exact dif_pos version.length_bytes

/-- Eight digits. -/
def KeyVersion.IsText (text : String) : Prop :=
  text.length = 8 ∧ ∀ c ∈ text.toList, c ∈ Hex.digits

theorem KeyVersion.exists_ofHex_iff {text : String} :
    (∃ version, ofHex text = .ok version) ↔ IsText text := by
  constructor
  · rintro ⟨version, h⟩
    unfold ofHex at h
    split at h
    · next bytes hdecode =>
      have hdigits := (Hex.exists_decode_iff.mp ⟨bytes, hdecode⟩).2
      have hlength := Hex.length_of_decode hdecode
      rw [Hex.length_bytes_of_digits hdigits] at hlength
      unfold ofBytes at h
      split at h
      · exact ⟨by omega, hdigits⟩
      · cases h
    · cases h
  · rintro ⟨hlength, hdigits⟩
    obtain ⟨bytes, hdecode⟩ := Hex.exists_decode_iff.mpr ⟨by omega, hdigits⟩
    have hbytes := Hex.length_of_decode hdecode
    rw [Hex.length_bytes_of_digits hdigits] at hbytes
    refine ⟨⟨bytes, by omega⟩, ?_⟩
    rw [ofHex, hdecode]
    exact dif_pos _

/-- Sixty-four digits. -/
def BlockHash.IsText (text : String) : Prop :=
  text.length = 64 ∧ ∀ c ∈ text.toList, c ∈ Hex.digits

theorem BlockHash.exists_ofHex_iff {text : String} :
    (∃ hash, ofHex text = .ok hash) ↔ IsText text := by
  constructor
  · rintro ⟨hash, h⟩
    unfold ofHex at h
    split at h
    · next hlength =>
      split at h
      · next bytes hdecode =>
        have hdigits := (Hex.exists_decode_iff.mp ⟨bytes, hdecode⟩).2
        rw [Hex.length_bytes_of_digits hdigits] at hlength
        exact ⟨hlength, hdigits⟩
      · cases h
    · cases h
  · rintro ⟨hlength, hdigits⟩
    obtain ⟨bytes, hdecode⟩ := Hex.exists_decode_iff.mpr ⟨by omega, hdigits⟩
    have hbytes : (Utf8.bytes text).length = 64 := by
      rw [Hex.length_bytes_of_digits hdigits, hlength]
    rw [ofHex, dif_pos hbytes]
    split
    · exact ⟨_, rfl⟩
    · next cause hcause =>
      rw [hdecode] at hcause
      cases hcause

theorem BlockHash.isText_toHex (hash : BlockHash) : IsText hash.toHex :=
  exists_ofHex_iff.mp ⟨hash, hash.ofHex_toHex⟩

end ChainParams
