import Mathlib.Data.Nat.Digits.Defs
import Mathlib.Tactic
import ChainParams.Word

/-!
# Bytes as numbers

Bytes are the digits of a number to the base 256. So byte strings of one length are ordered by their
first difference as the numbers are that they stand for, and no two of them stand for the same
number.
-/

namespace ChainParams.Word

theorem foldl_eq_ofDigits (bytes : List UInt8) (n : Nat) :
    bytes.foldl (fun n b ↦ 256 * n + b.toNat) n =
      256 ^ bytes.length * n + Nat.ofDigits 256 (bytes.map UInt8.toNat).reverse := by
  induction bytes generalizing n with
  | nil => simp
  | cons b bytes ih =>
    calc
      _ = 256 ^ bytes.length * (256 * n + b.toNat) +
          Nat.ofDigits 256 (bytes.map UInt8.toNat).reverse := ih _
      _ = 256 ^ (bytes.length + 1) * n +
          (Nat.ofDigits 256 (bytes.map UInt8.toNat).reverse + 256 ^ bytes.length * b.toNat) := by
        ring
      _ = _ := by rw [List.map_cons, Nat.ofDigits_reverse_cons, List.length_map, List.length_cons]

theorem ofBigEndian_eq_ofDigits (bytes : List UInt8) :
    ofBigEndian bytes = Nat.ofDigits 256 (bytes.map UInt8.toNat).reverse := by
  rw [ofBigEndian, foldl_eq_ofDigits, Nat.mul_zero, Nat.zero_add]

theorem ofBigEndian_cons (b : UInt8) (bytes : List UInt8) :
    ofBigEndian (b :: bytes) = 256 ^ bytes.length * b.toNat + ofBigEndian bytes := by
  rw [ofBigEndian_eq_ofDigits, ofBigEndian_eq_ofDigits, List.map_cons, Nat.ofDigits_reverse_cons,
    List.length_map, Nat.add_comm]

theorem ofBigEndian_lt (bytes : List UInt8) : ofBigEndian bytes < 256 ^ bytes.length := by
  have hdigits : ∀ d ∈ (bytes.map UInt8.toNat).reverse, d < 256 := by
    intro d hd
    rw [List.mem_reverse, List.mem_map] at hd
    obtain ⟨b, -, rfl⟩ := hd
    exact b.toNat_lt
  calc
    ofBigEndian bytes = Nat.ofDigits 256 (bytes.map UInt8.toNat).reverse :=
      ofBigEndian_eq_ofDigits bytes
    _ < 256 ^ (bytes.map UInt8.toNat).reverse.length :=
      Nat.ofDigits_lt_base_pow_length (by decide) hdigits
    _ = 256 ^ bytes.length := by rw [List.length_reverse, List.length_map]

/-- A larger digit outweighs whatever comes after it. -/
theorem add_lt_add_of_digit_lt {place high low m n : Nat} (hm : m < place) (h : low < high) :
    place * low + m < place * high + n :=
  calc
    place * low + m < place * low + place := Nat.add_lt_add_left hm _
    _ = place * (low + 1) := rfl
    _ ≤ place * high := Nat.mul_le_mul_left place h
    _ ≤ place * high + n := Nat.le_add_right _ n

/-- The first byte that differs decides which number is less. -/
theorem lt_iff_ofBigEndian_lt {as bs : List UInt8} (h : as.length = bs.length) :
    as < bs ↔ ofBigEndian as < ofBigEndian bs := by
  induction as generalizing bs with
  | nil =>
    rw [List.length_nil, eq_comm, List.length_eq_zero_iff] at h
    subst h
    exact iff_of_false (List.lt_irrefl []) (Nat.lt_irrefl _)
  | cons a as ih =>
    cases bs with
    | nil => cases h
    | cons b bs =>
      have hlength : as.length = bs.length := Nat.succ.inj h
      have ha := ofBigEndian_lt as
      have hb := ofBigEndian_lt bs
      rw [List.cons_lt_cons_iff, ih hlength, ofBigEndian_cons, ofBigEndian_cons, hlength,
        UInt8.lt_iff_toNat_lt, ← UInt8.toNat_inj]
      rw [hlength] at ha
      rcases Nat.lt_trichotomy a.toNat b.toNat with hlt | heq | hgt
      · exact iff_of_true (.inl hlt) (add_lt_add_of_digit_lt ha hlt)
      · simp [heq]
      · have hge := add_lt_add_of_digit_lt hb hgt (n := ofBigEndian as)
        apply iff_of_false
        · rintro (hlt | ⟨heq, -⟩) <;> omega
        · exact Nat.lt_asymm hge

theorem ofBigEndian_inj {as bs : List UInt8} (h : as.length = bs.length)
    (heq : ofBigEndian as = ofBigEndian bs) : as = bs := by
  apply List.le_antisymm
  · rw [← List.not_lt, lt_iff_ofBigEndian_lt h.symm, heq]
    exact Nat.lt_irrefl _
  · rw [← List.not_lt, lt_iff_ofBigEndian_lt h, heq]
    exact Nat.lt_irrefl _

/-- The bytes of a word stand for the word. -/
theorem ofBigEndian_bigEndian (w : UInt32) : ofBigEndian (bigEndian w) = w.toNat := by
  have hw : w.toNat < 4294967296 := w.toNat_lt
  simp only [bigEndian, ofBigEndian, List.foldl_cons, List.foldl_nil, UInt32.toNat_toUInt8,
    UInt32.toNat_shiftRight, UInt32.reduceToNat, Nat.shiftRight_eq_div_pow, Nat.reduceMod,
    Nat.reducePow]
  omega

end ChainParams.Word
