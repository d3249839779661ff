import ChainParams.Proofs.Definition.Settings
import ChainParams.Proofs.Json.Text
import ChainParams.Proofs.Word

/-!
# Values of proof-of-work limits

The bytes of a limit stand for the number that has as many ones as the limit has bits. They can be
filled in from the last byte on: first the bytes of ones, and then the one byte before them that has
ones only in its low bits. There always is a place for that byte, as a limit of 256 bits has none.
-/

namespace ChainParams.PowLimit

open Definition (Form)

/-! ## Numbers of ones -/

/-- Ones that follow ones. -/
theorem ones_append (high low : Nat) :
    2 ^ low * (2 ^ high - 1) + (2 ^ low - 1) = 2 ^ (low + high) - 1 := by
  have hlow : 1 ≤ 2 ^ low := Nat.one_le_two_pow
  have hle : 2 ^ low ≤ 2 ^ low * 2 ^ high := Nat.le_mul_of_pos_right _ (Nat.two_pow_pos high)
  calc
    2 ^ low * (2 ^ high - 1) + (2 ^ low - 1) = 2 ^ low * 2 ^ high - 2 ^ low + (2 ^ low - 1) := by
      rw [Nat.mul_sub_one]
    _ = 2 ^ low * 2 ^ high - 1 := by omega
    _ = 2 ^ (low + high) - 1 := by rw [Nat.pow_add]

/-- A byte of ones in front of full bytes. -/
theorem ofBigEndian_ones_cons {byte : UInt8} {bytes : List UInt8} {high count : Nat}
    (hbyte : byte.toNat = 2 ^ high - 1) (hlength : bytes.length = count)
    (hbytes : Word.ofBigEndian bytes = 2 ^ (8 * count) - 1) :
    Word.ofBigEndian (byte :: bytes) = 2 ^ (8 * count + high) - 1 := by
  have hplaces : 256 ^ count = 2 ^ (8 * count) := (Nat.pow_mul 2 8 count).symm
  rw [Word.ofBigEndian_cons, hlength, hbyte, hbytes, hplaces, ones_append]

theorem toNat_ones {count : Nat} (h : count ≤ 8) :
    (UInt8.ofNat ((1 <<< count) - 1)).toNat = 2 ^ count - 1 := by
  have hle : 2 ^ count ≤ 2 ^ 8 := Nat.pow_le_pow_right (by decide) h
  rw [Nat.one_shiftLeft, UInt8.toNat_ofNat']
  exact Nat.mod_eq_of_lt (by omega)

/-- The last bytes of a number of ones, as many as asked for. -/
def lastBytes (bits count : Nat) : List UInt8 :=
  (List.range count).map fun i ↦ UInt8.ofNat ((1 <<< min 8 (bits - 8 * (count - 1 - i))) - 1)

theorem bytes_eq_lastBytes (limit : PowLimit) : limit.bytes = lastBytes limit.bitLength 32 := rfl

theorem length_lastBytes (bits count : Nat) : (lastBytes bits count).length = count := by
  rw [lastBytes, List.length_map, List.length_range]

theorem lastBytes_succ (bits count : Nat) :
    lastBytes bits (count + 1) =
      UInt8.ofNat ((1 <<< min 8 (bits - 8 * count)) - 1) :: lastBytes bits count := by
  have hplace (i : Nat) : count + 1 - 1 - (i + 1) = count - 1 - i := by omega
  simp only [lastBytes, List.range_succ_eq_map, List.map_cons, List.map_map, Function.comp_def,
    Nat.succ_eq_add_one, hplace]
  rfl

theorem ofBigEndian_lastBytes (bits count : Nat) :
    Word.ofBigEndian (lastBytes bits count) = 2 ^ min bits (8 * count) - 1 := by
  induction count with
  | zero => simp [lastBytes, Word.ofBigEndian]
  | succ count ih =>
    have hbyte := toNat_ones (Nat.min_le_left 8 (bits - 8 * count))
    rw [lastBytes_succ]
    by_cases hle : bits ≤ 8 * count
    · -- The byte in front is zero.
      have hnone : min 8 (bits - 8 * count) = 0 := by omega
      have hlow : min bits (8 * count) = min bits (8 * (count + 1)) := by omega
      rw [Word.ofBigEndian_cons, hbyte, ih, hnone, hlow, pow_zero, Nat.sub_self, Nat.mul_zero,
        Nat.zero_add]
    · -- All bytes behind the one in front are full.
      have hfull : min bits (8 * count) = 8 * count := by omega
      have hsum : 8 * count + min 8 (bits - 8 * count) = min bits (8 * (count + 1)) := by omega
      rw [hfull] at ih
      rw [ofBigEndian_ones_cons hbyte (length_lastBytes bits count) ih, hsum]

theorem length_bytes (limit : PowLimit) : limit.bytes.length = 32 :=
  length_lastBytes limit.bitLength 32

theorem ofBigEndian_bytes (limit : PowLimit) :
    Word.ofBigEndian limit.bytes = 2 ^ limit.bitLength - 1 := by
  rw [bytes_eq_lastBytes, ofBigEndian_lastBytes, Nat.min_eq_left limit.bitLength_le]

theorem ofBigEndian_bytes_ofBitLength (bits : Nat) :
    Word.ofBigEndian (ofBitLength bits).bytes = 2 ^ min bits 256 - 1 :=
  ofBigEndian_bytes (ofBitLength bits)

/-! ## Filling in -/

/-- A difference that is not below zero. -/
def difference? {α : Type} [LE α] [DecidableLE α] [Sub α] (a b : α) : Option α :=
  if b ≤ a then some (a - b) else none

/-- The byte with a single one, at a place that it has. -/
def bit? (place : Nat) : Option UInt8 :=
  if place < 8 then some (1 <<< UInt8.ofNat place) else none

/-- Writes a byte at a place that there is. -/
def write? (bytes : List UInt8) (place : Nat) (byte : UInt8) : Option (List UInt8) :=
  if place < bytes.length then some (bytes.set place byte) else none

/-- Makes the first bytes full of ones, one after the other, as many as asked for or all. -/
def fillFirst : Nat → List UInt8 → List UInt8
  | count + 1, _ :: bytes => 0xff :: fillFirst count bytes
  | _, bytes => bytes

/-- Makes bytes full of ones, the last one first. -/
def fillLast (count : Nat) (bytes : List UInt8) : List UInt8 :=
  (fillFirst count bytes.reverse).reverse

/-- Fills in the limit from the last byte on, unless a place, a shift or a difference leads out of
its range. -/
def fill? (limit : PowLimit) : Option (List UInt8) := do
  let full := limit.bitLength / 8
  let rest := limit.bitLength % 8
  let bytes := fillLast full (List.replicate 32 0)
  if rest = 0 then
    return bytes
  else
    let place ← difference? 31 full
    let ones ← difference? (← bit? rest) 1
    write? bytes place ones

/-- One more byte is full after each step. -/
theorem fillFirst_eq (count : Nat) (bytes : List UInt8) :
    fillFirst count bytes =
      List.replicate (min count bytes.length) 0xff ++ bytes.drop count := by
  fun_induction fillFirst count bytes with
  | case1 count b bytes ih =>
    rw [ih, List.length_cons, Nat.succ_eq_add_one, Nat.add_min_add_right, List.replicate_succ,
      List.drop_succ_cons, List.cons_append]
  | case2 count bytes hnone =>
    cases count with
    | zero => simp
    | succ count =>
      cases bytes with
      | nil => simp
      | cons b bytes => exact absurd rfl (hnone count b bytes rfl)

theorem fillLast_zeros (zeros count : Nat) :
    fillLast count (List.replicate (zeros + count) 0) =
      List.replicate zeros 0 ++ List.replicate count 0xff := by
  have hmin : min count (zeros + count) = count := by omega
  rw [fillLast, List.reverse_replicate, fillFirst_eq, List.length_replicate, hmin,
    List.drop_replicate, Nat.add_sub_cancel, List.reverse_append, List.reverse_replicate,
    List.reverse_replicate]

theorem set_last_zero (zeros : Nat) (byte : UInt8) (bytes : List UInt8) :
    (List.replicate (zeros + 1) 0 ++ bytes).set zeros byte =
      List.replicate zeros 0 ++ byte :: bytes := by
  rw [List.replicate_succ', List.append_assoc,
    List.set_append_right zeros byte (by rw [List.length_replicate]), List.length_replicate,
    Nat.sub_self]
  rfl

theorem ofBigEndian_zeros_append (zeros : Nat) (bytes : List UInt8) :
    Word.ofBigEndian (List.replicate zeros 0 ++ bytes) = Word.ofBigEndian bytes := by
  induction zeros with
  | zero => rfl
  | succ zeros ih =>
    rw [List.replicate_succ, List.cons_append, Word.ofBigEndian_cons, ih]
    exact Nat.zero_add _

theorem ofBigEndian_full (count : Nat) :
    Word.ofBigEndian (List.replicate count 0xff) = 2 ^ (8 * count) - 1 := by
  induction count with
  | zero => rfl
  | succ count ih =>
    have hbyte : (0xff : UInt8).toNat = 2 ^ 8 - 1 := rfl
    exact ofBigEndian_ones_cons hbyte List.length_replicate ih

/-! ### Places and ranges -/

theorem difference?_of_le {α : Type} [LE α] [DecidableLE α] [Sub α] {a b : α} (h : b ≤ a) :
    difference? a b = some (a - b) :=
  if_pos h

theorem toNat_bit {place : Nat} (h : place < 8) :
    ((1 : UInt8) <<< UInt8.ofNat place).toNat = 2 ^ place := by
  have hplace : (UInt8.ofNat place).toNat = place := UInt8.toNat_ofNat_of_lt' (h.trans (by decide))
  have hlt : 2 ^ place < 2 ^ 8 := Nat.pow_lt_pow_right (by decide) h
  rw [UInt8.toNat_shiftLeft, hplace, Nat.mod_eq_of_lt h, UInt8.toNat_one, Nat.one_shiftLeft,
    Nat.mod_eq_of_lt hlt]

/-- The ones below a bit are one less than the bit, which is never zero. -/
theorem exists_ones {place : Nat} (h : place < 8) :
    ∃ ones, (bit? place).bind (difference? · 1) = some ones ∧ ones.toNat = 2 ^ place - 1 := by
  have hle : (1 : UInt8) ≤ 1 <<< UInt8.ofNat place := by
    rw [UInt8.le_iff_toNat_le, toNat_bit h]
    exact Nat.one_le_two_pow
  refine ⟨(1 <<< UInt8.ofNat place) - 1, ?_, ?_⟩
  · rw [bit?, if_pos h]
    exact difference?_of_le hle
  · rw [UInt8.toNat_sub_of_le _ _ hle, toNat_bit h, UInt8.toNat_one]

section

variable {limit : PowLimit} {full rest : Nat}

theorem fill?_of_full (h : limit.bitLength = 8 * full) :
    limit.fill? = some (List.replicate (32 - full) 0 ++ List.replicate full 0xff) := by
  have hle := limit.bitLength_le
  have hfull : limit.bitLength / 8 = full := by omega
  have hrest : limit.bitLength % 8 = 0 := by omega
  have hbytes := fillLast_zeros (32 - full) full
  rw [Nat.sub_add_cancel (by omega)] at hbytes
  rw [fill?, hfull, hrest, hbytes]
  rfl

/-- As the rest leaves room for no more than 31 full bytes, there is a place before them. -/
theorem fill?_of_rest (h : limit.bitLength = 8 * full + rest) (hpos : rest ≠ 0) (hlt : rest < 8) :
    ∃ ones : UInt8, ones.toNat = 2 ^ rest - 1 ∧
      limit.fill? = some (List.replicate (31 - full) 0 ++ ones :: List.replicate full 0xff) := by
  have hle := limit.bitLength_le
  have hfull : limit.bitLength / 8 = full := by omega
  have hrest : limit.bitLength % 8 = rest := by omega
  have hbytes := fillLast_zeros (31 - full + 1) full
  have hlength : 31 - full + 1 + full = 32 := by omega
  have hplace : difference? 31 full = some (31 - full) := difference?_of_le (by omega)
  obtain ⟨ones, hones, hvalue⟩ := exists_ones hlt
  obtain ⟨power, hpower, hdifference⟩ := Option.bind_eq_some_iff.mp hones
  have hwrite : write? (fillLast full (List.replicate 32 0)) (31 - full) ones =
      some (List.replicate (31 - full) 0 ++ ones :: List.replicate full 0xff) := by
    rw [← hlength, hbytes, write?, set_last_zero, List.length_append, List.length_replicate]
    exact if_pos (by omega)
  refine ⟨ones, hvalue, ?_⟩
  rw [fill?, hfull, hrest, if_neg hpos, hplace, hpower]
  change (difference? power 1).bind _ = _
  rw [hdifference]
  exact hwrite

end

/-- Filling in comes to an end without leaving any range, and gives the bytes of the limit. -/
theorem fill?_eq_some (limit : PowLimit) : limit.fill? = some limit.bytes := by
  have hparts : limit.bitLength = 8 * (limit.bitLength / 8) + limit.bitLength % 8 :=
    (Nat.div_add_mod limit.bitLength 8).symm
  have hle := limit.bitLength_le
  -- Bytes that stand for the same number are the same.
  suffices h : ∃ bytes, limit.fill? = some bytes ∧ bytes.length = 32 ∧
      Word.ofBigEndian bytes = 2 ^ limit.bitLength - 1 by
    obtain ⟨bytes, hfill, hlength, hvalue⟩ := h
    have hsame : bytes.length = limit.bytes.length := hlength.trans limit.length_bytes.symm
    rw [hfill, Word.ofBigEndian_inj hsame (hvalue.trans limit.ofBigEndian_bytes.symm)]
  by_cases hrest : limit.bitLength % 8 = 0
  · rw [hrest, Nat.add_zero] at hparts
    refine ⟨_, fill?_of_full hparts, ?_, ?_⟩
    · rw [List.length_append, List.length_replicate, List.length_replicate]
      omega
    · rw [ofBigEndian_zeros_append, ofBigEndian_full, ← hparts]
  · obtain ⟨ones, hones, hfill⟩ :=
      fill?_of_rest hparts hrest (Nat.mod_lt limit.bitLength (by decide))
    refine ⟨_, hfill, ?_, ?_⟩
    · rw [List.length_append, List.length_cons, List.length_replicate, List.length_replicate]
      omega
    · rw [ofBigEndian_zeros_append,
        ofBigEndian_ones_cons hones List.length_replicate (ofBigEndian_full _), ← hparts]

/-! ## Routes -/

theorem ofBigEndian_bytes_inj {limit other : PowLimit} :
    Word.ofBigEndian limit.bytes = Word.ofBigEndian other.bytes ↔ limit = other := by
  constructor
  · intro h
    rw [ofBigEndian_bytes, ofBigEndian_bytes] at h
    have hpow : 2 ^ limit.bitLength = 2 ^ other.bitLength :=
      Nat.sub_one_cancel (Nat.two_pow_pos _) (Nat.two_pow_pos _) h
    have hbits := Nat.pow_right_injective (Nat.le_refl 2) hpow
    cases limit
    cases other
    cases hbits
    rfl
  · rintro rfl
    rfl

theorem bytes_inj {limit other : PowLimit} : limit.bytes = other.bytes ↔ limit = other := by
  constructor
  · intro h
    exact ofBigEndian_bytes_inj.mp (congrArg Word.ofBigEndian h)
  · rintro rfl
    rfl

/-- A limit is read from a number of 16 bits, and is then made from that number. -/
theorem read_eq_ok_iff {value : Json} {limit : PowLimit} :
    Form.powLimit.read value = .ok limit ↔
      ∃ bits : UInt16, value = .int bits.toNat ∧ ofBitLength bits.toNat = limit := by
  have hbits (bits : UInt16) :
      Form.u16.read value = .ok bits ↔ value = .int bits.toNat :=
    Form.gives_u16.read_eq_ok_iff value bits
  rw [Form.powLimit, Form.iso, map_eq_ok_iff]
  simp only [hbits]

theorem parse_bits (bits : UInt16) :
    Json.parse (Nat.repr bits.toNat) = .ok (.int bits.toNat) := by
  have hlt : bits.toNat < 65536 := bits.toNat_lt
  have hfits : (Json.int bits.toNat).Fits Json.maxDepth := by
    constructor <;> omega
  have htext : (Json.int bits.toNat).compact = Nat.repr bits.toNat := by
    rw [Json.compact, Json.chars]
    rfl
  have hparse := Json.parse_compact hfits
  rwa [htext] at hparse

theorem toNat_ofNat_bitLength (limit : PowLimit) :
    (UInt16.ofNat limit.bitLength).toNat = limit.bitLength :=
  UInt16.toNat_ofNat_of_lt' (limit.bitLength_le.trans_lt (by decide))

/-- Filling in the bytes of a limit never leaves the bytes and never shifts or takes away too much.
By whichever route a limit is made from a number of 16 bits, directly or out of a definition, its
bytes stand for the number of as many ones, but not more than 256. So more bits never make it less,
limits with the same bytes or the same number are the same, and a limit comes back from its bits. -/
theorem bytes_ones :
    (∀ limit : PowLimit, limit.fill? = some limit.bytes ∧ limit.bytes.length = 32) ∧
    (∀ bits : UInt16,
      Word.ofBigEndian (ofBitLength bits.toNat).bytes = 2 ^ min bits.toNat 256 - 1) ∧
    (∀ value limit, Form.powLimit.read value = .ok limit ↔
      ∃ bits : UInt16, value = .int bits.toNat ∧ ofBitLength bits.toNat = limit) ∧
    (∀ bits : UInt16, Json.parse (Nat.repr bits.toNat) = .ok (.int bits.toNat)) ∧
    (∀ bits more : UInt16, bits ≤ more →
      Word.ofBigEndian (ofBitLength bits.toNat).bytes ≤
        Word.ofBigEndian (ofBitLength more.toNat).bytes) ∧
    (∀ limit other : PowLimit, (limit.bytes = other.bytes ↔ limit = other) ∧
      (Word.ofBigEndian limit.bytes = Word.ofBigEndian other.bytes ↔ limit = other)) ∧
    ∀ limit : PowLimit, (UInt16.ofNat limit.bitLength).toNat = limit.bitLength ∧
      ofBitLength (UInt16.ofNat limit.bitLength).toNat = limit := by
  refine ⟨fun limit ↦ ⟨limit.fill?_eq_some, limit.length_bytes⟩,
    fun bits ↦ ofBigEndian_bytes_ofBitLength bits.toNat, fun _ _ ↦ read_eq_ok_iff, parse_bits, ?_,
    fun _ _ ↦ ⟨bytes_inj, ofBigEndian_bytes_inj⟩, ?_⟩
  · intro bits more hle
    have hmin : min bits.toNat 256 ≤ min more.toNat 256 :=
      min_le_min_right 256 (UInt16.le_iff_toNat_le.mp hle)
    rw [ofBigEndian_bytes_ofBitLength, ofBigEndian_bytes_ofBitLength]
    exact Nat.sub_le_sub_right (Nat.pow_le_pow_right (by decide) hmin) 1
  · intro limit
    have hbits := limit.toNat_ofNat_bitLength
    exact ⟨hbits, by rw [hbits, limit.ofBitLength_bitLength]⟩

/-- A limit with a byte that is not full, and one that is cut to 256 bits. -/
theorem bytes_ones_cut :
    (ofBitLength 20).fill? = some (List.replicate 29 0 ++ [0x0f, 0xff, 0xff]) ∧
    (ofBitLength 300).fill? = some (List.replicate 32 0xff) ∧
    Word.ofBigEndian (ofBitLength 20).bytes ≤ Word.ofBigEndian (ofBitLength 300).bytes ∧
    Form.powLimit.read (.int 300) = .ok (ofBitLength 256) ∧
    ofBitLength 256 ≠ ofBitLength 255 := by
  obtain ⟨hfill, -, hread, -, hmono, hinj, -⟩ := bytes_ones
  refine ⟨(hfill _).1, (hfill _).1, hmono 20 300 (by decide), ?_, ?_⟩
  · exact (hread _ _).mpr ⟨300, rfl, rfl⟩
  · rw [Ne, ← (hinj _ _).1]
    decide

end ChainParams.PowLimit
