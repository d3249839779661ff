import ChainParams.Definition.Form
import ChainParams.Proofs.Computation
import ChainParams.Proofs.Json.Text
import ChainParams.Proofs.Text.Hex
import ChainParams.Proofs.Time.Text

/-!
# Forms that keep a value

A form keeps a value if what it writes can be read back from a text and is read as that value. Forms
of scalars keep all of their values, but for durations, of which only the whole seconds are written.
A form made from others keeps what those keep.
-/

namespace ChainParams

/-- A span without a part of a second. -/
def Time.Duration.IsWhole (duration : Duration) : Prop :=
  duration.nanos = 0

theorem Time.Duration.ofSeconds_of_isWhole {duration : Duration} (h : duration.IsWhole) :
    ofSeconds duration.seconds = duration := by
  obtain ⟨seconds, nanos, hlt⟩ := duration
  cases h
  rfl

theorem PowLimit.ofBitLength_bitLength (limit : PowLimit) :
    ofBitLength limit.bitLength = limit := by
  obtain ⟨bitLength, hle⟩ := limit
  simp [ofBitLength, hle]

namespace Definition.Form

variable {α β : Type}

/-- The value `a` is written without floats and with 64-bit integers, nested no deeper than given,
and is read back once the members of objects are sorted. -/
structure Keeps (form : Form α) (depth : Nat) (a : α) : Prop where
  fits : (form.write a).Fits depth
  read : form.read (form.write a).sorted = .ok a

/-! ## Making forms -/

theorem Keeps.iso {form : Form α} {decode : α → β} {encode : β → α} {depth : Nat} {b : β}
    (h : form.Keeps depth (encode b)) (hdecode : decode (encode b) = b) :
    (form.iso decode encode).Keeps depth b where
  fits := h.fits
  read := by
    change (form.read (form.write (encode b)).sorted).map decode = .ok b
    rw [h.read, Except.map, hdecode]

theorem Keeps.refine {form : Form α} {decode : α → Except Fault β} {encode : β → α} {depth : Nat}
    {b : β} (h : form.Keeps depth (encode b)) (hdecode : decode (encode b) = .ok b) :
    (form.refine decode encode).Keeps depth b where
  fits := h.fits
  read := by
    change (form.read (form.write (encode b)).sorted).bind decode = .ok b
    rw [h.read]
    exact hdecode

theorem sorted_ne_null {value : Json} (h : value ≠ .null) : value.sorted ≠ .null := by
  cases value <;> simp_all [Json.sorted]

theorem Keeps.nullable_some {form : Form α} {depth : Nat} {a : α} (h : form.Keeps depth a)
    (hnull : form.write a ≠ .null) : form.nullable.Keeps depth (some a) where
  fits := h.fits
  read := by
    have hread := h.read
    have hsorted := sorted_ne_null hnull
    change form.nullable.read (form.write a).sorted = .ok (some a)
    cases hvalue : (form.write a).sorted <;> rw [hvalue] at hread hsorted <;>
      simp_all [nullable, Except.map]

theorem Keeps.nullable_none (form : Form α) (depth : Nat) : form.nullable.Keeps depth none where
  fits := trivial
  read := rfl

theorem mapM_sorted {form : Form α} {depth : Nat} {as : List α}
    (h : ∀ a ∈ as, form.Keeps depth a) :
    (as.map fun a ↦ (form.write a).sorted).mapM form.read = .ok as := by
  rw [mapM_eq_ok_iff, List.forall₂_map_left_iff, List.forall₂_same]
  intro a ha
  exact (h a ha).read

theorem itemsFit_map {form : Form α} {depth : Nat} {as : List α}
    (h : ∀ a ∈ as, form.Keeps depth a) : Json.ItemsFit depth (as.map form.write) := by
  induction as with
  | nil => trivial
  | cons a as ih =>
    obtain ⟨ha, has⟩ := List.forall_mem_cons.mp h
    exact ⟨ha.fits, ih has⟩

theorem Keeps.list {form : Form α} {depth : Nat} {as : List α} (h : ∀ a ∈ as, form.Keeps depth a) :
    form.list.Keeps (depth + 1) as where
  fits := ⟨Nat.succ_pos depth, itemsFit_map h⟩
  read := by
    change form.list.read (.arr (Json.sortedItems (as.map form.write))) = .ok as
    rw [Json.sortedItems_eq_map, List.map_map]
    exact mapM_sorted h

/-! ## Scalars -/

theorem keeps_bool (depth : Nat) (b : Bool) : bool.Keeps depth b where
  fits := trivial
  read := rfl

theorem keeps_text (expected : String) (depth : Nat) (s : String) :
    (text expected).Keeps depth s where
  fits := trivial
  read := rfl

/-- A form of texts with a meaning reads nothing but texts. -/
theorem read_refine_string_eq_ok_iff {decode : String → Except Fault β} {encode : β → String}
    {value : Json} {b : β} :
    (string.refine decode encode).read value = .ok b ↔
      ∃ s, value = .str s ∧ decode s = .ok b := by
  change (string.read value).bind decode = .ok b ↔ _
  cases value <;> simp [string, text, Except.bind]

theorem keeps_int (expected : String) {low high n : Int} (depth : Nat) (hlow : low ≤ n)
    (hhigh : n ≤ high) (hmin : -9223372036854775808 ≤ low) (hmax : high < 18446744073709551616) :
    (int expected low high).Keeps depth n where
  fits := ⟨hmin.trans hlow, hhigh.trans_lt hmax⟩
  read := if_pos ⟨hlow, hhigh⟩

theorem keeps_u8 (depth : Nat) (n : UInt8) : u8.Keeps depth n := by
  have hn : n.toNat < 256 := n.toNat_lt
  apply Keeps.iso
  · exact keeps_int "u8" depth (by omega) (by omega) (by decide) (by decide)
  · exact UInt8.ofNat_toNat

theorem keeps_u16 (depth : Nat) (n : UInt16) : u16.Keeps depth n := by
  have hn : n.toNat < 65536 := n.toNat_lt
  apply Keeps.iso
  · exact keeps_int "u16" depth (by omega) (by omega) (by decide) (by decide)
  · exact UInt16.ofNat_toNat

theorem keeps_u32 (depth : Nat) (n : UInt32) : u32.Keeps depth n := by
  have hn : n.toNat < 4294967296 := n.toNat_lt
  apply Keeps.iso
  · exact keeps_int "u32" depth (by omega) (by omega) (by decide) (by decide)
  · exact UInt32.ofNat_toNat

theorem keeps_u64 (depth : Nat) (n : UInt64) : u64.Keeps depth n := by
  have hn : n.toNat < 18446744073709551616 := n.toNat_lt
  apply Keeps.iso
  · exact keeps_int "u64" depth (by omega) (by omega) (by decide) (by decide)
  · exact UInt64.ofNat_toNat

theorem keeps_i32 (depth : Nat) (n : Int32) : i32.Keeps depth n := by
  have hlow : -2147483648 ≤ n.toInt := n.le_toInt
  have hhigh : n.toInt < 2147483648 := n.toInt_lt
  apply Keeps.iso
  · exact keeps_int "i32" depth hlow (by omega) (by decide) (by decide)
  · exact Int32.ofInt_toInt n

/-! ## Values with a meaning -/

theorem keeps_magic (depth : Nat) (m : Magic) : magic.Keeps depth m :=
  (keeps_u32 depth m.value).iso rfl

theorem keeps_duration (depth : Nat) {d : Time.Duration} (h : d.IsWhole) : duration.Keeps depth d :=
  (keeps_u64 depth d.seconds).iso (Time.Duration.ofSeconds_of_isWhole h)

theorem keeps_powLimit (depth : Nat) (limit : PowLimit) : powLimit.Keeps depth limit := by
  have hle := limit.bitLength_le
  have hbits : (UInt16.ofNat limit.bitLength).toNat = limit.bitLength := by
    rw [UInt16.toNat_ofNat']
    omega
  apply Keeps.iso
  · exact keeps_u16 depth (UInt16.ofNat limit.bitLength)
  · rw [hbits, PowLimit.ofBitLength_bitLength]

theorem keeps_hash (depth : Nat) (h : BlockHash) : hash.Keeps depth h := by
  apply Keeps.refine
  · exact keeps_text "a string" depth h.toHex
  · rw [BlockHash.ofHex_toHex]
    rfl

theorem keeps_keyVersion (depth : Nat) (version : KeyVersion) :
    keyVersion.Keeps depth version := by
  apply Keeps.refine
  · exact keeps_text "a string" depth version.toHex
  · rw [KeyVersion.ofHex_toHex]
    rfl

theorem keeps_bytes (depth : Nat) (bs : List UInt8) : bytes.Keeps depth bs := by
  apply Keeps.refine
  · exact keeps_text "a string" depth (Text.Hex.encode bs)
  · rw [Text.Hex.decode_encode]
    rfl

theorem keeps_instant (depth : Nat) (t : Time.Instant) : instant.Keeps depth t := by
  apply Keeps.refine
  · exact keeps_text "an RFC 3339 formatted date and time string" depth t.text
  · rw [Time.Instant.parse_text]
    rfl

end Definition.Form

end ChainParams
