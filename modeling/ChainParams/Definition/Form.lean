import ChainParams.Definition.Fault
import ChainParams.Magic
import ChainParams.PowLimit
import ChainParams.Time.Duration
import ChainParams.Time.Printer
import ChainParams.Upgrade

/-!
# Forms of simple values

A form tells how the values of a type are written as JSON and which JSON values are read as such
values. Reading may take more than writing gives, but takes that. Here are the forms of scalars and
of texts with a meaning, and the ways to make new forms from old ones.
-/

namespace ChainParams.Definition

open Text Time

structure Form (α : Type) where
  read : Json → Except Fault α
  write : α → Json

namespace Form

/-! ## Making forms -/

/-- A type that stands for all values of another one. -/
def iso {α β : Type} (form : Form α) (decode : α → β) (encode : β → α) : Form β where
  read value := (form.read value).map decode
  write b := form.write (encode b)

/-- A type that stands for some values of another one. -/
def refine {α β : Type} (form : Form α) (decode : α → Except Fault β) (encode : β → α) : Form β where
  read value := do decode (← form.read value)
  write b := form.write (encode b)

/-- Null stands for no value. -/
def nullable {α : Type} (form : Form α) : Form (Option α) where
  read
    | .null => .ok none
    | value => (form.read value).map some
  write
    | none => .null
    | some a => form.write a

def list {α : Type} (form : Form α) : Form (List α) where
  read
    | .arr items => items.mapM form.read
    | value => .error (.wrongType value "a sequence")
  write as := .arr (as.map form.write)

/-- One of several variants, which are told by name. -/
def variant {α : Type} (variants : List α) (name : α → String) : Form α where
  read value :=
    let find (text : String) : Except Fault α :=
      match variants.find? fun a ↦ name a = text with
      | some a => .ok a
      | none => .error (.unknownVariant text (variants.map name))
    match value with
    | .str text => find text
    | .obj [(key, value)] => do
      let a ← find key
      match value with
      | .null => return a
      | value => throw (.wrongType value "unit")
    | .obj _ => .error .notSingleKey
    | value => .error (.wrongType value "string or map")
  write a := .str (name a)

/-! ## Scalars -/

def bool : Form Bool where
  read
    | .bool value => .ok value
    | value => .error (.wrongType value "a boolean")
  write := .bool

/-- Any text; `expected` tells what the text is for. -/
def text (expected : String) : Form String where
  read
    | .str value => .ok value
    | value => .error (.wrongType value expected)
  write := .str

def string : Form String := text "a string"

/-- The integers from `low` to `high`. -/
def int (expected : String) (low high : Int) : Form Int where
  read
    | .int value =>
      if low ≤ value ∧ value ≤ high then .ok value else .error (.outOfRange value expected)
    | value => .error (.wrongType value expected)
  write := .int

def u8 : Form UInt8 :=
  (int "u8" 0 255).iso (UInt8.ofNat ·.toNat) (·.toNat)

def u16 : Form UInt16 :=
  (int "u16" 0 65535).iso (UInt16.ofNat ·.toNat) (·.toNat)

def u32 : Form UInt32 :=
  (int "u32" 0 4294967295).iso (UInt32.ofNat ·.toNat) (·.toNat)

def u64 : Form UInt64 :=
  (int "u64" 0 18446744073709551615).iso (UInt64.ofNat ·.toNat) (·.toNat)

def i32 : Form Int32 :=
  (int "i32" (-2147483648) 2147483647).iso Int32.ofInt Int32.toInt

/-! ## Values with a meaning -/

def magic : Form Magic :=
  u32.iso Magic.mk Magic.value

/-- Whole seconds; what goes beyond is not written. -/
def duration : Form Duration :=
  u64.iso Duration.ofSeconds Duration.seconds

/-- The number of bits; more than 256 count as 256. -/
def powLimit : Form PowLimit :=
  u16.iso (PowLimit.ofBitLength ·.toNat) (UInt16.ofNat ·.bitLength)

def hash : Form BlockHash :=
  string.refine (fun s ↦ (BlockHash.ofHex s).mapError .badHash) BlockHash.toHex

def keyVersion : Form KeyVersion :=
  string.refine (fun s ↦ (KeyVersion.ofHex s).mapError .badKeyVersion) KeyVersion.toHex

/-- Bytes as hexadecimal text. -/
def bytes : Form (List UInt8) :=
  string.refine (fun s ↦ (Hex.decode s).mapError .badHex) Hex.encode

def instant : Form Instant :=
  (text "an RFC 3339 formatted date and time string").refine
    (fun s ↦ (Instant.parse s).mapError .badTime) Instant.text

def upgrade : Form Upgrade :=
  variant Upgrade.all Upgrade.name

end Form

end ChainParams.Definition
