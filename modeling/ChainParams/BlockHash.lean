import ChainParams.Text.Hex

/-!
# Block hashes

A hash of 32 bytes. Its text, here and in every definition, shows them in reverse, as explorers do;
the order of hashes is that of the bytes themselves.
-/

namespace ChainParams

open Text

structure BlockHash where
  /-- The bytes in internal order. -/
  bytes : List UInt8
  length_bytes : bytes.length = 32
  deriving DecidableEq

namespace BlockHash

/-- Why a text is no block hash. -/
inductive Fault where
  | badLength (bytes : Nat)
  | badDigits (text : String) (cause : Hex.Fault)
  deriving DecidableEq, Repr

def Fault.message : Fault → String
  | .badLength bytes => s!"Invalid block hash: expected 64 hex characters, got {bytes}"
  | .badDigits text cause => s!"Invalid block hash: {text}: {cause.message}"

def zero : BlockHash := ⟨List.replicate 32 0, List.length_replicate⟩

def isZero (hash : BlockHash) : Bool :=
  hash = zero

/-- The hash whose text spells a number below `2 ^ 256` with 64 digits. -/
def ofNat (n : Nat) : BlockHash :=
  ⟨(List.range 32).map fun i ↦ UInt8.ofNat (n >>> (8 * i)), by simp⟩

/-- The hash with the given bytes in internal order. -/
def ofBytes? (bytes : List UInt8) : Option BlockHash :=
  if h : bytes.length = 32 then some ⟨bytes, h⟩ else none

/-- The length is judged before the digits. -/
def ofHex (text : String) : Except Fault BlockHash :=
  if hlength : (Utf8.bytes text).length = 64 then
    match hdecode : Hex.decode text with
    | .ok bytes =>
      .ok ⟨bytes.reverse, by
        have := Hex.length_of_decode hdecode
        simp only [List.length_reverse]
        omega⟩
    | .error cause => .error (.badDigits text cause)
  else .error (.badLength (Utf8.bytes text).length)

def toHex (hash : BlockHash) : String :=
  Hex.encode hash.bytes.reverse

/-- The text with the name of its kind. -/
def labelled (hash : BlockHash) : String :=
  s!"BlockHash({hash.toHex})"

instance : LE BlockHash where
  le a b := a.bytes ≤ b.bytes

instance (a b : BlockHash) : Decidable (a ≤ b) :=
  inferInstanceAs (Decidable (a.bytes ≤ b.bytes))

end BlockHash

end ChainParams
