import ChainParams.Text.Hex
import ChainParams.Word

/-!
# Extended key versions

The four bytes that an extended key starts with tell its network and whether it is private. They are
ordered as the numbers that they stand for, and come in pairs of a private and a public version.
-/

namespace ChainParams

open Text

structure KeyVersion where
  bytes : List UInt8
  length_bytes : bytes.length = 4
  deriving DecidableEq

namespace KeyVersion

/-- Why bytes or a text are no key version. -/
inductive Fault where
  | badLength (bytes : Nat)
  | badDigits (text : String) (cause : Hex.Fault)
  deriving DecidableEq, Repr

def Fault.message : Fault → String
  | .badLength bytes => s!"Invalid HD key version: expected 4 bytes, got {bytes}"
  | .badDigits text cause => s!"Invalid HD key version: {text}: {cause.message}"

/-- The version that a word stands for. -/
def ofWord (w : UInt32) : KeyVersion :=
  ⟨Word.bigEndian w, rfl⟩

def ofBytes (bytes : List UInt8) : Except Fault KeyVersion :=
  if h : bytes.length = 4 then .ok ⟨bytes, h⟩ else .error (.badLength bytes.length)

/-- The digits are judged before the length. -/
def ofHex (text : String) : Except Fault KeyVersion :=
  match Hex.decode text with
  | .ok bytes => ofBytes bytes
  | .error cause => .error (.badDigits text cause)

def toHex (version : KeyVersion) : String :=
  Hex.encode version.bytes

/-- The number that the bytes stand for. -/
def toNat (version : KeyVersion) : Nat :=
  Word.ofBigEndian version.bytes

/-- The text with the name of its kind. -/
def labelled (version : KeyVersion) : String :=
  s!"HdKeyVersion({version.toHex})"

instance : LE KeyVersion where
  le a b := a.bytes ≤ b.bytes

instance : LT KeyVersion where
  lt a b := a.bytes < b.bytes

instance (a b : KeyVersion) : Decidable (a ≤ b) :=
  inferInstanceAs (Decidable (a.bytes ≤ b.bytes))

instance (a b : KeyVersion) : Decidable (a < b) :=
  inferInstanceAs (Decidable (a.bytes < b.bytes))

end KeyVersion

/-- The key versions of one network. -/
structure KeyVersions where
  privateVersion : KeyVersion
  publicVersion : KeyVersion
  deriving DecidableEq

namespace KeyVersions

/-- The private bytes are judged first. -/
def ofBytes (privateBytes publicBytes : List UInt8) : Except KeyVersion.Fault KeyVersions := do
  let privateVersion ← KeyVersion.ofBytes privateBytes
  let publicVersion ← KeyVersion.ofBytes publicBytes
  return ⟨privateVersion, publicVersion⟩

def labelled (versions : KeyVersions) : String :=
  "HdKeyVersions \x7b private: " ++ versions.privateVersion.labelled ++ ", public: "
    ++ versions.publicVersion.labelled ++ " \x7d"

end KeyVersions

end ChainParams
