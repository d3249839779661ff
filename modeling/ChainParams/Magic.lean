import ChainParams.Text.Hex
import ChainParams.Text.Numeral
import ChainParams.Word

/-!
# Network magics

The 32-bit number that every message of a network starts with. It is written as eight hexadecimal
digits after `0x` and read in either radix.
-/

namespace ChainParams

open Text

structure Magic where
  value : UInt32
  deriving DecidableEq, Repr

namespace Magic

/-- Why a text is no magic. -/
structure Fault where
  text : String
  cause : Numeral.Fault
  deriving DecidableEq, Repr

def Fault.message (fault : Fault) : String :=
  s!"Invalid network: bad magic {Quoted.string fault.text}: {fault.cause.message}"

def text (magic : Magic) : String :=
  "0x" ++ Hex.encode (Word.bigEndian magic.value)

/-- The text with the name of its kind. -/
def labelled (magic : Magic) : String :=
  s!"NetworkMagic({magic.text})"

/-- The bytes on the wire. -/
def wire (magic : Magic) : List UInt8 :=
  (Word.bigEndian magic.value).reverse

def ofWire (bytes : List UInt8) : Magic :=
  ⟨UInt32.ofNat (Word.ofBigEndian bytes.reverse)⟩

/-- The number that a text spells: hexadecimal after `0x` or `0X`, otherwise decimal. -/
def readNumeral : List Char → Except Numeral.Fault Nat
  | '0' :: 'x' :: digits | '0' :: 'X' :: digits => Numeral.read 16 UInt32.size digits
  | digits => Numeral.read 10 UInt32.size digits

def parse (text : String) : Except Fault Magic :=
  match readNumeral text.toList with
  | .ok n => .ok ⟨UInt32.ofNat n⟩
  | .error cause => .error ⟨text, cause⟩

end Magic

end ChainParams
