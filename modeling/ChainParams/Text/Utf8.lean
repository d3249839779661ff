/-!
# Text as bytes

Lengths and positions in messages count the bytes of the UTF-8 form, not characters.
-/

namespace ChainParams.Text.Utf8

def encode (s : List Char) : List UInt8 :=
  s.flatMap String.utf8EncodeChar

/-- The number of bytes. -/
def size (s : List Char) : Nat :=
  (encode s).length

def bytes (s : String) : List UInt8 :=
  encode s.toList

end ChainParams.Text.Utf8
