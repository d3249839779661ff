/-!
# Numbers as bytes

Words and longer numbers in the byte order of hexadecimal text, most significant byte first, and the
number that bytes in this order stand for. The order on the wire is the reverse.
-/

namespace ChainParams.Word

def bigEndian (w : UInt32) : List UInt8 :=
  [(w >>> 24).toUInt8, (w >>> 16).toUInt8, (w >>> 8).toUInt8, w.toUInt8]

/-- The last bytes of a number, as many as asked for. -/
def bytesOfNat (count n : Nat) : List UInt8 :=
  (List.range count).map fun i ↦ UInt8.ofNat (n >>> (8 * (count - 1 - i)))

/-- The number that bytes stand for, most significant byte first. -/
def ofBigEndian (bytes : List UInt8) : Nat :=
  bytes.foldl (fun n b ↦ 256 * n + b.toNat) 0

end ChainParams.Word
