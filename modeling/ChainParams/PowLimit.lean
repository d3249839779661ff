/-!
# Proof-of-work limits

The easiest target that a block may meet. Every limit is one less than a power of two, at most
`2 ^ 256 - 1`, and is told by the number of its bits.
-/

namespace ChainParams

structure PowLimit where
  bitLength : Nat
  bitLength_le : bitLength ≤ 256
  deriving DecidableEq, Repr

namespace PowLimit

/-- More than 256 bits count as 256. -/
def ofBitLength (bitLength : Nat) : PowLimit :=
  ⟨min bitLength 256, Nat.min_le_right bitLength 256⟩

/-- How many of the limit's bits lie in byte number `i` of 32, the most significant first. -/
def bitsInByte (limit : PowLimit) (i : Nat) : Nat :=
  min 8 (limit.bitLength - 8 * (31 - i))

/-- The limit as 32 bytes, most significant byte first. -/
def bytes (limit : PowLimit) : List UInt8 :=
  (List.range 32).map fun i ↦ UInt8.ofNat ((1 <<< limit.bitsInByte i) - 1)

end PowLimit

end ChainParams
