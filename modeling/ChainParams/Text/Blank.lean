/-!
# White space

The characters with the Unicode property White_Space, 25 in number.
-/

namespace ChainParams.Text.Blank

/-- Closed ranges of code points, ascending and apart. -/
def ranges : List (Nat × Nat) :=
  [(0x09, 0x0D), (0x20, 0x20), (0x85, 0x85), (0xA0, 0xA0), (0x1680, 0x1680), (0x2000, 0x200A),
   (0x2028, 0x2029), (0x202F, 0x202F), (0x205F, 0x205F), (0x3000, 0x3000)]

def isBlank (c : Char) : Bool :=
  ranges.any fun range ↦ range.1 ≤ c.toNat && c.toNat ≤ range.2

/-- The text from its first visible character on. -/
def skip (s : List Char) : List Char :=
  s.dropWhile isBlank

end ChainParams.Text.Blank
