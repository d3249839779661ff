import ChainParams.Text.Quoted
import ChainParams.Text.Utf8

/-!
# Hexadecimal text

Byte strings are written with two lower-case digits a byte and read in either case. Reading goes
over the bytes of the text: their number must be even, and then the first byte that is no digit is
reported with its position.
-/

namespace ChainParams.Text.Hex

/-- Why a text is no byte string. -/
inductive Fault where
  | oddLength
  | badDigit (byte : UInt8) (position : Nat)
  deriving DecidableEq, Repr

/-- A bad byte is shown as the character with that code point. -/
def Fault.message : Fault → String
  | .oddLength => "Odd number of digits"
  | .badDigit byte position =>
    s!"Invalid character {Quoted.char (Char.ofNat byte.toNat)} at position {position}"

def digit (n : Nat) : Char :=
  n.digitChar

def encodeChars (bytes : List UInt8) : List Char :=
  bytes.flatMap fun b ↦ [digit (b.toNat / 16), digit (b.toNat % 16)]

/-- Two lower-case digits for each byte. -/
def encode (bytes : List UInt8) : String :=
  String.ofList (encodeChars bytes)

/-- The value of the digit whose code is the byte. -/
def digitValue? (b : UInt8) : Option UInt8 :=
  if 48 ≤ b ∧ b ≤ 57 then some (b - 48)
  else if 97 ≤ b ∧ b ≤ 102 then some (b - 87)
  else if 65 ≤ b ∧ b ≤ 70 then some (b - 55)
  else none

def digitAt (b : UInt8) (position : Nat) : Except Fault UInt8 :=
  match digitValue? b with
  | some v => .ok v
  | none => .error (.badDigit b position)

/-- Reads pairs of digits, the first of them at `position`. -/
def decodePairs (position : Nat) : List UInt8 → Except Fault (List UInt8)
  | [] => .ok []
  | [_] => .error .oddLength
  | a :: b :: rest => do
    let high ← digitAt a position
    let low ← digitAt b (position + 1)
    let tail ← decodePairs (position + 2) rest
    return (16 * high + low) :: tail

def decodeBytes (digits : List UInt8) : Except Fault (List UInt8) :=
  if digits.length % 2 = 0 then decodePairs 0 digits else .error .oddLength

/-- The byte string that the text spells. -/
def decode (s : String) : Except Fault (List UInt8) :=
  decodeBytes (Utf8.bytes s)

theorem length_of_decodePairs {position : Nat} {digits bytes : List UInt8}
    (h : decodePairs position digits = .ok bytes) : 2 * bytes.length = digits.length := by
  fun_induction decodePairs position digits generalizing bytes with
  | case1 => cases h; rfl
  | case2 => cases h
  | case3 position a b rest ih =>
    cases ha : digitAt a position with
    | error e => simp [ha, bind, Except.bind] at h
    | ok high =>
      cases hb : digitAt b (position + 1) with
      | error e => simp [ha, hb, bind, Except.bind] at h
      | ok low =>
        cases hr : decodePairs (position + 2) rest with
        | error e => simp [ha, hb, hr, bind, Except.bind] at h
        | ok tail =>
          simp only [ha, hb, hr, bind, Except.bind, pure, Except.pure, Except.ok.injEq] at h
          subst h
          have := ih hr
          simp only [List.length_cons]
          omega

/-- Two digits make a byte. -/
theorem length_of_decode {s : String} {bytes : List UInt8} (h : decode s = .ok bytes) :
    2 * bytes.length = (Utf8.bytes s).length := by
  unfold decode decodeBytes at h
  split at h
  · exact length_of_decodePairs h
  · cases h

end ChainParams.Text.Hex
