import ChainParams.Text.Blank
import ChainParams.Time.Instant

/-!
# Reading date-times

A date, a letter T or a space, a clock time and an offset from universal time, with white space
allowed between most parts. Every number is held to its range as soon as it is read; the day of the
month, the year and the size of the offset are judged after the whole text was read.
-/

namespace ChainParams.Time

/-- Why a text is no date-time. -/
inductive Fault where
  /-- The text ends too early. -/
  | tooShort
  | invalid
  /-- The text goes on after the date-time. -/
  | tooLong
  | outOfRange
  /-- The instant lies outside the years that can be told. -/
  | impossible
  deriving DecidableEq, Repr

def Fault.message : Fault → String
  | .tooShort => "premature end of input"
  | .invalid => "input contains invalid characters"
  | .tooLong => "trailing input"
  | .outOfRange => "input is out of range"
  | .impossible => "no possible date and time matching input"

/-- Reads a part of the text and leaves the rest. -/
abbrev Reader (α : Type) := List Char → Except Fault (α × List Char)

namespace Reader

open Text.Blank

def isDigit (c : Char) : Bool :=
  '0' ≤ c && c ≤ '9'

/-- The value of decimal digits. -/
def valueOf (digits : List Char) : Nat :=
  digits.foldl (fun n c ↦ 10 * n + (c.toNat - '0'.toNat)) 0

/-- Splits off the digits at the start, at most so many. -/
def splitDigits : Nat → List Char → List Char × List Char
  | 0, s => ([], s)
  | _ + 1, [] => ([], [])
  | width + 1, c :: s =>
    if isDigit c then
      let (digits, rest) := splitDigits width s
      (c :: digits, rest)
    else ([], c :: s)

/-- A number of at least one and at most `width` digits. -/
def number (width : Nat) : Reader Nat
  | [] => .error .tooShort
  | c :: s =>
    let (digits, rest) := splitDigits width (c :: s)
    if digits = [] then .error .invalid else .ok (valueOf digits, rest)

/-- A character that must come next. -/
def literal (c : Char) : Reader Unit
  | [] => .error .tooShort
  | d :: s => if d = c then .ok ((), s) else .error .invalid

/-- A year after white space: up to four digits, or a sign and any number of them. -/
def year : Reader Int := fun s ↦ do
  let (n, rest) ←
    match skip s with
    | '-' :: s => (number s.length s).map fun (n, rest) ↦ (-(n : Int), rest)
    | '+' :: s => (number s.length s).map fun (n, rest) ↦ ((n : Int), rest)
    | s => (number 4 s).map fun (n, rest) ↦ ((n : Int), rest)
  if Int32.minValue.toInt ≤ n ∧ n ≤ Int32.maxValue.toInt then .ok (n, rest) else .error .outOfRange

/-- A number of one or two digits after white space, held to a range. -/
def part (low high : Nat) : Reader Nat := fun s ↦ do
  let (n, rest) ← number 2 (skip s)
  if low ≤ n ∧ n ≤ high then .ok (n, rest) else .error .outOfRange

/-- A part after white space and a separator. -/
def partAfter (separator : Char) (low high : Nat) : Reader Nat := fun s ↦ do
  let ((), rest) ← literal separator (skip s)
  part low high rest

def date : Reader Date := fun s ↦ do
  let (year, s) ← year s
  let (month, s) ← partAfter '-' 1 12 s
  let (day, s) ← partAfter '-' 1 31 s
  return (⟨year, month, day⟩, s)

/-- What stands between date and clock time. -/
def separator : Reader Unit
  | [] => .error .tooShort
  | c :: s => if c = 't' ∨ c = 'T' ∨ c = ' ' then .ok ((), s) else .error .invalid

/-- Nanoseconds after a point, if there is one. Digits after the ninth are passed over. -/
def fraction : Reader Nat
  | '.' :: s => do
    let (n, rest) ← number 9 s
    return (n * Nat.pow 10 (9 - (s.length - rest.length)), rest.dropWhile isDigit)
  | s => .ok (0, s)

/-- A clock time. -/
structure Clock where
  hour : Nat
  minute : Nat
  second : Nat
  nano : Nat

def clock : Reader Clock := fun s ↦ do
  let (hour, s) ← part 0 23 s
  let (minute, s) ← partAfter ':' 0 59 s
  let (second, s) ← partAfter ':' 0 60 s
  let (nano, s) ← fraction s
  return (⟨hour, minute, second, nano⟩, s)

/-- Two digits; fewer than two bytes are too few, whatever they are. -/
def twoDigits : Reader (Nat × Nat)
  | [] => .error .tooShort
  | [c] => if c.utf8Size < 2 then .error .tooShort else .error .invalid
  | c :: d :: s =>
    if isDigit c ∧ isDigit d then
      .ok ((c.toNat - '0'.toNat, d.toNat - '0'.toNat), s)
    else .error .invalid

def sign : Reader Int
  | [] => .error .tooShort
  | c :: s =>
    if c = '+' then .ok (1, s)
    else if c = '-' ∨ c = '\u2212' then .ok (-1, s)
    else .error .invalid

/-- A signed offset in seconds, of hours and minutes. -/
def signedOffset : Reader Int := fun s ↦ do
  let (sign, s) ← sign s
  let ((h₁, h₂), s) ← twoDigits s
  let ((m₁, m₂), s) ← twoDigits (s.dropWhile fun c ↦ c = ':' || isBlank c)
  if 6 ≤ m₁ then .error .outOfRange
  else .ok (sign * ((h₁ * 10 + h₂) * 3600 + (m₁ * 10 + m₂) * 60 : Nat), s)

def isUniversal (a b c : Char) : Bool :=
  (a = 'U' || a = 'u') && (b = 'T' || b = 't') && (c = 'C' || c = 'c')

/-- The offset from universal time in seconds. -/
def offset : Reader Int
  | a :: b :: c :: s =>
    if isUniversal a b c then .ok (0, s)
    else if a = 'Z' ∨ a = 'z' then .ok (0, b :: c :: s)
    else signedOffset (a :: b :: c :: s)
  | c :: s => if c = 'Z' ∨ c = 'z' then .ok (0, s) else signedOffset (c :: s)
  | [] => .error .tooShort

end Reader

namespace Instant

/-- The instant of a date and a clock time at an offset. -/
def ofLocal (date : Date) (clock : Reader.Clock) (offset : Int) : Except Fault Instant :=
  match date.count? with
  | none => .error .outOfRange
  | some count =>
    if date.year < -262143 ∨ 262142 < date.year ∨ 86400 ≤ offset.natAbs then .error .outOfRange
    else
      let leap := clock.second = 60
      let second := if leap then 59 else clock.second
      let nano := if leap then clock.nano + 1000000000 else clock.nano
      let total : Int := (clock.hour * 60 + clock.minute) * 60 + second - offset
      match ofParts? (count + total / 86400) (total % 86400).toNat nano with
      | some t => .ok t
      | none => .error .impossible

/-- The instant that a text tells. -/
def parseChars (s : List Char) : Except Fault Instant := do
  let (date, s) ← Reader.date s
  let ((), s) ← Reader.separator s
  let (clock, s) ← Reader.clock s
  let (offset, s) ← Reader.offset (Text.Blank.skip s)
  if Text.Blank.skip s = [] then ofLocal date clock offset else .error .tooLong

def parse (s : String) : Except Fault Instant :=
  parseChars s.toList

end Instant

end ChainParams.Time
