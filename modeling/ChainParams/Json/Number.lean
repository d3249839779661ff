import ChainParams.Json.Basic

/-!
# Number literals

A literal is taken in one character at a time. It is an integer if it has neither point nor
exponent, is not `-0` and fits into 64 bits, signed or unsigned; otherwise it is a float. The digits
of a float are collected while they fit into 64 bits. Of the further ones, those before the point
only count as places and those after it not at all.
-/

namespace ChainParams.Json

/-- What the characters of a literal so far are followed by. -/
inductive NumberPhase where
  /-- A sign, to be followed by a digit. -/
  | sign
  /-- A leading zero, to which no digit may be added. -/
  | zero
  | whole
  /-- The point, to be followed by a digit. -/
  | point
  | fraction
  /-- The exponent mark, to be followed by a sign or a digit. -/
  | mark
  /-- The sign of the exponent, to be followed by a digit. -/
  | markSign
  | exponent
  deriving DecidableEq, Repr

/-- The literal may end here. -/
def NumberPhase.complete : NumberPhase → Bool
  | .zero | .whole | .fraction | .exponent => true
  | .sign | .point | .mark | .markSign => false

/-- The parts of a literal; digits are values from 0 to 9, the last first. -/
structure NumberText where
  phase : NumberPhase
  negative : Bool
  whole : List Nat
  fraction : List Nat
  exponentNegative : Bool
  exponent : List Nat
  deriving DecidableEq, Repr

def digitValue? (c : Char) : Option Nat :=
  if '0' ≤ c ∧ c ≤ '9' then some (c.toNat - '0'.toNat) else none

/-- What becomes of a literal at a character. -/
inductive NumberStep where
  | extended (literal : NumberText)
  /-- The literal is complete and the character does not belong to it. -/
  | ended
  | malformed

namespace NumberText

/-- The literal that starts with a sign or with its first digit. -/
def start? (c : Char) : Option NumberText :=
  if c = '-' then some ⟨.sign, true, [], [], false, []⟩
  else (digitValue? c).map fun d ↦ ⟨if d = 0 then .zero else .whole, false, [d], [], false, []⟩

def push (t : NumberText) (c : Char) : NumberStep :=
  match t.phase, digitValue? c with
  | .sign, some d =>
    .extended { t with phase := if d = 0 then .zero else .whole, whole := [d] }
  | .zero, some _ => .malformed
  | .whole, some d => .extended { t with whole := d :: t.whole }
  | .point, some d | .fraction, some d =>
    .extended { t with phase := .fraction, fraction := d :: t.fraction }
  | .mark, some d | .markSign, some d | .exponent, some d =>
    .extended { t with phase := .exponent, exponent := d :: t.exponent }
  | .zero, none | .whole, none =>
    if c = '.' then .extended { t with phase := .point }
    else if c = 'e' ∨ c = 'E' then .extended { t with phase := .mark }
    else .ended
  | .fraction, none =>
    if c = 'e' ∨ c = 'E' then .extended { t with phase := .mark } else .ended
  | .mark, none =>
    if c = '+' then .extended { t with phase := .markSign }
    else if c = '-' then .extended { t with phase := .markSign, exponentNegative := true }
    else .malformed
  | .exponent, none => .ended
  | .sign, none | .point, none | .markSign, none => .malformed

end NumberText

/-- The number that digits spell, the last digit first. -/
def ofDigits : List Nat → Nat
  | [] => 0
  | d :: ds => d + 10 * ofDigits ds

/-- The digits collected for a float, as the number they spell and the power of ten it stands at. -/
structure Significand where
  value : Nat
  exponent : Int
  full : Bool
  deriving DecidableEq, Repr

namespace Significand

/-- Takes in a digit before the point. -/
def pushWhole (s : Significand) (d : Nat) : Significand :=
  if s.full ∨ UInt64.size ≤ 10 * s.value + d then { s with exponent := s.exponent + 1, full := true }
  else { s with value := 10 * s.value + d }

/-- Takes in a digit after the point. -/
def pushFraction (s : Significand) (d : Nat) : Significand :=
  if s.full ∨ UInt64.size ≤ 10 * s.value + d then { s with full := true }
  else { s with value := 10 * s.value + d, exponent := s.exponent - 1 }

end Significand

namespace NumberText

/-- At the point, digits are collected anew even if those before it were too many. -/
def significand (t : NumberText) : Significand :=
  let whole := t.whole.reverse.foldl Significand.pushWhole ⟨0, 0, false⟩
  t.fraction.reverse.foldl Significand.pushFraction { whole with full := false }

/-- The float that the literal spells, or nothing if it is too large. -/
def float? (t : NumberText) : Option Json :=
  let s := t.significand
  let shift : Int := ofDigits t.exponent
  let exponent := s.exponent + if t.exponentNegative then -shift else shift
  (Decimal.Binary64.ofScientific s.value exponent).map (Json.float t.negative)

/-- The number that a complete literal spells, or nothing if it is too large for a float. -/
def value? (t : NumberText) : Option Json :=
  let n := ofDigits t.whole
  if t.fraction = [] ∧ t.exponent = [] then
    if t.negative then
      if 0 < n ∧ n ≤ UInt64.size / 2 then some (.int (-n)) else t.float?
    else if n < UInt64.size then some (.int n)
    else t.float?
  else t.float?

end NumberText

end ChainParams.Json
