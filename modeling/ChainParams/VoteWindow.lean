import ChainParams.Time.Printer

/-!
# Vote windows

While a window is open, a block votes for an upgrade by setting a bit of its version. The three top
bits of a version mark the scheme, so that 28 is the highest bit to vote with.
-/

namespace ChainParams

open Time

def maxVoteBit : UInt8 := 28

structure VoteWindow where
  bit : UInt8
  /-- The median time from which votes count. -/
  start : Instant
  /-- The median time from which votes count no longer. -/
  timeout : Instant
  deriving DecidableEq

namespace VoteWindow

/-- Why nobody can vote in a window. -/
inductive Fault where
  | badBit (bit : UInt8)
  /-- It ends no later than it starts. -/
  | badTimes (timeout start : Instant)
  deriving DecidableEq

def Fault.message : Fault → String
  | .badBit bit => s!"Invalid network: vote bit {bit} exceeds {maxVoteBit}"
  | .badTimes timeout start =>
    s!"Invalid network: vote window ends ({timeout.display}) before it starts ({start.display})"

/-- The bit is judged before the times. -/
def validate (window : VoteWindow) : Except Fault Unit :=
  if maxVoteBit < window.bit then .error (.badBit window.bit)
  else if window.timeout ≤ window.start then .error (.badTimes window.timeout window.start)
  else .ok ()

/-- A window that was found valid. -/
def ofParts (bit : UInt8) (start timeout : Instant) : Except Fault VoteWindow := do
  let window : VoteWindow := ⟨bit, start, timeout⟩
  window.validate
  return window

/-- Whether a vote counts at a median time. -/
def isOpen (window : VoteWindow) (now : Instant) : Bool :=
  window.start ≤ now && now < window.timeout

/-- The version with just the window's bit set, and none if a version has no such bit. -/
def mask (window : VoteWindow) : UInt32 :=
  if window.bit < 32 then 1 <<< window.bit.toUInt32 else 0

end VoteWindow

end ChainParams
