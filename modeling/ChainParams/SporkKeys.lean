import ChainParams.Text.Hex
import ChainParams.Time.Instant

/-!
# Spork keys

Sporks are switches that whoever holds a key can set. The key is replaced in two steps: from one
time on messages must be signed with the new key, and from another on the old key is refused.
-/

namespace ChainParams

open Text Time

structure SporkKeys where
  publicKey : List UInt8
  oldPublicKey : List UInt8
  enforceNewKey : Instant
  rejectOldKey : Instant
  deriving DecidableEq

namespace SporkKeys

/-- Why texts and timestamps make no spork keys. -/
inductive Fault where
  | badKey (cause : Hex.Fault)
  | badTimestamp (seconds : Int)
  deriving DecidableEq, Repr

def Fault.message : Fault → String
  | .badKey cause => s!"Invalid network: bad spork key: {cause.message}"
  | .badTimestamp seconds => s!"Invalid network: timestamp {seconds} out of range"

def readKey (text : String) : Except Fault (List UInt8) :=
  (Hex.decode text).mapError .badKey

/-- The instant of a timestamp in seconds since 1970-01-01. -/
def readTimestamp (seconds : Int) : Except Fault Instant :=
  match Instant.ofUnix? seconds 0 with
  | some t => .ok t
  | none => .error (.badTimestamp seconds)

/-- The keys are judged before the timestamps. -/
def ofHex (publicKey oldPublicKey : String) (enforceNewKey rejectOldKey : Int) :
    Except Fault SporkKeys := do
  return {
    publicKey := ← readKey publicKey
    oldPublicKey := ← readKey oldPublicKey
    enforceNewKey := ← readTimestamp enforceNewKey
    rejectOldKey := ← readTimestamp rejectOldKey }

/-- Whether a message must be signed with the new key. -/
def requiresNewKey (keys : SporkKeys) (now : Instant) : Bool :=
  keys.enforceNewKey ≤ now

/-- Whether a message may still be signed with the old key. -/
def acceptsOldKey (keys : SporkKeys) (now : Instant) : Bool :=
  now < keys.rejectOldKey

end SporkKeys

end ChainParams
