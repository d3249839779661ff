/-!
# Durations

Spans of time to the nanosecond.
-/

namespace ChainParams.Time

structure Duration where
  seconds : UInt64
  /-- The part of a second beyond the whole ones. -/
  nanos : Nat
  nanos_lt : nanos < 1000000000
  deriving DecidableEq

namespace Duration

def ofSeconds (seconds : UInt64) : Duration := ⟨seconds, 0, by decide⟩

def isZero (duration : Duration) : Bool :=
  duration.seconds = 0 && duration.nanos = 0

end Duration

end ChainParams.Time
