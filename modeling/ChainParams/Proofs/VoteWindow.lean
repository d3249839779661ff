import Mathlib.Tactic
import ChainParams.VoteWindow

/-!
# Windows that can be voted in

A window is valid exactly if its bit is one to vote with and it starts before it ends.
-/

namespace ChainParams

theorem Time.Instant.not_le {s t : Time.Instant} : ¬ s ≤ t ↔ t < s :=
  Int.not_le

namespace VoteWindow

theorem validate_eq_ok_iff (window : VoteWindow) :
    window.validate = .ok () ↔ window.bit ≤ maxVoteBit ∧ window.start < window.timeout := by
  rw [← UInt8.not_lt, ← Time.Instant.not_le]
  unfold validate
  split_ifs with hbit htimes
  · simp [hbit]
  · simp [htimes]
  · simp [hbit, htimes]

/-- The times are looked at only if the bit is one to vote with. -/
theorem validate_eq_error_iff {window : VoteWindow} {fault : Fault} :
    window.validate = .error fault ↔
      (maxVoteBit < window.bit ∧ fault = .badBit window.bit) ∨
        (window.bit ≤ maxVoteBit ∧ window.timeout ≤ window.start ∧
          fault = .badTimes window.timeout window.start) := by
  rw [← UInt8.not_lt]
  unfold validate
  split_ifs with hbit htimes
  · simp [hbit, eq_comm]
  · simp [hbit, htimes, eq_comm]
  · simp [hbit, htimes]

end VoteWindow

end ChainParams
