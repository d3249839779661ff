import Mathlib.Data.Nat.Bitwise
import Mathlib.Tactic
import ChainParams.Proofs.Schedule
import ChainParams.Proofs.VoteWindow

/-!
# Voting under a schedule

A schedule is valid exactly if blocks can vote in each of its windows: a version has a bit for the
window below the three that mark the scheme, and there is a time at which the vote counts. In valid
schedules two windows share a bit of their masks exactly if their bits are the same.
-/

namespace ChainParams

open Time

namespace VoteWindow

/-- A version has a bit for the window that does not belong to the mark of the scheme, and there is
a time at which a vote counts. -/
structure TakesVotes (window : VoteWindow) : Prop where
  mask_ne_zero : window.mask ≠ 0
  mask_lt : window.mask.toNat < 2 ^ 29
  exists_isOpen : ∃ now, window.isOpen now

/-! ## Masks -/

theorem toNat_mask_of_lt {window : VoteWindow} (h : window.bit < 32) :
    window.mask.toNat = 2 ^ window.bit.toNat := by
  have hlt : window.bit.toNat < 32 := UInt8.lt_iff_toNat_lt.mp h
  have hshift : 2 ^ window.bit.toNat < 2 ^ 32 := Nat.pow_lt_pow_right (by decide) hlt
  calc
    window.mask.toNat = 1 <<< (window.bit.toNat % 32) % 2 ^ 32 := by
      rw [mask, if_pos h, UInt32.toNat_shiftLeft, UInt8.toNat_toUInt32, UInt32.toNat_one]
    _ = 2 ^ window.bit.toNat := by
      rw [Nat.mod_eq_of_lt hlt, Nat.one_shiftLeft, Nat.mod_eq_of_lt hshift]

theorem bit_lt_of_mask_ne_zero {window : VoteWindow} (h : window.mask ≠ 0) : window.bit < 32 := by
  by_contra hlarge
  exact h (if_neg hlarge)

/-- The mask has a bit exactly if that is the window's own. -/
theorem mask_usable_iff {window : VoteWindow} :
    window.mask ≠ 0 ∧ window.mask.toNat < 2 ^ 29 ↔ window.bit ≤ maxVoteBit := by
  have hmax : window.bit ≤ maxVoteBit ↔ window.bit.toNat < 29 :=
    UInt8.le_iff_toNat_le.trans Nat.lt_succ_iff.symm
  rw [hmax]
  constructor
  · rintro ⟨hne, hlt⟩
    rw [toNat_mask_of_lt (bit_lt_of_mask_ne_zero hne)] at hlt
    exact (Nat.pow_lt_pow_iff_right (by decide)).mp hlt
  · intro hbit
    have hmask := toNat_mask_of_lt (UInt8.lt_iff_toNat_lt.mpr (hbit.trans (by decide)))
    constructor
    · intro hzero
      rw [hzero] at hmask
      exact absurd hmask.symm (Nat.two_pow_pos _).ne'
    · rw [hmask]
      exact Nat.pow_lt_pow_right (by decide) hbit

theorem mask_and_mask_ne_zero_iff {window other : VoteWindow} (h : window.bit < 32)
    (hother : other.bit < 32) : window.mask &&& other.mask ≠ 0 ↔ window.bit = other.bit := by
  have hand : (window.mask &&& other.mask).toNat =
      (decide (window.bit.toNat = other.bit.toNat)).toNat * 2 ^ other.bit.toNat := by
    rw [UInt32.toNat_and, toNat_mask_of_lt h, toNat_mask_of_lt hother, Nat.and_two_pow,
      Nat.testBit_two_pow]
  rw [Ne, ← UInt32.toNat_inj, hand, ← UInt8.toNat_inj]
  by_cases heq : window.bit.toNat = other.bit.toNat <;> simp [heq]

/-! ## Times -/

theorem isOpen_iff {window : VoteWindow} {now : Instant} :
    window.isOpen now ↔ window.start ≤ now ∧ now < window.timeout := by
  rw [isOpen, Bool.and_eq_true, decide_eq_true_eq, decide_eq_true_eq]

/-- A window that is open at all is open when it starts. -/
theorem exists_isOpen_iff {window : VoteWindow} :
    (∃ now, window.isOpen now) ↔ window.start < window.timeout := by
  constructor
  · rintro ⟨now, hnow⟩
    obtain ⟨hstart, htimeout⟩ := isOpen_iff.mp hnow
    exact Int.lt_of_le_of_lt hstart htimeout
  · intro h
    exact ⟨window.start, isOpen_iff.mpr ⟨Int.le_refl _, h⟩⟩

theorem takesVotes_iff {window : VoteWindow} : window.TakesVotes ↔ window.validate = .ok () := by
  rw [validate_eq_ok_iff, ← mask_usable_iff, ← exists_isOpen_iff, and_assoc]
  exact ⟨fun h ↦ ⟨h.mask_ne_zero, h.mask_lt, h.exists_isOpen⟩, fun h ↦ ⟨h.1, h.2.1, h.2.2⟩⟩

end VoteWindow

namespace Schedule

/-- The windows of the schedule, in order of activation. -/
def windows (schedule : Schedule) : List VoteWindow :=
  schedule.toList.filterMap fun rule ↦ rule.2.vote

theorem mem_windows_iff {schedule : Schedule} {window : VoteWindow} :
    window ∈ schedule.windows ↔ ∃ upgrade, (schedule.get upgrade).vote = some window := by
  rw [windows, List.mem_filterMap]
  constructor
  · rintro ⟨⟨upgrade, rule⟩, hmem, hvote⟩
    obtain ⟨_, -, heq⟩ := List.mem_map.mp hmem
    cases heq
    exact ⟨upgrade, hvote⟩
  · rintro ⟨upgrade, hvote⟩
    exact ⟨_, schedule.mem_toList upgrade, hvote⟩

theorem validate_iff_forall_mem {schedule : Schedule} :
    schedule.validate = .ok () ↔ ∀ window ∈ schedule.windows, window.validate = .ok () := by
  rw [validate_eq_ok_iff]
  simp only [mem_windows_iff, forall_exists_index]
  exact forall_comm

/-- A schedule is valid exactly if each of its windows takes votes. Then every window has the single
bit of its number as its mask, and is open when it starts, but not before and no longer from its
timeout on. Windows of valid schedules, be it the same one or two, share a bit of their masks
exactly if they have the same number. -/
theorem validate_takesVotes (schedule : Schedule) :
    (schedule.validate = .ok () ↔ ∀ window ∈ schedule.windows, window.TakesVotes) ∧
    (schedule.validate = .ok () → ∀ window ∈ schedule.windows,
      window.mask.toNat = 2 ^ window.bit.toNat ∧
      window.isOpen window.start ∧
      (∀ now, now < window.start → ¬window.isOpen now) ∧
      (∀ now, window.timeout ≤ now → ¬window.isOpen now) ∧
      ∀ other : Schedule, other.validate = .ok () → ∀ rival ∈ other.windows,
        (window.mask &&& rival.mask ≠ 0 ↔ window.bit = rival.bit)) := by
  simp only [validate_iff_forall_mem]
  constructor
  · simp only [VoteWindow.takesVotes_iff]
  · intro hvalid window hwindow
    have hvotes := VoteWindow.takesVotes_iff.mpr (hvalid window hwindow)
    have hbit := VoteWindow.bit_lt_of_mask_ne_zero hvotes.mask_ne_zero
    have hopen := VoteWindow.exists_isOpen_iff.mp hvotes.exists_isOpen
    refine ⟨VoteWindow.toNat_mask_of_lt hbit, ?_, ?_, ?_, ?_⟩
    · exact VoteWindow.isOpen_iff.mpr ⟨Int.le_refl _, hopen⟩
    · intro now hnow hisOpen
      exact Int.not_le.mpr hnow (VoteWindow.isOpen_iff.mp hisOpen).1
    · intro now hnow hisOpen
      exact Int.not_lt.mpr hnow (VoteWindow.isOpen_iff.mp hisOpen).2
    · intro other hother rival hrival
      have hrivalVotes := VoteWindow.takesVotes_iff.mpr (hother rival hrival)
      exact VoteWindow.mask_and_mask_ne_zero_iff hbit
        (VoteWindow.bit_lt_of_mask_ne_zero hrivalVotes.mask_ne_zero)

/-- The leap second at the end of the year 2016. -/
def leapSecond : Instant :=
  { Instant.ofSeconds 1483228799 with
    nano := 1000000000
    nano_lt := by decide
    leap := fun _ ↦ by decide }

/-- Votes with the highest bit, in nothing but the leap second. -/
def leapWindow : VoteWindow := ⟨28, leapSecond, .ofSeconds 1483228800⟩

/-- Two upgrades are voted on at the same time, with the highest bit and with the lowest. -/
def leapSchedule : Schedule :=
  (never.set .v50Dummy (Activation.never.withVote leapWindow)).set .testDummy
    (Activation.never.withVote { leapWindow with bit := 0 })

/-- An upgrade is voted on with a bit beyond those of a version. -/
def farSchedule : Schedule :=
  never.set .v50Dummy (Activation.never.withVote { leapWindow with bit := 32 })

theorem validate_takesVotes_leapSchedule :
    leapWindow.mask.toNat = 2 ^ 28 ∧
    leapWindow.isOpen leapSecond ∧
    ¬leapWindow.isOpen (.ofSeconds 1483228799) ∧
    ¬leapWindow.isOpen (.ofSeconds 1483228800) ∧
    (leapWindow.mask &&& { leapWindow with bit := 0 }.mask ≠ 0 ↔ (28 : UInt8) = 0) ∧
    ¬∀ window ∈ farSchedule.windows, window.TakesVotes := by
  have hvalid : leapSchedule.validate = .ok () := by decide
  have hleap : leapWindow ∈ leapSchedule.windows := by decide
  have hlow : { leapWindow with bit := 0 } ∈ leapSchedule.windows := by decide
  obtain ⟨-, hwindows⟩ := validate_takesVotes leapSchedule
  obtain ⟨hmask, hstart, hbefore, hafter, hrivals⟩ := hwindows hvalid leapWindow hleap
  refine ⟨hmask, hstart, hbefore _ (by decide), hafter _ (by decide), ?_, ?_⟩
  · exact hrivals leapSchedule hvalid _ hlow
  · rw [← (validate_takesVotes farSchedule).1]
    decide

end Schedule

end ChainParams
