import ChainParams.Error
import ChainParams.Proofs.Checkpoints
import ChainParams.Proofs.Network
import ChainParams.Proofs.Schedule
import ChainParams.Proofs.Text.Numeral
import ChainParams.Proofs.VoteWindow
import ChainParams.StandardNetwork

/-!
# What a network must meet

A network has six requirements to meet, which are judged one after another. A network that meets all
of them is valid; otherwise the first one that it does not meet is reported, whatever is wrong
behind it.
-/

namespace ChainParams

open Text

namespace Network

/-! ## Requirements -/

inductive Requirement where
  | name
  | port
  /-- A checkpoint at height 0 is the genesis block. -/
  | genesis
  | spacing
  | budgetCycle
  | windows
  deriving DecidableEq

/-- The requirements in the order in which they are judged. -/
def Requirement.all : List Requirement :=
  [name, port, genesis, spacing, budgetCycle, windows]

/-- A plus sign or none, and digits of a number with 16 bits. -/
def IsPort (text : String) : Prop :=
  ∃ digits, (text.toList = digits ∨ text.toList = '+' :: digits) ∧ digits ≠ [] ∧
    (∀ c ∈ digits, c.isDigit) ∧ Nat.ofDigitChars 10 digits 0 ≤ 65535

/-- A window that can be voted in. -/
def IsUsable (window : VoteWindow) : Prop :=
  window.bit ≤ 28 ∧ window.start < window.timeout

def Meets (network : Network) : Requirement → Prop
  | .name => network.name ≠ ""
  | .port => IsPort network.defaultPort
  | .genesis => ∀ point ∈ network.checkpoints.toList, point.height = 0 →
      point.hash = network.genesisHash
  | .spacing => ¬(network.rules.targetSpacing.seconds = 0 ∧ network.rules.targetSpacing.nanos = 0)
  | .budgetCycle => network.rules.budgetCycleBlocks ≠ 0
  | .windows => ∀ upgrade window, (network.schedule.get upgrade).vote = some window →
      IsUsable window

/-- The network meets what is judged before the requirement, but not the requirement. -/
def IsFirstUnmet (network : Network) (requirement : Requirement) : Prop :=
  ∃ before after, Requirement.all = before ++ requirement :: after ∧
    (∀ earlier ∈ before, network.Meets earlier) ∧ ¬network.Meets requirement

/-- The upgrade is the first one, in order of activation, whose window cannot be voted in. -/
def IsFirstUnusable (network : Network) (upgrade : Upgrade) (window : VoteWindow) : Prop :=
  (∃ before after, Upgrade.all = before ++ upgrade :: after ∧
    ∀ earlier ∈ before, ∀ window, (network.schedule.get earlier).vote = some window →
      IsUsable window) ∧
  (network.schedule.get upgrade).vote = some window

/-- What is reported about a requirement that is not met. -/
inductive Reports (network : Network) : Requirement → Fault → Prop
  | name (h : network.name = "") : Reports network .name (.unnamed network.magic)
  | port (h : ¬IsPort network.defaultPort) :
      Reports network .port (.badPort network.name network.defaultPort)
  | genesis {hash : BlockHash} (hmem : ⟨0, hash⟩ ∈ network.checkpoints.toList)
      (hhash : hash ≠ network.genesisHash) :
      Reports network .genesis (.badGenesis network.name hash network.genesisHash)
  | spacing (hseconds : network.rules.targetSpacing.seconds = 0)
      (hnanos : network.rules.targetSpacing.nanos = 0) :
      Reports network .spacing (.badRules network.name .noSpacing)
  | budgetCycle (h : network.rules.budgetCycleBlocks = 0) :
      Reports network .budgetCycle (.badRules network.name .noBudgetCycle)
  | badBit {upgrade : Upgrade} {window : VoteWindow} (h : network.IsFirstUnusable upgrade window)
      (hbit : 28 < window.bit) :
      Reports network .windows (.badSchedule network.name ⟨upgrade, .badBit window.bit⟩)
  /-- The times are reported only of a window with a bit to vote with. -/
  | badTimes {upgrade : Upgrade} {window : VoteWindow}
      (h : network.IsFirstUnusable upgrade window) (hbit : window.bit ≤ 28)
      (htimes : window.timeout ≤ window.start) :
      Reports network .windows
        (.badSchedule network.name ⟨upgrade, .badTimes window.timeout window.start⟩)

/-! ## Judging one requirement -/

def judge (network : Network) : Requirement → Except Fault Unit
  | .name => network.validateName
  | .port => network.port.map fun _ ↦ ()
  | .genesis => network.validateGenesis
  | .spacing =>
    if network.rules.targetSpacing.isZero then .error (.badRules network.name .noSpacing)
    else .ok ()
  | .budgetCycle =>
    if network.rules.budgetCycleBlocks = 0 then .error (.badRules network.name .noBudgetCycle)
    else .ok ()
  | .windows => network.schedule.validate.mapError (.badSchedule network.name)

theorem validate_eq_forM (network : Network) :
    network.validate = Requirement.all.forM network.judge := by
  have hport (rest : Except Fault Unit) : ((network.judge .port).bind fun _ ↦ rest) =
      network.port.bind fun _ ↦ rest := by
    rw [judge]
    cases network.port <;> rfl
  -- The rules are judged at once, the spacing before the budget cycle.
  have hrules (rest : Except Fault Unit) :
      ((network.judge .spacing).bind fun _ ↦ (network.judge .budgetCycle).bind fun _ ↦ rest) =
        (network.rules.validate.mapError (.badRules network.name)).bind fun _ ↦ rest := by
    rw [judge, judge, ConsensusRules.validate]
    split_ifs <;> rfl
  have hwindows : ((network.judge .windows).bind fun _ ↦ .ok ()) = network.judge .windows := by
    cases network.judge .windows <;> rfl
  change _ = (network.judge .name).bind fun _ ↦ (network.judge .port).bind fun _ ↦
    (network.judge .genesis).bind fun _ ↦ (network.judge .spacing).bind fun _ ↦
      (network.judge .budgetCycle).bind fun _ ↦ (network.judge .windows).bind fun _ ↦ .ok ()
  rw [hwindows, hrules, hport]
  rfl

theorem exists_read_iff {text : String} :
    (∃ n, Numeral.read 10 UInt16.size text.toList = .ok n) ↔ IsPort text := by
  have hread (n : Nat) : Numeral.read 10 UInt16.size text.toList = .ok n ↔ _ :=
    Numeral.read_eq_ok_iff (by decide) (by decide)
  simp only [hread, Numeral.spells_ten_iff]
  constructor
  · rintro ⟨n, ⟨digits, htext, hne, hdigits, rfl⟩, hlimit⟩
    exact ⟨digits, htext, hne, hdigits, Nat.le_of_lt_succ hlimit⟩
  · rintro ⟨digits, htext, hne, hdigits, hlimit⟩
    exact ⟨_, ⟨digits, htext, hne, hdigits, rfl⟩, Nat.lt_succ_of_le hlimit⟩

theorem judge_port_eq_ok_iff {network : Network} :
    network.judge .port = .ok () ↔ IsPort network.defaultPort := by
  rw [← exists_read_iff, judge, port]
  split <;> simp [*, Except.map]

theorem judge_port_eq_error_iff {network : Network} {fault : Fault} :
    network.judge .port = .error fault ↔
      ¬IsPort network.defaultPort ∧ fault = .badPort network.name network.defaultPort := by
  rw [← exists_read_iff, judge, port]
  split <;> simp [*, Except.map, eq_comm]

theorem isUsable_iff {window : VoteWindow} : IsUsable window ↔ window.validate = .ok () :=
  window.validate_eq_ok_iff.symm

theorem judge_eq_ok_iff {network : Network} {requirement : Requirement} :
    network.judge requirement = .ok () ↔ network.Meets requirement := by
  cases requirement with
  | name => exact network.validateName_eq_ok_iff
  | port => exact judge_port_eq_ok_iff
  | genesis =>
    refine network.validateGenesis_eq_ok_iff.trans ?_
    simp only [Checkpoints.get?_eq_some_iff, Meets]
    constructor
    · rintro h ⟨height, hash⟩ hmem rfl
      exact h hash hmem
    · intro h hash hmem
      exact h _ hmem rfl
  | spacing =>
    rw [judge, Meets, Time.Duration.isZero]
    split_ifs <;> simp_all
  | budgetCycle =>
    rw [judge, Meets]
    split_ifs <;> simp_all
  | windows =>
    rw [judge, mapError_eq_ok_iff, network.schedule.validate_eq_ok_iff, Meets]
    simp only [isUsable_iff]

theorem judge_genesis_eq_error_iff {network : Network} {fault : Fault} :
    network.judge .genesis = .error fault ↔ network.Reports .genesis fault := by
  rw [judge, validateGenesis]
  constructor
  · intro h
    split at h
    · cases h
    · next hash hget =>
      split_ifs at h with hhash
      cases h
      exact .genesis (Checkpoints.get?_eq_some_iff.mp hget) hhash
  · intro h
    cases h with
    | genesis hmem hhash =>
      rw [Checkpoints.get?_eq_some_iff.mpr hmem]
      exact if_neg hhash

theorem judge_windows_eq_error_iff {network : Network} {fault : Fault} :
    network.judge .windows = .error fault ↔ network.Reports .windows fault := by
  rw [judge, mapError_eq_error_iff]
  constructor
  · rintro ⟨⟨upgrade, cause⟩, hcause, rfl⟩
    obtain ⟨before, after, hall, hbefore, window, hvote, hwindow⟩ :=
      Schedule.validate_eq_error_iff.mp hcause
    simp only [← isUsable_iff] at hbefore
    have hfirst : network.IsFirstUnusable upgrade window :=
      ⟨⟨before, after, hall, hbefore⟩, hvote⟩
    rcases VoteWindow.validate_eq_error_iff.mp hwindow with ⟨hbit, rfl⟩ | ⟨hbit, htimes, rfl⟩
    · exact .badBit hfirst hbit
    · exact .badTimes hfirst hbit htimes
  · intro h
    have hcause {upgrade : Upgrade} {window : VoteWindow} {cause : VoteWindow.Fault}
        (hfirst : network.IsFirstUnusable upgrade window)
        (hwindow : window.validate = .error cause) :
        network.schedule.validate = .error ⟨upgrade, cause⟩ := by
      obtain ⟨⟨before, after, hall, hbefore⟩, hvote⟩ := hfirst
      simp only [isUsable_iff] at hbefore
      exact Schedule.validate_eq_error_iff.mpr
        ⟨before, after, hall, hbefore, window, hvote, hwindow⟩
    cases h with
    | badBit hfirst hbit =>
      exact ⟨_, hcause hfirst (VoteWindow.validate_eq_error_iff.mpr (.inl ⟨hbit, rfl⟩)), rfl⟩
    | badTimes hfirst hbit htimes =>
      have hwindow := VoteWindow.validate_eq_error_iff.mpr (.inr ⟨hbit, htimes, rfl⟩)
      exact ⟨_, hcause hfirst hwindow, rfl⟩

theorem judge_eq_error_iff {network : Network} {requirement : Requirement} {fault : Fault} :
    network.judge requirement = .error fault ↔ network.Reports requirement fault := by
  cases requirement with
  | name =>
    rw [judge, validateName]
    constructor
    · intro h
      split_ifs at h with hname
      cases h
      exact .name hname
    · intro h
      cases h with
      | name hname => exact if_pos hname
  | port =>
    rw [judge_port_eq_error_iff]
    constructor
    · rintro ⟨hport, rfl⟩
      exact .port hport
    · intro h
      cases h with
      | port hport => exact ⟨hport, rfl⟩
  | genesis => exact judge_genesis_eq_error_iff
  | spacing =>
    rw [judge, Time.Duration.isZero]
    constructor
    · intro h
      split_ifs at h with hzero
      cases h
      rw [Bool.and_eq_true, decide_eq_true_eq, decide_eq_true_eq] at hzero
      exact .spacing hzero.1 hzero.2
    · intro h
      cases h with
      | spacing hseconds hnanos => simp [hseconds, hnanos]
  | budgetCycle =>
    rw [judge]
    constructor
    · intro h
      split_ifs at h with hzero
      cases h
      exact .budgetCycle hzero
    · intro h
      cases h with
      | budgetCycle hzero => exact if_pos hzero
  | windows => exact judge_windows_eq_error_iff

/-! ## Judging all of them -/

theorem kind_of_reports {network : Network} {requirement : Requirement} {fault : Fault}
    (h : network.Reports requirement fault) :
    (Error.network fault).kind =
      if requirement = .genesis then .invalidCheckpoints else .invalidNetwork := by
  cases h <;> rfl

theorem exists_reports {network : Network} {requirement : Requirement}
    (h : ¬network.Meets requirement) : ∃ fault, network.Reports requirement fault := by
  rw [← judge_eq_ok_iff] at h
  cases hjudge : network.judge requirement with
  | ok _ => exact absurd hjudge h
  | error fault => exact ⟨fault, judge_eq_error_iff.mp hjudge⟩

theorem Reports.not_meets {network : Network} {requirement : Requirement} {fault : Fault}
    (h : network.Reports requirement fault) : ¬network.Meets requirement := by
  rw [← judge_eq_error_iff] at h
  rw [← judge_eq_ok_iff, h]
  exact fun hok ↦ by cases hok

theorem IsFirstUnmet.not_meets {network : Network} {requirement : Requirement}
    (h : network.IsFirstUnmet requirement) : ¬network.Meets requirement := by
  obtain ⟨_, _, _, _, hunmet⟩ := h
  exact hunmet

theorem validate_eq_error_iff {network : Network} {fault : Fault} :
    network.validate = .error fault ↔
      ∃ requirement, network.IsFirstUnmet requirement ∧ network.Reports requirement fault := by
  rw [validate_eq_forM, forM_eq_error_iff]
  simp only [judge_eq_ok_iff, judge_eq_error_iff]
  constructor
  · rintro ⟨before, requirement, after, hall, hbefore, hreports⟩
    exact ⟨requirement, ⟨before, after, hall, hbefore, hreports.not_meets⟩, hreports⟩
  · rintro ⟨requirement, ⟨before, after, hall, hbefore, -⟩, hreports⟩
    exact ⟨before, requirement, after, hall, hbefore, hreports⟩

/-- Only a wrong genesis block makes the error one of checkpoints. -/
theorem kind_of_validate {network : Network} {fault : Fault} (h : network.validate = .error fault) :
    (network.IsFirstUnmet .genesis ∧ (Error.network fault).kind = .invalidCheckpoints) ∨
      (¬network.IsFirstUnmet .genesis ∧ (Error.network fault).kind = .invalidNetwork) := by
  by_cases hgenesis : network.IsFirstUnmet .genesis
  · obtain ⟨other, hother⟩ := exists_reports hgenesis.not_meets
    have hsame := validate_eq_error_iff.mpr ⟨.genesis, hgenesis, hother⟩
    rw [h] at hsame
    cases hsame
    exact .inl ⟨hgenesis, kind_of_reports hother⟩
  · obtain ⟨requirement, hfirst, hreports⟩ := validate_eq_error_iff.mp h
    have hne : requirement ≠ .genesis := by
      rintro rfl
      exact hgenesis hfirst
    refine .inr ⟨hgenesis, ?_⟩
    rw [kind_of_reports hreports, if_neg hne]

/-- A network is valid exactly if it meets every requirement. Otherwise the first one that it does
not meet is reported, as an error of checkpoints if it is that of the genesis block. -/
theorem validate_requirements (network : Network) :
    (network.validate = .ok () ↔ ∀ requirement, network.Meets requirement) ∧
    (∀ fault, network.validate = .error fault ↔
      ∃ requirement, network.IsFirstUnmet requirement ∧ network.Reports requirement fault) ∧
    ∀ fault, network.validate = .error fault →
      (network.IsFirstUnmet .genesis ∧ (Error.network fault).kind = .invalidCheckpoints) ∨
        (¬network.IsFirstUnmet .genesis ∧ (Error.network fault).kind = .invalidNetwork) := by
  refine ⟨?_, fun _ ↦ validate_eq_error_iff, fun _ ↦ kind_of_validate⟩
  rw [validate_eq_forM, forM_eq_ok_iff]
  simp only [judge_eq_ok_iff]
  constructor
  · intro h requirement
    apply h
    cases requirement <;> decide
  · intro h requirement _
    exact h requirement

/-- The main network with another genesis block, no time between blocks and a vote with a bit of the
scheme. -/
def threeFaultsNetwork : Network :=
  { StandardNetwork.mainNetwork with
    genesisHash := .zero
    rules := { StandardNetwork.mainRules with targetSpacing := .ofSeconds 0 }
    schedule := StandardNetwork.mainNetwork.schedule.set .pos
      (Activation.never.withVote ⟨29, .ofSeconds 1640995200, .ofSeconds 1672531200⟩) }

theorem validate_requirements_threeFaultsNetwork :
    threeFaultsNetwork.validate =
        .error (.badGenesis "main" StandardNetwork.mainGenesis .zero) ∧
      threeFaultsNetwork.IsFirstUnmet .genesis := by
  obtain ⟨-, -, hkind⟩ := validate_requirements threeFaultsNetwork
  have hfault : threeFaultsNetwork.validate =
      .error (.badGenesis "main" StandardNetwork.mainGenesis .zero) := rfl
  refine ⟨hfault, ?_⟩
  rcases hkind _ hfault with ⟨hfirst, -⟩ | ⟨-, hother⟩
  · exact hfirst
  · cases hother

end Network

end ChainParams
