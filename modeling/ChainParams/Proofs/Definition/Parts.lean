import ChainParams.Definition.Parts
import ChainParams.Proofs.Checkpoints
import ChainParams.Proofs.Definition.Record
import ChainParams.Proofs.Schedule

/-!
# The parts of a network that definitions keep

Every part of a network is kept by its form, but for consensus rules with parts of seconds. The
rules of the upgrades are written in order of activation and come back in order of their names, from
which the same schedule results.
-/

namespace ChainParams

/-- The spans of time that the rules fix. -/
def ConsensusRules.durations (rules : ConsensusRules) : List Time.Duration :=
  [rules.futureDriftPow, rules.futureDriftPos, rules.proposalEstablishment, rules.stakeMinAge,
    rules.targetTimespan, rules.targetTimespanV2, rules.targetSpacing, rules.timeSlot]

/-- No span has a part of a second. -/
def ConsensusRules.WholeSeconds (rules : ConsensusRules) : Prop :=
  ∀ duration ∈ rules.durations, duration.IsWhole

namespace Definition.Form

open ChainParams.Definition.Field

/-! ## Peers and addresses -/

theorem keeps_dnsSeed (depth : Nat) (seed : DnsSeed) : dnsSeed.Keeps (depth + 1) seed :=
  keeps_record (by decide)
    ⟨keeps_required (keeps_text _ depth _), keeps_default (keeps_bool depth _), trivial⟩ rfl

theorem keeps_addressPrefixes (depth : Nat) (prefixes : AddressPrefixes) :
    addressPrefixes.Keeps (depth + 1) prefixes :=
  keeps_record (by decide)
    ⟨keeps_required (keeps_u8 depth _), keeps_required (keeps_u8 depth _),
      keeps_required (keeps_u8 depth _), keeps_required (keeps_u8 depth _), trivial⟩ rfl

theorem keeps_keyVersions (depth : Nat) (versions : KeyVersions) :
    keyVersions.Keeps (depth + 1) versions :=
  keeps_record (by decide)
    ⟨keeps_required (keeps_keyVersion depth _), keeps_required (keeps_keyVersion depth _), trivial⟩
    rfl

/-! ## Blocks -/

theorem keeps_genesisHeader (depth : Nat) (header : GenesisHeader) :
    genesisHeader.Keeps (depth + 1) header :=
  keeps_record (by decide)
    ⟨keeps_required (keeps_i32 depth _), keeps_default (keeps_hash depth _),
      keeps_required (keeps_hash depth _), keeps_required (keeps_u32 depth _),
      keeps_required (keeps_u32 depth _), keeps_required (keeps_u32 depth _), trivial⟩ rfl

theorem keeps_badBlock (depth : Nat) (block : BadBlock) : badBlock.Keeps (depth + 1) block :=
  keeps_record (by decide)
    ⟨keeps_required (keeps_u32 depth _), keeps_required (keeps_u32 depth _), trivial⟩ rfl

theorem keeps_checkpoint (depth : Nat) (point : Checkpoint) :
    checkpoint.Keeps (depth + 1) point :=
  keeps_record (by decide)
    ⟨keeps_required (keeps_u32 depth _), keeps_required (keeps_hash depth _), trivial⟩ rfl

theorem keeps_checkpoints (depth : Nat) (points : Checkpoints) :
    checkpoints.Keeps (depth + 1 + 1) points := by
  apply Keeps.refine
  · apply Keeps.list
    intro point _
    exact keeps_checkpoint depth point
  · rw [Checkpoints.ofList_of_ascending points.ascending]
    rfl

/-! ## Rules -/

theorem keeps_rules (depth : Nat) {rules : ConsensusRules} (h : rules.WholeSeconds) :
    Form.rules.Keeps (depth + 1) rules := by
  simp only [ConsensusRules.WholeSeconds, ConsensusRules.durations, List.forall_mem_cons] at h
  obtain ⟨hdriftPow, hdriftPos, hproposal, hstake, htimespan, htimespanV2, hspacing, hslot, -⟩ := h
  exact keeps_record (by decide)
    ⟨keeps_default (keeps_bool depth _), keeps_default (keeps_powLimit depth _),
      keeps_default (keeps_powLimit depth _), keeps_default (keeps_powLimit depth _),
      keeps_default (keeps_u32 depth _), keeps_default (keeps_u32 depth _),
      keeps_default (keeps_u16 depth _), keeps_default (keeps_duration depth hdriftPow),
      keeps_default (keeps_duration depth hdriftPos), keeps_default (keeps_u32 depth _),
      keeps_default (keeps_duration depth hproposal), keeps_default (keeps_duration depth hstake),
      keeps_default (keeps_u32 depth _), keeps_default (keeps_duration depth htimespan),
      keeps_default (keeps_duration depth htimespanV2),
      keeps_default (keeps_duration depth hspacing), keeps_default (keeps_duration depth hslot),
      trivial⟩ rfl

theorem keeps_sporkKeys (depth : Nat) (keys : SporkKeys) : sporkKeys.Keeps (depth + 1) keys :=
  keeps_record (by decide)
    ⟨keeps_required (keeps_bytes depth _), keeps_required (keeps_bytes depth _),
      keeps_required (keeps_instant depth _), keeps_required (keeps_instant depth _), trivial⟩ rfl

theorem keeps_zerocoin (depth : Nat) (heights : ZerocoinHeights) :
    zerocoin.Keeps (depth + 1) heights :=
  keeps_record (by decide)
    ⟨keeps_default (keeps_u32 depth _), keeps_default (keeps_u32 depth _),
      keeps_default (keeps_u32 depth _), keeps_default (keeps_u32 depth _),
      keeps_default (keeps_u32 depth _), keeps_default (keeps_u32 depth _), trivial⟩ rfl

/-! ## Upgrades -/

theorem keeps_voteWindow (depth : Nat) (window : VoteWindow) :
    voteWindow.Keeps (depth + 1) window :=
  keeps_record (by decide)
    ⟨keeps_required (keeps_u8 depth _), keeps_required (keeps_instant depth _),
      keeps_required (keeps_instant depth _), trivial⟩ rfl

theorem keeps_activation (depth : Nat) (rule : Activation) :
    activation.Keeps (depth + 1 + 1) rule :=
  keeps_record (by decide)
    ⟨keeps_nullable (keeps_u32 (depth + 1)) (fun _ ↦ Json.noConfusion) rule.height,
      keeps_optional (keeps_hash (depth + 1)) (fun _ ↦ Json.noConfusion) rule.block,
      keeps_optional (keeps_voteWindow depth) (fun _ ↦ Json.noConfusion) rule.vote, trivial⟩ rfl

/-- The members that a schedule is written as, in order of activation. -/
def ruleMembers (schedule : Schedule) : List (String × Json) :=
  schedule.toList.map fun rule ↦ (rule.1.name, activation.write rule.2)

theorem read_schedule (members : List (String × Json)) :
    schedule.read (.obj members) = (members.mapM readRule).map Schedule.ofList := rfl

theorem keys_ruleMembers (schedule : Schedule) :
    (ruleMembers schedule).map Prod.fst = Upgrade.all.map Upgrade.name := by
  calc
    (ruleMembers schedule).map Prod.fst = (schedule.toList.map Prod.fst).map Upgrade.name := by
      rw [ruleMembers, List.map_map, List.map_map]
      rfl
    _ = Upgrade.all.map Upgrade.name := by rw [schedule.map_fst_toList]

theorem nodup_ruleMembers (schedule : Schedule) : ((ruleMembers schedule).map Prod.fst).Nodup := by
  rw [keys_ruleMembers]
  decide

theorem membersFit_rules (depth : Nat) (rules : List (Upgrade × Activation)) :
    Json.MembersFit (depth + 1 + 1)
      (rules.map fun rule ↦ (rule.1.name, activation.write rule.2)) := by
  induction rules with
  | nil => trivial
  | cons rule rest ih => exact ⟨(keeps_activation depth rule.2).fits, ih⟩

theorem readRule_sorted (rule : Upgrade × Activation) :
    readRule (rule.1.name, (activation.write rule.2).sorted) = .ok rule := by
  rw [readRule, Upgrade.ofName?_name, (keeps_activation 0 rule.2).read]
  rfl

/-- The rules come back in the order of the members, from which the same schedule results. -/
theorem read_schedule_of_perm {s : Schedule} {members others : List (String × Json)}
    (hread : List.Forall₂ (fun member rule ↦ readRule member = .ok rule) members s.toList)
    (hperm : others.Perm members) : schedule.read (.obj others) = .ok s := by
  obtain ⟨rules, hrules, hrulesPerm⟩ := List.perm_comp_forall₂ hperm hread
  rw [read_schedule, mapM_eq_ok_iff.mpr hrules, Except.map, Schedule.ofList_of_perm hrulesPerm]

theorem keeps_schedule (depth : Nat) (s : Schedule) : schedule.Keeps (depth + 1 + 1 + 1) s where
  fits := ⟨Nat.succ_pos (depth + 1 + 1), membersFit_rules depth s.toList⟩
  read := by
    have hread : List.Forall₂ (fun member rule ↦ readRule member = .ok rule)
        (Json.sortedMembers (ruleMembers s)) s.toList := by
      rw [Json.sortedMembers_eq_map, ruleMembers, List.map_map, List.forall₂_map_left_iff,
        List.forall₂_same]
      intro rule _
      exact readRule_sorted rule
    have hnodup : ((Json.sortedMembers (ruleMembers s)).map Prod.fst).Nodup := by
      rw [Json.keys_sortedMembers]
      exact nodup_ruleMembers s
    -- The keys are sorted by their names, not in the order of activation.
    exact read_schedule_of_perm hread (Json.sortMembers_perm hnodup)

end Definition.Form

end ChainParams
