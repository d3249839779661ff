import ChainParams.Proofs.Definition.RoundTrip
import ChainParams.Proofs.Network

/-!
# Definitions of networks with parts of seconds

A definition counts whole seconds. What is written for a network whose spans of time have parts of
seconds is the definition of the network with these parts cut off, and that network is read back.
Cutting off leaves a valid network valid unless its target spacing is below one second: the spacing
is then written as none at all, and the definition is refused.
-/

namespace ChainParams

open Time

/-! ## Whole seconds -/

/-- The span without its part of a second. -/
def Time.Duration.truncate (duration : Duration) : Duration :=
  .ofSeconds duration.seconds

theorem Time.Duration.isZero_truncate (duration : Duration) :
    duration.truncate.isZero = decide (duration.seconds = 0) :=
  Bool.and_true _

namespace ConsensusRules

/-- The rules with whole seconds only. -/
def truncate (rules : ConsensusRules) : ConsensusRules :=
  { rules with
    futureDriftPow := rules.futureDriftPow.truncate
    futureDriftPos := rules.futureDriftPos.truncate
    proposalEstablishment := rules.proposalEstablishment.truncate
    stakeMinAge := rules.stakeMinAge.truncate
    targetTimespan := rules.targetTimespan.truncate
    targetTimespanV2 := rules.targetTimespanV2.truncate
    targetSpacing := rules.targetSpacing.truncate
    timeSlot := rules.timeSlot.truncate }

theorem durations_truncate (rules : ConsensusRules) :
    rules.truncate.durations = rules.durations.map Duration.truncate := rfl

theorem wholeSeconds_truncate (rules : ConsensusRules) : rules.truncate.WholeSeconds := by
  unfold WholeSeconds
  rw [durations_truncate, List.forall_mem_map]
  intro duration _
  rfl

theorem validate_eq_ok_iff (rules : ConsensusRules) :
    rules.validate = .ok () ↔
      rules.targetSpacing.isZero = false ∧ rules.budgetCycleBlocks ≠ 0 := by
  unfold validate
  split_ifs with hspacing hbudget <;> simp [*]

/-- Of valid rules only the target spacing can become bad. -/
theorem validate_truncate {rules : ConsensusRules} (h : rules.validate = .ok ()) :
    rules.truncate.validate =
      if rules.targetSpacing.seconds = 0 then .error .noSpacing else .ok () := by
  have hbudget : rules.truncate.budgetCycleBlocks ≠ 0 := (rules.validate_eq_ok_iff.mp h).2
  have hspacing : rules.truncate.targetSpacing.isZero = decide (rules.targetSpacing.seconds = 0) :=
    rules.targetSpacing.isZero_truncate
  unfold validate
  rw [hspacing, if_neg hbudget]
  exact ite_congr (decide_eq_true_eq) (fun _ ↦ rfl) (fun _ ↦ rfl)

end ConsensusRules

namespace Network

/-- The network with whole seconds only. -/
def truncate (network : Network) : Network :=
  { network with rules := network.rules.truncate }

theorem validate_truncate {network : Network} (h : network.validate = .ok ()) :
    network.truncate.validate =
      if network.rules.targetSpacing.seconds = 0 then .error (.badRules network.name .noSpacing)
      else .ok () := by
  have hrules := (network.validate_eq_ok_iff.mp h).2.2.2.1
  calc
    network.truncate.validate =
        network.rules.truncate.validate.mapError (.badRules network.name) :=
      validate_withRules h network.rules.truncate
    _ = _ := by
      rw [ConsensusRules.validate_truncate hrules]
      split <;> rfl

end Network

namespace Definition

theorem write_truncate (network : Network) :
    Form.network.write network.truncate = Form.network.write network := rfl

/-! ## Texts -/

/-- The texts that a network is written as: on one line, on many, and as it is shown. -/
def texts (network : Network) : List String :=
  [(Form.network.write network).compact, (Form.network.write network).pretty,
    (Form.network.write network).pretty ++ "\n"]

/-- Each text is that of the definition with whole seconds. -/
theorem parse_json_of_mem_texts {network : Network} {text : String} (h : text ∈ texts network) :
    Json.parse text = .ok (Form.network.write network.truncate).sorted := by
  have hfits : (Form.network.write network.truncate).Fits Json.maxDepth :=
    (Form.keeps_network 123 network.rules.wholeSeconds_truncate).fits
  rw [write_truncate] at hfits ⊢
  simp only [texts, List.mem_cons, List.not_mem_nil, or_false] at h
  rcases h with rfl | rfl | rfl
  · exact Json.parse_compact hfits
  · exact Json.parse_pretty hfits
  · exact Json.parse_pretty_line hfits

theorem parse_of_spacing {network : Network} (hvalid : network.validate = .ok ())
    (hspacing : network.rules.targetSpacing.seconds ≠ 0) {text : String}
    (htext : text ∈ texts network) : parse text = .ok [network.truncate] := by
  apply parse_of_json _ network.rules.wholeSeconds_truncate (parse_json_of_mem_texts htext)
  rw [Network.validate_truncate hvalid, if_neg hspacing]

theorem parse_of_noSpacing {network : Network} (hvalid : network.validate = .ok ())
    (hspacing : network.rules.targetSpacing.seconds = 0) {text : String}
    (htext : text ∈ texts network) :
    parse text = .error (.network (.badRules network.name .noSpacing)) := by
  have hfault : network.truncate.validate = .error (.badRules network.name .noSpacing) := by
    rw [Network.validate_truncate hvalid, if_pos hspacing]
  have hdefines : Defines (Form.network.write network.truncate).sorted ([] ++ [network.truncate]) :=
    defines_write network.rules.wholeSeconds_truncate
  rw [parse_eq_readNetworks (parse_json_of_mem_texts htext)]
  exact readNetworks_of_invalid hdefines (List.forall_mem_nil _) hfault

/-- The definition of a valid network can be loaded again exactly if its target spacing has a whole
second. Then the network comes back without its parts of seconds. -/
theorem parse_texts (network : Network) (hvalid : network.validate = .ok ()) :
    ∀ text ∈ texts network,
      load (.ok text.toUTF8) = parse text ∧
      ((∃ networks, parse text = .ok networks) ↔ network.rules.targetSpacing.seconds ≠ 0) ∧
      (network.rules.targetSpacing.seconds ≠ 0 → parse text = .ok [network.truncate]) ∧
      (network.rules.targetSpacing.seconds = 0 →
        parse text = .error (.network (.badRules network.name .noSpacing))) := by
  intro text htext
  refine ⟨load_toUTF8 text, ⟨?_, ?_⟩, ?_, ?_⟩
  · rintro ⟨networks, hparse⟩ hspacing
    rw [parse_of_noSpacing hvalid hspacing htext] at hparse
    cases hparse
  · intro hspacing
    exact ⟨_, parse_of_spacing hvalid hspacing htext⟩
  · intro hspacing
    exact parse_of_spacing hvalid hspacing htext
  · intro hspacing
    exact parse_of_noSpacing hvalid hspacing htext

/-- The main network with blocks half a second further apart and hardly any drift. -/
def fractionalNetwork : Network :=
  { StandardNetwork.mainNetwork with
    rules := { StandardNetwork.mainRules with
      targetSpacing := ⟨60, 500000000, by decide⟩
      futureDriftPos := ⟨0, 999999999, by decide⟩ } }

theorem parse_texts_fractionalNetwork :
    parse ((Form.network.write fractionalNetwork).pretty ++ "\n") =
      .ok [{ StandardNetwork.mainNetwork with
        rules := { StandardNetwork.mainRules with futureDriftPos := .ofSeconds 0 } }] := by
  have hmem : (Form.network.write fractionalNetwork).pretty ++ "\n" ∈ texts fractionalNetwork :=
    List.mem_cons_of_mem _ (List.mem_cons_of_mem _ List.mem_cons_self)
  obtain ⟨-, -, hparse, -⟩ := parse_texts fractionalNetwork rfl _ hmem
  exact hparse (by decide)

/-- The regression test network with two blocks a second. -/
def halfSecondNetwork : Network :=
  { StandardNetwork.regtestNetwork with
    rules := { ConsensusRules.standard with targetSpacing := ⟨0, 500000000, by decide⟩ } }

/-- Not every valid network can be loaded again. -/
theorem not_parse_of_valid :
    ¬ ∀ network : Network, network.validate = .ok () →
      ∃ networks, parse (Form.network.write network).compact = .ok networks := by
  intro h
  obtain ⟨networks, hparse⟩ := h halfSecondNetwork rfl
  have hrefused : parse (Form.network.write halfSecondNetwork).compact =
      .error (.network (.badRules "regtest" .noSpacing)) :=
    parse_of_noSpacing rfl rfl List.mem_cons_self
  rw [hrefused] at hparse
  cases hparse

end Definition

end ChainParams
