import ChainParams.Network
import ChainParams.Proofs.Computation

/-!
# Valid networks

A network is valid if nothing is wrong with its name, port, genesis block, consensus rules and
schedule. Only one of these looks at the rules, so a valid network that is given other rules is
judged by them alone.
-/

namespace ChainParams.Network

theorem validateName_eq_ok_iff (network : Network) :
    network.validateName = .ok () ↔ network.name ≠ "" := by
  unfold validateName
  split <;> simp [*]

theorem validateGenesis_eq_ok_iff (network : Network) :
    network.validateGenesis = .ok () ↔
      ∀ hash, network.checkpoints.get? 0 = some hash → hash = network.genesisHash := by
  unfold validateGenesis
  cases network.checkpoints.get? 0 with
  | none => simp
  | some hash => by_cases h : hash = network.genesisHash <;> simp [h]

theorem validate_eq_ok_iff (network : Network) :
    network.validate = .ok () ↔
      network.name ≠ "" ∧ (∃ number, network.port = .ok number) ∧
        network.validateGenesis = .ok () ∧ network.rules.validate = .ok () ∧
          network.schedule.validate = .ok () := by
  change (network.validateName.bind fun _ ↦ network.port.bind fun _ ↦
    network.validateGenesis.bind fun _ ↦
      (network.rules.validate.mapError (Fault.badRules network.name)).bind fun _ ↦
        network.schedule.validate.mapError (Fault.badSchedule network.name)) = _ ↔ _
  rw [bind_unit_eq_ok_iff, validateName_eq_ok_iff, bind_eq_ok_iff]
  simp only [bind_unit_eq_ok_iff, mapError_eq_ok_iff, exists_and_right]

/-- A valid network with other rules is judged by the rules alone. -/
theorem validate_withRules {network : Network} (h : network.validate = .ok ())
    (rules : ConsensusRules) :
    { network with rules := rules }.validate =
      rules.validate.mapError (.badRules network.name) := by
  obtain ⟨hname, ⟨number, hport⟩, hgenesis, -, hschedule⟩ := network.validate_eq_ok_iff.mp h
  have hport' : { network with rules := rules }.port = .ok number := hport
  have hgenesis' : { network with rules := rules }.validateGenesis = .ok () := hgenesis
  unfold validate validateName
  rw [if_neg hname, hport', hgenesis', hschedule]
  cases rules.validate <;> rfl

end ChainParams.Network
