import ChainParams.Proofs.Definition.RoundTrip
import ChainParams.Proofs.Network
import ChainParams.Proofs.Registry.Catalogue
import ChainParams.Proofs.Registry.Reachable
import ChainParams.Proofs.VoteWindow

/-!
# Well-formed networks

What can be relied on in every network that a registry holds or that a definition gives. A list of
checkpoints in a definition is refused unless it ascends, and a limit is cut to 256 bits. A window
to vote in is taken as it is; only the validation of the network sees to it.
-/

namespace ChainParams

/-- The proof-of-work limits that the rules fix. -/
def ConsensusRules.powLimits (rules : ConsensusRules) : List PowLimit :=
  [rules.powLimit, rules.powLimitV1, rules.powLimitV2]

structure Network.WellFormed (network : Network) : Prop where
  valid : network.validate = .ok ()
  port : ∃ number, network.port = .ok number
  /-- Not only neighbours ascend. -/
  ascending : network.checkpoints.toList.Pairwise fun a b ↦ a.height < b.height
  genesis : ∀ checkpoint ∈ network.checkpoints.toList, checkpoint.height = 0 →
    checkpoint.hash = network.genesisHash
  powLimits : ∀ limit ∈ network.rules.powLimits, limit.bitLength ≤ 256
  votes : ∀ upgrade window, (network.schedule.get upgrade).vote = some window →
    window.bit ≤ 28 ∧ window.start < window.timeout

/-! ## Parts of definitions -/

namespace Definition.Form

/-- Checkpoints are read as they stand, and only if they ascend. -/
theorem read_checkpoints_eq_ok_iff {value : Json} {points : Checkpoints} :
    checkpoints.read value = .ok points ↔ checkpoint.list.read value = .ok points.toList := by
  change (checkpoint.list.read value).bind
    (fun entries ↦ (Checkpoints.ofList entries).mapError Fault.badCheckpoints) = _ ↔ _
  simp only [bind_eq_ok_iff, mapError_eq_ok_iff, Checkpoints.ofList_eq_ok_iff, exists_eq_right']

theorem read_powLimit_of_u16 {value : Json} {bits : UInt16} (h : u16.read value = .ok bits) :
    powLimit.read value = .ok (.ofBitLength bits.toNat) := by
  change (u16.read value).map _ = _
  rw [h]
  rfl

end Definition.Form

/-! ## Networks -/

namespace Network

theorem wellFormed_of_validate {network : Network} (h : network.validate = .ok ()) :
    network.WellFormed := by
  obtain ⟨-, hport, hgenesis, -, hschedule⟩ := network.validate_eq_ok_iff.mp h
  constructor
  case valid => exact h
  case port => exact hport
  case ascending => exact network.checkpoints.ascending
  case genesis =>
    rintro ⟨height, hash⟩ hmem rfl
    exact network.validateGenesis_eq_ok_iff.mp hgenesis hash (Checkpoints.get?_eq_some_iff.mpr hmem)
  case powLimits =>
    intro limit _
    exact limit.bitLength_le
  case votes =>
    intro upgrade window hvote
    exact window.validate_eq_ok_iff.mp
      (network.schedule.validate_eq_ok_iff.mp hschedule upgrade window hvote)

theorem validate_of_mem_networks {registry : Registry} (h : registry.Reachable) {network : Network}
    (hmem : network ∈ registry.networks) : network.validate = .ok () := by
  obtain ⟨calls, rfl⟩ := h.exists_run
  have hrecords := Registry.records_run calls
  rw [hrecords.networks_eq] at hmem
  exact hrecords.valid network hmem

/-- The networks of every registry, of every text and of every file are well formed. Of the parts of
a definition, a list of checkpoints is taken exactly if it ascends, and a limit as the lesser of its
bits and 256. -/
theorem wellFormed_of_held_or_defined :
    (∀ registry : Registry, registry.Reachable → ∀ network ∈ registry.networks,
      network.WellFormed) ∧
    (∀ text networks, Definition.parse text = .ok networks → ∀ network ∈ networks,
      network.WellFormed) ∧
    (∀ file networks, Definition.load file = .ok networks → ∀ network ∈ networks,
      network.WellFormed) ∧
    (∀ value entries, Definition.Form.checkpoint.list.read value = .ok entries →
      ((∃ points, Definition.Form.checkpoints.read value = .ok points ∧ points.toList = entries) ↔
        entries.Pairwise fun a b ↦ a.height < b.height)) ∧
    ∀ value bits, Definition.Form.u16.read value = .ok bits →
      ∃ limit, Definition.Form.powLimit.read value = .ok limit ∧
        limit.bitLength = min bits.toNat 256 := by
  refine ⟨?_, ?_, ?_, ?_, ?_⟩
  · intro registry hregistry network hmem
    exact wellFormed_of_validate (validate_of_mem_networks hregistry hmem)
  · intro text networks hparse network hmem
    exact wellFormed_of_validate (Definition.valid_of_parse hparse network hmem)
  · intro file networks hload network hmem
    exact wellFormed_of_validate (Definition.valid_of_load hload network hmem)
  · intro value entries hentries
    constructor
    · rintro ⟨points, -, rfl⟩
      exact points.ascending
    · intro hascending
      exact ⟨⟨entries, hascending⟩,
        Definition.Form.read_checkpoints_eq_ok_iff.mpr hentries, rfl⟩
  · intro value bits hbits
    exact ⟨_, Definition.Form.read_powLimit_of_u16 hbits, rfl⟩

/-- The last upgrade of the test network is voted on with the highest bit during the year 2026. -/
def votingNetwork : Network :=
  { StandardNetwork.testNetwork with
    schedule := StandardNetwork.testNetwork.schedule.set .v50Dummy
      (Activation.never.withVote ⟨28, .ofSeconds 1767225600, .ofSeconds 1798761600⟩) }

theorem wellFormed_votingNetwork :
    Definition.parse (Definition.Form.network.list.write [votingNetwork]).compact =
        .ok [votingNetwork] ∧
      votingNetwork.WellFormed ∧ StandardNetwork.mainNetwork.WellFormed := by
  obtain ⟨hheld, hdefined, -⟩ := wellFormed_of_held_or_defined
  have hparse : Definition.parse (Definition.Form.network.list.write [votingNetwork]).compact =
      .ok [votingNetwork] := by
    apply Definition.parse_list
    · exact List.forall_mem_singleton.mpr rfl
    · unfold ConsensusRules.WholeSeconds Time.Duration.IsWhole
      decide
  have hmain : StandardNetwork.mainNetwork ∈ Registry.standard.registry.networks :=
    List.mem_cons_self
  exact ⟨hparse, hdefined _ _ hparse _ List.mem_cons_self, hheld _ .standard _ hmain⟩

end Network

end ChainParams
