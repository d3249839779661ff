import ChainParams.Proofs.Definition.RoundTrip
import ChainParams.Proofs.Registry.Atomic
import ChainParams.Proofs.Registry.Reachable
import ChainParams.Proofs.Registry.Room

/-!
# Registering a definition file

A file that cannot be read or parsed changes nothing. The networks of any other file are valid, so
that only a taken magic can stop their registration: all of them are registered if there is room for
them, and otherwise those before the first whose magic is taken.
-/

namespace ChainParams.Registry

theorem registerFile_of_hasRoom {registry : Registry} (path : String)
    {file : Except FileFault ByteArray} {networks : List Network}
    (hload : Definition.load file = .ok networks) (hroom : registry.HasRoom networks) :
    (registry.registerFile path file).result = .ok networks ∧
      (registry.registerFile path file).registry = registry.run (networks.map .register) := by
  obtain ⟨hregistry, hresult⟩ := registry.registerFile_of_ok path hload
  rw [hregistry, hresult]
  exact registerAll_of_hasRoom (Definition.valid_of_load hload) hroom

theorem registerFile_of_firstTaken {registry : Registry} (path : String)
    {file : Except FileFault ByteArray} {networks before : List Network} {taken : Network}
    (hload : Definition.load file = .ok networks)
    (h : registry.FirstTaken networks before taken) :
    (registry.registerFile path file).result = .error (.duplicate taken.magic) ∧
      (registry.registerFile path file).registry = registry.run (before.map .register) := by
  have hvalid := Definition.valid_of_load hload
  have hbefore : ∀ network ∈ before, network.validate = .ok () :=
    fun network hmem ↦ hvalid network (h.mem_of_mem_before hmem)
  obtain ⟨hregistry, hresult⟩ := registry.registerFile_of_ok path hload
  obtain ⟨herror, hsame⟩ := registerAll_of_firstTaken hvalid h
  rw [hregistry, hresult, hsame, (registerAll_of_hasRoom hbefore h.room).2]
  exact ⟨herror, rfl⟩

/-- A file is registered exactly if there is room for its networks. -/
theorem registerFile_ok_iff (registry : Registry) (path : String)
    {file : Except FileFault ByteArray} {networks : List Network}
    (hload : Definition.load file = .ok networks) :
    (∃ added, (registry.registerFile path file).result = .ok added) ↔
      registry.HasRoom networks := by
  constructor
  · rintro ⟨added, hadded⟩
    rcases registry.hasRoom_or_firstTaken networks with hroom | ⟨before, taken, htaken⟩
    · exact hroom
    · rw [(registerFile_of_firstTaken path hload htaken).1] at hadded
      cases hadded
  · intro hroom
    exact ⟨networks, (registerFile_of_hasRoom path hload hroom).1⟩

/-- Networks that are registered one by one, where there is room for them, come after those that
were there. -/
theorem networks_run_register {registry : Registry} (h : registry.Reachable)
    {networks : List Network} (hvalid : ∀ network ∈ networks, network.validate = .ok ())
    (hroom : registry.HasRoom networks) :
    (registry.run (networks.map .register)).networks = registry.networks ++ networks := by
  obtain ⟨calls, rfl⟩ := h.exists_run
  obtain ⟨hresult, hrun⟩ := registerAll_of_hasRoom hvalid hroom
  rw [← hrun]
  exact (records_run calls).networks_registerAll hresult

/-- A file that fails to load changes no answer. A file that loads is registered as a whole if there
is room for its networks; otherwise the first network whose magic is taken is the error, and the
networks before it have been registered. -/
theorem registerFile_upTo_taken (registry : Registry) (h : registry.Reachable) (path : String)
    (file : Except FileFault ByteArray) :
    (∀ error, Definition.load file = .error error →
      (registry.registerFile path file).result = .error error ∧
        (registry.registerFile path file).registry.SameAnswers registry) ∧
    ∀ networks, Definition.load file = .ok networks →
      ((∃ added, (registry.registerFile path file).result = .ok added) ↔
        registry.HasRoom networks) ∧
      (registry.HasRoom networks →
        (registry.registerFile path file).result = .ok networks ∧
          (registry.registerFile path file).registry = registry.run (networks.map .register) ∧
          (registry.registerFile path file).registry.networks = registry.networks ++ networks) ∧
      (¬ registry.HasRoom networks →
        ∃ before taken, registry.FirstTaken networks before taken) ∧
      ∀ before taken, registry.FirstTaken networks before taken →
        (registry.registerFile path file).result = .error (.duplicate taken.magic) ∧
          (registry.registerFile path file).registry = registry.run (before.map .register) ∧
          (registry.registerFile path file).registry.networks = registry.networks ++ before := by
  constructor
  · intro error herror
    rw [registry.registerFile_of_error path herror]
    exact ⟨rfl, .refl registry⟩
  · intro networks hload
    have hvalid := Definition.valid_of_load hload
    refine ⟨registry.registerFile_ok_iff path hload, ?_, ?_, ?_⟩
    · intro hroom
      obtain ⟨hresult, hrun⟩ := registerFile_of_hasRoom path hload hroom
      refine ⟨hresult, hrun, ?_⟩
      rw [hrun]
      exact networks_run_register h hvalid hroom
    · intro hfull
      exact (registry.hasRoom_or_firstTaken networks).resolve_left hfull
    · intro before taken htaken
      obtain ⟨hresult, hrun⟩ := registerFile_of_firstTaken path hload htaken
      refine ⟨hresult, hrun, ?_⟩
      rw [hrun]
      apply networks_run_register h _ htaken.room
      intro network hmem
      exact hvalid network (htaken.mem_of_mem_before hmem)

/-- A network for simulations, with the rules of the regression test network. -/
def simulationNetwork : Network :=
  { StandardNetwork.regtestNetwork with name := "simnet", magic := ⟨0x12121212⟩ }

/-- The main network under another name. -/
def renamedNetwork : Network :=
  { StandardNetwork.mainNetwork with name := "late" }

def doubledNetworks : List Network :=
  [simulationNetwork, renamedNetwork, simulationNetwork]

def doubledFile : ByteArray :=
  (Definition.Form.network.list.write doubledNetworks).compact.toUTF8

theorem registerFile_doubledFile :
    (standard.registry.registerFile "networks.json" (.ok doubledFile)).result =
        .error (.duplicate StandardNetwork.main.magic) ∧
      (standard.registry.registerFile "networks.json" (.ok doubledFile)).registry.networks =
        [StandardNetwork.mainNetwork, StandardNetwork.testNetwork, StandardNetwork.regtestNetwork,
          simulationNetwork] := by
  have hload : Definition.load (.ok doubledFile) = .ok doubledNetworks := by
    rw [doubledFile, Definition.load_toUTF8]
    apply Definition.parse_list
    · simp only [doubledNetworks, List.forall_mem_cons]
      exact ⟨rfl, rfl, rfl, List.forall_mem_nil _⟩
    · unfold ConsensusRules.WholeSeconds Time.Duration.IsWhole
      decide
  have hfirst : standard.registry.FirstTaken doubledNetworks [simulationNetwork] renamedNetwork :=
    ⟨⟨[simulationNetwork], rfl⟩, hasRoom_cons_iff.mpr ⟨rfl, hasRoom_nil _⟩, .inl rfl⟩
  obtain ⟨-, hfile⟩ := registerFile_upTo_taken standard.registry .standard "networks.json"
    (.ok doubledFile)
  obtain ⟨-, -, -, htaken⟩ := hfile _ hload
  obtain ⟨hresult, -, hnetworks⟩ := htaken _ _ hfirst
  exact ⟨hresult, hnetworks⟩

end ChainParams.Registry
