import ChainParams.Proofs.Inspect.Layout
import ChainParams.Proofs.Registry.File

/-!
# Standard networks on the command line

The standard networks are registered before those of a file, and of several networks with one name
the first is found. So nothing that a file defines changes what the program tells about a standard
network that is asked for by its name. A file that cannot be registered as a whole ends the run
without any output.
-/

namespace ChainParams.Inspect

/-- The networks that a file defines can all be registered after the standard ones. -/
structure Loads (file : Except FileFault ByteArray) (networks : List Network) : Prop where
  load_eq : Definition.load file = .ok networks
  room : Registry.standard.registry.HasRoom networks

/-- The run succeeds, and this is all of its output. -/
structure Report.Tells (report : Report) (text : String) : Prop where
  exitCode_eq : report.exitCode = 0
  output_eq : report.output = text

/-- The run fails without any output. -/
structure Report.Fails (report : Report) : Prop where
  exitCode_eq : report.exitCode = 1
  output_eq : report.output = ""

/-! ## The registry -/

theorem networks_standard :
    Registry.standard.registry.networks = StandardNetwork.all.map StandardNetwork.network := rfl

variable {path : String} {readFile : String → Except FileFault ByteArray}

theorem prepare_of_result_ok {added : List Network}
    (h : (Registry.standard.registry.registerFile path (readFile path)).result = .ok added) :
    (prepare (some path) readFile).2 =
      .ok (Registry.standard.registry.registerFile path (readFile path)).registry := by
  simp only [prepare, h]

theorem prepare_of_result_error {error : Error}
    (h : (Registry.standard.registry.registerFile path (readFile path)).result = .error error) :
    (prepare (some path) readFile).2 =
      .error (.within s!"failed to register networks from {path}" error) := by
  simp only [prepare, h]

/-- The networks of a file come after the standard ones. -/
theorem prepare_of_loads {networks : List Network} (h : Loads (readFile path) networks) :
    ∃ registry, (prepare (some path) readFile).2 = .ok registry ∧
      registry.networks = StandardNetwork.all.map StandardNetwork.network ++ networks := by
  obtain ⟨hresult, hrun⟩ := Registry.registerFile_of_hasRoom path h.load_eq h.room
  refine ⟨_, prepare_of_result_ok hresult, ?_⟩
  rw [hrun, Registry.networks_run_register .standard (Definition.valid_of_load h.load_eq) h.room,
    networks_standard]

theorem prepare_of_not_loads (h : ¬∃ networks, Loads (readFile path) networks) :
    ∃ failure, (prepare (some path) readFile).2 = .error failure := by
  cases hload : Definition.load (readFile path) with
  | error error =>
    have hfile := Registry.standard.registry.registerFile_of_error path hload
    exact ⟨_, prepare_of_result_error (congrArg Registry.Outcome.result hfile)⟩
  | ok networks =>
    rcases Registry.standard.registry.hasRoom_or_firstTaken networks with
      hroom | ⟨before, taken, htaken⟩
    · exact absurd ⟨networks, hload, hroom⟩ h
    · obtain ⟨hresult, -⟩ := Registry.registerFile_of_firstTaken path hload htaken
      exact ⟨_, prepare_of_result_error hresult⟩

/-- Commands are answered from a registry that operations lead to. -/
theorem reachable_of_prepare {networks : Option String} {registry : Registry}
    (h : (prepare networks readFile).2 = .ok registry) : registry.Reachable := by
  cases networks with
  | none =>
    cases h
    exact .standard
  | some path =>
    cases hresult : (Registry.standard.registry.registerFile path (readFile path)).result with
    | error error =>
      rw [prepare_of_result_error hresult] at h
      cases h
    | ok added =>
      rw [prepare_of_result_ok hresult] at h
      cases h
      exact .file .standard path (readFile path)

/-! ## Answers -/

section Answers

variable {registry : Registry} {others : List Network}

/-- The name of a standard network is first borne by that network. -/
theorem find_name
    (h : registry.networks = StandardNetwork.all.map StandardNetwork.network ++ others)
    (standard : StandardNetwork) : find registry standard.name = .ok standard.network := by
  have hname : registry.byName? standard.name = some standard.network := by
    rw [Registry.byName?, h, List.find?_append]
    cases standard <;> rfl
  rw [find, hname]

theorem answer_show
    (h : registry.networks = StandardNetwork.all.map StandardNetwork.network ++ others)
    (standard : StandardNetwork) :
    answer registry (.show standard.name) =
      .ok ((Definition.Form.network.write standard.network).pretty ++ "\n") := by
  rw [answer, find_name h]
  rfl

/-- What is told about a standard network defines that network. -/
theorem parse_show (standard : StandardNetwork) :
    Definition.parse ((Definition.Form.network.write standard.network).pretty ++ "\n") =
      .ok [standard.network] := by
  have hvalid : standard.network.validate = .ok () := by cases standard <;> rfl
  have hwhole : standard.network.rules.WholeSeconds := by
    unfold ConsensusRules.WholeSeconds Time.Duration.IsWhole
    cases standard <;> decide
  have hfits := (Definition.Form.keeps_network 123 hwhole).fits
  exact Definition.parse_of_json hvalid hwhole (Json.parse_pretty_line hfits)

theorem answer_checkpoints
    (h : registry.networks = StandardNetwork.all.map StandardNetwork.network ++ others)
    (standard : StandardNetwork) :
    answer registry (.checkpoints standard.name) =
      .ok (listing standard.network.checkpoints) := by
  rw [answer, find_name h]
  rfl

theorem answer_list
    (h : registry.networks = StandardNetwork.all.map StandardNetwork.network ++ others) :
    answer registry .list =
      .ok (String.join ((StandardNetwork.all.map StandardNetwork.network ++ others).map
        listLine)) := by
  rw [answer, h]

end Answers

/-! ## Runs -/

section Runs

variable {arguments : List String} {networks : Option String} {command : Command}
  (filter : LogFilter)

theorem run_of_prepare_ok (hparse : Arguments.parse arguments = .ok ⟨networks, command⟩)
    {registry : Registry} (hprepare : (prepare networks readFile).2 = .ok registry) {text : String}
    (hanswer : answer registry command = .ok text) :
    (run arguments filter readFile).Tells text := by
  simp only [run, hparse, runCommand, hprepare, Except.bind, hanswer]
  exact ⟨rfl, rfl⟩

theorem run_of_answer_error (hparse : Arguments.parse arguments = .ok ⟨networks, command⟩)
    {registry : Registry} (hprepare : (prepare networks readFile).2 = .ok registry)
    {failure : Failure} (hanswer : answer registry command = .error failure) :
    (run arguments filter readFile).Fails := by
  simp only [run, hparse, runCommand, hprepare, Except.bind, hanswer]
  exact ⟨rfl, rfl⟩

theorem run_of_prepare_error (hparse : Arguments.parse arguments = .ok ⟨networks, command⟩)
    {failure : Failure} (hprepare : (prepare networks readFile).2 = .error failure) :
    (run arguments filter readFile).Fails := by
  simp only [run, hparse, runCommand, hprepare, Except.bind]
  exact ⟨rfl, rfl⟩

end Runs

/-- With a file, a run fails without output for every command unless the networks of the file can
all be registered. Then the names of the standard networks lead to these networks, whatever the file
defines: what is told at length defines the standard network, and its checkpoints are told in their
lines. The list has one entry for each network, first the standard ones and then those of the file
in order. -/
theorem run_standardNetworks (arguments : List String) (path : String) (command : Command)
    (hparse : Arguments.parse arguments = .ok ⟨some path, command⟩) (filter : LogFilter)
    (readFile : String → Except FileFault ByteArray) :
    ((¬∃ networks, Loads (readFile path) networks) → (run arguments filter readFile).Fails) ∧
    ∀ networks, Loads (readFile path) networks →
      (∀ standard : StandardNetwork, command = .show standard.name →
        (run arguments filter readFile).Tells
          ((Definition.Form.network.write standard.network).pretty ++ "\n") ∧
        Definition.parse (run arguments filter readFile).output = .ok [standard.network]) ∧
      (∀ standard : StandardNetwork, command = .checkpoints standard.name →
        (run arguments filter readFile).Tells
          (String.join (standard.network.checkpoints.toList.map checkpointLine)) ∧
        IsListing standard.network.checkpoints (run arguments filter readFile).output) ∧
      (command = .list →
        (run arguments filter readFile).Tells
          (String.join ((StandardNetwork.mainNetwork :: StandardNetwork.testNetwork ::
            StandardNetwork.regtestNetwork :: networks).map listLine)) ∧
        IsTable (StandardNetwork.mainNetwork :: StandardNetwork.testNetwork ::
          StandardNetwork.regtestNetwork :: networks) (run arguments filter readFile).output) := by
  constructor
  · intro hnot
    obtain ⟨failure, hprepare⟩ := prepare_of_not_loads hnot
    exact run_of_prepare_error filter hparse hprepare
  · intro networks hloads
    obtain ⟨registry, hprepare, hnetworks⟩ := prepare_of_loads hloads
    refine ⟨?_, ?_, ?_⟩
    · rintro standard rfl
      have htells := run_of_prepare_ok filter hparse hprepare (answer_show hnetworks standard)
      refine ⟨htells, ?_⟩
      rw [htells.output_eq]
      exact parse_show standard
    · rintro standard rfl
      have htells :=
        run_of_prepare_ok filter hparse hprepare (answer_checkpoints hnetworks standard)
      refine ⟨htells, ?_⟩
      rw [htells.output_eq]
      exact isListing_listing standard.network.checkpoints
    · rintro rfl
      have htells := run_of_prepare_ok filter hparse hprepare (answer_list hnetworks)
      refine ⟨htells, ?_⟩
      rw [htells.output_eq]
      exact isTable_join _

/-- A network that goes by the name of the main network, with its prefixes and key versions. -/
def impostorNetwork : Network :=
  { StandardNetwork.regtestNetwork with
    name := StandardNetwork.main.name
    magic := ⟨0x12121212⟩
    addressPrefixes := StandardNetwork.mainPrefixes
    keyVersions := ⟨StandardNetwork.mainKeyVersions.privateVersion,
      StandardNetwork.testKeyVersions.publicVersion⟩ }

/-- The definition of the impostor alone. -/
def impostorFile : ByteArray :=
  (Definition.Form.network.list.write [impostorNetwork]).compact.toUTF8

theorem loads_impostorNetwork : Loads (.ok impostorFile) [impostorNetwork] := by
  constructor
  · rw [impostorFile, Definition.load_toUTF8]
    apply Definition.parse_list
    · exact List.forall_mem_singleton.mpr rfl
    · unfold ConsensusRules.WholeSeconds Time.Duration.IsWhole
      decide
  · exact Registry.hasRoom_cons_iff.mpr ⟨rfl, Registry.hasRoom_nil _⟩

/-- The list has the impostor last, though it has the name of the main network, and the name leads
to the main network. A file that is not there leaves nothing to be told. -/
theorem run_standardNetworks_impostorNetwork :
    ((run ["--networks", "networks.json", "show", "main"] .off fun _ ↦ .ok impostorFile).Tells
        ((Definition.Form.network.write StandardNetwork.mainNetwork).pretty ++ "\n") ∧
      Definition.parse (run ["--networks", "networks.json", "show", "main"] .off fun _ ↦
        .ok impostorFile).output = .ok [StandardNetwork.mainNetwork]) ∧
    (run ["-n", "networks.json", "checkpoints", "main"] .off fun _ ↦ .ok impostorFile).Tells
      "         0  0000000069e244f73d78e8fd29ba2fd2ed618bd6fa2ee92559f542fdb26e7c1d\n" ∧
    (run ["list", "-n", "networks.json"] .off fun _ ↦ .ok impostorFile).Tells
      ("main       0xe9fdc490  port 46462  pkh  33  sh  13  stake  63\n"
        ++ "test       0xba657645  port 46464  pkh 139  sh  19  stake  73\n"
        ++ "regtest    0xdab5bffa  port 46466  pkh 139  sh  19  stake  73\n"
        ++ "main       0x12121212  port 46466  pkh  33  sh  13  stake  63\n") ∧
    IsTable [StandardNetwork.mainNetwork, StandardNetwork.testNetwork,
        StandardNetwork.regtestNetwork, impostorNetwork]
      (run ["list", "-n", "networks.json"] .off fun _ ↦ .ok impostorFile).output ∧
    (run ["-n", "networks.json", "checkpoints", "main"] .off fun _ ↦ .error .notFound).Fails := by
  have hcheckpoints :
      String.join (StandardNetwork.mainNetwork.checkpoints.toList.map checkpointLine) =
        "         0  0000000069e244f73d78e8fd29ba2fd2ed618bd6fa2ee92559f542fdb26e7c1d\n" := by
    decide +kernel
  have hlist : String.join ([StandardNetwork.mainNetwork, StandardNetwork.testNetwork,
      StandardNetwork.regtestNetwork, impostorNetwork].map listLine) =
        "main       0xe9fdc490  port 46462  pkh  33  sh  13  stake  63\n"
          ++ "test       0xba657645  port 46464  pkh 139  sh  19  stake  73\n"
          ++ "regtest    0xdab5bffa  port 46466  pkh 139  sh  19  stake  73\n"
          ++ "main       0x12121212  port 46466  pkh  33  sh  13  stake  63\n" := by
    decide +kernel
  refine ⟨?_, ?_, ?_, ?_, ?_⟩
  · obtain ⟨-, hloads⟩ := run_standardNetworks ["--networks", "networks.json", "show", "main"]
      "networks.json" (.show "main") rfl .off fun _ ↦ .ok impostorFile
    exact (hloads _ loads_impostorNetwork).1 .main rfl
  · obtain ⟨-, hloads⟩ := run_standardNetworks ["-n", "networks.json", "checkpoints", "main"]
      "networks.json" (.checkpoints "main") rfl .off fun _ ↦ .ok impostorFile
    rw [← hcheckpoints]
    exact ((hloads _ loads_impostorNetwork).2.1 .main rfl).1
  · obtain ⟨-, hloads⟩ := run_standardNetworks ["list", "-n", "networks.json"]
      "networks.json" .list rfl .off fun _ ↦ .ok impostorFile
    rw [← hlist]
    exact ((hloads _ loads_impostorNetwork).2.2 rfl).1
  · obtain ⟨-, hloads⟩ := run_standardNetworks ["list", "-n", "networks.json"]
      "networks.json" .list rfl .off fun _ ↦ .ok impostorFile
    exact ((hloads _ loads_impostorNetwork).2.2 rfl).2
  · obtain ⟨hfails, -⟩ := run_standardNetworks ["-n", "networks.json", "checkpoints", "main"]
      "networks.json" (.checkpoints "main") rfl .off fun _ ↦ .error .notFound
    refine hfails ?_
    rintro ⟨networks, hload, -⟩
    cases hload

end ChainParams.Inspect
