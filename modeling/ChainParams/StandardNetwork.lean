import ChainParams.Network

/-!
# The standard networks

The main network, its public test network and the local one for regression tests. The test networks
have a genesis block, address prefixes and key versions in common.
-/

namespace ChainParams

inductive StandardNetwork where
  | main
  | test
  | regtest
  deriving DecidableEq, Repr

namespace StandardNetwork

/-- In order of registration. -/
def all : List StandardNetwork := [main, test, regtest]

def name : StandardNetwork → String
  | main => "main"
  | test => "test"
  | regtest => "regtest"

/-- The name in the style of a type's constructor. -/
def labelled : StandardNetwork → String
  | main => "Mainnet"
  | test => "Testnet"
  | regtest => "Regtest"

def magic : StandardNetwork → Magic
  | main => ⟨0xe9fdc490⟩
  | test => ⟨0xba657645⟩
  | regtest => ⟨0xdab5bffa⟩

def ofMagic? (magic : Magic) : Option StandardNetwork :=
  all.find? fun network ↦ network.magic = magic

/-- Why a text names no standard network. -/
structure Fault where
  text : String
  deriving DecidableEq, Repr

def Fault.message (fault : Fault) : String :=
  s!"Invalid network: {fault.text}"

/-- Reads a name; the public networks also have a longer one. -/
def parse (text : String) : Except Fault StandardNetwork :=
  match text with
  | "main" | "mainnet" => .ok main
  | "test" | "testnet" => .ok test
  | "regtest" => .ok regtest
  | text => .error ⟨text⟩

/-! ## Parameters -/

def dnsSeeds : List DnsSeed := [⟨"seed.euno.network", true⟩]

def mainGenesis : BlockHash :=
  .ofNat 0x0000000069e244f73d78e8fd29ba2fd2ed618bd6fa2ee92559f542fdb26e7c1d

def testGenesis : BlockHash :=
  .ofNat 0x00000055bbced95bf1fe0b4eccaee23ece9d82ceae67e3a4ec4e757619159a9f

/-- The block from which the upgrades are enforced on the main network. -/
def mainActivation : BlockHash :=
  .ofNat 0x00000055bbced95bf1fe0b4eccaee23ece9d82ceae67e3a4ec4e757619159a9f

/-- The block from which the upgrades are enforced on the test network. -/
def testActivation : BlockHash :=
  .ofNat 0x258c489f42f03cb97db2255e47938da4083eee4e242853c2d48bae2b1d0110a6

def mainUpgradeHeight : UInt32 := 1441

def testUpgradeHeight : UInt32 := 251

/-- The two coordinates of a point on the signing curve, after the byte that marks the form. -/
def sporkKey : List UInt8 :=
  0x04 ::
    (Word.bytesOfNat 32 0x653c23ed96425ae787ae88884cc53f30921d12b6baa827b737ce845782c7a0fd
      ++ Word.bytesOfNat 32 0x1f226575eb99520f2ed03e55dc51fc817b640c1a822874b0cbf25924de87c947)

def sporkKeys : SporkKeys where
  publicKey := sporkKey
  oldPublicKey := sporkKey
  enforceNewKey := .ofSeconds 1566860400
  rejectOldKey := .ofSeconds 1569538800

def mainPrefixes : AddressPrefixes := ⟨33, 13, 63, 212⟩

def testPrefixes : AddressPrefixes := ⟨139, 19, 73, 239⟩

def mainKeyVersions : KeyVersions := ⟨.ofWord 0x0221312b, .ofWord 0x022d2533⟩

def testKeyVersions : KeyVersions := ⟨.ofWord 0x3a805837, .ofWord 0x3a8061a0⟩

def coinType : UInt32 := 303

def mainRules : ConsensusRules where
  allowsMinDifficulty := false
  budgetCycleBlocks := 43200
  budgetFeeConfirmations := 6
  coinbaseMaturity := 100
  poolMaxTransactions := 3
  proposalEstablishment := .ofSeconds 86400
  stakeMinDepth := 600

/-- The base rules from the genesis block on and all later ones from one height on; the next upgrade
has no height yet. -/
def publicSchedule (height : UInt32) (block : BlockHash) : Schedule :=
  let rule := Activation.atHeight height
  .ofList [
    (.baseNetwork, .atHeight 0),
    (.testDummy, .atHeight 0),
    (.pos, rule),
    (.posV2, rule),
    (.zc, rule.withBlock block),
    (.zcV2, rule.withBlock block),
    (.bip65, rule.withBlock block),
    (.zcPublic, rule),
    (.v34, rule.withBlock block),
    (.v40, rule.withBlock block)]

/-- All rules from the genesis block on, but for trial votes and the next upgrade. -/
def regtestSchedule : Schedule :=
  .ofList ((Upgrade.all.filter fun upgrade ↦
    upgrade ≠ .testDummyDeployment ∧ upgrade ≠ .v50Dummy).map fun upgrade ↦ (upgrade, .atHeight 0))

def mainNetwork : Network where
  name := main.name
  magic := main.magic
  defaultPort := "46462"
  dnsSeeds := dnsSeeds
  genesisHash := mainGenesis
  genesisHeader := none
  rules := mainRules
  sporkKeys := some sporkKeys
  zerocoin := {
    lastAccumulatorCheckpoint := mainUpgradeHeight
    lastWrappedSerials := mainUpgradeHeight
    startInvalidOutputsCheck := mainUpgradeHeight
    startInvalidSerials := mainUpgradeHeight
    startSerialRangeCheck := mainUpgradeHeight
    recalculatedAccumulators := mainUpgradeHeight }
  badBlock := some ⟨1471401614, 0x1c056dac⟩
  checkpoints := .single ⟨0, mainGenesis⟩
  schedule := publicSchedule mainUpgradeHeight mainActivation
  addressPrefixes := mainPrefixes
  keyVersions := mainKeyVersions
  coinType := coinType

def testNetwork : Network where
  name := test.name
  magic := test.magic
  defaultPort := "46464"
  dnsSeeds := dnsSeeds
  genesisHash := testGenesis
  genesisHeader := none
  rules := .standard
  sporkKeys := some sporkKeys
  zerocoin := {
    lastAccumulatorCheckpoint := testUpgradeHeight
    lastWrappedSerials := 0
    startInvalidOutputsCheck := testUpgradeHeight
    startInvalidSerials := testUpgradeHeight
    startSerialRangeCheck := 0
    recalculatedAccumulators := testUpgradeHeight }
  badBlock := some ⟨1489001494, 0x1e0a20bd⟩
  checkpoints := .single ⟨0, testGenesis⟩
  schedule := publicSchedule testUpgradeHeight testActivation
  addressPrefixes := testPrefixes
  keyVersions := testKeyVersions
  coinType := coinType

def regtestNetwork : Network where
  name := regtest.name
  magic := regtest.magic
  defaultPort := "46466"
  dnsSeeds := []
  genesisHash := testGenesis
  genesisHeader := none
  rules := .standard
  sporkKeys := none
  zerocoin := .zero
  badBlock := none
  checkpoints := .empty
  schedule := regtestSchedule
  addressPrefixes := testPrefixes
  keyVersions := testKeyVersions
  coinType := coinType

/-- The parameters of a standard network. -/
def network : StandardNetwork → Network
  | main => mainNetwork
  | test => testNetwork
  | regtest => regtestNetwork

end StandardNetwork

end ChainParams
