import ChainParams.Checkpoints
import ChainParams.ConsensusRules
import ChainParams.Schedule
import ChainParams.SporkKeys
import ChainParams.KeyVersion
import ChainParams.Magic

/-!
# Networks

Everything that tells one network from another: its name and magic, where its nodes are found, its
genesis block and rules, and the bytes that its addresses and extended keys start with.
-/

namespace ChainParams

open Text

/-- A host that tells addresses of nodes. -/
structure DnsSeed where
  host : String
  /-- Whether the host can select nodes by the services they offer. -/
  filters : Bool
  deriving DecidableEq

/-- The header of a first block. Nothing checks it against the hash that stands beside it. -/
structure GenesisHeader where
  version : Int32
  previous : BlockHash
  merkleRoot : BlockHash
  time : UInt32
  /-- The difficulty in compact form. -/
  bits : UInt32
  nonce : UInt32
  deriving DecidableEq

namespace GenesisHeader

/-- Whether the header links to no block. -/
def isGenesis (header : GenesisHeader) : Bool :=
  header.previous.isZero

end GenesisHeader

/-- The heights at which the validation of zerocoin changes. -/
structure ZerocoinHeights where
  lastAccumulatorCheckpoint : UInt32
  lastWrappedSerials : UInt32
  startInvalidOutputsCheck : UInt32
  startInvalidSerials : UInt32
  startSerialRangeCheck : UInt32
  /-- Where the accumulators were calculated anew. -/
  recalculatedAccumulators : UInt32
  deriving DecidableEq

namespace ZerocoinHeights

def zero : ZerocoinHeights := ⟨0, 0, 0, 0, 0, 0⟩

end ZerocoinHeights

/-- A block whose wrong difficulty is let pass. -/
structure BadBlock where
  time : UInt32
  bits : UInt32
  deriving DecidableEq

/-- The bytes that addresses of each kind start with. -/
structure AddressPrefixes where
  pubkeyHash : UInt8
  scriptHash : UInt8
  stakingKey : UInt8
  secretKey : UInt8
  deriving DecidableEq

structure Network where
  name : String
  magic : Magic
  /-- The numeral of the port on which nodes listen. -/
  defaultPort : String
  dnsSeeds : List DnsSeed
  genesisHash : BlockHash
  genesisHeader : Option GenesisHeader
  rules : ConsensusRules
  sporkKeys : Option SporkKeys
  zerocoin : ZerocoinHeights
  badBlock : Option BadBlock
  checkpoints : Checkpoints
  schedule : Schedule
  addressPrefixes : AddressPrefixes
  keyVersions : KeyVersions
  /-- The number of the network's coin in paths of derived keys. -/
  coinType : UInt32

namespace Network

/-- Why a network cannot be used. -/
inductive Fault where
  | unnamed (magic : Magic)
  | badPort (name port : String)
  /-- The checkpoint at height 0 is not the genesis block. -/
  | badGenesis (name : String) (hash genesis : BlockHash)
  | badRules (name : String) (cause : ConsensusRules.Fault)
  | badSchedule (name : String) (cause : Schedule.Fault)

def Fault.message : Fault → String
  | .unnamed magic => s!"Invalid network: network {magic.text} has no name"
  | .badPort name port => s!"Invalid network: {name}: bad port {Quoted.string port}"
  | .badGenesis name hash genesis =>
    s!"Invalid checkpoints: {name}: checkpoint at height 0 ({hash.toHex}) "
      ++ s!"is not the genesis hash ({genesis.toHex})"
  | .badRules name cause => s!"Invalid network: {name}: {cause.message}"
  | .badSchedule name cause => s!"Invalid network: {name}: {cause.message}"

def validateName (network : Network) : Except Fault Unit :=
  if network.name = "" then .error (.unnamed network.magic) else .ok ()

/-- The number of the default port. -/
def port (network : Network) : Except Fault UInt16 :=
  match Numeral.read 10 UInt16.size network.defaultPort.toList with
  | .ok n => .ok (UInt16.ofNat n)
  | .error _ => .error (.badPort network.name network.defaultPort)

def validateGenesis (network : Network) : Except Fault Unit :=
  match network.checkpoints.get? 0 with
  | none => .ok ()
  | some hash =>
    if hash = network.genesisHash then .ok ()
    else .error (.badGenesis network.name hash network.genesisHash)

/-- The first fault in the order of name, port, genesis block, consensus rules and schedule. -/
def validate (network : Network) : Except Fault Unit := do
  network.validateName
  let _ ← network.port
  network.validateGenesis
  network.rules.validate.mapError (.badRules network.name)
  network.schedule.validate.mapError (.badSchedule network.name)

end Network

end ChainParams
