import ChainParams.Inspect.Arguments
import ChainParams.Inspect.Failure
import ChainParams.Json.Printer
import ChainParams.Registry

/-!
# Reports

The answer to each command, and the run of the program as a whole: it registers the standard
networks and those of the file, if there is one, and then answers the command. All events come
before the message of a failure.
-/

namespace ChainParams.Inspect

open Text

/-! ## Answers -/

def listLine (network : Network) : String :=
  let addresses := network.addressPrefixes
  let byte (b : UInt8) : String := Column.right 3 (Nat.repr b.toNat)
  Column.left 10 network.name ++ " " ++ network.magic.text
    ++ "  port " ++ Column.left 6 network.defaultPort
    ++ " pkh " ++ byte addresses.pubkeyHash
    ++ "  sh " ++ byte addresses.scriptHash
    ++ "  stake " ++ byte addresses.stakingKey ++ "\n"

def checkpointLine (checkpoint : Checkpoint) : String :=
  Column.right 10 (Nat.repr checkpoint.height.toNat) ++ "  " ++ checkpoint.hash.toHex ++ "\n"

/-- The network with a name, or else with the magic that the text spells. -/
def find (registry : Registry) (text : String) : Except Error Network :=
  match registry.byName? text with
  | some network => .ok network
  | none => do
    let magic ← (Magic.parse text).mapError .magic
    registry.require magic

/-- The byte that a text spells: hexadecimal after `0x`, otherwise decimal. -/
def readByte (text : String) : Except Numeral.Fault UInt8 :=
  let numeral := match text.toList with
    | '0' :: 'x' :: digits => Numeral.read 16 UInt8.size digits
    | digits => Numeral.read 10 UInt8.size digits
  numeral.map UInt8.ofNat

/-- The kinds of addresses that start with a byte. -/
def addressKinds (registry : Registry) (byte : UInt8) : List String :=
  (if registry.isPubkeyHashPrefix byte then ["pubkey-hash"] else [])
    ++ (if registry.isScriptHashPrefix byte then ["script-hash"] else [])
    ++ (if registry.isStakingKeyPrefix byte then ["staking-key"] else [])

def classifyLine (registry : Registry) (byte : UInt8) : String :=
  match addressKinds registry byte with
  | [] => Nat.repr byte.toNat ++ ": not a registered prefix\n"
  | kinds => Nat.repr byte.toNat ++ ": " ++ ", ".intercalate kinds ++ "\n"

def answer (registry : Registry) : Command → Except Failure String
  | .list => .ok (String.join (registry.networks.map listLine))
  | .show text => do
    let network ← (find registry text).mapError .ofError
    return (Definition.Form.network.write network).pretty ++ "\n"
  | .classify text => do
    let byte ← (readByte text).mapError fun cause ↦
      ⟨s!"invalid prefix byte {Quoted.string text}", [cause.message]⟩
    return classifyLine registry byte
  | .resolve text => do
    let bytes ← (Hex.decode text).mapError fun cause ↦
      ⟨s!"invalid hex {Quoted.string text}", [cause.message]⟩
    let version ← (registry.resolve bytes).mapError .ofError
    return version.toHex ++ "\n"
  | .checkpoints text => do
    let network ← (find registry text).mapError .ofError
    return String.join (network.checkpoints.toList.map checkpointLine)

/-! ## Runs -/

/-- What a run leaves for its caller. -/
structure Report where
  exitCode : UInt32
  output : String
  /-- The events that are told, and the message of a failure. -/
  errors : String

/-- The registry that a command is answered from. -/
def prepare (networks : Option String) (readFile : String → Except FileFault ByteArray) :
    List Event × Except Failure Registry :=
  let standard := Registry.standard
  match networks with
  | none => (standard.events ++ [.ready standard.registry.size], .ok standard.registry)
  | some path =>
    let outcome := standard.registry.registerFile path (readFile path)
    let events := standard.events ++ outcome.events
    match outcome.result with
    | .error error => (events, .error (.within s!"failed to register networks from {path}" error))
    | .ok added =>
      (events ++ [.added added.length path, .ready outcome.registry.size], .ok outcome.registry)

/-- The run for arguments that were read. -/
def runCommand (arguments : Arguments) (filter : LogFilter)
    (readFile : String → Except FileFault ByteArray) : Report :=
  let (events, registry) := prepare arguments.networks readFile
  match registry.bind (answer · arguments.command) with
  | .ok text => ⟨0, text, filter.log events⟩
  | .error failure => ⟨1, "", filter.log events ++ failure.text⟩

def usageText : String :=
  "Usage: params-inspect [--networks <FILE>] <COMMAND>\n\n"
    ++ "Commands:\n"
    ++ "  list                   all networks\n"
    ++ "  show <NETWORK>         the parameters of a network, by name or magic\n"
    ++ "  prefix <BYTE>          the kinds of addresses that start with a byte\n"
    ++ "  resolve-hd <VERSION>   the public key version of a private one\n"
    ++ "  checkpoints <NETWORK>  the checkpoints of a network, by name or magic\n"

/-- The run for the arguments after the name of the program. -/
def run (arguments : List String) (filter : LogFilter)
    (readFile : String → Except FileFault ByteArray) : Report :=
  match Arguments.parse arguments with
  | .ok arguments => runCommand arguments filter readFile
  | .error .help => ⟨0, usageText, ""⟩
  | .error .usage => ⟨2, "", usageText⟩

end ChainParams.Inspect
