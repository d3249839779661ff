import ChainParams.Definition.Fault
import ChainParams.Json.Parser
import ChainParams.StandardNetwork

/-!
# Errors

All that can go wrong, told by its cause, with the kind that each error belongs to and its message.
-/

namespace ChainParams

/-- Why a file has no text. -/
inductive FileFault where
  | notFound
  | notUtf8
  /-- Any other reason, in the words of the system. -/
  | unreadable (reason : String)
  deriving DecidableEq, Repr

def FileFault.message : FileFault → String
  | .notFound => "No such file or directory (os error 2)"
  | .notUtf8 => "stream did not contain valid UTF-8"
  | .unreadable reason => reason

inductive Error where
  | blockHash (fault : BlockHash.Fault)
  | keyVersion (fault : KeyVersion.Fault)
  | magic (fault : Magic.Fault)
  | standardNetwork (fault : StandardNetwork.Fault)
  | checkpoints (fault : Checkpoints.Fault)
  | sporkKeys (fault : SporkKeys.Fault)
  | voteWindow (fault : VoteWindow.Fault)
  | rules (fault : ConsensusRules.Fault)
  | schedule (fault : Schedule.Fault)
  | network (fault : Network.Fault)
  /-- A network with this magic is registered already. -/
  | duplicate (magic : Magic)
  /-- No network with this magic is registered. -/
  | unknownMagic (magic : Magic)
  /-- No pair of key versions with this private version is registered. -/
  | unknownKeyVersion (privateVersion : List UInt8)
  | file (fault : FileFault)
  | json (fault : Json.SyntaxFault)
  | definition (fault : Definition.Fault)

namespace Error

inductive Kind where
  | duplicateNetwork
  | invalidKeyVersion
  | unknownKeyVersion
  | invalidHash
  | invalidCheckpoints
  | checkpointNotFound
  | networkNotFound
  | invalidNetwork
  | file
  | serialization
  deriving DecidableEq, Repr

def kind : Error → Kind
  | .blockHash _ => .invalidHash
  | .keyVersion _ => .invalidKeyVersion
  | .magic _ | .standardNetwork _ | .sporkKeys _ | .voteWindow _ | .rules _ | .schedule _ =>
    .invalidNetwork
  | .checkpoints (.badHash _) => .invalidHash
  | .checkpoints (.outOfOrder _ _) => .invalidCheckpoints
  | .checkpoints (.noneUpTo _) => .checkpointNotFound
  | .network (.badGenesis _ _ _) => .invalidCheckpoints
  | .network _ => .invalidNetwork
  | .duplicate _ => .duplicateNetwork
  | .unknownMagic _ => .networkNotFound
  | .unknownKeyVersion _ => .unknownKeyVersion
  | .file _ => .file
  | .json _ | .definition _ => .serialization

/-- The message of what lies beneath an error of a file or of its text. -/
def cause? : Error → Option String
  | .file fault => some fault.message
  | .json fault => some fault.message
  | .definition fault => some fault.message
  | _ => none

def message : Error → String
  | .blockHash fault => fault.message
  | .keyVersion fault => fault.message
  | .magic fault => fault.message
  | .standardNetwork fault => fault.message
  | .checkpoints fault => fault.message
  | .sporkKeys fault => fault.message
  | .voteWindow fault => fault.message
  | .rules fault => fault.message
  | .schedule fault => fault.message
  | .network fault => fault.message
  | .duplicate taken => s!"Duplicate network: magic {taken.text} is already registered"
  | .unknownMagic wanted => s!"Network not found: {wanted.text}"
  | .unknownKeyVersion privateVersion =>
    s!"Unknown HD private key version: {Text.Hex.encode privateVersion}"
  | .file fault => s!"I/O error: {fault.message}"
  | .json fault => s!"Serialization error: {fault.message}"
  | .definition fault => s!"Serialization error: {fault.message}"

end Error

end ChainParams
