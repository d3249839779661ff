import ChainParams.Definition.Network
import ChainParams.Error
import ChainParams.Event

/-!
# Definition files

The text of a definition file is the JSON of one network or of an array of networks. Key versions
that are no key versions have an error of their own, which comes before all others of a network.
-/

namespace ChainParams.Definition

/-- Judges a key version that stands where an object has one. -/
def checkKeyVersion (versions : Json) (key : String) : Except KeyVersion.Fault Unit :=
  match versions.get? key with
  | some (.str text) => (KeyVersion.ofHex text).map fun _ ↦ ()
  | _ => .ok ()

/-- Judges the key versions of a definition, the private one first. -/
def checkKeyVersions (value : Json) : Except KeyVersion.Fault Unit :=
  match value.get? "hd_key_versions" with
  | some versions => do
    checkKeyVersion versions "private"
    checkKeyVersion versions "public"
  | none => .ok ()

def readNetwork (value : Json) : Except Error Network := do
  (checkKeyVersions value).mapError .keyVersion
  (Form.network.read value).mapError .definition

/-- The definitions in a document: the items of an array, or the only one. -/
def definitions : Json → List Json
  | .arr items => items
  | value => [value]

/-- All networks are read before the first is validated. -/
def readNetworks (value : Json) : Except Error (List Network) := do
  let networks ← (definitions value).mapM readNetwork
  networks.forM fun network ↦ network.validate.mapError .network
  return networks

/-- The networks that a text defines. -/
def parse (text : String) : Except Error (List Network) := do
  readNetworks (← (Json.parse text).mapError .json)

/-- The networks that a file defines, if it can be read. -/
def load (file : Except FileFault ByteArray) : Except Error (List Network) := do
  match String.fromUTF8? (← file.mapError .file) with
  | some text => parse text
  | none => throw (.file .notUtf8)

/-- Loads a file and tells how many networks it defines. -/
def loadLogged (path : String) (file : Except FileFault ByteArray) :
    Except Error (List Network) × List Event :=
  match load file with
  | .ok networks => (.ok networks, [.loaded networks.length path])
  | .error error => (.error error, [])

end ChainParams.Definition
