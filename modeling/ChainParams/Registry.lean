import ChainParams.Definition.Document
import ChainParams.Table

/-!
# The registry

The networks that are known, by their magics, and the order in which they were registered. Beside
them stand the tables by which addresses and extended keys are recognised: the bytes that addresses
of each kind may start with, and the public key version that belongs to a private one. Networks are
only ever added.
-/

namespace ChainParams

structure Registry where
  catalogue : Table Magic Network
  /-- The magics in order of registration. -/
  order : List Magic
  pubkeyHashPrefixes : List UInt8
  scriptHashPrefixes : List UInt8
  stakingKeyPrefixes : List UInt8
  /-- The public version that was last registered with each private one. -/
  publicVersions : Table KeyVersion KeyVersion

namespace Registry

/-- What an operation leaves: the registry after it, the events on the way, and the result. -/
structure Outcome (α : Type) where
  registry : Registry
  events : List Event
  result : Except Error α

def empty : Registry := ⟨.empty, [], [], [], [], .empty⟩

/-! ## Look-ups -/

def get? (registry : Registry) (magic : Magic) : Option Network :=
  registry.catalogue.get? magic

def contains (registry : Registry) (magic : Magic) : Bool :=
  registry.catalogue.contains magic

/-- The network with a magic; it is an error if there is none. -/
def require (registry : Registry) (magic : Magic) : Except Error Network :=
  match registry.get? magic with
  | some network => .ok network
  | none => .error (.unknownMagic magic)

/-- The networks in order of registration. A magic that is not in the catalogue is passed over. -/
def networks (registry : Registry) : List Network :=
  registry.order.filterMap registry.get?

/-- The first network with a name. -/
def byName? (registry : Registry) (name : String) : Option Network :=
  registry.networks.find? fun network ↦ network.name = name

def size (registry : Registry) : Nat :=
  registry.catalogue.size

def isEmpty (registry : Registry) : Bool :=
  registry.catalogue.isEmpty

def isPubkeyHashPrefix (registry : Registry) (byte : UInt8) : Bool :=
  registry.pubkeyHashPrefixes.contains byte

def isScriptHashPrefix (registry : Registry) (byte : UInt8) : Bool :=
  registry.scriptHashPrefixes.contains byte

def isStakingKeyPrefix (registry : Registry) (byte : UInt8) : Bool :=
  registry.stakingKeyPrefixes.contains byte

def publicVersion? (registry : Registry) (privateVersion : KeyVersion) : Option KeyVersion :=
  registry.publicVersions.get? privateVersion

/-- The public version that belongs to the bytes of a private one. -/
def resolve (registry : Registry) (privateVersion : List UInt8) : Except Error KeyVersion :=
  match KeyVersion.ofBytes privateVersion with
  | .error _ => .error (.unknownKeyVersion privateVersion)
  | .ok version =>
    match registry.publicVersion? version with
    | some publicVersion => .ok publicVersion
    | none => .error (.unknownKeyVersion privateVersion)

/-! ## Registration -/

def addKeyVersions (registry : Registry) (versions : KeyVersions) : Registry :=
  { registry with
    publicVersions := registry.publicVersions.insert versions.privateVersion versions.publicVersion }

/-- That a pair of key versions replaces a different one. -/
def remapEvents (registry : Registry) (versions : KeyVersions) : List Event :=
  match registry.publicVersion? versions.privateVersion with
  | none => []
  | some earlier =>
    if earlier = versions.publicVersion then []
    else [.remapped versions.privateVersion earlier versions.publicVersion]

/-- The registry with one more network, whether it fits in or not. -/
def add (registry : Registry) (network : Network) : Registry where
  catalogue := registry.catalogue.insert network.magic network
  order := registry.order ++ [network.magic]
  pubkeyHashPrefixes := registry.pubkeyHashPrefixes.insert network.addressPrefixes.pubkeyHash
  scriptHashPrefixes := registry.scriptHashPrefixes.insert network.addressPrefixes.scriptHash
  stakingKeyPrefixes := registry.stakingKeyPrefixes.insert network.addressPrefixes.stakingKey
  publicVersions := (registry.addKeyVersions network.keyVersions).publicVersions

/-- Registers a network that is valid and whose magic is not taken; it is validated first. -/
def register (registry : Registry) (network : Network) : Outcome Network :=
  match network.validate with
  | .error fault => ⟨registry, [], .error (.network fault)⟩
  | .ok () =>
    if registry.contains network.magic then
      ⟨registry, [.rejected network.name network.magic], .error (.duplicate network.magic)⟩
    else
      ⟨registry.add network,
        registry.remapEvents network.keyVersions
          ++ [.registered network.name network.magic network.defaultPort],
        .ok network⟩

/-- Registers networks one after the other up to the first that cannot be registered; those before
it stay registered. -/
def registerAll (registry : Registry) : List Network → Outcome (List Network)
  | [] => ⟨registry, [], .ok []⟩
  | network :: rest =>
    let first := registry.register network
    match first.result with
    | .error error => ⟨first.registry, first.events, .error error⟩
    | .ok network =>
      let others := first.registry.registerAll rest
      ⟨others.registry, first.events ++ others.events, others.result.map (network :: ·)⟩

/-- Registers a pair of key versions without a network. -/
def registerKeyVersions (registry : Registry) (publicVersion privateVersion : List UInt8) :
    Outcome Unit :=
  match KeyVersions.ofBytes privateVersion publicVersion with
  | .error fault => ⟨registry, [], .error (.keyVersion fault)⟩
  | .ok versions =>
    ⟨registry.addKeyVersions versions, registry.remapEvents versions, .ok ()⟩

/-- Registers the networks that a text defines. -/
def registerText (registry : Registry) (text : String) : Outcome (List Network) :=
  match Definition.parse text with
  | .error error => ⟨registry, [], .error error⟩
  | .ok networks => registry.registerAll networks

/-- Registers the networks that a file defines. -/
def registerFile (registry : Registry) (path : String) (file : Except FileFault ByteArray) :
    Outcome (List Network) :=
  match Definition.loadLogged path file with
  | (.error error, events) => ⟨registry, events, .error error⟩
  | (.ok networks, events) =>
    let outcome := registry.registerAll networks
    { outcome with events := events ++ outcome.events }

/-- A new registry with the standard networks. -/
def standard : Outcome (List Network) :=
  empty.registerAll (StandardNetwork.all.map StandardNetwork.network)

end Registry

end ChainParams
