import ChainParams.Proofs.Registry.Prefixes
import ChainParams.Proofs.Registry.Room
import ChainParams.Proofs.Search

/-!
# Orders of registration

Networks with different magics can be registered together in any order. The order is seen in the
list of networks and in the look-up of a name that several of them bear. Everything else depends on
it only if two networks have the same private key version with different public ones, as the later
of them would win.
-/

namespace ChainParams.Registry

/-- Valid networks that differ in their magics and do not contradict each other in the public
versions of their private ones. -/
structure Compatible (networks : List Network) : Prop where
  valid : ∀ network ∈ networks, network.validate = .ok ()
  nodup : (networks.map Network.magic).Nodup
  agree : ∀ network ∈ networks, ∀ other ∈ networks,
    network.keyVersions.privateVersion = other.keyVersions.privateVersion →
      network.keyVersions.publicVersion = other.keyVersions.publicVersion

/-- A name tells one network at most. -/
def IsUnambiguous (networks : List Network) (name : String) : Prop :=
  ∀ network ∈ networks, ∀ other ∈ networks, network.name = name → other.name = name →
    network = other

theorem isUnambiguous_of_nodup {networks : List Network} (h : (networks.map Network.name).Nodup)
    (name : String) : IsUnambiguous networks name := by
  intro network hnetwork other hother hname hname'
  exact List.inj_on_of_nodup_map h hnetwork hother (hname.trans hname'.symm)

/-- The registries hold the same networks, and every question but that for the order has the same
answer. -/
structure SameUpToOrder (registry other : Registry) : Prop where
  networks : registry.networks.Perm other.networks
  get? : ∀ magic, registry.get? magic = other.get? magic
  require : ∀ magic, registry.require magic = other.require magic
  contains : ∀ magic, registry.contains magic = other.contains magic
  size : registry.size = other.size
  isEmpty : registry.isEmpty = other.isEmpty
  isPrefix : ∀ kind byte, registry.isPrefix kind byte = other.isPrefix kind byte
  resolve : ∀ bytes, registry.resolve bytes = other.resolve bytes
  byName? : ∀ name, IsUnambiguous other.networks name → registry.byName? name = other.byName? name

namespace Compatible

variable {networks others : List Network}

theorem perm (h : Compatible networks) (hperm : others.Perm networks) : Compatible others where
  valid network hmem := h.valid network (hperm.mem_iff.mp hmem)
  nodup := (hperm.map Network.magic).nodup_iff.mpr h.nodup
  agree network hmem other hother :=
    h.agree network (hperm.mem_iff.mp hmem) other (hperm.mem_iff.mp hother)

/-! ## Registration -/

theorem registerAll (h : Compatible networks) :
    (empty.registerAll networks).result = .ok networks ∧
      (empty.registerAll networks).registry.Records (networks.map .network) := by
  have hroom : empty.HasRoom networks := ⟨h.nodup, fun _ _ ↦ rfl⟩
  have hresult := (registerAll_of_hasRoom h.valid hroom).1
  have hrecords := records_empty.leads (leads_registerAll empty networks)
  rw [entriesOfAll_of_ok hresult, List.nil_append] at hrecords
  exact ⟨hresult, hrecords⟩

/-- The last entry with a private version, as any other with it, has the public version for it. -/
theorem lastPublic?_perm (h : Compatible networks) (hperm : others.Perm networks)
    (version : KeyVersion) :
    lastPublic? (others.map .network) version = lastPublic? (networks.map .network) version := by
  have hreverse : (others.map Entry.network).reverse.Perm (networks.map Entry.network).reverse :=
    (List.reverse_perm _).trans ((hperm.map _).trans (List.reverse_perm _).symm)
  apply map_find?_of_perm hreverse
  intro entry hentry other hother hversion hotherVersion
  rw [List.mem_reverse, List.mem_map] at hentry hother
  obtain ⟨network, hnetwork, rfl⟩ := hentry
  obtain ⟨second, hsecond, rfl⟩ := hother
  exact h.agree network hnetwork second hsecond
    ((of_decide_eq_true hversion).trans (of_decide_eq_true hotherVersion).symm)

theorem sameUpToOrder (h : Compatible networks) (hperm : others.Perm networks)
    {registry other : Registry} (hother : other.Records (others.map .network))
    (hregistry : registry.Records (networks.map .network)) : other.SameUpToOrder registry := by
  have hget (magic : Magic) : other.get? magic = registry.get? magic := by
    rw [hother.get?_eq, hregistry.get?_eq, accepted_map_network, accepted_map_network]
    apply Option.ext
    intro network
    rw [find?_key_eq_some_iff (h.perm hperm).nodup, find?_key_eq_some_iff h.nodup, hperm.mem_iff]
  have hsize : other.size = registry.size := by
    rw [hother.size_eq, hregistry.size_eq, accepted_map_network, accepted_map_network,
      hperm.length_eq]
  constructor
  case networks =>
    rwa [hother.networks_eq, hregistry.networks_eq, accepted_map_network, accepted_map_network]
  case get? => exact hget
  case require =>
    intro magic
    rw [require, require, hget]
  case contains =>
    intro magic
    exact congrArg Option.isSome (hget magic)
  case size => exact hsize
  case isEmpty => rw [Bool.eq_iff_iff, isEmpty_iff_size, isEmpty_iff_size, hsize]
  case isPrefix =>
    intro kind byte
    rw [Bool.eq_iff_iff, hother.isPrefix_iff, hregistry.isPrefix_iff, accepted_map_network,
      accepted_map_network]
    simp only [hperm.mem_iff]
  case resolve =>
    intro bytes
    apply resolve_congr
    intro version _
    rw [hother.publicVersion?_eq, hregistry.publicVersion?_eq, h.lastPublic?_perm hperm]
  case byName? =>
    intro name hname
    rw [hregistry.networks_eq, accepted_map_network] at hname
    rw [byName?, byName?, hother.networks_eq, hregistry.networks_eq, accepted_map_network,
      accepted_map_network]
    apply find?_of_perm hperm
    intro a ha b hb ha' hb'
    exact hname a ha b hb (of_decide_eq_true ha') (of_decide_eq_true hb')

end Compatible

/-- Networks that do not contradict each other are all registered, whatever their order, and the
registries differ in nothing else. -/
theorem registerAll_perm (networks others : List Network) (h : Compatible networks)
    (hperm : others.Perm networks) :
    (empty.registerAll networks).result = .ok networks ∧
      (empty.registerAll others).result = .ok others ∧
      (empty.registerAll others).registry.SameUpToOrder (empty.registerAll networks).registry := by
  obtain ⟨hresult, hrecords⟩ := h.registerAll
  obtain ⟨hother, hotherRecords⟩ := (h.perm hperm).registerAll
  exact ⟨hresult, hother, h.sameUpToOrder hperm hotherRecords hrecords⟩

/-- The test networks have the same key versions. Which of them comes last makes no difference: each
is found by its name and its magic, and their private version leads to their public one. -/
theorem registerAll_perm_testNetworks :
    (empty.registerAll [StandardNetwork.regtestNetwork, StandardNetwork.mainNetwork,
        StandardNetwork.testNetwork]).result =
      .ok [StandardNetwork.regtestNetwork, StandardNetwork.mainNetwork,
        StandardNetwork.testNetwork] ∧
    (empty.registerAll [StandardNetwork.regtestNetwork, StandardNetwork.mainNetwork,
        StandardNetwork.testNetwork]).registry.byName? "regtest" =
      some StandardNetwork.regtestNetwork ∧
    (empty.registerAll [StandardNetwork.regtestNetwork, StandardNetwork.mainNetwork,
        StandardNetwork.testNetwork]).registry.get? StandardNetwork.testNetwork.magic =
      some StandardNetwork.testNetwork ∧
    (empty.registerAll [StandardNetwork.regtestNetwork, StandardNetwork.mainNetwork,
        StandardNetwork.testNetwork]).registry.size = 3 ∧
    (empty.registerAll [StandardNetwork.regtestNetwork, StandardNetwork.mainNetwork,
        StandardNetwork.testNetwork]).registry.resolve
          StandardNetwork.testKeyVersions.privateVersion.bytes =
      .ok StandardNetwork.testKeyVersions.publicVersion := by
  have hcompatible : Compatible (StandardNetwork.all.map StandardNetwork.network) := by
    refine ⟨?_, by decide, by decide⟩
    rw [List.forall_mem_map]
    rintro (_ | _ | _) _ <;> rfl
  have hperm : [StandardNetwork.regtestNetwork, StandardNetwork.mainNetwork,
      StandardNetwork.testNetwork].Perm (StandardNetwork.all.map StandardNetwork.network) :=
    (List.Perm.swap ..).trans ((List.Perm.swap ..).cons _)
  obtain ⟨-, hresult, hsame⟩ := registerAll_perm _ _ hcompatible hperm
  have hnames : (standard.registry.networks.map Network.name).Nodup := by decide
  refine ⟨hresult, ?_, hsame.get? _, hsame.size, hsame.resolve _⟩
  exact hsame.byName? "regtest" (isUnambiguous_of_nodup hnames "regtest")

end ChainParams.Registry
