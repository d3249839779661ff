import ChainParams.Proofs.Registry.Records
import ChainParams.Proofs.Search

/-!
# The catalogue of networks

Every look-up of a registry answers from the list of the networks whose registration succeeded. No
magic of the order is passed over, as each one leads to its network, and since the list only grows
at its end, the first network with a magic or a name stays the one that is found.
-/

namespace ChainParams.Registry

/-- The look-ups answer from a list of networks. -/
structure Lists (registry : Registry) (networks : List Network) : Prop where
  networks_eq : registry.networks = networks
  nodup : (networks.map Network.magic).Nodup
  size_eq : registry.size = networks.length
  isEmpty_iff : registry.isEmpty = true ↔ networks.length = 0
  contains_iff : ∀ magic,
    registry.contains magic = true ↔ ∃ network ∈ networks, network.magic = magic
  get?_of_mem : ∀ network ∈ networks, registry.get? network.magic = some network
  get?_of_ne : ∀ magic, (∀ network ∈ networks, network.magic ≠ magic) →
    registry.get? magic = none
  require_of_mem : ∀ network ∈ networks, registry.require network.magic = .ok network
  require_of_ne : ∀ magic, (∀ network ∈ networks, network.magic ≠ magic) →
    registry.require magic = .error (.unknownMagic magic)
  byName?_eq : ∀ name, registry.byName? name = networks.find? (·.name = name)

namespace Lists

variable {registry : Registry} {networks : List Network}

theorem byName?_eq_none_iff (h : registry.Lists networks) {name : String} :
    registry.byName? name = none ↔ ∀ network ∈ networks, network.name ≠ name := by
  rw [h.byName?_eq, List.find?_eq_none]
  simp

/-- A name leads to the first network that has it. -/
theorem byName?_eq_some_iff (h : registry.Lists networks) {name : String} {network : Network} :
    registry.byName? name = some network ↔ network.name = name ∧
      ∃ before after, networks = before ++ network :: after ∧
        ∀ earlier ∈ before, earlier.name ≠ name := by
  rw [h.byName?_eq, List.find?_eq_some_iff_append]
  simp

end Lists

theorem isEmpty_iff_size (registry : Registry) :
    registry.isEmpty = true ↔ registry.size = 0 :=
  List.isEmpty_iff_length_eq_zero

namespace Records

variable {registry : Registry} {entries : List Entry}

theorem nodup_magics (h : registry.Records entries) :
    ((accepted entries).map Network.magic).Nodup :=
  h.order_eq ▸ h.nodup

theorem get?_of_mem (h : registry.Records entries) {network : Network}
    (hmem : network ∈ accepted entries) : registry.get? network.magic = some network := by
  rw [h.get?_eq]
  exact (find?_key_eq_some_iff h.nodup_magics).mpr ⟨hmem, rfl⟩

theorem get?_of_ne (h : registry.Records entries) {magic : Magic}
    (hne : ∀ network ∈ accepted entries, network.magic ≠ magic) : registry.get? magic = none := by
  rw [h.get?_eq, List.find?_eq_none]
  simpa using hne

/-- The map has a network for every magic in the order, so that none is passed over. -/
theorem networks_eq (h : registry.Records entries) : registry.networks = accepted entries := by
  calc
    registry.networks = (accepted entries).filterMap fun network ↦ registry.get? network.magic := by
      rw [networks, h.order_eq, List.filterMap_map]
      rfl
    _ = (accepted entries).filterMap some :=
      List.filterMap_congr fun network hmem ↦ h.get?_of_mem hmem
    _ = accepted entries := List.filterMap_some

theorem contains_iff (h : registry.Records entries) (magic : Magic) :
    registry.contains magic = true ↔ ∃ network ∈ accepted entries, network.magic = magic := by
  change (registry.get? magic).isSome = true ↔ _
  rw [h.get?_eq, List.find?_isSome]
  simp

theorem lists (h : registry.Records entries) : registry.Lists (accepted entries) where
  networks_eq := h.networks_eq
  nodup := h.nodup_magics
  size_eq := h.size_eq
  isEmpty_iff := by rw [isEmpty_iff_size, h.size_eq]
  contains_iff := h.contains_iff
  get?_of_mem _ hmem := h.get?_of_mem hmem
  get?_of_ne _ hne := h.get?_of_ne hne
  require_of_mem _ hmem := by rw [require, h.get?_of_mem hmem]
  require_of_ne _ hne := by rw [require, h.get?_of_ne hne]
  byName?_eq name := by rw [byName?, h.networks_eq]

end Records

/-! ## Later states -/

theorem records_run_append (calls later : List Call) :
    ((empty.run calls).run later).Records
      (empty.journal calls ++ (empty.run calls).journal later) := by
  rw [← run_append, ← journal_append]
  exact records_run (calls ++ later)

theorem get?_run {calls : List Call} {magic : Magic} {network : Network}
    (h : (empty.run calls).get? magic = some network) (later : List Call) :
    ((empty.run calls).run later).get? magic = some network := by
  rw [(records_run calls).get?_eq] at h
  rw [(records_run_append calls later).get?_eq, accepted_append, List.find?_append, h]
  rfl

theorem byName?_run {calls : List Call} {name : String} {network : Network}
    (h : (empty.run calls).byName? name = some network) (later : List Call) :
    ((empty.run calls).run later).byName? name = some network := by
  rw [byName?, (records_run calls).networks_eq] at h
  rw [byName?, (records_run_append calls later).networks_eq, accepted_append, List.find?_append, h]
  rfl

/-- A magic that was taken stays taken. -/
theorem register_run_of_taken {calls : List Call} {network : Network}
    (h : (empty.run calls).contains network.magic = true) (hvalid : network.validate = .ok ())
    (later : List Call) :
    (((empty.run calls).run later).register network).result =
      .error (.duplicate network.magic) := by
  obtain ⟨earlier, hearlier⟩ := Option.isSome_iff_exists.mp h
  have htaken : ((empty.run calls).run later).contains network.magic = true :=
    Option.isSome_iff_exists.mpr ⟨earlier, get?_run hearlier later⟩
  rw [register_of_taken hvalid htaken]

theorem run_concat_register (registry : Registry) (calls : List Call) (network : Network) :
    ((registry.run calls).register network).registry =
      registry.run (calls ++ [.register network]) := by
  rw [run_append]
  rfl

/-- Of the valid networks with one magic the first is registered, and no other ever is. -/
theorem register_first_only (calls : List Call) {network : Network}
    (hadmits : (empty.run calls).Admits (.network network)) (later : List Call) {other : Network}
    (hvalid : other.validate = .ok ()) (hmagic : other.magic = network.magic) :
    ((((empty.run calls).register network).registry.run later).register other).result =
      .error (.duplicate network.magic) := by
  have htaken : ((empty.run calls).register network).registry.contains other.magic = true := by
    rw [(register_of_admits hadmits).1, contains_add, decide_eq_true hmagic, Bool.true_or]
  rw [run_concat_register] at htaken ⊢
  rw [← hmagic]
  exact register_run_of_taken htaken hvalid later

/-- A magic is free until a valid network with it was asked for. -/
theorem contains_run_eq_false {calls : List Call} {magic : Magic}
    (h : ∀ call ∈ calls, ∀ network ∈ call.networks, network.validate = .ok () →
      network.magic ≠ magic) : (empty.run calls).contains magic = false := by
  have hrecords := records_run calls
  rw [Bool.eq_false_iff, ne_eq, hrecords.contains_iff]
  rintro ⟨network, hmem, hmagic⟩
  obtain ⟨call, hcall, hasked⟩ := mem_of_mem_journal hmem
  exact h call hcall network hasked (hrecords.valid network hmem) hmagic

/-- The look-ups answer from the networks that were registered. Of the valid networks with one magic
the first that is asked for is registered and no later one, and what was found once is found in
every later state. -/
theorem lists_run (calls : List Call) :
    (empty.run calls).Lists (accepted (empty.journal calls)) ∧
      (∀ magic, (∀ call ∈ calls, ∀ network ∈ call.networks, network.validate = .ok () →
        network.magic ≠ magic) → (empty.run calls).contains magic = false) ∧
      (∀ network, network.validate = .ok () → (empty.run calls).contains network.magic = false →
        ((empty.run calls).register network).result = .ok network ∧
          ∀ later other, other.validate = .ok () → other.magic = network.magic →
            ((((empty.run calls).register network).registry.run later).register other).result =
              .error (.duplicate network.magic)) ∧
      ∀ later,
        (∀ magic network, (empty.run calls).get? magic = some network →
          ((empty.run calls).run later).get? magic = some network) ∧
        ∀ name network, (empty.run calls).byName? name = some network →
          ((empty.run calls).run later).byName? name = some network := by
  refine ⟨(records_run calls).lists, ?_, ?_, ?_⟩
  · intro magic hnew
    exact contains_run_eq_false hnew
  · intro network hvalid hfree
    have hadmits : (empty.run calls).Admits (.network network) := ⟨hvalid, hfree⟩
    refine ⟨(register_of_admits hadmits).2, ?_⟩
    intro later other hother hmagic
    exact register_first_only calls hadmits later hother hmagic
  · intro later
    constructor
    · intro magic network hget
      exact get?_run hget later
    · intro name network hname
      exact byName?_run hname later

/-- The main network is registered once; a test network with its magic comes too late. -/
theorem lists_run_mainNetwork :
    (empty.register StandardNetwork.mainNetwork).result = .ok StandardNetwork.mainNetwork ∧
      (((empty.register StandardNetwork.mainNetwork).registry.run
          [.registerAll [StandardNetwork.regtestNetwork]]).register
        { StandardNetwork.testNetwork with magic := StandardNetwork.main.magic }).result =
          .error (.duplicate StandardNetwork.main.magic) := by
  obtain ⟨-, -, hfirst, -⟩ := lists_run []
  obtain ⟨hresult, hlater⟩ := hfirst StandardNetwork.mainNetwork rfl rfl
  exact ⟨hresult, hlater _ _ rfl rfl⟩

end ChainParams.Registry
