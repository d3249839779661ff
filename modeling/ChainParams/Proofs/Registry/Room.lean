import ChainParams.Proofs.Registry.Catalogue

/-!
# Room for a list of networks

Valid networks are registered one after the other as long as their magics are free. There is room
for a list if its magics differ and none of them is taken; otherwise there is a first network whose
magic is taken, by the registry or by a network before it in the list, and there registration stops.
-/

namespace ChainParams.Registry

/-- Magics that are taken once the networks before have been registered. -/
def Taken (registry : Registry) (before : List Network) (magic : Magic) : Prop :=
  registry.contains magic = true ∨ ∃ earlier ∈ before, earlier.magic = magic

/-- The magics differ, and none of them is taken. -/
structure HasRoom (registry : Registry) (networks : List Network) : Prop where
  nodup : (networks.map Network.magic).Nodup
  free : ∀ network ∈ networks, registry.contains network.magic = false

/-- The network at which the list runs out of room, and the networks before it. -/
structure FirstTaken (registry : Registry) (networks before : List Network) (taken : Network) :
    Prop where
  split : ∃ rest, networks = before ++ taken :: rest
  room : registry.HasRoom before
  taken : registry.Taken before taken.magic

theorem FirstTaken.mem_of_mem_before {registry : Registry} {networks before : List Network}
    {taken : Network} (h : registry.FirstTaken networks before taken) {network : Network}
    (hmem : network ∈ before) : network ∈ networks := by
  obtain ⟨rest, rfl⟩ := h.split
  exact List.mem_append_left _ hmem

/-! ## One network after the other -/

theorem hasRoom_nil (registry : Registry) : registry.HasRoom [] where
  nodup := .nil
  free := List.forall_mem_nil _

theorem contains_add_eq_false_iff (registry : Registry) (network : Network) (magic : Magic) :
    (registry.add network).contains magic = false ↔
      magic ≠ network.magic ∧ registry.contains magic = false := by
  rw [contains_add, Bool.or_eq_false_iff, decide_eq_false_iff_not]

theorem hasRoom_cons_iff {registry : Registry} {network : Network} {rest : List Network} :
    registry.HasRoom (network :: rest) ↔
      registry.contains network.magic = false ∧ (registry.add network).HasRoom rest := by
  constructor
  · rintro ⟨hnodup, hfree⟩
    obtain ⟨hhead, htail⟩ := List.nodup_cons.mp hnodup
    obtain ⟨hnetwork, hrest⟩ := List.forall_mem_cons.mp hfree
    refine ⟨hnetwork, htail, ?_⟩
    intro other hother
    rw [contains_add_eq_false_iff]
    exact ⟨fun heq ↦ hhead (heq ▸ List.mem_map_of_mem hother), hrest other hother⟩
  · rintro ⟨hnetwork, hnodup, hfree⟩
    simp only [contains_add_eq_false_iff] at hfree
    refine ⟨List.nodup_cons.mpr ⟨?_, hnodup⟩, List.forall_mem_cons.mpr ⟨hnetwork, ?_⟩⟩
    · intro hmem
      obtain ⟨other, hother, heq⟩ := List.mem_map.mp hmem
      exact (hfree other hother).1 heq
    · intro other hother
      exact (hfree other hother).2

theorem taken_cons_iff {registry : Registry} {network : Network} {before : List Network}
    {magic : Magic} :
    registry.Taken (network :: before) magic ↔ (registry.add network).Taken before magic := by
  unfold Taken
  rw [contains_add, Bool.or_eq_true, decide_eq_true_iff, List.exists_mem_cons_iff, or_left_comm,
    or_assoc, eq_comm (a := magic)]

/-- Either there is room for all of the networks or for those before the first that is taken. -/
theorem hasRoom_or_firstTaken (registry : Registry) (networks : List Network) :
    registry.HasRoom networks ∨ ∃ before taken, registry.FirstTaken networks before taken := by
  induction networks generalizing registry with
  | nil => exact .inl registry.hasRoom_nil
  | cons network rest ih =>
    cases hcontains : registry.contains network.magic with
    | true => exact .inr ⟨[], network, ⟨rest, rfl⟩, registry.hasRoom_nil, .inl hcontains⟩
    | false =>
      rcases ih (registry.add network) with hroom | ⟨before, taken, ⟨later, rfl⟩, hroom, htaken⟩
      · exact .inl (hasRoom_cons_iff.mpr ⟨hcontains, hroom⟩)
      · exact .inr ⟨network :: before, taken, ⟨later, rfl⟩,
          hasRoom_cons_iff.mpr ⟨hcontains, hroom⟩, taken_cons_iff.mpr htaken⟩

/-! ## Registration -/

theorem registerAll_of_hasRoom {registry : Registry} {networks : List Network}
    (hvalid : ∀ network ∈ networks, network.validate = .ok ()) (hroom : registry.HasRoom networks) :
    (registry.registerAll networks).result = .ok networks ∧
      (registry.registerAll networks).registry = registry.run (networks.map .register) := by
  induction networks generalizing registry with
  | nil => exact ⟨rfl, rfl⟩
  | cons network rest ih =>
    obtain ⟨hnetwork, hrest⟩ := List.forall_mem_cons.mp hvalid
    obtain ⟨hfree, hroom⟩ := hasRoom_cons_iff.mp hroom
    obtain ⟨hregistry, hresult⟩ := register_of_admits ⟨hnetwork, hfree⟩
    obtain ⟨hall, hrun⟩ := ih hrest hroom
    have hafter : registry.after (.register network) = registry.add network := hregistry
    simp only [registerAll, hresult, hregistry, hall, hrun, run, List.map_cons, List.foldl_cons,
      hafter, Except.map, and_self]

/-- Registration stops at the network whose magic is taken; those before it stay registered. -/
theorem registerAll_of_firstTaken {registry : Registry} {networks before : List Network}
    {taken : Network} (hvalid : ∀ network ∈ networks, network.validate = .ok ())
    (h : registry.FirstTaken networks before taken) :
    (registry.registerAll networks).result = .error (.duplicate taken.magic) ∧
      (registry.registerAll networks).registry = (registry.registerAll before).registry := by
  obtain ⟨⟨rest, rfl⟩, hroom, htaken⟩ := h
  induction before generalizing registry with
  | nil =>
    have hcontains : registry.contains taken.magic = true :=
      htaken.resolve_right fun ⟨_, hmem, _⟩ ↦ nomatch hmem
    have hregister := register_of_taken (List.forall_mem_cons.mp hvalid).1 hcontains
    simp only [List.nil_append, registerAll, hregister, and_self]
  | cons network before ih =>
    obtain ⟨hnetwork, hrest⟩ := List.forall_mem_cons.mp hvalid
    obtain ⟨hfree, hroom⟩ := hasRoom_cons_iff.mp hroom
    obtain ⟨hregistry, hresult⟩ := register_of_admits ⟨hnetwork, hfree⟩
    obtain ⟨herror, hsame⟩ := ih hroom (taken_cons_iff.mp htaken) hrest
    simp only [List.cons_append, registerAll, hresult, hregistry, herror, hsame, Except.map,
      and_self]

/-- The entries are those of the networks that come back. -/
theorem entriesOfAll_of_ok {registry : Registry} {networks added : List Network}
    (h : (registry.registerAll networks).result = .ok added) :
    registry.entriesOfAll networks = added.map .network := by
  induction networks generalizing registry added with
  | nil =>
    cases h
    rfl
  | cons network rest ih =>
    rcases admits_or_error registry network with hadmits | ⟨-, error, herror⟩
    · obtain ⟨hregistry, hresult⟩ := register_of_admits hadmits
      simp only [registerAll, hresult, hregistry] at h
      cases hrest : ((registry.add network).registerAll rest).result with
      | error error =>
        rw [hrest] at h
        cases h
      | ok others =>
        rw [hrest] at h
        cases h
        simp only [entriesOfAll, hresult, hregistry, ih hrest, List.map_cons]
    · simp only [registerAll, herror] at h
      cases h

theorem accepted_map_network (networks : List Network) :
    accepted (networks.map .network) = networks := by
  calc
    accepted (networks.map .network) = networks.filterMap some := List.filterMap_map ..
    _ = networks := List.filterMap_some

/-- The networks that are registered together follow those that were there. -/
theorem Records.networks_registerAll {registry : Registry} {entries : List Entry}
    (h : registry.Records entries) {networks added : List Network}
    (hadded : (registry.registerAll networks).result = .ok added) :
    (registry.registerAll networks).registry.networks = registry.networks ++ added := by
  have hlater := h.leads (leads_registerAll registry networks)
  calc
    (registry.registerAll networks).registry.networks =
        accepted entries ++ accepted (registry.entriesOfAll networks) := by
      rw [hlater.networks_eq, accepted_append]
    _ = registry.networks ++ added := by
      rw [h.networks_eq, entriesOfAll_of_ok hadded, accepted_map_network]

end ChainParams.Registry
