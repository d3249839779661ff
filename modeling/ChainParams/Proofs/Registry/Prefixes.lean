import ChainParams.Proofs.Registry.Resolution

/-!
# Prefixes of addresses

The bytes that addresses of a kind may start with are those that the registered networks have for
this kind. A network that was rejected adds none, neither does a pair of key versions, and what a
network has for another kind or for its secret keys does not count.
-/

namespace ChainParams.Registry

/-- The kinds of addresses that a registry recognises. -/
inductive AddressKind where
  | pubkeyHash
  | scriptHash
  | stakingKey

/-- The byte that the addresses of a network start with. -/
def AddressKind.byte : AddressKind → Network → UInt8
  | pubkeyHash, network => network.addressPrefixes.pubkeyHash
  | scriptHash, network => network.addressPrefixes.scriptHash
  | stakingKey, network => network.addressPrefixes.stakingKey

def isPrefix (registry : Registry) : AddressKind → UInt8 → Bool
  | .pubkeyHash => registry.isPubkeyHashPrefix
  | .scriptHash => registry.isScriptHashPrefix
  | .stakingKey => registry.isStakingKeyPrefix

theorem Records.isPrefix_iff {registry : Registry} {entries : List Entry}
    (h : registry.Records entries) (kind : AddressKind) (byte : UInt8) :
    registry.isPrefix kind byte = true ↔
      ∃ network ∈ accepted entries, kind.byte network = byte := by
  cases kind with
  | pubkeyHash => exact h.pubkeyHash_iff byte
  | scriptHash => exact h.scriptHash_iff byte
  | stakingKey => exact h.stakingKey_iff byte

/-- A call adds the bytes of the networks that it registers. -/
theorem Records.isPrefix_after_iff {registry : Registry} {entries : List Entry}
    (h : registry.Records entries) (call : Call) (kind : AddressKind) (byte : UInt8) :
    (registry.after call).isPrefix kind byte = true ↔
      registry.isPrefix kind byte = true ∨
        ∃ network ∈ accepted (registry.entries call), kind.byte network = byte := by
  have hafter := h.leads (leads_after registry call)
  rw [hafter.isPrefix_iff, h.isPrefix_iff, accepted_append]
  simp only [List.mem_append, or_and_right, exists_or]

theorem mem_entries_register_iff {registry : Registry} {network other : Network} :
    other ∈ accepted (registry.entries (.register network)) ↔
      other = network ∧ (registry.register network).result = .ok network := by
  rcases admits_or_error registry network with hadmits | ⟨-, error, herror⟩
  · have hresult := (register_of_admits hadmits).2
    have hentries : registry.entries (.register network) = [.network network] := by
      simp only [entries, entriesOfAll, hresult]
    rw [hentries, hresult, and_iff_left rfl]
    exact List.mem_singleton
  · have hentries : registry.entries (.register network) = [] := by
      simp only [entries, entriesOfAll, herror]
    simp only [hentries, herror, accepted, List.filterMap_nil, List.not_mem_nil, reduceCtorEq,
      and_false]

/-- A network adds its byte if it is registered, and otherwise nothing. -/
theorem Records.isPrefix_register_iff {registry : Registry} {entries : List Entry}
    (h : registry.Records entries) (network : Network) (kind : AddressKind) (byte : UInt8) :
    (registry.register network).registry.isPrefix kind byte = true ↔
      registry.isPrefix kind byte = true ∨
        (registry.register network).result = .ok network ∧ kind.byte network = byte := by
  have hafter := h.isPrefix_after_iff (.register network) kind byte
  simp only [mem_entries_register_iff, and_assoc, exists_eq_left] at hafter
  exact hafter

theorem isPrefix_registerKeyVersions (registry : Registry)
    (publicVersion privateVersion : List UInt8) (kind : AddressKind) (byte : UInt8) :
    (registry.registerKeyVersions publicVersion privateVersion).registry.isPrefix kind byte =
      registry.isPrefix kind byte := by
  have hsame := registry.sameNetworks_registerKeyVersions publicVersion privateVersion
  cases kind with
  | pubkeyHash => exact hsame.isPubkeyHashPrefix byte
  | scriptHash => exact hsame.isScriptHashPrefix byte
  | stakingKey => exact hsame.isStakingKeyPrefix byte

/-- In every registry that is reached, a byte is the prefix of a kind exactly if it is that of some
registered network. The next call adds the bytes of the networks that it registers: that of one
network if its registration succeeds, and none for key versions. -/
theorem isPrefix_run_iff (start : Start) (calls : List Call) (kind : AddressKind) (byte : UInt8) :
    ((start.registry.run calls).isPrefix kind byte = true ↔
      ∃ network ∈ (start.registry.run calls).networks, kind.byte network = byte) ∧
    (∀ call, ((start.registry.run calls).after call).isPrefix kind byte = true ↔
      (start.registry.run calls).isPrefix kind byte = true ∨
        ∃ network ∈ accepted ((start.registry.run calls).entries call),
          kind.byte network = byte) ∧
    (∀ network, ((start.registry.run calls).register network).registry.isPrefix kind byte = true ↔
      (start.registry.run calls).isPrefix kind byte = true ∨
        ((start.registry.run calls).register network).result = .ok network ∧
          kind.byte network = byte) ∧
    ∀ publicVersion privateVersion,
      ((start.registry.run calls).registerKeyVersions publicVersion
        privateVersion).registry.isPrefix kind byte =
          (start.registry.run calls).isPrefix kind byte := by
  rw [start.run_eq]
  have hrecords := records_run (start.calls ++ calls)
  refine ⟨?_, ?_, ?_, ?_⟩
  · rw [hrecords.networks_eq]
    exact hrecords.isPrefix_iff kind byte
  · intro call
    exact hrecords.isPrefix_after_iff call kind byte
  · intro network
    exact hrecords.isPrefix_register_iff network kind byte
  · intro publicVersion privateVersion
    exact isPrefix_registerKeyVersions _ publicVersion privateVersion kind byte

/-- The bytes of secret keys are no prefixes of addresses of the standard networks. -/
example (kind : AddressKind) (network : StandardNetwork) :
    standard.registry.isPrefix kind network.network.addressPrefixes.secretKey = false := by
  cases kind <;> cases network <;> rfl

end ChainParams.Registry
