import ChainParams.Proofs.Registry.Run

/-!
# What a registry records

The map of networks, the order of registration and the tables of prefixes and key versions are kept
apart, but all of them follow from the entries alone: each entry is put into every one of them. As a
network is admitted only if its magic is free, no magic stands twice.
-/

namespace ChainParams.Registry

/-! ## Entries in order -/

/-- The public version in the last entry with a private version. -/
def lastPublic? (entries : List Entry) (privateVersion : KeyVersion) : Option KeyVersion :=
  (entries.reverse.find? fun entry ↦ entry.versions.privateVersion = privateVersion).map
    fun entry ↦ entry.versions.publicVersion

theorem lastPublic?_append (entries later : List Entry) (version : KeyVersion) :
    lastPublic? (entries ++ later) version =
      (lastPublic? later version).or (lastPublic? entries version) := by
  rw [lastPublic?, List.reverse_append, List.find?_append, Option.map_or]
  rfl

theorem lastPublic?_singleton (entry : Entry) (version : KeyVersion) :
    lastPublic? [entry] version =
      if version = entry.versions.privateVersion then some entry.versions.publicVersion
      else none := by
  by_cases h : version = entry.versions.privateVersion <;> simp [lastPublic?, h, eq_comm]

/-! ## One more entry -/

theorem get?_add (registry : Registry) (network : Network) (magic : Magic) :
    (registry.add network).get? magic =
      if magic = network.magic then some network else registry.get? magic :=
  registry.catalogue.get?_insert network.magic magic network

theorem contains_add (registry : Registry) (network : Network) (magic : Magic) :
    (registry.add network).contains magic =
      (decide (magic = network.magic) || registry.contains magic) :=
  registry.catalogue.contains_insert network.magic magic network

theorem publicVersion?_enter (registry : Registry) (entry : Entry) (version : KeyVersion) :
    (registry.enter entry).publicVersion? version =
      if version = entry.versions.privateVersion then some entry.versions.publicVersion
      else registry.publicVersion? version := by
  cases entry <;> exact registry.publicVersions.get?_insert _ version _

theorem size_add {registry : Registry} {network : Network}
    (h : registry.get? network.magic = none) :
    (registry.add network).size = registry.size + 1 :=
  registry.catalogue.size_insert network h

/-- The bytes that some network has for one kind of address, and one more network. -/
theorem contains_insert_prefix {prefixes : List UInt8} {networks : List Network}
    {kind : Network → UInt8}
    (h : ∀ byte, prefixes.contains byte = true ↔ ∃ network ∈ networks, kind network = byte)
    (network : Network) (byte : UInt8) :
    (prefixes.insert (kind network)).contains byte = true ↔
      ∃ other ∈ networks ++ [network], kind other = byte := by
  have hor : (∃ other ∈ networks ++ [network], kind other = byte) ↔
      (∃ other ∈ networks, kind other = byte) ∨ kind network = byte := by
    simp only [List.mem_append, List.mem_singleton, or_and_right, exists_or, exists_eq_left]
  rw [hor, ← h byte, List.contains_iff_mem, List.contains_iff_mem, List.mem_insert_iff, or_comm,
    eq_comm]

/-! ## The record -/

/-- The registry holds what the entries say and nothing else. -/
structure Records (registry : Registry) (entries : List Entry) : Prop where
  order_eq : registry.order = (accepted entries).map Network.magic
  nodup : registry.order.Nodup
  get?_eq : ∀ magic, registry.get? magic = (accepted entries).find? (·.magic = magic)
  size_eq : registry.size = (accepted entries).length
  publicVersion?_eq : ∀ version, registry.publicVersion? version = lastPublic? entries version
  pubkeyHash_iff : ∀ byte, registry.isPubkeyHashPrefix byte = true ↔
    ∃ network ∈ accepted entries, network.addressPrefixes.pubkeyHash = byte
  scriptHash_iff : ∀ byte, registry.isScriptHashPrefix byte = true ↔
    ∃ network ∈ accepted entries, network.addressPrefixes.scriptHash = byte
  stakingKey_iff : ∀ byte, registry.isStakingKeyPrefix byte = true ↔
    ∃ network ∈ accepted entries, network.addressPrefixes.stakingKey = byte
  valid : ∀ network ∈ accepted entries, network.validate = .ok ()

theorem records_empty : empty.Records [] where
  order_eq := rfl
  nodup := .nil
  get?_eq _ := rfl
  size_eq := rfl
  publicVersion?_eq _ := rfl
  pubkeyHash_iff _ := by simp [isPubkeyHashPrefix, empty, accepted]
  scriptHash_iff _ := by simp [isScriptHashPrefix, empty, accepted]
  stakingKey_iff _ := by simp [isStakingKeyPrefix, empty, accepted]
  valid _ h := nomatch h

namespace Records

variable {registry : Registry} {entries : List Entry}

theorem publicVersion?_enter_eq (h : registry.Records entries) (entry : Entry)
    (version : KeyVersion) :
    (registry.enter entry).publicVersion? version = lastPublic? (entries ++ [entry]) version := by
  rw [publicVersion?_enter, lastPublic?_append, lastPublic?_singleton, h.publicVersion?_eq]
  split <;> rfl

/-- A free magic is that of no network so far. -/
theorem magic_ne_of_admits (h : registry.Records entries) {network : Network}
    (hadmits : registry.Admits (.network network)) :
    ∀ earlier ∈ accepted entries, earlier.magic ≠ network.magic := by
  have hnone : registry.get? network.magic = none := by
    rw [← Option.not_isSome_iff_eq_none]
    exact Bool.eq_false_iff.mp hadmits.2
  rw [h.get?_eq, List.find?_eq_none] at hnone
  intro earlier hmem heq
  exact hnone earlier hmem (decide_eq_true heq)

theorem get?_eq_none_of_admits (h : registry.Records entries) {network : Network}
    (hadmits : registry.Admits (.network network)) : registry.get? network.magic = none := by
  rw [h.get?_eq, List.find?_eq_none]
  simpa using h.magic_ne_of_admits hadmits

theorem nodup_add (h : registry.Records entries) {network : Network}
    (hadmits : registry.Admits (.network network)) : (registry.add network).order.Nodup := by
  have hnot : network.magic ∉ registry.order := by
    rw [h.order_eq, List.mem_map]
    rintro ⟨earlier, hmem, heq⟩
    exact h.magic_ne_of_admits hadmits earlier hmem heq
  refine List.nodup_append.mpr ⟨h.nodup, List.nodup_singleton _, ?_⟩
  rintro magic hmem _ hlast rfl
  rw [List.mem_singleton.mp hlast] at hmem
  exact hnot hmem

theorem get?_add_eq (h : registry.Records entries) {network : Network}
    (hadmits : registry.Admits (.network network)) (magic : Magic) :
    (registry.add network).get? magic =
      (accepted entries ++ [network]).find? (·.magic = magic) := by
  rw [get?_add, List.find?_append, ← h.get?_eq]
  split
  · next heq =>
    rw [heq, h.get?_eq_none_of_admits hadmits]
    simp
  · next hne => simp [Ne.symm hne]

theorem enter_network (h : registry.Records entries) {network : Network}
    (hadmits : registry.Admits (.network network)) :
    (registry.add network).Records (entries ++ [.network network]) := by
  have haccepted : accepted (entries ++ [.network network]) = accepted entries ++ [network] :=
    accepted_append entries [.network network]
  have hfree := h.get?_eq_none_of_admits hadmits
  constructor
  -- The key versions follow all entries, the other tables only the networks among them.
  case publicVersion?_eq => exact h.publicVersion?_enter_eq (.network network)
  case nodup => exact h.nodup_add hadmits
  all_goals rw [haccepted]
  case order_eq =>
    rw [List.map_append, ← h.order_eq]
    rfl
  case get?_eq => exact h.get?_add_eq hadmits
  case size_eq =>
    calc
      (registry.add network).size = registry.size + 1 := size_add hfree
      _ = (accepted entries).length + 1 := by rw [h.size_eq]
      _ = (accepted entries ++ [network]).length := by
        rw [List.length_append, List.length_singleton]
  case pubkeyHash_iff => exact contains_insert_prefix h.pubkeyHash_iff network
  case scriptHash_iff => exact contains_insert_prefix h.scriptHash_iff network
  case stakingKey_iff => exact contains_insert_prefix h.stakingKey_iff network
  case valid =>
    intro earlier hmem
    rcases List.mem_append.mp hmem with hmem | hmem
    · exact h.valid earlier hmem
    · rw [List.mem_singleton.mp hmem]
      exact hadmits.1

/-- A pair without a network leaves everything but the key versions as it was. -/
theorem enter_keyVersions (h : registry.Records entries) (versions : KeyVersions) :
    (registry.addKeyVersions versions).Records (entries ++ [.keyVersions versions]) := by
  have haccepted : accepted (entries ++ [.keyVersions versions]) = accepted entries := by
    rw [accepted_append]
    exact List.append_nil _
  constructor
  case publicVersion?_eq => exact h.publicVersion?_enter_eq (.keyVersions versions)
  case nodup => exact h.nodup
  all_goals rw [haccepted]
  case order_eq => exact h.order_eq
  case get?_eq => exact h.get?_eq
  case size_eq => exact h.size_eq
  case pubkeyHash_iff => exact h.pubkeyHash_iff
  case scriptHash_iff => exact h.scriptHash_iff
  case stakingKey_iff => exact h.stakingKey_iff
  case valid => exact h.valid

/-- One admitted entry. -/
theorem enter (h : registry.Records entries) {entry : Entry} (hadmits : registry.Admits entry) :
    (registry.enter entry).Records (entries ++ [entry]) := by
  cases entry with
  | network network => exact h.enter_network hadmits
  | keyVersions versions => exact h.enter_keyVersions versions

/-- A whole run of entries. -/
theorem leads (h : registry.Records entries) {later : List Entry} {final : Registry}
    (hleads : Leads registry later final) : final.Records (entries ++ later) := by
  induction hleads generalizing entries with
  | nil => rwa [List.append_nil]
  | cons hadmits _ ih =>
    have hrest := ih (h.enter hadmits)
    rwa [List.append_assoc] at hrest

end Records

/-- Every registry that is reached records its journal. -/
theorem records_run (calls : List Call) : (empty.run calls).Records (empty.journal calls) :=
  records_empty.leads (leads_run empty calls)

end ChainParams.Registry
