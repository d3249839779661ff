import ChainParams.Proofs.Registry.Catalogue

/-!
# Key versions of registered networks

The private version of a registered network always leads to a public one. It is that of the network
itself until an entry after the network's own has the same private version and another public one:
the last such entry counts, be it a network or a pair alone.
-/

namespace ChainParams.Registry

/-! ## Where runs start -/

inductive Start where
  /-- A new registry without networks. -/
  | empty
  /-- A new registry with the standard networks. -/
  | standard

def Start.registry : Start → Registry
  | empty => Registry.empty
  | standard => Registry.standard.registry

/-- The calls that lead to the start from an empty registry. -/
def Start.calls : Start → List Call
  | empty => []
  | standard => [.registerAll (StandardNetwork.all.map StandardNetwork.network)]

theorem Start.run_eq (start : Start) (calls : List Call) :
    start.registry.run calls = Registry.empty.run (start.calls ++ calls) := by
  cases start <;> rfl

/-! ## Look-ups -/

theorem resolve_bytes {registry : Registry} {version publicVersion : KeyVersion}
    (h : registry.publicVersion? version = some publicVersion) :
    registry.resolve version.bytes = .ok publicVersion := by
  have hbytes : KeyVersion.ofBytes version.bytes = .ok version := dif_pos version.length_bytes
  rw [resolve, hbytes]
  simp only [h]

theorem mem_of_mem_accepted {entries : List Entry} {network : Network}
    (h : network ∈ accepted entries) : .network network ∈ entries := by
  obtain ⟨entry, hmem, hentry⟩ := List.mem_filterMap.mp h
  cases entry with
  | network other =>
    cases hentry
    exact hmem
  | keyVersions versions => cases hentry

theorem lastPublic?_split (earlier later : List Entry) (network : Network) :
    lastPublic? (earlier ++ .network network :: later) network.keyVersions.privateVersion =
      some ((lastPublic? later network.keyVersions.privateVersion).getD
        network.keyVersions.publicVersion) := by
  have hself : lastPublic? [.network network] network.keyVersions.privateVersion =
      some network.keyVersions.publicVersion :=
    (lastPublic?_singleton (.network network) _).trans (if_pos rfl)
  calc
    _ = (lastPublic? later network.keyVersions.privateVersion).or
        ((lastPublic? [.network network] network.keyVersions.privateVersion).or
          (lastPublic? earlier network.keyVersions.privateVersion)) := by
      rw [List.append_cons, lastPublic?_append, lastPublic?_append]
    _ = (lastPublic? later network.keyVersions.privateVersion).or
        (some network.keyVersions.publicVersion) := by
      rw [hself, Option.some_or]
    _ = _ := by cases lastPublic? later network.keyVersions.privateVersion <;> rfl

/-- Entries that agree on a private version do not change what it leads to. -/
theorem lastPublic?_getD_of_agree {entries : List Entry} {version publicVersion : KeyVersion}
    (h : ∀ entry ∈ entries, entry.versions.privateVersion = version →
      entry.versions.publicVersion = publicVersion) :
    (lastPublic? entries version).getD publicVersion = publicVersion := by
  cases hlast : lastPublic? entries version with
  | none => rfl
  | some found =>
    obtain ⟨entry, hentry, rfl⟩ := Option.map_eq_some_iff.mp hlast
    have hmem := List.mem_reverse.mp (List.mem_of_find?_eq_some hentry)
    have hversion : entry.versions.privateVersion = version := by
      simpa using List.find?_some hentry
    exact h entry hmem hversion

/-- What the private version of a registered network leads to depends on the entries after the
network's own: the last one with that private version decides. -/
theorem resolve_privateVersion (start : Start) (calls : List Call) (network : Network)
    (h : network ∈ (start.registry.run calls).networks) :
    ∃ earlier later,
      Registry.empty.journal (start.calls ++ calls) = earlier ++ .network network :: later ∧
      (start.registry.run calls).resolve network.keyVersions.privateVersion.bytes =
        .ok ((lastPublic? later network.keyVersions.privateVersion).getD
          network.keyVersions.publicVersion) ∧
      ((∀ entry ∈ later,
          entry.versions.privateVersion = network.keyVersions.privateVersion →
          entry.versions.publicVersion = network.keyVersions.publicVersion) →
        (start.registry.run calls).resolve network.keyVersions.privateVersion.bytes =
          .ok network.keyVersions.publicVersion) := by
  -- A run from the standard networks is a run from nothing that registers them first.
  rw [start.run_eq] at h ⊢
  have hrecords := records_run (start.calls ++ calls)
  rw [hrecords.networks_eq] at h
  obtain ⟨earlier, later, hjournal⟩ := List.append_of_mem (mem_of_mem_accepted h)
  have hresolve : (Registry.empty.run (start.calls ++ calls)).resolve
      network.keyVersions.privateVersion.bytes =
        .ok ((lastPublic? later network.keyVersions.privateVersion).getD
          network.keyVersions.publicVersion) := by
    apply resolve_bytes
    rw [hrecords.publicVersion?_eq, hjournal, lastPublic?_split]
  refine ⟨earlier, later, hjournal, hresolve, ?_⟩
  intro hagree
  rw [hresolve, lastPublic?_getD_of_agree hagree]

/-- The call by which the main network's private version leads to the public one of the tests. -/
def remapMain : Call :=
  .registerKeyVersions StandardNetwork.testKeyVersions.publicVersion.bytes
    StandardNetwork.mainKeyVersions.privateVersion.bytes

theorem journal_remapMain :
    Registry.empty.journal (Start.standard.calls ++ [remapMain]) =
      [.network StandardNetwork.mainNetwork, .network StandardNetwork.testNetwork,
        .network StandardNetwork.regtestNetwork,
        .keyVersions ⟨StandardNetwork.mainKeyVersions.privateVersion,
          StandardNetwork.testKeyVersions.publicVersion⟩] := rfl

theorem networks_remapMain :
    (Start.standard.registry.run [remapMain]).networks =
      [StandardNetwork.mainNetwork, StandardNetwork.testNetwork,
        StandardNetwork.regtestNetwork] := by
  rw [Start.run_eq, (records_run _).networks_eq, journal_remapMain]
  rfl

/-- The test network keeps its public version when that of the main network is replaced. -/
theorem resolve_testNetwork_remapMain :
    (Start.standard.registry.run [remapMain]).resolve
        StandardNetwork.testKeyVersions.privateVersion.bytes =
      .ok StandardNetwork.testKeyVersions.publicVersion := by
  have hmem : StandardNetwork.testNetwork ∈
      (Start.standard.registry.run [remapMain]).networks := by
    rw [networks_remapMain]
    exact List.mem_cons_of_mem _ List.mem_cons_self
  obtain ⟨earlier, later, hjournal, -, hown⟩ :=
    resolve_privateVersion .standard [remapMain] StandardNetwork.testNetwork hmem
  apply hown
  intro entry hentry
  have hentries : entry ∈ Registry.empty.journal (Start.standard.calls ++ [remapMain]) := by
    rw [hjournal]
    exact List.mem_append_right _ (List.mem_cons_of_mem _ hentry)
  rw [journal_remapMain] at hentries
  simp only [List.mem_cons, List.not_mem_nil, or_false] at hentries
  rcases hentries with rfl | rfl | rfl | rfl <;> decide

/-- A registered network does not keep its public version for ever. -/
theorem not_resolve_own_publicVersion :
    ¬ ∀ (start : Start) (calls : List Call), ∀ network ∈ (start.registry.run calls).networks,
      (start.registry.run calls).resolve network.keyVersions.privateVersion.bytes =
        .ok network.keyVersions.publicVersion := by
  intro h
  have hmem : StandardNetwork.mainNetwork ∈
      (Start.standard.registry.run [remapMain]).networks := by
    rw [networks_remapMain]
    exact List.mem_cons_self
  have hremapped : (Start.standard.registry.run [remapMain]).resolve
      StandardNetwork.mainKeyVersions.privateVersion.bytes =
        .ok StandardNetwork.testKeyVersions.publicVersion := rfl
  have hown := hremapped.symm.trans (h .standard [remapMain] StandardNetwork.mainNetwork hmem)
  have hne : StandardNetwork.testKeyVersions.publicVersion ≠
      StandardNetwork.mainKeyVersions.publicVersion := by decide
  exact hne (Except.ok.inj hown)

end ChainParams.Registry
