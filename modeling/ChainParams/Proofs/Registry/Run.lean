import Mathlib.Tactic
import ChainParams.Registry

/-!
# Runs of a registry

A registry is used by calls, of which some fail. What a call enters into the registry is told by
its results: a network for each registration that succeeded, and a pair of key versions for each
pair that was taken without a network. These entries lead from the registry before the call to the
one after it, and those of all calls of a run are its journal.
-/

namespace ChainParams.Registry

inductive Call where
  | register (network : Network)
  | registerAll (networks : List Network)
  | registerKeyVersions (publicVersion privateVersion : List UInt8)

/-- The networks that a call asks to register. -/
def Call.networks : Call → List Network
  | .register asked => [asked]
  | .registerAll asked => asked
  | .registerKeyVersions _ _ => []

inductive Entry where
  | network (network : Network)
  | keyVersions (versions : KeyVersions)

/-- The key versions that an entry stands for, those of the network if it is one. -/
def Entry.versions : Entry → KeyVersions
  | .network added => added.keyVersions
  | .keyVersions versions => versions

def Entry.network? : Entry → Option Network
  | .network added => some added
  | .keyVersions _ => none

/-- The networks among the entries, in order. -/
def accepted (entries : List Entry) : List Network :=
  entries.filterMap Entry.network?

theorem accepted_append (entries later : List Entry) :
    accepted (entries ++ later) = accepted entries ++ accepted later :=
  List.filterMap_append

/-! ## Calls -/

def after (registry : Registry) : Call → Registry
  | .register network => (registry.register network).registry
  | .registerAll networks => (registry.registerAll networks).registry
  | .registerKeyVersions publicVersion privateVersion =>
    (registry.registerKeyVersions publicVersion privateVersion).registry

/-- The entries for networks that are registered one after the other up to the first failure. -/
def entriesOfAll (registry : Registry) : List Network → List Entry
  | [] => []
  | network :: rest =>
    let first := registry.register network
    match first.result with
    | .error _ => []
    | .ok network => .network network :: first.registry.entriesOfAll rest

def entries (registry : Registry) : Call → List Entry
  | .register network => registry.entriesOfAll [network]
  | .registerAll networks => registry.entriesOfAll networks
  | .registerKeyVersions publicVersion privateVersion =>
    match KeyVersions.ofBytes privateVersion publicVersion with
    | .error _ => []
    | .ok versions => [.keyVersions versions]

def run (registry : Registry) (calls : List Call) : Registry :=
  calls.foldl after registry

/-- What the calls of a run entered, in order. -/
def journal (registry : Registry) : List Call → List Entry
  | [] => []
  | call :: rest => registry.entries call ++ (registry.after call).journal rest

theorem run_append (registry : Registry) (calls later : List Call) :
    registry.run (calls ++ later) = (registry.run calls).run later :=
  List.foldl_append

theorem journal_append (registry : Registry) (calls later : List Call) :
    registry.journal (calls ++ later) =
      registry.journal calls ++ (registry.run calls).journal later := by
  induction calls generalizing registry with
  | nil => rfl
  | cons call rest ih =>
    calc
      registry.journal (call :: rest ++ later) =
          registry.entries call ++ ((registry.after call).journal rest ++
            ((registry.after call).run rest).journal later) := by
        rw [List.cons_append, journal, ih]
      _ = registry.journal (call :: rest) ++ (registry.run (call :: rest)).journal later := by
        rw [journal, List.append_assoc]
        rfl

/-! ## Entries -/

def enter (registry : Registry) : Entry → Registry
  | .network network => registry.add network
  | .keyVersions versions => registry.addKeyVersions versions

/-- A network is entered only if it is valid and its magic is free. -/
def Admits (registry : Registry) : Entry → Prop
  | .network network => network.validate = .ok () ∧ registry.contains network.magic = false
  | .keyVersions _ => True

/-- The entries lead from one registry to another, each being admitted in its turn. -/
inductive Leads : Registry → List Entry → Registry → Prop where
  | nil (registry : Registry) : Leads registry [] registry
  | cons {registry final : Registry} {entry : Entry} {rest : List Entry}
      (hadmits : registry.Admits entry) (hrest : Leads (registry.enter entry) rest final) :
      Leads registry (entry :: rest) final

theorem Leads.trans {registry middle final : Registry} {entries later : List Entry}
    (h : Leads registry entries middle) (hlater : Leads middle later final) :
    Leads registry (entries ++ later) final := by
  induction h with
  | nil => exact hlater
  | cons hadmits _ ih => exact .cons hadmits (ih hlater)

/-! ## Registration -/

theorem register_of_invalid (registry : Registry) {network : Network} {fault : Network.Fault}
    (h : network.validate = .error fault) :
    registry.register network = ⟨registry, [], .error (.network fault)⟩ := by
  rw [register, h]

theorem register_of_taken {registry : Registry} {network : Network}
    (hvalid : network.validate = .ok ()) (htaken : registry.contains network.magic = true) :
    registry.register network =
      ⟨registry, [.rejected network.name network.magic], .error (.duplicate network.magic)⟩ := by
  rw [register, hvalid]
  exact if_pos htaken

theorem register_of_admits {registry : Registry} {network : Network}
    (h : registry.Admits (.network network)) :
    (registry.register network).registry = registry.add network ∧
      (registry.register network).result = .ok network := by
  have hfree : ¬ registry.contains network.magic = true := by
    rw [h.2]
    exact Bool.false_ne_true
  simp only [register, h.1, if_neg hfree, and_self]

/-- A network is entered, or the registry stays as it is and there is an error. -/
theorem admits_or_error (registry : Registry) (network : Network) :
    registry.Admits (.network network) ∨
      (registry.register network).registry = registry ∧
        ∃ error, (registry.register network).result = .error error := by
  cases hvalid : network.validate with
  | error fault =>
    rw [register_of_invalid registry hvalid]
    exact .inr ⟨rfl, _, rfl⟩
  | ok =>
    cases hcontains : registry.contains network.magic with
    | true =>
      rw [register_of_taken hvalid hcontains]
      exact .inr ⟨rfl, _, rfl⟩
    | false => exact .inl ⟨hvalid, hcontains⟩

theorem leads_registerAll (registry : Registry) (networks : List Network) :
    Leads registry (registry.entriesOfAll networks) (registry.registerAll networks).registry := by
  induction networks generalizing registry with
  | nil => exact .nil registry
  | cons network rest ih =>
    rcases admits_or_error registry network with hadmits | ⟨hsame, error, herror⟩
    · obtain ⟨hregistry, hresult⟩ := register_of_admits hadmits
      simp only [entriesOfAll, registerAll, hresult, hregistry]
      exact .cons hadmits (ih _)
    · simp only [entriesOfAll, registerAll, herror, hsame]
      exact .nil registry

/-- Registering one network is registering a list of one. -/
theorem registry_registerAll_singleton (registry : Registry) (network : Network) :
    (registry.registerAll [network]).registry = (registry.register network).registry := by
  rcases admits_or_error registry network with hadmits | ⟨hsame, error, herror⟩
  · simp only [registerAll, (register_of_admits hadmits).2]
  · simp only [registerAll, herror]

theorem leads_after (registry : Registry) (call : Call) :
    Leads registry (registry.entries call) (registry.after call) := by
  cases call with
  | register network =>
    rw [after, ← registry_registerAll_singleton]
    exact leads_registerAll registry [network]
  | registerAll networks => exact leads_registerAll registry networks
  | registerKeyVersions publicVersion privateVersion =>
    rw [after, entries, registerKeyVersions]
    cases KeyVersions.ofBytes privateVersion publicVersion with
    | error => exact .nil registry
    | ok versions => exact .cons trivial (.nil _)

/-- The journal of a run leads from its first registry to its last. -/
theorem leads_run (registry : Registry) (calls : List Call) :
    Leads registry (registry.journal calls) (registry.run calls) := by
  induction calls generalizing registry with
  | nil => exact .nil registry
  | cons call rest ih => exact (leads_after registry call).trans (ih _)

/-! ## Networks that were asked for -/

theorem mem_of_mem_entriesOfAll {registry : Registry} {networks : List Network}
    {network : Network} (h : network ∈ accepted (registry.entriesOfAll networks)) :
    network ∈ networks := by
  induction networks generalizing registry with
  | nil => cases h
  | cons first rest ih =>
    rcases admits_or_error registry first with hadmits | ⟨-, error, herror⟩
    · simp only [entriesOfAll, (register_of_admits hadmits).2] at h
      rcases List.mem_cons.mp h with rfl | hrest
      · exact List.mem_cons_self
      · exact List.mem_cons_of_mem _ (ih hrest)
    · simp only [entriesOfAll, herror] at h
      cases h

theorem mem_of_mem_entries {registry : Registry} {call : Call} {network : Network}
    (h : network ∈ accepted (registry.entries call)) : network ∈ call.networks := by
  cases call with
  | register asked => exact mem_of_mem_entriesOfAll h
  | registerAll asked => exact mem_of_mem_entriesOfAll h
  | registerKeyVersions publicVersion privateVersion =>
    simp only [entries] at h
    split at h <;> cases h

/-- Only networks that some call asked for are registered. -/
theorem mem_of_mem_journal {registry : Registry} {calls : List Call} {network : Network}
    (h : network ∈ accepted (registry.journal calls)) :
    ∃ call ∈ calls, network ∈ call.networks := by
  induction calls generalizing registry with
  | nil => cases h
  | cons call rest ih =>
    rw [journal, accepted_append, List.mem_append] at h
    rcases h with hcall | hrest
    · exact ⟨call, List.mem_cons_self, mem_of_mem_entries hcall⟩
    · obtain ⟨later, hlater, hmem⟩ := ih hrest
      exact ⟨later, List.mem_cons_of_mem _ hlater, hmem⟩

end ChainParams.Registry
