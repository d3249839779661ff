import ChainParams.Proofs.Registry.Run

/-!
# Reachable registries

Whatever operations lead to a registry, calls alone reach it from an empty one: a new registry with
the standard networks has them registered, and a text or a file registers the networks that it
defines or changes nothing.
-/

namespace ChainParams.Registry

/-- What a new registry can become. -/
inductive Reachable : Registry → Prop where
  | empty : Reachable empty
  | standard : Reachable standard.registry
  | call {registry : Registry} (h : Reachable registry) (call : Call) :
      Reachable (registry.after call)
  | text {registry : Registry} (h : Reachable registry) (text : String) :
      Reachable (registry.registerText text).registry
  | file {registry : Registry} (h : Reachable registry) (path : String)
      (file : Except FileFault ByteArray) : Reachable (registry.registerFile path file).registry

theorem registerFile_of_error (registry : Registry) (path : String)
    {file : Except FileFault ByteArray} {error : Error} (h : Definition.load file = .error error) :
    registry.registerFile path file = ⟨registry, [], .error error⟩ := by
  rw [registerFile, Definition.loadLogged, h]

/-- A file that can be loaded is registered as the list of its networks. -/
theorem registerFile_of_ok (registry : Registry) (path : String)
    {file : Except FileFault ByteArray} {networks : List Network}
    (h : Definition.load file = .ok networks) :
    (registry.registerFile path file).registry = (registry.registerAll networks).registry ∧
      (registry.registerFile path file).result = (registry.registerAll networks).result := by
  rw [registerFile, Definition.loadLogged, h]
  exact ⟨rfl, rfl⟩

theorem after_run (registry : Registry) (calls : List Call) (call : Call) :
    (registry.run calls).after call = registry.run (calls ++ [call]) :=
  (run_append registry calls [call]).symm

theorem Reachable.exists_run {registry : Registry} (h : registry.Reachable) :
    ∃ calls, registry = Registry.empty.run calls := by
  induction h with
  | empty => exact ⟨[], rfl⟩
  | standard => exact ⟨[.registerAll (StandardNetwork.all.map StandardNetwork.network)], rfl⟩
  | call _ call ih =>
    obtain ⟨calls, rfl⟩ := ih
    exact ⟨_, after_run Registry.empty calls call⟩
  | text _ text ih =>
    obtain ⟨calls, rfl⟩ := ih
    unfold registerText
    cases Definition.parse text with
    | error error => exact ⟨calls, rfl⟩
    | ok networks => exact ⟨_, after_run Registry.empty calls (.registerAll networks)⟩
  | file _ path file ih =>
    obtain ⟨calls, rfl⟩ := ih
    cases hload : Definition.load file with
    | error error =>
      rw [registerFile_of_error _ path hload]
      exact ⟨calls, rfl⟩
    | ok networks =>
      rw [(registerFile_of_ok _ path hload).1]
      exact ⟨_, after_run Registry.empty calls (.registerAll networks)⟩

end ChainParams.Registry
