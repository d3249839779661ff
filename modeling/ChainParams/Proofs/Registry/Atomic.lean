import ChainParams.Proofs.Registry.Run

/-!
# Registration that fails

A registration fails for one of a few reasons, which are judged in a fixed order, and then leaves
every answer of the registry as it was.
-/

namespace ChainParams

namespace KeyVersions

theorem ofBytes_of_private {privateBytes : List UInt8} (h : privateBytes.length ≠ 4)
    (publicBytes : List UInt8) :
    ofBytes privateBytes publicBytes = .error (.badLength privateBytes.length) := by
  rw [ofBytes, KeyVersion.ofBytes, dif_neg h]
  rfl

theorem ofBytes_of_public {privateBytes publicBytes : List UInt8}
    (hprivate : privateBytes.length = 4) (h : publicBytes.length ≠ 4) :
    ofBytes privateBytes publicBytes = .error (.badLength publicBytes.length) := by
  rw [ofBytes, KeyVersion.ofBytes, KeyVersion.ofBytes, dif_pos hprivate, dif_neg h]
  rfl

theorem ofBytes_of_length {privateBytes publicBytes : List UInt8}
    (hprivate : privateBytes.length = 4) (hpublic : publicBytes.length = 4) :
    ofBytes privateBytes publicBytes = .ok ⟨⟨privateBytes, hprivate⟩, ⟨publicBytes, hpublic⟩⟩ := by
  rw [ofBytes, KeyVersion.ofBytes, KeyVersion.ofBytes, dif_pos hprivate, dif_pos hpublic]
  rfl

end KeyVersions

namespace Registry

/-- Every question has the same answer. -/
structure SameAnswers (registry other : Registry) : Prop where
  get? : ∀ magic, registry.get? magic = other.get? magic
  require : ∀ magic, registry.require magic = other.require magic
  byName? : ∀ name, registry.byName? name = other.byName? name
  contains : ∀ magic, registry.contains magic = other.contains magic
  networks : registry.networks = other.networks
  size : registry.size = other.size
  isEmpty : registry.isEmpty = other.isEmpty
  isPubkeyHashPrefix : ∀ byte, registry.isPubkeyHashPrefix byte = other.isPubkeyHashPrefix byte
  isScriptHashPrefix : ∀ byte, registry.isScriptHashPrefix byte = other.isScriptHashPrefix byte
  isStakingKeyPrefix : ∀ byte, registry.isStakingKeyPrefix byte = other.isStakingKeyPrefix byte
  resolve : ∀ bytes, registry.resolve bytes = other.resolve bytes

theorem SameAnswers.refl (registry : Registry) : registry.SameAnswers registry := by
  constructor <;> intros <;> rfl

/-! ## Networks -/

theorem sameAnswers_register {registry : Registry} {network : Network} {error : Error}
    (h : (registry.register network).result = .error error) :
    (registry.register network).registry.SameAnswers registry := by
  rcases admits_or_error registry network with hadmits | ⟨hsame, -⟩
  · rw [(register_of_admits hadmits).2] at h
    cases h
  · rw [hsame]
    exact .refl registry

/-! ## Key versions -/

theorem registerKeyVersions_of_error (registry : Registry)
    {publicVersion privateVersion : List UInt8} {fault : KeyVersion.Fault}
    (h : KeyVersions.ofBytes privateVersion publicVersion = .error fault) :
    registry.registerKeyVersions publicVersion privateVersion =
      ⟨registry, [], .error (.keyVersion fault)⟩ := by
  rw [registerKeyVersions, h]

theorem registerKeyVersions_of_length (registry : Registry)
    {publicVersion privateVersion : List UInt8} (hprivate : privateVersion.length = 4)
    (hpublic : publicVersion.length = 4) :
    (registry.registerKeyVersions publicVersion privateVersion).result = .ok () := by
  rw [registerKeyVersions, KeyVersions.ofBytes_of_length hprivate hpublic]

theorem registerKeyVersions_error_iff (registry : Registry)
    (publicVersion privateVersion : List UInt8) :
    (∃ error, (registry.registerKeyVersions publicVersion privateVersion).result =
      .error error) ↔ privateVersion.length ≠ 4 ∨ publicVersion.length ≠ 4 := by
  constructor
  · rintro ⟨error, herror⟩
    by_contra hlengths
    obtain ⟨hprivate, hpublic⟩ := not_or.mp hlengths
    rw [registry.registerKeyVersions_of_length (not_not.mp hprivate) (not_not.mp hpublic)]
      at herror
    cases herror
  · intro hlengths
    by_cases hprivate : privateVersion.length = 4
    · have hpublic : publicVersion.length ≠ 4 := hlengths.resolve_left (not_not.mpr hprivate)
      exact ⟨_, congrArg Outcome.result (registry.registerKeyVersions_of_error
        (KeyVersions.ofBytes_of_public hprivate hpublic))⟩
    · exact ⟨_, congrArg Outcome.result (registry.registerKeyVersions_of_error
        (KeyVersions.ofBytes_of_private hprivate publicVersion))⟩

theorem sameAnswers_registerKeyVersions {registry : Registry}
    {publicVersion privateVersion : List UInt8} {error : Error}
    (h : (registry.registerKeyVersions publicVersion privateVersion).result = .error error) :
    (registry.registerKeyVersions publicVersion privateVersion).registry.SameAnswers registry := by
  cases hversions : KeyVersions.ofBytes privateVersion publicVersion with
  | error fault =>
    rw [registry.registerKeyVersions_of_error hversions]
    exact .refl registry
  | ok versions =>
    rw [registerKeyVersions, hversions] at h
    cases h

/-! ## Both -/

/-- A network is judged by itself first and then by its magic, and of two slices the private one
comes first. A call that fails changes no answer. -/
theorem registration_atomic (registry : Registry) :
    (∀ network : Network,
      (∀ fault, network.validate = .error fault →
        (registry.register network).result = .error (.network fault)) ∧
      (network.validate = .ok () → registry.contains network.magic = true →
        (registry.register network).result = .error (.duplicate network.magic)) ∧
      (network.validate = .ok () → registry.contains network.magic = false →
        (registry.register network).result = .ok network) ∧
      ∀ error, (registry.register network).result = .error error →
        (registry.register network).registry.SameAnswers registry) ∧
    ∀ publicVersion privateVersion : List UInt8,
      ((∃ error, (registry.registerKeyVersions publicVersion privateVersion).result =
        .error error) ↔ privateVersion.length ≠ 4 ∨ publicVersion.length ≠ 4) ∧
      (privateVersion.length ≠ 4 →
        (registry.registerKeyVersions publicVersion privateVersion).result =
          .error (.keyVersion (.badLength privateVersion.length))) ∧
      (privateVersion.length = 4 → publicVersion.length ≠ 4 →
        (registry.registerKeyVersions publicVersion privateVersion).result =
          .error (.keyVersion (.badLength publicVersion.length))) ∧
      ∀ error, (registry.registerKeyVersions publicVersion privateVersion).result =
          .error error →
        (registry.registerKeyVersions publicVersion privateVersion).registry.SameAnswers
          registry := by
  constructor
  · intro network
    refine ⟨?_, ?_, ?_, ?_⟩
    · intro fault hfault
      rw [registry.register_of_invalid hfault]
    · intro hvalid htaken
      rw [register_of_taken hvalid htaken]
    · intro hvalid hfree
      exact (register_of_admits ⟨hvalid, hfree⟩).2
    · intro error herror
      exact sameAnswers_register herror
  · intro publicVersion privateVersion
    refine ⟨registry.registerKeyVersions_error_iff publicVersion privateVersion, ?_, ?_, ?_⟩
    · intro hprivate
      rw [registry.registerKeyVersions_of_error
        (KeyVersions.ofBytes_of_private hprivate publicVersion)]
    · intro hprivate hpublic
      rw [registry.registerKeyVersions_of_error (KeyVersions.ofBytes_of_public hprivate hpublic)]
    · intro error herror
      exact sameAnswers_registerKeyVersions herror

/-- The standard networks have no room for the test network again, nor for versions of three bytes
and of none. -/
theorem registration_atomic_standard :
    (standard.registry.register StandardNetwork.testNetwork).result =
        .error (.duplicate StandardNetwork.test.magic) ∧
      (standard.registry.register StandardNetwork.testNetwork).registry.SameAnswers
        standard.registry ∧
      (standard.registry.registerKeyVersions [] [4, 53, 131]).result =
        .error (.keyVersion (.badLength 3)) := by
  obtain ⟨hnetworks, hversions⟩ := registration_atomic standard.registry
  obtain ⟨-, htaken, -, hsame⟩ := hnetworks StandardNetwork.testNetwork
  obtain ⟨-, hprivate, -, -⟩ := hversions [] [4, 53, 131]
  have hduplicate := htaken rfl rfl
  exact ⟨hduplicate, hsame _ hduplicate, hprivate (by decide)⟩

end Registry

end ChainParams
