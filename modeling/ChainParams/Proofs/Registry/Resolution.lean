import ChainParams.Proofs.Computation
import ChainParams.Proofs.KeyVersion
import ChainParams.Proofs.Registry.Atomic
import ChainParams.Proofs.Registry.KeyVersions
import ChainParams.Proofs.Text.Hex

/-!
# What private versions lead to

Networks and pairs of key versions are entered into one table, in which a later entry takes the
place of an earlier one with the same private version. So the bytes of a private version lead to the
public version of the last entry that has it; all other bytes are unknown, whatever their number. A
pair without a network changes nothing else.
-/

namespace ChainParams

theorem KeyVersions.bytes_of_ofBytes {privateBytes publicBytes : List UInt8}
    {versions : KeyVersions} (h : ofBytes privateBytes publicBytes = .ok versions) :
    versions.privateVersion.bytes = privateBytes ∧
      versions.publicVersion.bytes = publicBytes := by
  obtain ⟨privateVersion, hprivate, hrest⟩ := bind_eq_ok_iff.mp h
  obtain ⟨publicVersion, hpublic, hversions⟩ := bind_eq_ok_iff.mp hrest
  cases hversions
  exact ⟨KeyVersion.ofBytes_eq_ok_iff.mp hprivate, KeyVersion.ofBytes_eq_ok_iff.mp hpublic⟩

namespace Registry

open Text

/-! ## The last entry -/

theorem lastPublic?_eq_some_iff {entries : List Entry} {version publicVersion : KeyVersion} :
    lastPublic? entries version = some publicVersion ↔
      ∃ earlier entry later, entries = earlier ++ entry :: later ∧
        entry.versions.privateVersion = version ∧ entry.versions.publicVersion = publicVersion ∧
        ∀ other ∈ later, other.versions.privateVersion ≠ version := by
  simp only [lastPublic?, Option.map_eq_some_iff, List.find?_eq_some_iff_append, decide_eq_true_eq,
    Bool.not_eq_true', decide_eq_false_iff_not]
  constructor
  · rintro ⟨entry, ⟨hversion, later, earlier, hsplit, hlater⟩, hpublic⟩
    refine ⟨earlier.reverse, entry, later.reverse, ?_, hversion, hpublic, ?_⟩
    · rw [← List.reverse_reverse entries, hsplit, List.reverse_append, List.reverse_cons,
        List.append_assoc]
      rfl
    · intro other hother
      exact hlater other (List.mem_reverse.mp hother)
  · rintro ⟨earlier, entry, later, rfl, hversion, hpublic, hlater⟩
    refine ⟨entry, ⟨hversion, later.reverse, earlier.reverse, ?_, ?_⟩, hpublic⟩
    · rw [List.reverse_append, List.reverse_cons, List.append_assoc]
      rfl
    · intro other hother
      exact hlater other (List.mem_reverse.mp hother)

/-! ## Look-ups -/

/-- Only the bytes of a private version in the table lead to something. -/
theorem resolve_eq_ok_iff {registry : Registry} {bytes : List UInt8} {publicVersion : KeyVersion} :
    registry.resolve bytes = .ok publicVersion ↔
      ∃ version, version.bytes = bytes ∧ registry.publicVersion? version = some publicVersion := by
  constructor
  · intro h
    unfold resolve at h
    split at h
    · cases h
    · next version hversion =>
      split at h
      · next found hfound =>
        cases h
        exact ⟨version, KeyVersion.ofBytes_eq_ok_iff.mp hversion, hfound⟩
      · cases h
  · rintro ⟨version, rfl, hfound⟩
    exact resolve_bytes hfound

theorem resolve_ok_or_unknown (registry : Registry) (bytes : List UInt8) :
    (∃ publicVersion, registry.resolve bytes = .ok publicVersion) ∨
      registry.resolve bytes = .error (.unknownKeyVersion bytes) := by
  unfold resolve
  split
  · exact .inr rfl
  · split
    · exact .inl ⟨_, rfl⟩
    · exact .inr rfl

/-- A look-up reads nothing but the table's entry for its bytes. -/
theorem resolve_congr {registry other : Registry} {bytes : List UInt8}
    (h : ∀ version, version.bytes = bytes →
      registry.publicVersion? version = other.publicVersion? version) :
    registry.resolve bytes = other.resolve bytes := by
  unfold resolve
  cases hversion : KeyVersion.ofBytes bytes with
  | error => rfl
  | ok version =>
    simp only [h version (KeyVersion.ofBytes_eq_ok_iff.mp hversion)]

/-- The last entry with a private version decides what its bytes lead to. -/
theorem resolve_run_eq_ok_iff (calls : List Call) {bytes : List UInt8}
    {publicVersion : KeyVersion} :
    (empty.run calls).resolve bytes = .ok publicVersion ↔
      ∃ earlier entry later, empty.journal calls = earlier ++ entry :: later ∧
        entry.versions.privateVersion.bytes = bytes ∧
        entry.versions.publicVersion = publicVersion ∧
        ∀ other ∈ later, other.versions.privateVersion.bytes ≠ bytes := by
  simp only [resolve_eq_ok_iff, (records_run calls).publicVersion?_eq, lastPublic?_eq_some_iff]
  constructor
  · rintro ⟨_, rfl, earlier, entry, later, hjournal, rfl, hpublic, hlater⟩
    refine ⟨earlier, entry, later, hjournal, rfl, hpublic, ?_⟩
    intro other hother
    exact KeyVersion.bytes_inj.not.mpr (hlater other hother)
  · rintro ⟨earlier, entry, later, hjournal, rfl, hpublic, hlater⟩
    refine ⟨_, rfl, earlier, entry, later, hjournal, rfl, hpublic, ?_⟩
    intro other hother
    exact KeyVersion.bytes_inj.not.mp (hlater other hother)

/-! ## Pairs without a network -/

/-- Every question but that for key versions has the same answer. -/
structure SameNetworks (registry other : Registry) : Prop where
  get? : ∀ magic, registry.get? magic = other.get? magic
  require : ∀ magic, registry.require magic = other.require magic
  byName? : ∀ name, registry.byName? name = other.byName? name
  contains : ∀ magic, registry.contains magic = other.contains magic
  networks : registry.networks = other.networks
  size : registry.size = other.size
  isEmpty : registry.isEmpty = other.isEmpty
  isPubkeyHashPrefix : ∀ byte, registry.isPubkeyHashPrefix byte = other.isPubkeyHashPrefix byte
  isScriptHashPrefix : ∀ byte, registry.isScriptHashPrefix byte = other.isScriptHashPrefix byte
  isStakingKeyPrefix : ∀ byte, registry.isStakingKeyPrefix byte = other.isStakingKeyPrefix byte

theorem sameNetworks_registerKeyVersions (registry : Registry)
    (publicVersion privateVersion : List UInt8) :
    (registry.registerKeyVersions publicVersion privateVersion).registry.SameNetworks registry := by
  unfold registerKeyVersions
  cases KeyVersions.ofBytes privateVersion publicVersion <;> constructor <;> intros <;> rfl

theorem resolve_registerKeyVersions_of_ne (registry : Registry)
    {publicVersion privateVersion bytes : List UInt8} (h : bytes ≠ privateVersion) :
    (registry.registerKeyVersions publicVersion privateVersion).registry.resolve bytes =
      registry.resolve bytes := by
  unfold registerKeyVersions
  cases hversions : KeyVersions.ofBytes privateVersion publicVersion with
  | error => rfl
  | ok versions =>
    apply resolve_congr
    rintro version rfl
    have hne : version ≠ versions.privateVersion := by
      rintro rfl
      exact h (KeyVersions.bytes_of_ofBytes hversions).1
    exact (publicVersion?_enter registry (.keyVersions versions) version).trans (if_neg hne)

/-- A pair that is taken leads from its private version to its public one. -/
theorem resolve_registerKeyVersions {registry : Registry}
    {publicVersion privateVersion : List UInt8}
    (h : (registry.registerKeyVersions publicVersion privateVersion).result = .ok ()) :
    ∃ version, version.bytes = publicVersion ∧
      (registry.registerKeyVersions publicVersion privateVersion).registry.resolve privateVersion =
        .ok version := by
  cases hversions : KeyVersions.ofBytes privateVersion publicVersion with
  | error fault =>
    rw [registry.registerKeyVersions_of_error hversions] at h
    cases h
  | ok versions =>
    obtain ⟨hprivate, hpublic⟩ := KeyVersions.bytes_of_ofBytes hversions
    have hentered : (registry.addKeyVersions versions).publicVersion? versions.privateVersion =
        some versions.publicVersion :=
      (publicVersion?_enter registry (.keyVersions versions) _).trans (if_pos rfl)
    rw [registerKeyVersions, hversions, ← hprivate]
    exact ⟨versions.publicVersion, hpublic, resolve_bytes hentered⟩

/-! ## All look-ups -/

/-- Bytes lead to the public version of the last entry whose private version they are, and all other
bytes are an error that tells them in lower-case digits. A pair without a network changes no other
answer than that for its own private version, which then leads to its public one. -/
theorem resolve_lastEntry (calls : List Call) :
    (∀ bytes publicVersion, (empty.run calls).resolve bytes = .ok publicVersion ↔
      bytes.length = 4 ∧ ∃ earlier entry later, empty.journal calls = earlier ++ entry :: later ∧
        entry.versions.privateVersion.bytes = bytes ∧
        entry.versions.publicVersion = publicVersion ∧
        ∀ other ∈ later, other.versions.privateVersion.bytes ≠ bytes) ∧
    (∀ bytes, (∀ publicVersion, (empty.run calls).resolve bytes ≠ .ok publicVersion) →
      (empty.run calls).resolve bytes = .error (.unknownKeyVersion bytes) ∧
        (Error.unknownKeyVersion bytes).message =
          "Unknown HD private key version: " ++ Hex.encode bytes ∧
        (∀ c ∈ (Hex.encode bytes).toList, c ∈ Hex.lowerDigits) ∧
        Hex.decode (Hex.encode bytes) = .ok bytes) ∧
    ∀ publicVersion privateVersion,
      ((empty.run calls).registerKeyVersions publicVersion privateVersion).registry.SameNetworks
        (empty.run calls) ∧
      (∀ bytes, bytes ≠ privateVersion →
        ((empty.run calls).registerKeyVersions publicVersion privateVersion).registry.resolve
          bytes = (empty.run calls).resolve bytes) ∧
      (((empty.run calls).registerKeyVersions publicVersion privateVersion).result = .ok () →
        ∃ version, version.bytes = publicVersion ∧
          ((empty.run calls).registerKeyVersions publicVersion privateVersion).registry.resolve
            privateVersion = .ok version) := by
  refine ⟨?_, ?_, ?_⟩
  · intro bytes publicVersion
    rw [resolve_run_eq_ok_iff]
    constructor
    · rintro ⟨earlier, entry, later, hjournal, rfl, hrest⟩
      exact ⟨entry.versions.privateVersion.length_bytes, earlier, entry, later, hjournal, rfl, hrest⟩
    · rintro ⟨-, hentry⟩
      exact hentry
  · intro bytes hne
    have hunknown := ((empty.run calls).resolve_ok_or_unknown bytes).resolve_left
      fun ⟨publicVersion, hok⟩ ↦ hne publicVersion hok
    exact ⟨hunknown, rfl, fun c ↦ Hex.mem_lowerDigits_of_mem_encode, Hex.decode_encode bytes⟩
  · intro publicVersion privateVersion
    refine ⟨sameNetworks_registerKeyVersions _ publicVersion privateVersion, ?_, ?_⟩
    · intro bytes hne
      exact resolve_registerKeyVersions_of_ne _ hne
    · intro hresult
      exact resolve_registerKeyVersions hresult

/-- Once it is remapped, the main network's private version leads to the public one of the tests,
until another pair remaps it again. Its first three bytes lead nowhere. -/
theorem resolve_lastEntry_remapMain :
    (empty.run (Start.standard.calls ++ [remapMain])).resolve
        StandardNetwork.mainKeyVersions.privateVersion.bytes =
        .ok StandardNetwork.testKeyVersions.publicVersion ∧
      (empty.run (Start.standard.calls ++ [remapMain])).resolve [2, 33, 49] =
        .error (.unknownKeyVersion [2, 33, 49]) ∧
      ∃ version, version.bytes = [1, 2, 3, 4] ∧
        ((empty.run (Start.standard.calls ++ [remapMain])).registerKeyVersions [1, 2, 3, 4]
          StandardNetwork.mainKeyVersions.privateVersion.bytes).registry.resolve
            StandardNetwork.mainKeyVersions.privateVersion.bytes = .ok version := by
  obtain ⟨hlast, hunknown, hpair⟩ := resolve_lastEntry (Start.standard.calls ++ [remapMain])
  refine ⟨?_, ?_, ?_⟩
  · rw [hlast, journal_remapMain]
    exact ⟨rfl, [_, _, _], _, [], rfl, rfl, rfl, List.forall_mem_nil _⟩
  · refine (hunknown [2, 33, 49] ?_).1
    intro publicVersion hok
    exact absurd ((hlast _ _).mp hok).1 (by decide)
  · obtain ⟨-, -, hleads⟩ := hpair [1, 2, 3, 4] StandardNetwork.mainKeyVersions.privateVersion.bytes
    exact hleads rfl

end Registry

end ChainParams
