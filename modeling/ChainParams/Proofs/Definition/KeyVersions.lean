import Mathlib.Tactic
import ChainParams.Definition.Document
import ChainParams.Proofs.Definition.Places

/-!
# The check of key versions

Before a definition is read as a network, its key versions are judged where they stand as texts of
an object. Whatever can be read as a network passes, so that the check changes nothing but errors:
it refuses only what cannot be read anyway, and leaves everything else to the form.
-/

namespace ChainParams.Definition

open Json (Slot)

/-- Where a network has its key versions. -/
def versionsSlot : Slot :=
  ⟨"hd_key_versions", 13⟩

def privateSlot : Slot :=
  ⟨"private", 0⟩

def publicSlot : Slot :=
  ⟨"public", 1⟩

namespace Form

theorem keyVersions_eq_record :
    ∃ (α : Type) (fields : Fields α) (decode : α → KeyVersions) (encode : KeyVersions → α),
      keyVersions = record "HdKeyVersions" fields decode encode ∧
        fields.Reads privateSlot keyVersion ∧ fields.Reads publicSlot keyVersion :=
  ⟨_, _, _, _, rfl, Fields.reads_head (.required "private" keyVersion) _,
    (Fields.reads_head (.required "public" keyVersion) _).tail (by decide)⟩

theorem network_eq_record :
    ∃ (α : Type) (fields : Fields α) (decode : α → Network) (encode : Network → α),
      network = record "ParameterSet" fields decode encode ∧
        fields.Reads versionsSlot keyVersions := by
  refine ⟨_, _, _, _, rfl, ?_⟩
  iterate 13 refine Fields.Reads.tail ?_ (by decide)
  exact Fields.reads_head (.required versionsSlot.key keyVersions) _

theorem read_keyVersion_str (text : String) :
    keyVersion.read (.str text) = (KeyVersion.ofHex text).mapError .badKeyVersion := rfl

end Form

theorem checkKeyVersion_of_read {versions : Json} {pair : KeyVersions}
    (h : Form.keyVersions.read versions = .ok pair) {key : String}
    (hkey : key = "private" ∨ key = "public") : checkKeyVersion versions key = .ok () := by
  obtain ⟨α, fields, decode, encode, heq, hprivate, hpublic⟩ := Form.keyVersions_eq_record
  rw [heq] at h
  cases versions with
  | obj members =>
    rw [checkKeyVersion, Json.get?]
    split
    · next text hlookup =>
      have hread : ∃ version, Form.keyVersion.read (.str text) = .ok version := by
        rcases hkey with rfl | rfl
        · exact Form.exists_read_of_record h hprivate hlookup
        · exact Form.exists_read_of_record h hpublic hlookup
      obtain ⟨version, hversion⟩ := hread
      rw [Form.read_keyVersion_str, mapError_eq_ok_iff] at hversion
      rw [hversion, Except.map]
    · rfl
  | _ => rfl

/-- What can be read as a network has no bad key version. -/
theorem checkKeyVersions_of_read {value : Json} {network : Network}
    (h : Form.network.read value = .ok network) : checkKeyVersions value = .ok () := by
  obtain ⟨α, fields, decode, encode, heq, hversions⟩ := Form.network_eq_record
  rw [heq] at h
  cases value with
  | obj members =>
    rw [checkKeyVersions, Json.get?]
    split
    · next versions hlookup =>
      obtain ⟨pair, hpair⟩ := Form.exists_read_of_record h hversions hlookup
      rw [checkKeyVersion_of_read hpair (.inl rfl), checkKeyVersion_of_read hpair (.inr rfl)]
      rfl
    · rfl
  | _ => rfl

theorem readNetwork_of_read {value : Json} {network : Network}
    (h : Form.network.read value = .ok network) : readNetwork value = .ok network := by
  rw [readNetwork, checkKeyVersions_of_read h, h]
  rfl

/-! ## The check and the form -/

theorem readNetwork_of_passed {value : Json} (h : checkKeyVersions value = .ok ()) :
    readNetwork value = (Form.network.read value).mapError .definition := by
  rw [readNetwork, h]
  rfl

theorem readNetwork_of_refused {value : Json} {fault : KeyVersion.Fault}
    (h : checkKeyVersions value = .error fault) :
    readNetwork value = .error (.keyVersion fault) := by
  rw [readNetwork, h]
  rfl

/-- What the check refuses cannot be read as a network. -/
theorem exists_error_of_refused {value : Json} {fault : KeyVersion.Fault}
    (h : checkKeyVersions value = .error fault) :
    ∃ cause, Form.network.read value = .error cause := by
  cases hread : Form.network.read value with
  | error cause => exact ⟨cause, rfl⟩
  | ok network =>
    rw [checkKeyVersions_of_read hread] at h
    cases h

theorem read_of_readNetwork {value : Json} {network : Network}
    (h : readNetwork value = .ok network) : Form.network.read value = .ok network := by
  obtain ⟨-, -, hread⟩ := bind_eq_ok_iff.mp h
  exact mapError_eq_ok_iff.mp hread

/-- The check takes no network away and adds none. It has an error of its own for some of the
definitions that the form refuses; all others come to what the form makes of them. -/
theorem readNetwork_iff_read (value : Json) :
    (∀ network, readNetwork value = .ok network ↔ Form.network.read value = .ok network) ∧
    (∀ fault, checkKeyVersions value = .error fault →
      readNetwork value = .error (.keyVersion fault) ∧
        ∃ cause, Form.network.read value = .error cause) ∧
    (checkKeyVersions value = .ok () →
      readNetwork value = (Form.network.read value).mapError .definition) := by
  refine ⟨?_, ?_, readNetwork_of_passed⟩
  · intro network
    exact ⟨read_of_readNetwork, readNetwork_of_read⟩
  · intro fault hfault
    exact ⟨readNetwork_of_refused hfault, exists_error_of_refused hfault⟩

/-- Two malformed texts have the error of a key version in an object, and that of the form in an
array, where the check does not see them. -/
theorem readNetwork_iff_read_malformedPair :
    (readNetwork (.obj [("hd_key_versions",
        .obj [("private", .str "0420b9"), ("public", .str "xx")])]) =
          .error (.keyVersion (.badLength 3)) ∧
      ∃ cause, Form.network.read (.obj [("hd_key_versions",
        .obj [("private", .str "0420b9"), ("public", .str "xx")])]) = .error cause) ∧
    readNetwork (.obj [("hd_key_versions", .arr [.str "0420b9", .str "xx"])]) =
      .error (.definition (.badKeyVersion (.badLength 3))) := by
  constructor
  · obtain ⟨-, hrefused, -⟩ := readNetwork_iff_read (.obj [("hd_key_versions",
      .obj [("private", .str "0420b9"), ("public", .str "xx")])])
    exact hrefused _ rfl
  · obtain ⟨-, -, hpassed⟩ := readNetwork_iff_read (.obj [("hd_key_versions",
      .arr [.str "0420b9", .str "xx"])])
    rw [hpassed rfl]
    rfl

end ChainParams.Definition
