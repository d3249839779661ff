import ChainParams.Proofs.Definition.Document
import ChainParams.Proofs.Definition.KeyVersions
import ChainParams.Proofs.Json.Text
import ChainParams.Proofs.Text.Hex

/-!
# Malformed key versions

A definition in which nothing is wrong but the text of a key version is refused for that text. The
check that gives such a text an error of its own only looks into objects. If the definition or its
pair of key versions is written as an array, the text passes the check and is refused as any other
value that does not fit its field.
-/

namespace ChainParams.Definition

/-- The texts of the private and of the public key version in a definition. -/
def HasVersionTexts (definition : Json) (privateText publicText : String) : Prop :=
  ∃ versions, definition.at? versionsSlot = some versions ∧
    versions.at? privateSlot = some (.str privateText) ∧
    versions.at? publicSlot = some (.str publicText)

/-- The pair with other texts. -/
def replaceTexts (privateText publicText : String) (versions : Json) : Json :=
  (versions.modifyAt privateSlot fun _ ↦ .str privateText).modifyAt publicSlot
    fun _ ↦ .str publicText

/-- The definition with other texts of key versions. -/
def withVersionTexts (privateText publicText : String) (definition : Json) : Json :=
  definition.modifyAt versionsSlot (replaceTexts privateText publicText)

/-- The check looks at the key versions: they stand in an object that stands in an object. -/
def IsChecked (definition : Json) : Prop :=
  ∃ members, definition.get? "hd_key_versions" = some (.obj members)

/-- One of two texts is no key version, for this reason. -/
def IsFaultOf (privateText publicText : String) (fault : KeyVersion.Fault) : Prop :=
  KeyVersion.ofHex privateText = .error fault ∨ KeyVersion.ofHex publicText = .error fault

variable {privateText publicText goodPrivate goodPublic : String}

theorem exists_isFaultOf
    (hbad : ¬(KeyVersion.IsText privateText ∧ KeyVersion.IsText publicText)) :
    ∃ fault, IsFaultOf privateText publicText fault := by
  rw [← KeyVersion.exists_ofHex_iff, ← KeyVersion.exists_ofHex_iff] at hbad
  cases hprivate : KeyVersion.ofHex privateText with
  | error fault => exact ⟨fault, .inl hprivate⟩
  | ok version =>
    cases hpublic : KeyVersion.ofHex publicText with
    | error fault => exact ⟨fault, .inr hpublic⟩
    | ok other => exact absurd ⟨⟨version, hprivate⟩, ⟨other, hpublic⟩⟩ hbad

/-! ## Reading -/

theorem read_keyVersion_eq_error_iff {text : String} {fault : Fault} :
    Form.keyVersion.read (.str text) = .error fault ↔
      ∃ cause, KeyVersion.ofHex text = .error cause ∧ Fault.badKeyVersion cause = fault := by
  rw [Form.read_keyVersion_str, mapError_eq_error_iff]

/-- A pair that could be read with other texts is refused for one of its own. -/
theorem read_keyVersions_of_malformed {versions : Json} {pair : KeyVersions}
    (hprivate : versions.at? privateSlot = some (.str privateText))
    (hpublic : versions.at? publicSlot = some (.str publicText))
    (hread : Form.keyVersions.read (replaceTexts goodPrivate goodPublic versions) = .ok pair)
    (hbad : ¬(KeyVersion.IsText privateText ∧ KeyVersion.IsText publicText)) :
    ∃ fault, IsFaultOf privateText publicText fault ∧
      Form.keyVersions.read versions = .error (.badKeyVersion fault) := by
  obtain ⟨α, fields, decode, encode, heq, hprivateReads, hpublicReads⟩ :=
    Form.keyVersions_eq_record
  rw [heq] at hread ⊢
  obtain ⟨place, part, fault, hpart, hfault, herror⟩ : ∃ place part fault,
      versions.HasPart place part ∧ fields.faultAt? place part = some fault ∧
        (Form.record "HdKeyVersions" fields decode encode).read versions = .error fault := by
    obtain ⟨fault, hfault | hfault⟩ := exists_isFaultOf hbad
    · exact Form.error_of_record hprivateReads hprivate
        (read_keyVersion_eq_error_iff.mpr ⟨fault, hfault, rfl⟩)
    · exact Form.error_of_record hpublicReads hpublic
        (read_keyVersion_eq_error_iff.mpr ⟨fault, hfault, rfl⟩)
  -- Every other part of the pair stands in the readable pair as well.
  rcases Json.hasPart_modifyAt_or (fun _ ↦ .str goodPrivate) hpart with hpart | ⟨hslot, hpart⟩
  · rcases Json.hasPart_modifyAt_or (fun _ ↦ .str goodPublic) hpart with hpart | ⟨hslot, hpart⟩
    · rw [Form.faultAt?_of_record hread hpart] at hfault
      cases hfault
    · rw [Json.at?_modifyAt_of_ne _ (by decide) (by decide), hpublic] at hpart
      cases hpart
      obtain ⟨cause, hcause, rfl⟩ :=
        read_keyVersion_eq_error_iff.mp ((hpublicReads _ _ _ hslot).mp hfault)
      exact ⟨cause, .inr hcause, herror⟩
  · rw [hprivate] at hpart
    cases hpart
    obtain ⟨cause, hcause, rfl⟩ :=
      read_keyVersion_eq_error_iff.mp ((hprivateReads _ _ _ hslot).mp hfault)
    exact ⟨cause, .inl hcause, herror⟩

/-- A definition that could be read with other texts is refused for one of its own. -/
theorem read_network_of_malformed {definition : Json} {network : Network}
    (htexts : HasVersionTexts definition privateText publicText)
    (hread : Form.network.read (withVersionTexts goodPrivate goodPublic definition) = .ok network)
    (hbad : ¬(KeyVersion.IsText privateText ∧ KeyVersion.IsText publicText)) :
    ∃ fault, IsFaultOf privateText publicText fault ∧
      Form.network.read definition = .error (.badKeyVersion fault) := by
  obtain ⟨versions, hversions, hprivate, hpublic⟩ := htexts
  obtain ⟨α, fields, decode, encode, heq, hreads⟩ := Form.network_eq_record
  rw [heq] at hread ⊢
  have hreplaced : (withVersionTexts goodPrivate goodPublic definition).at? versionsSlot =
      some (replaceTexts goodPrivate goodPublic versions) := by
    rw [withVersionTexts, Json.at?_modifyAt_self, hversions, Option.map_some]
  obtain ⟨pair, hpair⟩ := Form.exists_read_of_record hread hreads hreplaced
  obtain ⟨fault, hfault, herror⟩ := read_keyVersions_of_malformed hprivate hpublic hpair hbad
  exact ⟨fault, hfault, Form.error_of_modifyAt hreads hread hversions herror⟩

/-! ## The check -/

theorem checkKeyVersion_of_get? {versions : Json} {key text : String}
    (h : versions.get? key = some (.str text)) :
    checkKeyVersion versions key = (KeyVersion.ofHex text).map fun _ ↦ () := by
  rw [checkKeyVersion, h]

theorem checkKeyVersions_of_isChecked {definition : Json} (hchecked : IsChecked definition)
    (htexts : HasVersionTexts definition privateText publicText)
    (hbad : ¬(KeyVersion.IsText privateText ∧ KeyVersion.IsText publicText)) :
    ∃ fault, IsFaultOf privateText publicText fault ∧
      checkKeyVersions definition = .error fault := by
  obtain ⟨members, hmembers⟩ := hchecked
  obtain ⟨versions, hversions, hprivate, hpublic⟩ := htexts
  have hsame : some versions = some (.obj members) := by
    cases definition with
    | obj _ => exact hversions.symm.trans hmembers
    | _ => cases hmembers
  cases hsame
  have hprivateCheck : checkKeyVersion (.obj members) "private" =
      (KeyVersion.ofHex privateText).map fun _ ↦ () := checkKeyVersion_of_get? hprivate
  have hpublicCheck : checkKeyVersion (.obj members) "public" =
      (KeyVersion.ofHex publicText).map fun _ ↦ () := checkKeyVersion_of_get? hpublic
  simp only [checkKeyVersions, hmembers, hprivateCheck, hpublicCheck]
  cases hfirst : KeyVersion.ofHex privateText with
  | error fault => exact ⟨fault, .inl hfirst, rfl⟩
  | ok version =>
    obtain ⟨fault, hfault | hfault⟩ := exists_isFaultOf hbad
    · rw [hfirst] at hfault
      cases hfault
    · exact ⟨fault, .inr hfault, by rw [hfault]; rfl⟩

theorem checkKeyVersions_of_not_isChecked {definition : Json} (hchecked : ¬IsChecked definition) :
    checkKeyVersions definition = .ok () := by
  unfold checkKeyVersions
  split
  · next versions hversions =>
    cases versions with
    | obj members => exact absurd ⟨members, hversions⟩ hchecked
    | _ => rfl
  · rfl

/-! ## Documents -/

/-- What a definition with a malformed key version is refused for. -/
theorem readNetwork_of_malformed {definition : Json} {network : Network}
    (htexts : HasVersionTexts definition privateText publicText)
    (hread : readNetwork (withVersionTexts goodPrivate goodPublic definition) = .ok network)
    (hbad : ¬(KeyVersion.IsText privateText ∧ KeyVersion.IsText publicText)) :
    ∃ fault, IsFaultOf privateText publicText fault ∧
      (IsChecked definition → readNetwork definition = .error (.keyVersion fault)) ∧
      (¬IsChecked definition →
        readNetwork definition = .error (.definition (.badKeyVersion fault))) := by
  by_cases hchecked : IsChecked definition
  · obtain ⟨fault, hfault, hcheck⟩ := checkKeyVersions_of_isChecked hchecked htexts hbad
    exact ⟨fault, hfault, fun _ ↦ readNetwork_of_refused hcheck, absurd hchecked⟩
  · obtain ⟨fault, hfault, herror⟩ :=
      read_network_of_malformed htexts (read_of_readNetwork hread) hbad
    refine ⟨fault, hfault, fun h ↦ absurd h hchecked, fun _ ↦ ?_⟩
    rw [readNetwork_of_passed (checkKeyVersions_of_not_isChecked hchecked), herror, Except.mapError]

/-- A text is refused for the malformed key version of a definition that could be read with other
texts in place of its key versions, as those before it can. The error is that of a key version if
the check sees the texts, and otherwise one of a value that does not fit. -/
theorem parse_malformed (text : String) (document definition : Json) (before rest : List Json)
    (htext : Json.parse text = .ok document)
    (hdefinitions : definitions document = before ++ definition :: rest)
    (hbefore : ∀ earlier ∈ before, ∃ network, readNetwork earlier = .ok network)
    (htexts : HasVersionTexts definition privateText publicText) (network : Network)
    (hread : readNetwork (withVersionTexts goodPrivate goodPublic definition) = .ok network)
    (hbad : ¬(KeyVersion.IsText privateText ∧ KeyVersion.IsText publicText)) :
    ∃ fault, IsFaultOf privateText publicText fault ∧
      (IsChecked definition → parse text = .error (.keyVersion fault)) ∧
      (¬IsChecked definition → parse text = .error (.definition (.badKeyVersion fault))) := by
  obtain ⟨fault, hfault, hkeyed, hother⟩ := readNetwork_of_malformed htexts hread hbad
  have hparse {error : Error} (herror : readNetwork definition = .error error) :
      parse text = .error error := by
    rw [parse_eq_readNetworks htext, readNetworks_of_unreadable hdefinitions hbefore herror]
  exact ⟨fault, hfault, fun h ↦ hparse (hkeyed h), fun h ↦ hparse (hother h)⟩

/-- A definition with nothing but the fields that must be there. -/
def bareDefinition (versions : Json) : Json :=
  .obj [("address_prefixes", .arr [.int 1, .int 2, .int 3, .int 4]), ("default_port", .str "1"),
    ("genesis_hash", .str "683e86bd5c6d110d91b94b97137ba6bfe02dbbdb8e3dff722a669b5d69d77af6"),
    ("hd_coin_type", .int 115), ("hd_key_versions", versions), ("name", .str "m"), ("net", .int 1)]

theorem parse_compact_bareDefinition {versions : Json} (hfits : versions.Fits 126)
    (hsorted : versions.sorted = versions) :
    Json.parse (bareDefinition versions).compact = .ok (bareDefinition versions) := by
  have hdefinition : (bareDefinition versions).Fits Json.maxDepth := by
    simp [bareDefinition, Json.Fits, Json.MembersFit, Json.ItemsFit, Json.maxDepth, hfits]
  have hascending : List.Pairwise (· < ·) ["address_prefixes", "default_port", "genesis_hash",
      "hd_coin_type", "hd_key_versions", "name", "net"] := by decide
  have heq : (bareDefinition versions).sorted = bareDefinition versions := by
    simp only [bareDefinition, Json.sorted, Json.sortedMembers, Json.sortedItems, hsorted]
    exact congrArg Json.obj (Json.sortMembers_of_pairwise hascending)
  rw [Json.parse_compact hdefinition, heq]

/-- A pair whose public version lacks a byte. -/
def shortMembers : Json :=
  .obj [("private", .str "0420b900"), ("public", .str "0420bd")]

/-- The same pair without the keys. -/
def shortItems : Json :=
  .arr [.str "0420b900", .str "0420bd"]

theorem parse_compact_shortMembers :
    Json.parse (bareDefinition shortMembers).compact = .ok (bareDefinition shortMembers) := by
  apply parse_compact_bareDefinition
  · simp [shortMembers, Json.Fits, Json.MembersFit]
  · have hascending : List.Pairwise (· < ·) ["private", "public"] := by decide
    simp only [shortMembers, Json.sorted, Json.sortedMembers]
    exact congrArg Json.obj (Json.sortMembers_of_pairwise hascending)

theorem parse_compact_shortItems :
    Json.parse (bareDefinition shortItems).compact = .ok (bareDefinition shortItems) := by
  apply parse_compact_bareDefinition
  · simp [shortItems, Json.Fits, Json.ItemsFit]
  · simp [shortItems, Json.sorted, Json.sortedItems]

theorem not_isText_short : ¬KeyVersion.IsText "0420bd" := by
  unfold KeyVersion.IsText
  decide

/-- The text that lacks a byte has the error of a key version in an object only. -/
theorem parse_malformed_bareDefinition :
    parse (bareDefinition shortMembers).compact = .error (.keyVersion (.badLength 3)) ∧
      parse (bareDefinition shortItems).compact =
        .error (.definition (.badKeyVersion (.badLength 3))) := by
  have hbad : ¬(KeyVersion.IsText "0420b900" ∧ KeyVersion.IsText "0420bd") :=
    fun h ↦ not_isText_short h.2
  have hcause {fault : KeyVersion.Fault} (h : IsFaultOf "0420b900" "0420bd" fault) :
      fault = .badLength 3 := by
    rcases h with h | h <;> cases h
    rfl
  constructor
  · obtain ⟨fault, hfault, hchecked, -⟩ := parse_malformed _ _ _ [] [] parse_compact_shortMembers
      rfl (List.forall_mem_nil _) ⟨_, rfl, rfl, rfl⟩ _
      (rfl : readNetwork (withVersionTexts "0420b900" "0420bd3a" (bareDefinition shortMembers)) =
        .ok _) hbad
    rw [hchecked ⟨_, rfl⟩, hcause hfault]
  · obtain ⟨fault, hfault, -, hother⟩ := parse_malformed _ _ _ [] [] parse_compact_shortItems
      rfl (List.forall_mem_nil _) ⟨_, rfl, rfl, rfl⟩ _
      (rfl : readNetwork (withVersionTexts "0420b900" "0420bd3a" (bareDefinition shortItems)) =
        .ok _) hbad
    have hunchecked : ¬IsChecked (bareDefinition shortItems) := by
      rintro ⟨members, h⟩
      cases h
    rw [hother hunchecked, hcause hfault]

/-- Not every definition whose only fault is the text of a key version is refused with the error of
a key version. -/
theorem not_parse_keyVersion_of_malformed :
    ¬∀ text document definition privateText publicText goodPrivate goodPublic network,
      Json.parse text = .ok document → definitions document = [definition] →
        HasVersionTexts definition privateText publicText →
        readNetworks (.arr [withVersionTexts goodPrivate goodPublic definition]) = .ok [network] →
        ¬(KeyVersion.IsText privateText ∧ KeyVersion.IsText publicText) →
        ∃ fault, parse text = .error (.keyVersion fault) := by
  intro h
  obtain ⟨fault, hparse⟩ := h _ _ (bareDefinition shortItems) "0420b900" "0420bd" "0420b900"
    "0420bd3a" _ parse_compact_shortItems rfl ⟨_, rfl, rfl, rfl⟩ rfl
    fun htexts ↦ not_isText_short htexts.2
  have herror : readNetworks (bareDefinition shortItems) =
      .error (.definition (.badKeyVersion (.badLength 3))) := rfl
  rw [parse_eq_readNetworks parse_compact_shortItems, herror] at hparse
  cases hparse

end ChainParams.Definition
