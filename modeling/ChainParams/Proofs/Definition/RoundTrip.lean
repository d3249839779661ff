import ChainParams.Json.Printer
import ChainParams.Proofs.Definition.Document
import ChainParams.Proofs.Definition.KeyVersions
import ChainParams.Proofs.Definition.Parts

/-!
# Definitions that are written and read back

The definition of a valid network, on one line or on many, is read as that network and nothing else.
Only spans of time with parts of a second would not come back, as definitions count whole seconds.
-/

namespace ChainParams.Definition

open ChainParams.Definition.Field

namespace Form

theorem keeps_network (depth : Nat) {n : Network} (h : n.rules.WholeSeconds) :
    network.Keeps (depth + 1 + 1 + 1 + 1) n :=
  keeps_record (by decide)
    ⟨keeps_required (keeps_text _ _ n.name), keeps_required (keeps_magic _ n.magic),
      keeps_required (keeps_text _ _ n.defaultPort),
      keeps_default (Keeps.list fun seed _ ↦ keeps_dnsSeed (depth + 1) seed),
      keeps_required (keeps_hash _ n.genesisHash),
      keeps_optional (keeps_genesisHeader (depth + 1 + 1)) (fun _ ↦ Json.noConfusion)
        n.genesisHeader,
      keeps_default (keeps_rules (depth + 1 + 1) h),
      keeps_optional (keeps_sporkKeys (depth + 1 + 1)) (fun _ ↦ Json.noConfusion) n.sporkKeys,
      keeps_default (keeps_zerocoin (depth + 1 + 1) n.zerocoin),
      keeps_optional (keeps_badBlock (depth + 1 + 1)) (fun _ ↦ Json.noConfusion) n.badBlock,
      keeps_default (keeps_checkpoints (depth + 1) n.checkpoints),
      keeps_default (keeps_schedule depth n.schedule),
      keeps_required (keeps_addressPrefixes (depth + 1 + 1) n.addressPrefixes),
      keeps_required (keeps_keyVersions (depth + 1 + 1) n.keyVersions),
      keeps_required (keeps_u32 _ n.coinType), trivial⟩ rfl

end Form

/-! ## Documents -/

theorem definitions_sorted_obj (members : List (String × Json)) :
    definitions (Json.obj members).sorted = [(Json.obj members).sorted] := by
  rw [Json.sorted]
  rfl

/-- What is written for a network defines that network, be it valid or not. -/
theorem defines_write {network : Network} (hwhole : network.rules.WholeSeconds) :
    Defines (Form.network.write network).sorted [network] := by
  have hone : definitions (Form.network.write network).sorted =
      [(Form.network.write network).sorted] := definitions_sorted_obj _
  have hread : readNetwork (Form.network.write network).sorted = .ok network :=
    readNetwork_of_read (Form.keeps_network 123 hwhole).read
  rw [Defines, hone, List.forall₂_cons]
  exact ⟨hread, .nil⟩

theorem readNetworks_sorted {network : Network} (hvalid : network.validate = .ok ())
    (hwhole : network.rules.WholeSeconds) :
    readNetworks (Form.network.write network).sorted = .ok [network] :=
  readNetworks_eq_ok_iff.mpr ⟨defines_write hwhole, List.forall_mem_singleton.mpr hvalid⟩

/-- Any text whose value is that of the definition defines the network alone. -/
theorem parse_of_json {network : Network} (hvalid : network.validate = .ok ())
    (hwhole : network.rules.WholeSeconds) {text : String}
    (htext : Json.parse text = .ok (Form.network.write network).sorted) :
    parse text = .ok [network] := by
  rw [parse_eq_readNetworks htext]
  exact readNetworks_sorted hvalid hwhole

/-- Valid networks that are written as a list are defined by its text, in order. -/
theorem parse_list {networks : List Network}
    (hvalid : ∀ network ∈ networks, network.validate = .ok ())
    (hwhole : ∀ network ∈ networks, network.rules.WholeSeconds) :
    parse (Form.network.list.write networks).compact = .ok networks := by
  have hkeeps : Form.network.list.Keeps Json.maxDepth networks :=
    Form.Keeps.list fun network hmem ↦ Form.keeps_network 122 (hwhole network hmem)
  have hdefines : Defines (Form.network.list.write networks).sorted networks := by
    change List.Forall₂ _ (Json.sortedItems (networks.map Form.network.write)) networks
    rw [Json.sortedItems_eq_map, List.map_map, List.forall₂_map_left_iff, List.forall₂_same]
    intro network hmem
    exact readNetwork_of_read (Form.keeps_network 122 (hwhole network hmem)).read
  rw [parse_eq_readNetworks (Json.parse_compact hkeeps.fits)]
  exact readNetworks_eq_ok_iff.mpr ⟨hdefines, hvalid⟩

/-- The definition is read back from one line, from many, and from the output of `show`. -/
theorem parse_definition (network : Network) (hvalid : network.validate = .ok ())
    (hwhole : network.rules.WholeSeconds) :
    parse (Form.network.write network).compact = .ok [network] ∧
      parse (Form.network.write network).pretty = .ok [network] ∧
      parse ((Form.network.write network).pretty ++ "\n") = .ok [network] := by
  have hfits : (Form.network.write network).Fits Json.maxDepth :=
    (Form.keeps_network 123 hwhole).fits
  exact ⟨parse_of_json hvalid hwhole (Json.parse_compact hfits),
    parse_of_json hvalid hwhole (Json.parse_pretty hfits),
    parse_of_json hvalid hwhole (Json.parse_pretty_line hfits)⟩

/-- The main network with a name that needs escapes and a key from the leap second of 2016 on. -/
def escapedNetwork : Network :=
  { StandardNetwork.mainNetwork with
    name := "\"ma\tin\" é"
    sporkKeys := some { StandardNetwork.sporkKeys with
      enforceNewKey := ⟨17166, 86399, 1500000000, by decide, by decide, by decide, by decide,
        by decide⟩ } }

theorem parse_definition_escapedNetwork :
    parse (Form.network.write escapedNetwork).compact = .ok [escapedNetwork] ∧
      parse (Form.network.write escapedNetwork).pretty = .ok [escapedNetwork] ∧
      parse ((Form.network.write escapedNetwork).pretty ++ "\n") = .ok [escapedNetwork] :=
  parse_definition escapedNetwork rfl
    (by unfold ConsensusRules.WholeSeconds Time.Duration.IsWhole; decide)

end ChainParams.Definition
