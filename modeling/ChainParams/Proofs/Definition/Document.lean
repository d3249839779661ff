import Mathlib.Tactic
import ChainParams.Definition.Document
import ChainParams.Proofs.Computation

/-!
# What a document defines

All definitions of a document are read before the first network is validated, and the first network
that is not valid decides the error. So a text or a file either defines valid networks, one for each
definition, or none at all.
-/

namespace ChainParams.Definition

/-- The definitions of a document are read as these networks, be they valid or not. -/
def Defines (value : Json) (networks : List Network) : Prop :=
  List.Forall₂ (fun definition network ↦ readNetwork definition = .ok network) (definitions value)
    networks

theorem readNetworks_eq_ok_iff {value : Json} {networks : List Network} :
    readNetworks value = .ok networks ↔
      Defines value networks ∧ ∀ network ∈ networks, network.validate = .ok () := by
  change ((definitions value).mapM readNetwork).bind _ = _ ↔ _
  rw [bind_eq_ok_iff]
  constructor
  · rintro ⟨read, hread, hrest⟩
    obtain ⟨hvalid, heq⟩ := bind_unit_eq_ok_iff.mp hrest
    cases heq
    refine ⟨mapM_eq_ok_iff.mp hread, ?_⟩
    intro network hnetwork
    exact mapError_eq_ok_iff.mp (forM_eq_ok_iff.mp hvalid network hnetwork)
  · rintro ⟨hdefines, hvalid⟩
    refine ⟨networks, mapM_eq_ok_iff.mpr hdefines, ?_⟩
    apply bind_unit_eq_ok_iff.mpr
    refine ⟨forM_eq_ok_iff.mpr ?_, rfl⟩
    intro network hnetwork
    exact mapError_eq_ok_iff.mpr (hvalid network hnetwork)

/-- Where the document has a definition, it has a network for it. -/
theorem Defines.exists_eq_append {value definition : Json} {networks : List Network}
    {first last : List Json} (h : Defines value networks)
    (hdefinitions : definitions value = first ++ definition :: last) :
    ∃ earlier network later, networks = earlier ++ network :: later ∧
      List.Forall₂ (fun definition network ↦ readNetwork definition = .ok network) first earlier ∧
      readNetwork definition = .ok network ∧
      List.Forall₂ (fun definition network ↦ readNetwork definition = .ok network) last later := by
  rw [Defines, hdefinitions] at h
  have hfirst := List.forall₂_take first.length h
  have hrest := List.forall₂_drop first.length h
  rw [List.take_left] at hfirst
  rw [List.drop_left, List.forall₂_cons_left_iff] at hrest
  obtain ⟨network, later, hnetwork, hlater, heq⟩ := hrest
  refine ⟨networks.take first.length, network, later, ?_, hfirst, hnetwork, hlater⟩
  rw [← heq, List.take_append_drop]

/-- The first definition that cannot be read decides. -/
theorem readNetworks_of_unreadable {value definition : Json} {before rest : List Json}
    {error : Error} (hdefinitions : definitions value = before ++ definition :: rest)
    (hbefore : ∀ earlier ∈ before, ∃ network, readNetwork earlier = .ok network)
    (herror : readNetwork definition = .error error) : readNetworks value = .error error := by
  have hread : (definitions value).mapM readNetwork = .error error :=
    mapM_eq_error_iff.mpr ⟨before, definition, rest, hdefinitions, hbefore, herror⟩
  rw [readNetworks, hread]
  rfl

/-- Of networks that can all be read, the first that is not valid decides. -/
theorem readNetworks_of_invalid {value : Json} {before rest : List Network} {network : Network}
    {fault : Network.Fault} (hdefines : Defines value (before ++ network :: rest))
    (hbefore : ∀ earlier ∈ before, earlier.validate = .ok ())
    (hfault : network.validate = .error fault) :
    readNetworks value = .error (.network fault) := by
  have hvalidate : ((before ++ network :: rest).forM fun network ↦
      network.validate.mapError Error.network) = .error (.network fault) := by
    refine forM_eq_error_iff.mpr ⟨before, network, rest, rfl, ?_, ?_⟩
    · intro earlier hearlier
      exact mapError_eq_ok_iff.mpr (hbefore earlier hearlier)
    · rw [hfault, Except.mapError]
  rw [readNetworks, mapM_eq_ok_iff.mpr hdefines]
  exact congrArg (Except.bind · fun _ ↦ .ok (before ++ network :: rest)) hvalidate

/-! ## Texts and files -/

theorem parse_eq_readNetworks {text : String} {value : Json} (h : Json.parse text = .ok value) :
    parse text = readNetworks value := by
  rw [parse, h]
  rfl

theorem valid_of_parse {text : String} {networks : List Network} (h : parse text = .ok networks) :
    ∀ network ∈ networks, network.validate = .ok () := by
  obtain ⟨value, -, hread⟩ := bind_eq_ok_iff.mp h
  exact (readNetworks_eq_ok_iff.mp hread).2

/-- A file that can be loaded is the text of valid networks. -/
theorem valid_of_load {file : Except FileFault ByteArray} {networks : List Network}
    (h : load file = .ok networks) : ∀ network ∈ networks, network.validate = .ok () := by
  obtain ⟨bytes, -, hbytes⟩ := bind_eq_ok_iff.mp h
  split at hbytes
  · exact valid_of_parse hbytes
  · cases hbytes

/-- The networks of a file are those of the text that it holds. -/
theorem load_toUTF8 (text : String) : load (.ok text.toUTF8) = parse text := by
  have hdecode : String.fromUTF8? text.toUTF8 = some text := dif_pos text.isValidUTF8
  simp only [load, Except.mapError, bind, Except.bind, hdecode]

end ChainParams.Definition
