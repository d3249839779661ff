import ChainParams.Proofs.Definition.Document
import ChainParams.Proofs.Definition.KeyVersions
import ChainParams.Proofs.Definition.Settings
import ChainParams.Proofs.Network

/-!
# Rules that a definition leaves out

A definition may give some of the consensus rules and of the zerocoin heights and leave out the
others. Each one that it gives is what it gives, and each other one is the default. Defaults that
are written out say the same as none, and nothing else about the network depends on these rules.
-/

namespace ChainParams.Definition

open Time

variable {α : Type}

/-! ## Networks -/

/-- The two records of settings in a definition, and what the rest of it tells. -/
theorem Form.network_eq_defaults :
    ∃ (α : Type) (fields : Fields α) (decode : α → Network) (encode : Network → α)
      (getRules : α → ConsensusRules) (setRules : ConsensusRules → α → α)
      (getZerocoin : α → ZerocoinHeights) (setZerocoin : ZerocoinHeights → α → α),
      network = record "ParameterSet" fields decode encode ∧
        fields.HasDefault "consensus" rules .standard getRules setRules ∧
        fields.HasDefault "zerocoin" zerocoin .zero getZerocoin setZerocoin ∧
        (∀ as, (decode as).rules = getRules as ∧ (decode as).zerocoin = getZerocoin as ∧
          (∀ r, decode (setRules r as) = { decode as with rules := r }) ∧
          ∀ z, decode (setZerocoin z as) = { decode as with zerocoin := z }) ∧
        ∀ as bs, fields.AgreeOff ["consensus", "zerocoin"] as bs →
          decode bs = { decode as with
            rules := (decode bs).rules, zerocoin := (decode bs).zerocoin } := by
  refine ⟨_, _, _, _, _, _, _, _, rfl,
    .tail (by decide) <| .tail (by decide) <| .tail (by decide) <| .tail (by decide) <|
      .tail (by decide) <| .tail (by decide) <| .head (by decide),
    .tail (by decide) <| .tail (by decide) <| .tail (by decide) <| .tail (by decide) <|
      .tail (by decide) <| .tail (by decide) <| .tail (by decide) <| .tail (by decide) <|
      .head (by decide),
    fun _ ↦ ⟨rfl, rfl, fun _ ↦ rfl, fun _ ↦ rfl⟩, ?_⟩
  intro as bs h
  obtain ⟨name, magic, port, seeds, genesis, header, rules, keys, zerocoin, bad, points, schedule,
    prefixes, versions, coin, ⟨⟩⟩ := as
  obtain ⟨name', magic', port', seeds', genesis', header', rules', keys', zerocoin', bad', points',
    schedule', prefixes', versions', coin', ⟨⟩⟩ := bs
  simp only [Fields.AgreeOff, Field.required, Field.default, Field.optional, List.mem_cons,
    List.not_mem_nil, String.reduceEq, or_false, or_true, not_true, not_false_eq_true, forall_const,
    false_implies, and_true, true_and] at h
  obtain ⟨rfl, rfl, rfl, rfl, rfl, rfl, rfl, rfl, rfl, rfl, rfl, rfl, rfl⟩ := h
  rfl

section Read

variable {members others : List (String × Json)} {network other : Network}

/-- The rules are what the definition gives, and the standard ones if it gives none. -/
theorem rules_of_read (h : Form.network.read (.obj members) = .ok network) :
    (∀ value, members.lookup "consensus" = some value →
      Form.rules.read value = .ok network.rules) ∧
    (members.lookup "consensus" = none → network.rules = .standard) := by
  obtain ⟨α, fields, decode, encode, _, _, _, _, heq, hrules, -, hparts, -⟩ :=
    Form.network_eq_defaults
  rw [heq] at h
  obtain ⟨as, hread, rfl⟩ := map_eq_ok_iff.mp h
  rw [(hparts as).1]
  exact hrules.get_of_ofMembers (Fields.ofMembers_of_readObject hread)

theorem zerocoin_of_read (h : Form.network.read (.obj members) = .ok network) :
    (∀ value, members.lookup "zerocoin" = some value →
      Form.zerocoin.read value = .ok network.zerocoin) ∧
    (members.lookup "zerocoin" = none → network.zerocoin = .zero) := by
  obtain ⟨α, fields, decode, encode, _, _, _, _, heq, -, hzerocoin, hparts, -⟩ :=
    Form.network_eq_defaults
  rw [heq] at h
  obtain ⟨as, hread, rfl⟩ := map_eq_ok_iff.mp h
  rw [(hparts as).2.1]
  exact hzerocoin.get_of_ofMembers (Fields.ofMembers_of_readObject hread)

theorem rest_of_read (hsame : ∀ key, key ≠ "consensus" → key ≠ "zerocoin" →
      members.lookup key = others.lookup key)
    (h : Form.network.read (.obj members) = .ok network)
    (hother : Form.network.read (.obj others) = .ok other) :
    other = { network with rules := other.rules, zerocoin := other.zerocoin } := by
  obtain ⟨α, fields, decode, encode, _, _, _, _, heq, -, -, -, hrest⟩ := Form.network_eq_defaults
  rw [heq] at h hother
  obtain ⟨as, hread, rfl⟩ := map_eq_ok_iff.mp h
  obtain ⟨bs, hotherRead, rfl⟩ := map_eq_ok_iff.mp hother
  apply hrest
  refine Fields.agreeOff_of_ofMembers ?_ (Fields.ofMembers_of_readObject hread)
    (Fields.ofMembers_of_readObject hotherRead)
  intro key hkey
  simp only [List.mem_cons, List.not_mem_nil, or_false, not_or] at hkey
  exact hsame key hkey.1 hkey.2

end Read

/-! ## Added members -/

/-- The value is one of a record of settings that a network has under the key, and is read as what
the change puts into the network. -/
inductive Sets : String → Json → (Network → Network) → Prop
  | rules {value : Json} {r : ConsensusRules} (h : Form.rules.read value = .ok r) :
      Sets "consensus" value fun network ↦ { network with rules := r }
  | zerocoin {value : Json} {z : ZerocoinHeights} (h : Form.zerocoin.read value = .ok z) :
      Sets "zerocoin" value fun network ↦ { network with zerocoin := z }

section Insert

variable {key : String} {value : Json} {change : Network → Network}
  {before after : List (String × Json)}

theorem read_insert (h : Sets key value change) (hkey : key ∉ (before ++ after).map Prod.fst) :
    Form.network.read (.obj (before ++ (key, value) :: after)) =
      (Form.network.read (.obj (before ++ after))).map change := by
  obtain ⟨α, fields, decode, encode, _, _, _, _, heq, hrules, hzerocoin, hparts, -⟩ :=
    Form.network_eq_defaults
  rw [heq]
  change (fields.readObject _).map decode = ((fields.readObject _).map decode).map change
  cases h with
  | rules h =>
    rw [hrules.readObject_insert h hkey]
    cases fields.readObject (before ++ after) with
    | error fault => rfl
    | ok as => exact congrArg Except.ok ((hparts as).2.2.1 _)
  | zerocoin h =>
    rw [hzerocoin.readObject_insert h hkey]
    cases fields.readObject (before ++ after) with
    | error fault => rfl
    | ok as => exact congrArg Except.ok ((hparts as).2.2.2 _)

/-- The definition with the member gives the changed network, or has the same error. -/
theorem readNetwork_insert (h : Sets key value change)
    (hkey : key ∉ (before ++ after).map Prod.fst) :
    readNetwork (.obj (before ++ (key, value) :: after)) =
      (readNetwork (.obj (before ++ after))).map change := by
  have hne : "hd_key_versions" ≠ key := by
    cases h <;> decide
  have hcheck : checkKeyVersions (.obj (before ++ (key, value) :: after)) =
      checkKeyVersions (.obj (before ++ after)) := by
    rw [checkKeyVersions, checkKeyVersions, Json.get?, Json.get?, Json.lookup_insert_of_ne hne]
  rw [readNetwork, readNetwork, hcheck, read_insert h hkey]
  cases checkKeyVersions (.obj (before ++ after)) with
  | error fault => rfl
  | ok _ => cases Form.network.read (.obj (before ++ after)) <;> rfl

end Insert

/-- The member gives some of the settings, and the network gets them in place of the defaults. -/
inductive GivesSettings : String → Json → (Network → Network) → Prop
  | rules {given : List (String × Json)} {r : ConsensusRules} (hkeys : (given.map Prod.fst).Nodup)
      (h : Overrides given ConsensusRules.standard.settings r.settings) :
      GivesSettings "consensus" (.obj given) fun network ↦ { network with rules := r }
  | zerocoin {given : List (String × Json)} {z : ZerocoinHeights}
      (hkeys : (given.map Prod.fst).Nodup)
      (h : Overrides given ZerocoinHeights.zero.settings z.settings) :
      GivesSettings "zerocoin" (.obj given) fun network ↦ { network with zerocoin := z }

theorem GivesSettings.sets {key : String} {value : Json} {change : Network → Network}
    (h : GivesSettings key value change) : Sets key value change := by
  cases h with
  | rules hkeys h => exact .rules (Form.readsSettings_rules.read_of_overrides _ _ hkeys h)
  | zerocoin hkeys h => exact .zerocoin (Form.readsSettings_zerocoin.read_of_overrides _ _ hkeys h)

/-- The member says what its absence says: it leaves out everything, or it has all the defaults as
they are written. -/
inductive TellsDefaults : String → Json → Prop
  | noRules : TellsDefaults "consensus" (.obj [])
  | standardRules {value : Json}
      (h : Json.parse (Form.rules.write .standard).compact = .ok value) :
      TellsDefaults "consensus" value
  | noHeights : TellsDefaults "zerocoin" (.obj [])
  | zeroHeights {value : Json}
      (h : Json.parse (Form.zerocoin.write .zero).compact = .ok value) :
      TellsDefaults "zerocoin" value

theorem read_of_parse_write {form : Form α} {a : α} (hkeeps : form.Keeps Json.maxDepth a)
    {value : Json} (h : Json.parse (form.write a).compact = .ok value) :
    form.read value = .ok a := by
  rw [Json.parse_compact hkeeps.fits] at h
  cases h
  exact hkeeps.read

theorem TellsDefaults.read {key : String} {value : Json} (h : TellsDefaults key value) :
    (key = "consensus" ∧ Form.rules.read value = .ok .standard) ∨
      (key = "zerocoin" ∧ Form.zerocoin.read value = .ok .zero) := by
  cases h with
  | noRules => exact .inl ⟨rfl, rfl⟩
  | standardRules h =>
    have hwhole : ConsensusRules.standard.WholeSeconds := by
      unfold ConsensusRules.WholeSeconds Duration.IsWhole
      decide
    exact .inl ⟨rfl, read_of_parse_write (Form.keeps_rules 126 hwhole) h⟩
  | noHeights => exact .inr ⟨rfl, rfl⟩
  | zeroHeights h => exact .inr ⟨rfl, read_of_parse_write (Form.keeps_zerocoin 126 .zero) h⟩

/-- A network that has the defaults already is not changed by them. -/
theorem readNetwork_insert_default {key : String} {value : Json}
    {before after : List (String × Json)} (h : TellsDefaults key value)
    (hkey : key ∉ (before ++ after).map Prod.fst) :
    readNetwork (.obj (before ++ (key, value) :: after)) =
      readNetwork (.obj (before ++ after)) := by
  have habsent := Json.lookup_eq_none_of_not_mem hkey
  rcases h.read with ⟨rfl, hvalue⟩ | ⟨rfl, hvalue⟩
  · rw [readNetwork_insert (.rules hvalue) hkey]
    cases hread : readNetwork (.obj (before ++ after)) with
    | error fault => rfl
    | ok network =>
      have hrules := (rules_of_read (read_of_readNetwork hread)).2 habsent
      rw [Except.map, ← hrules]
  · rw [readNetwork_insert (.zerocoin hvalue) hkey]
    cases hread : readNetwork (.obj (before ++ after)) with
    | error fault => rfl
    | ok network =>
      have hzerocoin := (zerocoin_of_read (read_of_readNetwork hread)).2 habsent
      rw [Except.map, ← hzerocoin]

/-! ## Documents -/

section Documents

variable {document other : Json} {first last : List Json} {before after : List (String × Json)}
  {key : String} {value : Json}
  (hdocument : definitions document = first ++ .obj (before ++ after) :: last)
  (hother : definitions other = first ++ .obj (before ++ (key, value) :: after) :: last)
  (hkey : key ∉ (before ++ after).map Prod.fst)

include hdocument hother hkey

/-- One definition of the document may tell the defaults or not. -/
theorem readNetworks_insert_default (h : TellsDefaults key value) :
    readNetworks other = readNetworks document := by
  rw [readNetworks, readNetworks, hdocument, hother]
  simp only [List.mapM_append, List.mapM_cons, readNetwork_insert_default h hkey]

/-- If a definition of a readable document gets the member, its network is changed and judged anew,
and nothing else happens. -/
theorem readNetworks_insert {change : Network → Network} (h : GivesSettings key value change)
    {networks : List Network} (hread : readNetworks document = .ok networks) :
    ∃ earlier network later, networks = earlier ++ network :: later ∧
      earlier.length = first.length ∧
      ((change network).validate = .ok () →
        readNetworks other = .ok (earlier ++ change network :: later)) ∧
      ∀ fault, (change network).validate = .error fault →
        readNetworks other = .error (.network fault) := by
  obtain ⟨hdefines, hvalid⟩ := readNetworks_eq_ok_iff.mp hread
  obtain ⟨earlier, network, later, rfl, hfirst, hnetwork, hlast⟩ :=
    hdefines.exists_eq_append hdocument
  have hchanged : readNetwork (.obj (before ++ (key, value) :: after)) = .ok (change network) := by
    rw [readNetwork_insert h.sets hkey, hnetwork, Except.map]
  have hotherDefines : Defines other (earlier ++ change network :: later) := by
    rw [Defines, hother]
    exact List.rel_append hfirst (.cons hchanged hlast)
  obtain ⟨hearlier, hrest⟩ := List.forall_mem_append.mp hvalid
  obtain ⟨-, hlater⟩ := List.forall_mem_cons.mp hrest
  refine ⟨earlier, network, later, rfl, hfirst.length_eq.symm, ?_, ?_⟩
  · intro hchange
    exact readNetworks_eq_ok_iff.mpr ⟨hotherDefines,
      List.forall_mem_append.mpr ⟨hearlier, List.forall_mem_cons.mpr ⟨hchange, hlater⟩⟩⟩
  · intro fault hfault
    exact readNetworks_of_invalid hotherDefines hearlier hfault

end Documents

/-! ## Texts -/

/-- The text is accepted, and this object is one of its definitions and stands for this network. -/
def Accepts (text : String) (members : List (String × Json)) (network : Network) : Prop :=
  ∃ document networks, Json.parse text = .ok document ∧ parse text = .ok networks ∧
    (Json.obj members, network) ∈ (definitions document).zip networks

theorem Accepts.read {text : String} {members : List (String × Json)} {network : Network}
    (h : Accepts text members network) : Form.network.read (.obj members) = .ok network := by
  obtain ⟨document, networks, htext, hparse, hmem⟩ := h
  rw [parse_eq_readNetworks htext] at hparse
  obtain ⟨hdefines, -⟩ := readNetworks_eq_ok_iff.mp hparse
  exact read_of_readNetwork ((List.forall₂_iff_zip.mp hdefines).2 hmem)

/-- In every accepted definition the consensus rules and the zerocoin heights are those that it
gives and, for each that it leaves out, the default. To leave out all of them, to give none and to write
out the defaults is the same for every text, accepted or not. Any rules that are given in addition
to an accepted definition are put into its network, which is then judged anew, and two accepted
definitions that tell the same of everything else define networks that differ in these rules
only. -/
theorem parse_overrides :
    (Function.Injective ConsensusRules.settings ∧ Function.Injective ZerocoinHeights.settings) ∧
    (∀ text members network, Accepts text members network →
      (members.lookup "consensus" = none → network.rules = .standard) ∧
      (∀ given, members.lookup "consensus" = some (.obj given) →
        Overrides given ConsensusRules.standard.settings network.rules.settings) ∧
      (members.lookup "zerocoin" = none → network.zerocoin = .zero) ∧
      ∀ given, members.lookup "zerocoin" = some (.obj given) →
        Overrides given ZerocoinHeights.zero.settings network.zerocoin.settings) ∧
    (∀ text document otherText otherDocument first last before after key value,
      Json.parse text = .ok document →
      definitions document = first ++ .obj (before ++ after) :: last →
      Json.parse otherText = .ok otherDocument →
      definitions otherDocument = first ++ .obj (before ++ (key, value) :: after) :: last →
      key ∉ (before ++ after).map Prod.fst →
      (TellsDefaults key value → parse otherText = parse text) ∧
      ∀ change, GivesSettings key value change → ∀ networks, parse text = .ok networks →
        ∃ earlier network later, networks = earlier ++ network :: later ∧
          earlier.length = first.length ∧
          ((change network).validate = .ok () →
            parse otherText = .ok (earlier ++ change network :: later)) ∧
          ∀ fault, (change network).validate = .error fault →
            parse otherText = .error (.network fault)) ∧
    ∀ text members network otherText others other,
      Accepts text members network → Accepts otherText others other →
      (∀ key, key ≠ "consensus" → key ≠ "zerocoin" → members.lookup key = others.lookup key) →
      other = { network with rules := other.rules, zerocoin := other.zerocoin } := by
  refine ⟨⟨ConsensusRules.settings_injective, ZerocoinHeights.settings_injective⟩, ?given,
    ?added, ?rest⟩
  case given =>
    intro text members network haccepts
    obtain ⟨hrules, hnoRules⟩ := rules_of_read haccepts.read
    obtain ⟨hzerocoin, hnoZerocoin⟩ := zerocoin_of_read haccepts.read
    refine ⟨hnoRules, ?_, hnoZerocoin, ?_⟩
    · intro given hgiven
      exact Form.readsSettings_rules.overrides _ _ (hrules _ hgiven)
    · intro given hgiven
      exact Form.readsSettings_zerocoin.overrides _ _ (hzerocoin _ hgiven)
  case added =>
    intro text document otherText otherDocument first last before after key value htext hdocument
      hotherText hother hkey
    rw [parse_eq_readNetworks htext, parse_eq_readNetworks hotherText]
    constructor
    · exact readNetworks_insert_default hdocument hother hkey
    · intro change hgives networks hread
      exact readNetworks_insert hdocument hother hkey hgives hread
  case rest =>
    intro text members network otherText others other haccepts hother hsame
    exact rest_of_read hsame haccepts.read hother.read

/-- A definition with the fields that must be there and with these rules. -/
def sparseMembers (rules : List (String × Json)) : List (String × Json) :=
  [("address_prefixes", .arr [.int 1, .int 2, .int 3, .int 4])] ++ (rules ++
    [("default_port", .str "1"),
      ("genesis_hash", .str "683e86bd5c6d110d91b94b97137ba6bfe02dbbdb8e3dff722a669b5d69d77af6"),
      ("hd_coin_type", .int 115), ("hd_key_versions", .arr [.str "0420b900", .str "0420bd3a"]),
      ("name", .str "m"), ("net", .int 1)])

def sparseText (rules : List (String × Json)) : String :=
  (Json.obj (sparseMembers rules)).compact

theorem json_sparseText {rules : List (String × Json)}
    (hfits : (Json.obj (sparseMembers rules)).Fits Json.maxDepth)
    (hsorted : (Json.obj (sparseMembers rules)).sorted = .obj (sparseMembers rules)) :
    Json.parse (sparseText rules) = .ok (.obj (sparseMembers rules)) := by
  rw [sparseText, Json.parse_compact hfits, hsorted]

theorem parse_sparseText {rules : List (String × Json)} {network : Network}
    (hjson : Json.parse (sparseText rules) = .ok (.obj (sparseMembers rules)))
    (hread : readNetwork (.obj (sparseMembers rules)) = .ok network)
    (hvalid : network.validate = .ok ()) : parse (sparseText rules) = .ok [network] := by
  rw [parse_eq_readNetworks hjson]
  exact readNetworks_eq_ok_iff.mpr ⟨.cons hread .nil, List.forall_mem_singleton.mpr hvalid⟩

/-- A limit of more bits than there are, and half the standard spacing. -/
def twoRules : List (String × Json) :=
  [("pow_limit", .int 300), ("target_spacing", .int 30)]

theorem parse_overrides_twoRules :
    ∃ network other, Accepts (sparseText [("consensus", .obj twoRules)])
        (sparseMembers [("consensus", .obj twoRules)]) network ∧
      Accepts (sparseText []) (sparseMembers []) other ∧
      Overrides twoRules ConsensusRules.standard.settings network.rules.settings ∧
      other.rules = .standard ∧
      parse (sparseText [("consensus", .obj [])]) = parse (sparseText []) ∧
      parse (sparseText [("consensus", .obj twoRules)]) =
        .ok [{ other with rules := network.rules }] ∧
      other = { network with rules := other.rules, zerocoin := other.zerocoin } := by
  obtain ⟨-, hgiven, hadded, hrest⟩ := parse_overrides
  have htwo : Json.parse (sparseText [("consensus", .obj twoRules)]) =
      .ok (.obj (sparseMembers [("consensus", .obj twoRules)])) := by
    apply json_sparseText _ rfl
    simp [sparseMembers, twoRules, Json.Fits, Json.MembersFit, Json.ItemsFit, Json.maxDepth]
  have hnone : Json.parse (sparseText []) = .ok (.obj (sparseMembers [])) := by
    apply json_sparseText _ rfl
    simp [sparseMembers, Json.Fits, Json.MembersFit, Json.ItemsFit, Json.maxDepth]
  have hempty : Json.parse (sparseText [("consensus", .obj [])]) =
      .ok (.obj (sparseMembers [("consensus", .obj [])])) := by
    apply json_sparseText _ rfl
    simp [sparseMembers, Json.Fits, Json.MembersFit, Json.ItemsFit, Json.maxDepth]
  obtain ⟨network, hread, hvalid⟩ : ∃ network,
      readNetwork (.obj (sparseMembers [("consensus", .obj twoRules)])) = .ok network ∧
        network.validate = .ok () := ⟨_, rfl, rfl⟩
  obtain ⟨other, hotherRead, hotherValid⟩ : ∃ other,
      readNetwork (.obj (sparseMembers [])) = .ok other ∧ other.validate = .ok () := ⟨_, rfl, rfl⟩
  have haccepts : Accepts (sparseText [("consensus", .obj twoRules)])
      (sparseMembers [("consensus", .obj twoRules)]) network :=
    ⟨_, _, htwo, parse_sparseText htwo hread hvalid, List.mem_singleton_self _⟩
  have hparse := parse_sparseText hnone hotherRead hotherValid
  have hother : Accepts (sparseText []) (sparseMembers []) other :=
    ⟨_, _, hnone, hparse, List.mem_singleton_self _⟩
  have hoverrides := (hgiven _ _ _ haccepts).2.1 twoRules rfl
  refine ⟨network, other, haccepts, hother, hoverrides, (hgiven _ _ _ hother).1 rfl, ?_, ?_, ?_⟩
  · exact (hadded _ _ _ _ [] [] [_] _ "consensus" (.obj []) hnone rfl hempty rfl (by decide)).1
      .noRules
  · obtain ⟨earlier, _, later, heq, hlength, hchanged, -⟩ :=
      (hadded _ _ _ _ [] [] [_] _ "consensus" (.obj twoRules) hnone rfl htwo rfl (by decide)).2 _
        (.rules (by decide) hoverrides) _ hparse
    obtain rfl := List.length_eq_zero_iff.mp hlength
    cases heq
    apply hchanged
    rw [Network.validate_withRules hotherValid, (network.validate_eq_ok_iff.mp hvalid).2.2.2.1]
    rfl
  · apply hrest _ _ _ _ _ _ haccepts hother
    intro key hrules _
    exact Json.lookup_insert_of_ne hrules (.obj twoRules) [_] _

end ChainParams.Definition
