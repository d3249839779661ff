import ChainParams.Proofs.Definition.Document
import ChainParams.Proofs.Definition.KeyVersions
import ChainParams.Proofs.Definition.Shape
import ChainParams.Proofs.Json.Written

/-!
# The spelling of a document

What a document defines, or what it is refused for, does not depend on the order in which members are
written, nor on members that are no fields. That is so for every part of a network, for the check of
key versions and so for the networks of a whole text.
-/

namespace ChainParams.Definition

open Json (Shape)

/-! ## Shapes of the parts of a network -/

namespace Shapes

/-- A record of values of which all members count. -/
def flat (keys : List String) : Shape :=
  .record (keys.map fun key ↦ (key, .plain))

def dnsSeed : Shape :=
  flat ["host", "has_filtering"]

def genesisHeader : Shape :=
  flat ["version", "prev_blockhash", "merkle_root", "time", "bits", "nonce"]

def rules : Shape :=
  flat ["pow_allow_min_difficulty_blocks", "pow_limit", "pow_limit_v1", "pow_limit_v2",
    "budget_cycle_blocks", "budget_fee_confirmations", "coinbase_maturity",
    "future_time_drift_pow", "future_time_drift_pos", "pool_max_transactions",
    "proposal_establishment_time", "stake_min_age", "stake_min_depth", "target_timespan",
    "target_timespan_v2", "target_spacing", "time_slot_length"]

def sporkKeys : Shape :=
  flat ["public_key", "old_public_key", "enforce_new_key_time", "reject_old_key_time"]

def zerocoin : Shape :=
  flat ["last_accumulator_checkpoint", "last_wrapped_serials", "start_invalid_utxos_check",
    "start_invalid_serials", "start_serial_range_check", "recalc_accumulators"]

def badBlock : Shape :=
  flat ["time", "bits"]

def checkpoint : Shape :=
  flat ["height", "hash"]

def voteWindow : Shape :=
  flat ["bit", "start_time", "timeout"]

def activation : Shape :=
  .record [("activation_height", .plain), ("activation_block", .plain), ("vote", voteWindow)]

def addressPrefixes : Shape :=
  flat ["pubkey_hash", "script_hash", "staking_key", "secret_key"]

def keyVersions : Shape :=
  flat ["private", "public"]

/-- The rules of the upgrades stand in a table, in which no member is passed over. -/
def network : Shape :=
  .record [("name", .plain), ("net", .plain), ("default_port", .plain),
    ("dns_seeds", .list dnsSeed), ("genesis_hash", .plain), ("genesis_block", genesisHeader),
    ("consensus", rules), ("spork_keys", sporkKeys), ("zerocoin", zerocoin),
    ("bad_block", badBlock), ("checkpoints", .list checkpoint),
    ("deployments", .table activation), ("address_prefixes", addressPrefixes),
    ("hd_key_versions", keyVersions), ("hd_coin_type", .plain)]

def document : Shape :=
  .document network

end Shapes

namespace Form

theorem hasShape_flat {α β : Type} {name : String} {fields : Fields α} {decode : α → β}
    {encode : β → α} (hkeys : fields.keys.Nodup) :
    (record name fields decode encode).HasShape (Shapes.flat fields.keys) :=
  hasShape_record fields.haveShapes_plain hkeys

theorem hasShape_activation : activation.HasShape Shapes.activation :=
  hasShape_record
    (.cons (hasShape_plain _) <|
     .cons (hasShape_plain _) <|
     .cons (HasShape.nullable (hasShape_flat (by decide))) <|
     .nil)
    (by decide)

theorem mapM_readRule_prune (members : List (String × Json)) :
    ((Shape.table Shapes.activation).pruneMembers members).mapM readRule =
      members.mapM readRule := by
  induction members with
  | nil => rfl
  | cons member rest ih =>
    obtain ⟨key, value⟩ := member
    have hrule : readRule (key, Shapes.activation.prune value) = readRule (key, value) := by
      simp only [readRule, hasShape_activation value]
    rw [Shape.pruneMembers, Shape.member?]
    simp only [List.mapM_cons, hrule, ih]

theorem hasShape_schedule : schedule.HasShape (.table Shapes.activation) := by
  intro value
  cases value with
  | obj members => exact congrArg (Except.map Schedule.ofList) (mapM_readRule_prune members)
  | arr items =>
    have hplain : (Shape.table Shapes.activation).prune (.arr items) = .arr items :=
      congrArg Json.arr (Shape.pruneItems_eq_self (fun _ ↦ rfl) 0 items)
    rw [hplain]
  | _ => rfl

theorem hasShape_network : network.HasShape Shapes.network :=
  hasShape_record
    (.cons (hasShape_plain _) <|
     .cons (hasShape_plain _) <|
     .cons (hasShape_plain _) <|
     .cons (HasShape.list (hasShape_flat (by decide))) <|
     .cons (hasShape_plain _) <|
     .cons (HasShape.nullable (hasShape_flat (by decide))) <|
     .cons (hasShape_flat (by decide)) <|
     .cons (HasShape.nullable (hasShape_flat (by decide))) <|
     .cons (hasShape_flat (by decide)) <|
     .cons (HasShape.nullable (hasShape_flat (by decide))) <|
     .cons (HasShape.refine (HasShape.list (hasShape_flat (by decide))) _ _) <|
     .cons hasShape_schedule <|
     .cons (hasShape_flat (by decide)) <|
     .cons (hasShape_flat (by decide)) <|
     .cons (hasShape_plain _) <|
     .nil)
    (by decide)

end Form

/-! ## Documents -/

theorem get?_prune {key : String} {part : Shape} {shape : Shape}
    (hkey : shape.member? key = some part) (value : Json) :
    (shape.prune value).get? key = (value.get? key).map part.prune := by
  cases value with
  | obj members =>
    rw [Shape.prune, Json.get?, Json.get?, Shape.pruneMembers_eq_filterMap,
      Json.lookup_filterMap_select, Shape.pruning_of_some hkey]
    cases members.lookup key <;> rfl
  | _ => rfl

theorem checkKeyVersion_prune {key : String} (hkey : Shapes.keyVersions.member? key = some .plain)
    (versions : Json) :
    checkKeyVersion (Shapes.keyVersions.prune versions) key = checkKeyVersion versions key := by
  rw [checkKeyVersion, checkKeyVersion, get?_prune hkey]
  cases versions.get? key with
  | none => rfl
  | some value => rw [Option.map_some, Shape.prune_plain]

theorem checkKeyVersions_prune (value : Json) :
    checkKeyVersions (Shapes.network.prune value) = checkKeyVersions value := by
  have hversions : Shapes.network.member? "hd_key_versions" = some Shapes.keyVersions := rfl
  have hprivate : Shapes.keyVersions.member? "private" = some .plain := rfl
  have hpublic : Shapes.keyVersions.member? "public" = some .plain := rfl
  rw [checkKeyVersions, checkKeyVersions, get?_prune hversions]
  cases value.get? "hd_key_versions" with
  | none => rfl
  | some versions =>
    simp only [Option.map_some, checkKeyVersion_prune hprivate, checkKeyVersion_prune hpublic]

theorem readNetwork_prune (value : Json) :
    readNetwork (Shapes.network.prune value) = readNetwork value := by
  rw [readNetwork, readNetwork, checkKeyVersions_prune, Form.hasShape_network]

theorem readNetworks_prune (value : Json) :
    readNetworks (Shapes.document.prune value) = readNetworks value := by
  have hread : (definitions (Shapes.document.prune value)).mapM readNetwork =
      (definitions value).mapM readNetwork := by
    cases value with
    | arr items => exact Shape.mapM_pruneItems (fun _ ↦ readNetwork_prune) 0 items
    | obj members =>
      -- A document without brackets is a definition of its own.
      have hone : Shapes.document.prune (.obj members) = Shapes.network.prune (.obj members) := by
        rw [Shape.prune, Shape.prune, Shape.pruneMembers_eq_filterMap,
          Shape.pruneMembers_eq_filterMap]
        rfl
      change [Shapes.document.prune (.obj members)].mapM readNetwork =
        [Json.obj members].mapM readNetwork
      rw [hone, List.mapM_cons, readNetwork_prune, List.mapM_cons]
    | _ => rfl
  rw [readNetworks, readNetworks, hread]

/-- Texts that spell the same but for the order of members with distinct keys, and but for members
that are no fields of the record they stand in, define the same networks or have the same error. -/
theorem parse_eq_of_spelledAlike {text other : String} {value otherValue : Json}
    (htext : Json.parseWritten text = .ok value) (hother : Json.parseWritten other = .ok otherValue)
    (h : Json.SpelledAlike Shapes.document value otherValue) : parse text = parse other := by
  have hvalue : Json.parse text = .ok value.sorted := by
    rw [Json.parse_eq_sorted, htext, Except.map]
  have hotherValue : Json.parse other = .ok otherValue.sorted := by
    rw [Json.parse_eq_sorted, hother, Except.map]
  calc
    parse text = readNetworks value.sorted := parse_eq_readNetworks hvalue
    _ = readNetworks (Shapes.document.prune value.sorted) := (readNetworks_prune _).symm
    _ = readNetworks (Shapes.document.prune otherValue.sorted) := by rw [h.prune_sorted]
    _ = readNetworks otherValue.sorted := readNetworks_prune _
    _ = parse other := (parse_eq_readNetworks hotherValue).symm

/-- Key versions neither of which is a text. -/
def faultyPair : List (String × Json) :=
  [("private", .bool true), ("public", .int 1)]

/-- A definition with two faults, of which the one written first is not the one reported. -/
def twoFaults : Json :=
  .obj [("hd_key_versions", .obj faultyPair.reverse), ("hd_coin_type", .int 0)]

/-- The same definition in another order and with notes. -/
def twoFaultsNoted : Json :=
  .obj [("note", .arr []), ("hd_coin_type", .int 0),
    ("hd_key_versions", .obj (faultyPair ++ [("note", .null)]))]

theorem spelledAlike_twoFaults : Json.SpelledAlike Shapes.document twoFaults twoFaultsNoted := by
  have hpair : Json.Respelling Shapes.keyVersions (.obj faultyPair.reverse) (.obj faultyPair) :=
    .reorder faultyPair.reverse_perm (by decide)
  have hpairNoted : Json.Respelling Shapes.keyVersions
      (.obj (faultyPair ++ ("note", .null) :: [])) (.obj faultyPair) :=
    .drop rfl
  have hmember : Json.Respelling Shapes.document
      (.obj ([] ++ ("hd_key_versions", .obj faultyPair.reverse) :: [("hd_coin_type", .int 0)]))
      (.obj [("hd_key_versions", .obj faultyPair), ("hd_coin_type", .int 0)]) :=
    .member rfl hpair
  have hswap : Json.Respelling Shapes.document
      (.obj [("hd_key_versions", .obj faultyPair), ("hd_coin_type", .int 0)])
      (.obj [("hd_coin_type", .int 0), ("hd_key_versions", .obj faultyPair)]) :=
    .reorder (.swap _ _ _) (by decide)
  have hnote : Json.Respelling Shapes.document
      (.obj ([] ++ ("note", .arr []) :: [("hd_coin_type", .int 0),
        ("hd_key_versions", .obj (faultyPair ++ [("note", .null)]))]))
      (.obj [("hd_coin_type", .int 0),
        ("hd_key_versions", .obj (faultyPair ++ [("note", .null)]))]) :=
    .drop rfl
  have hmemberNoted : Json.Respelling Shapes.document
      (.obj ([("hd_coin_type", .int 0)] ++
        ("hd_key_versions", .obj (faultyPair ++ [("note", .null)])) :: []))
      (.obj [("hd_coin_type", .int 0), ("hd_key_versions", .obj faultyPair)]) :=
    .member rfl hpairNoted
  have hplain := (Relation.EqvGen.rel _ _ hmember).trans _ _ _ (.rel _ _ hswap)
  have hnoted := (Relation.EqvGen.rel _ _ hnote).trans _ _ _ (.rel _ _ hmemberNoted)
  exact hplain.trans _ _ _ hnoted.symm

/-- Either way it is the private key version that the text is refused for. -/
theorem parse_eq_of_spelledAlike_twoFaults :
    parse twoFaults.compact = parse twoFaultsNoted.compact ∧
      parse twoFaults.compact = .error (.definition (.wrongType (.bool true) "a string")) :=
  ⟨parse_eq_of_spelledAlike rfl rfl spelledAlike_twoFaults, rfl⟩

end ChainParams.Definition
