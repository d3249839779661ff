import ChainParams.Proofs.Definition.Defaults
import ChainParams.Proofs.Definition.Parts

/-!
# Rules as settings

The consensus rules and the zerocoin heights are settings, each with a key and a default of its own.
An object that gives some of them is read as the settings that it gives together with the defaults
of all others, and as nothing else.
-/

namespace ChainParams

open Time

/-! ## Settings -/

/-- The value of one rule. -/
inductive Setting where
  | flag (value : Bool)
  | count (value : Nat)
  | limit (value : PowLimit)
  | span (value : Duration)

/-- A limit is given by its bits, of which more than 256 count as 256, and a span by whole
seconds. -/
def Setting.IsGivenBy (value : Json) : Setting → Prop
  | .flag b => value = .bool b
  | .count n => value = .int n
  | .limit l => ∃ bits : UInt16, value = .int bits.toNat ∧ l.bitLength = min bits.toNat 256
  | .span d => value = .int d.seconds.toNat ∧ d.nanos = 0

/-- Every rule with its key in a definition. -/
def ConsensusRules.settings (rules : ConsensusRules) : List (String × Setting) :=
  [("pow_allow_min_difficulty_blocks", .flag rules.allowsMinDifficulty),
    ("pow_limit", .limit rules.powLimit),
    ("pow_limit_v1", .limit rules.powLimitV1),
    ("pow_limit_v2", .limit rules.powLimitV2),
    ("budget_cycle_blocks", .count rules.budgetCycleBlocks.toNat),
    ("budget_fee_confirmations", .count rules.budgetFeeConfirmations.toNat),
    ("coinbase_maturity", .count rules.coinbaseMaturity.toNat),
    ("future_time_drift_pow", .span rules.futureDriftPow),
    ("future_time_drift_pos", .span rules.futureDriftPos),
    ("pool_max_transactions", .count rules.poolMaxTransactions.toNat),
    ("proposal_establishment_time", .span rules.proposalEstablishment),
    ("stake_min_age", .span rules.stakeMinAge),
    ("stake_min_depth", .count rules.stakeMinDepth.toNat),
    ("target_timespan", .span rules.targetTimespan),
    ("target_timespan_v2", .span rules.targetTimespanV2),
    ("target_spacing", .span rules.targetSpacing),
    ("time_slot_length", .span rules.timeSlot)]

/-- Every height with its key in a definition. -/
def ZerocoinHeights.settings (heights : ZerocoinHeights) : List (String × Setting) :=
  [("last_accumulator_checkpoint", .count heights.lastAccumulatorCheckpoint.toNat),
    ("last_wrapped_serials", .count heights.lastWrappedSerials.toNat),
    ("start_invalid_utxos_check", .count heights.startInvalidOutputsCheck.toNat),
    ("start_invalid_serials", .count heights.startInvalidSerials.toNat),
    ("start_serial_range_check", .count heights.startSerialRangeCheck.toNat),
    ("recalc_accumulators", .count heights.recalculatedAccumulators.toNat)]

theorem ConsensusRules.settings_injective : Function.Injective settings := by
  rintro ⟨⟩ ⟨⟩ h
  simpa only [settings, List.cons.injEq, Prod.mk.injEq, true_and, and_true, Setting.flag.injEq,
    Setting.limit.injEq, Setting.count.injEq, Setting.span.injEq, UInt32.toNat_inj,
    UInt16.toNat_inj, mk.injEq] using h

theorem ZerocoinHeights.settings_injective : Function.Injective settings := by
  rintro ⟨⟩ ⟨⟩ h
  simpa only [settings, List.cons.injEq, Prod.mk.injEq, true_and, and_true, Setting.count.injEq,
    UInt32.toNat_inj, mk.injEq] using h

/-- Each setting is what its member gives, or the default if there is none. -/
def Overrides (given : List (String × Json)) (defaults settings : List (String × Setting)) : Prop :=
  List.Forall₂
    (fun default setting ↦ setting.1 = default.1 ∧
      (∀ value, given.lookup setting.1 = some value → setting.2.IsGivenBy value) ∧
      (given.lookup setting.1 = none → setting.2 = default.2))
    defaults settings

namespace Definition

variable {α β : Type}

namespace Form

/-! ## Scalars -/

/-- The form reads a value as exactly the setting that the value gives. -/
structure Gives (form : Form α) (setting : α → Setting) : Prop where
  injective : Function.Injective setting
  read_eq_ok_iff : ∀ value a, form.read value = .ok a ↔ (setting a).IsGivenBy value

theorem int_of_read {expected : String} {low high n : Int} {value : Json}
    (h : (int expected low high).read value = .ok n) : value = .int n ∧ low ≤ n ∧ n ≤ high := by
  cases value with
  | int m =>
    change (if low ≤ m ∧ m ≤ high then _ else _) = _ at h
    split_ifs at h with hrange
    cases h
    exact ⟨rfl, hrange⟩
  | _ => cases h

theorem gives_bool : bool.Gives .flag where
  injective _ _ h := Setting.flag.inj h
  read_eq_ok_iff value b := by
    constructor
    · intro h
      cases value with
      | bool b =>
        cases h
        rfl
      | _ => cases h
    · rintro rfl
      rfl

/-- The numbers of a type are read as they are. -/
theorem gives_count {expected : String} {high : Int} {ofNat : Nat → α} {toNat : α → Nat}
    (hle : ∀ a, toNat a ≤ high) (hofNat : ∀ a, ofNat (toNat a) = a)
    (htoNat : ∀ n : Nat, n ≤ high → toNat (ofNat n) = n) :
    ((int expected 0 high).iso (fun m ↦ ofNat m.toNat) fun a ↦ toNat a).Gives
      fun a ↦ .count (toNat a) where
  injective _ _ h := Function.LeftInverse.injective hofNat (Setting.count.inj h)
  read_eq_ok_iff value a := by
    constructor
    · intro h
      obtain ⟨m, hm, rfl⟩ := map_eq_ok_iff.mp h
      obtain ⟨rfl, hlow, hhigh⟩ := int_of_read hm
      obtain ⟨n, rfl⟩ := Int.eq_ofNat_of_zero_le hlow
      exact congrArg (fun n : Nat ↦ Json.int n) (htoNat n hhigh).symm
    · rintro rfl
      have hread : (int expected 0 high).read (.int (toNat a)) = .ok (toNat a : Int) :=
        if_pos ⟨Int.natCast_nonneg _, hle a⟩
      exact map_eq_ok_iff.mpr ⟨_, hread, hofNat a⟩

theorem gives_u16 : u16.Gives fun n ↦ .count n.toNat := by
  apply gives_count
  · intro n
    have hn := n.toNat_lt
    omega
  · exact fun n ↦ UInt16.ofNat_toNat
  · intro n hn
    rw [UInt16.toNat_ofNat']
    omega

theorem gives_u32 : u32.Gives fun n ↦ .count n.toNat := by
  apply gives_count
  · intro n
    have hn := n.toNat_lt
    omega
  · exact fun n ↦ UInt32.ofNat_toNat
  · intro n hn
    rw [UInt32.toNat_ofNat']
    omega

theorem gives_u64 : u64.Gives fun n ↦ .count n.toNat := by
  apply gives_count
  · intro n
    have hn := n.toNat_lt
    omega
  · exact fun n ↦ UInt64.ofNat_toNat
  · intro n hn
    rw [UInt64.toNat_ofNat']
    omega

theorem gives_powLimit : powLimit.Gives .limit where
  injective _ _ h := Setting.limit.inj h
  read_eq_ok_iff value limit := by
    rw [powLimit, iso, map_eq_ok_iff]
    simp only [gives_u16.read_eq_ok_iff]
    constructor
    · rintro ⟨bits, hbits, rfl⟩
      exact ⟨bits, hbits, rfl⟩
    · rintro ⟨bits, hbits, hlimit⟩
      refine ⟨bits, hbits, ?_⟩
      cases limit
      cases hlimit
      rfl

theorem gives_duration : duration.Gives .span where
  injective _ _ h := Setting.span.inj h
  read_eq_ok_iff value span := by
    rw [duration, iso, map_eq_ok_iff]
    simp only [gives_u64.read_eq_ok_iff]
    constructor
    · rintro ⟨seconds, hseconds, rfl⟩
      exact ⟨hseconds, rfl⟩
    · rintro ⟨hseconds, hnanos⟩
      exact ⟨span.seconds, hseconds, Duration.ofSeconds_of_isWhole hnanos⟩

end Form

/-! ## Records of settings -/

namespace Fields

/-- All fields have defaults and are settings. -/
inductive AreSettings : {α : Type} → Fields α → α → (α → List (String × Setting)) → Prop
  | nil : AreSettings .nil () fun _ ↦ []
  | cons {α β : Type} {key : String} {form : Form α} {default : α} {setting : α → Setting}
      {rest : Fields β} {defaults : β} {settings : β → List (String × Setting)}
      (hform : form.Gives setting) (hrest : rest.AreSettings defaults settings) :
      AreSettings (.cons (.default key form default) rest) (default, defaults)
        fun values ↦ (key, setting values.1) :: settings values.2

theorem AreSettings.overrides_iff {fields : Fields α} {defaults as : α}
    {settings : α → List (String × Setting)} (h : fields.AreSettings defaults settings)
    {given : List (String × Json)} :
    Overrides given (settings defaults) (settings as) ↔ fields.ofMembers given = .ok as := by
  unfold Overrides
  induction h with
  | nil => exact iff_of_true .nil rfl
  | cons hform _ ih =>
    rw [List.forall₂_cons, ih, ofMembers_cons_eq_ok_iff, Field.ofMembers_default_eq_ok_iff]
    simp only [hform.read_eq_ok_iff, hform.injective.eq_iff, true_and]

end Fields

namespace Form

/-- The form reads an object as exactly what overrides the defaults with its members. -/
structure ReadsSettings (form : Form β) (default : β) (settings : β → List (String × Setting)) :
    Prop where
  overrides : ∀ given b, form.read (.obj given) = .ok b →
    Overrides given (settings default) (settings b)
  read_of_overrides : ∀ given b, (given.map Prod.fst).Nodup →
    Overrides given (settings default) (settings b) → form.read (.obj given) = .ok b

theorem readsSettings_record {name : String} {fields : Fields α} {decode : α → β} {encode : β → α}
    {default : β} {defaults : α} {settings : β → List (String × Setting)}
    {fieldSettings : α → List (String × Setting)} (h : fields.AreSettings defaults fieldSettings)
    (hdefault : encode default = defaults) (hdecode : ∀ b, decode (encode b) = b)
    (hencode : ∀ as, encode (decode as) = as)
    (hsettings : ∀ b, fieldSettings (encode b) = settings b) :
    (record name fields decode encode).ReadsSettings default settings where
  overrides given b hread := by
    obtain ⟨as, hfields, rfl⟩ := map_eq_ok_iff.mp hread
    rw [← hsettings, ← hsettings, hdefault, hencode, h.overrides_iff]
    exact Fields.ofMembers_of_readObject hfields
  read_of_overrides given b hkeys hoverrides := by
    rw [← hsettings, ← hsettings, hdefault, h.overrides_iff] at hoverrides
    have hfields := (Fields.readObject_eq_ok_iff hkeys).mpr hoverrides
    exact map_eq_ok_iff.mpr ⟨encode b, hfields, hdecode b⟩

theorem readsSettings_rules : rules.ReadsSettings .standard ConsensusRules.settings :=
  readsSettings_record
    (.cons gives_bool <| .cons gives_powLimit <| .cons gives_powLimit <| .cons gives_powLimit <|
      .cons gives_u32 <| .cons gives_u32 <| .cons gives_u16 <| .cons gives_duration <|
      .cons gives_duration <| .cons gives_u32 <| .cons gives_duration <| .cons gives_duration <|
      .cons gives_u32 <| .cons gives_duration <| .cons gives_duration <| .cons gives_duration <|
      .cons gives_duration <| .nil)
    rfl (fun _ ↦ rfl) (fun _ ↦ rfl) (fun _ ↦ rfl)

theorem readsSettings_zerocoin : zerocoin.ReadsSettings .zero ZerocoinHeights.settings :=
  readsSettings_record
    (.cons gives_u32 <| .cons gives_u32 <| .cons gives_u32 <| .cons gives_u32 <| .cons gives_u32 <|
      .cons gives_u32 <| .nil)
    rfl (fun _ ↦ rfl) (fun _ ↦ rfl) (fun _ ↦ rfl)

end Form

end Definition

end ChainParams
