import ChainParams.Definition.Record
import ChainParams.Network

/-!
# Forms of the parts of a network

The records that the definition of a network is made of. The keys are those of the definition
format.
-/

namespace ChainParams.Definition.Form

/-! ## Peers and addresses -/

def dnsSeed : Form DnsSeed :=
  record "DnsSeed"
    (.cons (.required "host" string) <|
     .cons (.default "has_filtering" bool false) <|
     .nil)
    (fun (host, filters, ()) ↦ ⟨host, filters⟩)
    (fun seed ↦ (seed.host, seed.filters, ()))

def addressPrefixes : Form AddressPrefixes :=
  record "AddressPrefixes"
    (.cons (.required "pubkey_hash" u8) <|
     .cons (.required "script_hash" u8) <|
     .cons (.required "staking_key" u8) <|
     .cons (.required "secret_key" u8) <|
     .nil)
    (fun (pubkeyHash, scriptHash, stakingKey, secretKey, ()) ↦
      ⟨pubkeyHash, scriptHash, stakingKey, secretKey⟩)
    (fun prefixes ↦
      (prefixes.pubkeyHash, prefixes.scriptHash, prefixes.stakingKey, prefixes.secretKey, ()))

def keyVersions : Form KeyVersions :=
  record "HdKeyVersions"
    (.cons (.required "private" keyVersion) <|
     .cons (.required "public" keyVersion) <|
     .nil)
    (fun (privateVersion, publicVersion, ()) ↦ ⟨privateVersion, publicVersion⟩)
    (fun versions ↦ (versions.privateVersion, versions.publicVersion, ()))

/-! ## Blocks -/

def genesisHeader : Form GenesisHeader :=
  record "GenesisHeader"
    (.cons (.required "version" i32) <|
     .cons (.default "prev_blockhash" hash .zero) <|
     .cons (.required "merkle_root" hash) <|
     .cons (.required "time" u32) <|
     .cons (.required "bits" u32) <|
     .cons (.required "nonce" u32) <|
     .nil)
    (fun (version, previous, merkleRoot, time, bits, nonce, ()) ↦
      ⟨version, previous, merkleRoot, time, bits, nonce⟩)
    (fun header ↦ (header.version, header.previous, header.merkleRoot, header.time, header.bits,
      header.nonce, ()))

def badBlock : Form BadBlock :=
  record "BadBlockBypass"
    (.cons (.required "time" u32) <|
     .cons (.required "bits" u32) <|
     .nil)
    (fun (time, bits, ()) ↦ ⟨time, bits⟩)
    (fun block ↦ (block.time, block.bits, ()))

def checkpoint : Form Checkpoint :=
  record "Checkpoint"
    (.cons (.required "height" u32) <|
     .cons (.required "hash" hash) <|
     .nil)
    (fun (height, hash, ()) ↦ ⟨height, hash⟩)
    (fun checkpoint ↦ (checkpoint.height, checkpoint.hash, ()))

/-- All checkpoints are read before their order is judged. -/
def checkpoints : Form Checkpoints :=
  checkpoint.list.refine (fun entries ↦ (Checkpoints.ofList entries).mapError .badCheckpoints)
    Checkpoints.toList

/-! ## Rules -/

def rules : Form ConsensusRules :=
  let standard := ConsensusRules.standard
  record "ConsensusParams"
    (.cons (.default "pow_allow_min_difficulty_blocks" bool standard.allowsMinDifficulty) <|
     .cons (.default "pow_limit" powLimit standard.powLimit) <|
     .cons (.default "pow_limit_v1" powLimit standard.powLimitV1) <|
     .cons (.default "pow_limit_v2" powLimit standard.powLimitV2) <|
     .cons (.default "budget_cycle_blocks" u32 standard.budgetCycleBlocks) <|
     .cons (.default "budget_fee_confirmations" u32 standard.budgetFeeConfirmations) <|
     .cons (.default "coinbase_maturity" u16 standard.coinbaseMaturity) <|
     .cons (.default "future_time_drift_pow" duration standard.futureDriftPow) <|
     .cons (.default "future_time_drift_pos" duration standard.futureDriftPos) <|
     .cons (.default "pool_max_transactions" u32 standard.poolMaxTransactions) <|
     .cons (.default "proposal_establishment_time" duration standard.proposalEstablishment) <|
     .cons (.default "stake_min_age" duration standard.stakeMinAge) <|
     .cons (.default "stake_min_depth" u32 standard.stakeMinDepth) <|
     .cons (.default "target_timespan" duration standard.targetTimespan) <|
     .cons (.default "target_timespan_v2" duration standard.targetTimespanV2) <|
     .cons (.default "target_spacing" duration standard.targetSpacing) <|
     .cons (.default "time_slot_length" duration standard.timeSlot) <|
     .nil)
    (fun (allowsMinDifficulty, powLimit, powLimitV1, powLimitV2, budgetCycleBlocks,
        budgetFeeConfirmations, coinbaseMaturity, futureDriftPow, futureDriftPos,
        poolMaxTransactions, proposalEstablishment, stakeMinAge, stakeMinDepth, targetTimespan,
        targetTimespanV2, targetSpacing, timeSlot, ()) ↦
      { allowsMinDifficulty, powLimit, powLimitV1, powLimitV2, budgetCycleBlocks,
        budgetFeeConfirmations, coinbaseMaturity, futureDriftPow, futureDriftPos,
        poolMaxTransactions, proposalEstablishment, stakeMinAge, stakeMinDepth, targetTimespan,
        targetTimespanV2, targetSpacing, timeSlot })
    (fun rules ↦ (rules.allowsMinDifficulty, rules.powLimit, rules.powLimitV1, rules.powLimitV2,
      rules.budgetCycleBlocks, rules.budgetFeeConfirmations, rules.coinbaseMaturity,
      rules.futureDriftPow, rules.futureDriftPos, rules.poolMaxTransactions,
      rules.proposalEstablishment, rules.stakeMinAge, rules.stakeMinDepth, rules.targetTimespan,
      rules.targetTimespanV2, rules.targetSpacing, rules.timeSlot, ()))

def sporkKeys : Form SporkKeys :=
  record "SporkKeys"
    (.cons (.required "public_key" bytes) <|
     .cons (.required "old_public_key" bytes) <|
     .cons (.required "enforce_new_key_time" instant) <|
     .cons (.required "reject_old_key_time" instant) <|
     .nil)
    (fun (publicKey, oldPublicKey, enforceNewKey, rejectOldKey, ()) ↦
      ⟨publicKey, oldPublicKey, enforceNewKey, rejectOldKey⟩)
    (fun keys ↦ (keys.publicKey, keys.oldPublicKey, keys.enforceNewKey, keys.rejectOldKey, ()))

def zerocoin : Form ZerocoinHeights :=
  let zero := ZerocoinHeights.zero
  record "ZerocoinHeights"
    (.cons (.default "last_accumulator_checkpoint" u32 zero.lastAccumulatorCheckpoint) <|
     .cons (.default "last_wrapped_serials" u32 zero.lastWrappedSerials) <|
     .cons (.default "start_invalid_utxos_check" u32 zero.startInvalidOutputsCheck) <|
     .cons (.default "start_invalid_serials" u32 zero.startInvalidSerials) <|
     .cons (.default "start_serial_range_check" u32 zero.startSerialRangeCheck) <|
     .cons (.default "recalc_accumulators" u32 zero.recalculatedAccumulators) <|
     .nil)
    (fun (lastAccumulatorCheckpoint, lastWrappedSerials, startInvalidOutputsCheck,
        startInvalidSerials, startSerialRangeCheck, recalculatedAccumulators, ()) ↦
      { lastAccumulatorCheckpoint, lastWrappedSerials, startInvalidOutputsCheck,
        startInvalidSerials, startSerialRangeCheck, recalculatedAccumulators })
    (fun heights ↦ (heights.lastAccumulatorCheckpoint, heights.lastWrappedSerials,
      heights.startInvalidOutputsCheck, heights.startInvalidSerials,
      heights.startSerialRangeCheck, heights.recalculatedAccumulators, ()))

/-! ## Upgrades -/

/-- Whether anybody can vote in the window is not judged. -/
def voteWindow : Form VoteWindow :=
  record "VoteWindow"
    (.cons (.required "bit" u8) <|
     .cons (.required "start_time" instant) <|
     .cons (.required "timeout" instant) <|
     .nil)
    (fun (bit, start, timeout, ()) ↦ ⟨bit, start, timeout⟩)
    (fun window ↦ (window.bit, window.start, window.timeout, ()))

def activation : Form Activation :=
  record "ConsensusDeployment"
    (.cons (.nullable "activation_height" u32) <|
     .cons (.optional "activation_block" hash) <|
     .cons (.optional "vote" voteWindow) <|
     .nil)
    (fun (height, block, vote, ()) ↦ ⟨height, block, vote⟩)
    (fun rule ↦ (rule.height, rule.block, rule.vote, ()))

/-- One member of the table of upgrades. -/
def readRule (member : String × Json) : Except Fault (Upgrade × Activation) :=
  match Upgrade.ofName? member.1 with
  | none => .error (.unknownVariant member.1 (Upgrade.all.map Upgrade.name))
  | some upgrade => do
    let rule ← activation.read member.2
    return (upgrade, rule)

/-- A table with the names of upgrades as keys. All upgrades are written; one that is not in the
table is never enforced. -/
def schedule : Form Schedule where
  read
    | .obj members => (members.mapM readRule).map Schedule.ofList
    | value => .error (.wrongType value "a map")
  write schedule :=
    .obj (schedule.toList.map fun rule ↦ (rule.1.name, activation.write rule.2))

end ChainParams.Definition.Form
