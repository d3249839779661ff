import ChainParams.PowLimit
import ChainParams.Time.Duration

/-!
# Consensus rules

The timing and economic rules of a chain. The rules of the test networks serve as defaults.
-/

namespace ChainParams

open Time

structure ConsensusRules where
  /-- Whether a block of least difficulty is allowed when the chain stalls. -/
  allowsMinDifficulty : Bool := true
  powLimit : PowLimit := .ofBitLength 20
  /-- The limit before the second retarget rule. -/
  powLimitV1 : PowLimit := .ofBitLength 24
  /-- The limit from the second retarget rule on. -/
  powLimitV2 : PowLimit := .ofBitLength 20
  budgetCycleBlocks : UInt32 := 144
  /-- The confirmations that the fee of a budget proposal needs. -/
  budgetFeeConfirmations : UInt32 := 3
  /-- The blocks after which a coinbase may be spent. -/
  coinbaseMaturity : UInt16 := 15
  /-- How far ahead of now a proof-of-work block may be. -/
  futureDriftPow : Duration := .ofSeconds 7200
  /-- How far ahead of now a proof-of-stake block may be. -/
  futureDriftPos : Duration := .ofSeconds 180
  /-- The most transactions in a mixing pool. -/
  poolMaxTransactions : UInt32 := 2
  /-- The age from which a proposal can be voted on. -/
  proposalEstablishment : Duration := .ofSeconds 300
  stakeMinAge : Duration := .ofSeconds 3600
  /-- The confirmations that a stake needs. -/
  stakeMinDepth : UInt32 := 100
  targetTimespan : Duration := .ofSeconds 2400
  /-- The retarget timespan from the second proof-of-stake rules on. -/
  targetTimespanV2 : Duration := .ofSeconds 1800
  targetSpacing : Duration := .ofSeconds 60
  /-- The slots on whose bounds proof-of-stake blocks fall. -/
  timeSlot : Duration := .ofSeconds 15
  deriving DecidableEq

namespace ConsensusRules

/-- The rules of the test networks. -/
def standard : ConsensusRules := {}

/-- Why no chain can run by the rules. -/
inductive Fault where
  | noSpacing
  | noBudgetCycle
  deriving DecidableEq, Repr

def Fault.message : Fault → String
  | .noSpacing => "Invalid network: target spacing must be non-zero"
  | .noBudgetCycle => "Invalid network: budget cycle must be non-zero"

def validate (rules : ConsensusRules) : Except Fault Unit :=
  if rules.targetSpacing.isZero then .error .noSpacing
  else if rules.budgetCycleBlocks = 0 then .error .noBudgetCycle
  else .ok ()

/-- How far ahead of now a block may be. -/
def futureDrift (rules : ConsensusRules) (proofOfStake : Bool) : Duration :=
  if proofOfStake then rules.futureDriftPos else rules.futureDriftPow

/-- The blocks between two retargets, by whole seconds; a spacing below one second counts as one. -/
def retargetInterval (rules : ConsensusRules) : Nat :=
  rules.targetTimespan.seconds.toNat / max 1 rules.targetSpacing.seconds.toNat

end ConsensusRules

end ChainParams
