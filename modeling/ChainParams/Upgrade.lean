/-!
# Upgrades

The named changes of a chain's rules, in the order in which they activate. Definitions and messages
call an upgrade by its name.
-/

namespace ChainParams

inductive Upgrade where
  /-- A trial of signalling by version bits. -/
  | testDummyDeployment
  /-- The rules of the genesis block. -/
  | baseNetwork
  /-- A trial of activation at a height. -/
  | testDummy
  /-- Proof of stake. -/
  | pos
  | posV2
  /-- Zerocoin. -/
  | zc
  | zcV2
  /-- Outputs that are locked until a time. -/
  | bip65
  /-- Public spends of zerocoin. -/
  | zcPublic
  | v34
  | v40
  /-- The place of the next upgrade. -/
  | v50Dummy
  deriving DecidableEq, Repr

namespace Upgrade

/-- Every upgrade, in order of activation. -/
def all : List Upgrade :=
  [testDummyDeployment, baseNetwork, testDummy, pos, posV2, zc, zcV2, bip65, zcPublic, v34, v40,
    v50Dummy]

def name : Upgrade → String
  | testDummyDeployment => "test_dummy_deployment"
  | baseNetwork => "base_network"
  | testDummy => "test_dummy"
  | pos => "pos"
  | posV2 => "pos_v2"
  | zc => "zc"
  | zcV2 => "zc_v2"
  | bip65 => "bip65"
  | zcPublic => "zc_public"
  | v34 => "v3_4"
  | v40 => "v4_0"
  | v50Dummy => "v5_0_dummy"

/-- The place in the order of activation. -/
def index : Upgrade → Nat
  | testDummyDeployment => 0
  | baseNetwork => 1
  | testDummy => 2
  | pos => 3
  | posV2 => 4
  | zc => 5
  | zcV2 => 6
  | bip65 => 7
  | zcPublic => 8
  | v34 => 9
  | v40 => 10
  | v50Dummy => 11

/-- The name in the style of a type's constructor. -/
def labelled : Upgrade → String
  | testDummyDeployment => "TestDummyDeployment"
  | baseNetwork => "BaseNetwork"
  | testDummy => "TestDummy"
  | pos => "Pos"
  | posV2 => "PosV2"
  | zc => "Zc"
  | zcV2 => "ZcV2"
  | bip65 => "Bip65"
  | zcPublic => "ZcPublic"
  | v34 => "V3_4"
  | v40 => "V4_0"
  | v50Dummy => "V5_0Dummy"

/-- The upgrade of a name. -/
def ofName? (name : String) : Option Upgrade :=
  all.find? fun upgrade ↦ upgrade.name = name

theorem mem_all (upgrade : Upgrade) : upgrade ∈ all := by
  cases upgrade <;> decide

theorem all_getElem?_index (upgrade : Upgrade) : all[upgrade.index]? = some upgrade := by
  cases upgrade <;> rfl

end Upgrade

end ChainParams
