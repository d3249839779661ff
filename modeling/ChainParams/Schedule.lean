import ChainParams.BlockHash
import ChainParams.Upgrade
import ChainParams.VoteWindow

/-!
# Schedules of upgrades

When each upgrade is enforced: from a height on, or never. A rule may also tell the block at that
height and the window in which miners vote for the upgrade.
-/

namespace ChainParams

/-- The rule of one upgrade. -/
structure Activation where
  /-- The height from which the upgrade is enforced. -/
  height : Option UInt32
  /-- The hash of the block at that height, where it is known. -/
  block : Option BlockHash
  vote : Option VoteWindow
  deriving DecidableEq

namespace Activation

def never : Activation := ⟨none, none, none⟩

def atHeight (height : UInt32) : Activation := ⟨some height, none, none⟩

def withBlock (rule : Activation) (block : BlockHash) : Activation :=
  { rule with block := some block }

def withVote (rule : Activation) (vote : VoteWindow) : Activation :=
  { rule with vote := some vote }

def isActiveAt (rule : Activation) (height : UInt32) : Bool :=
  match rule.height with
  | some activation => activation ≤ height
  | none => false

def isActivationHeight (rule : Activation) (height : UInt32) : Bool :=
  rule.height = some height

end Activation

/-- A rule for every upgrade. -/
structure Schedule where
  get : Upgrade → Activation

namespace Schedule

/-- A window that nobody can vote in, and whose it is. -/
structure Fault where
  upgrade : Upgrade
  cause : VoteWindow.Fault
  deriving DecidableEq

def Fault.message (fault : Fault) : String :=
  s!"Invalid network: {fault.upgrade.name}: {fault.cause.message}"

/-- No upgrade is ever enforced. -/
def never : Schedule := ⟨fun _ ↦ .never⟩

/-- Replaces the rule of one upgrade. -/
def set (schedule : Schedule) (upgrade : Upgrade) (rule : Activation) : Schedule :=
  ⟨fun other ↦ if other = upgrade then rule else schedule.get other⟩

/-- The given rules, the last one for each upgrade, and `never` elsewhere. -/
def ofList (rules : List (Upgrade × Activation)) : Schedule :=
  rules.foldl (fun schedule rule ↦ schedule.set rule.1 rule.2) never

/-- Every upgrade with its rule, in order of activation. -/
def toList (schedule : Schedule) : List (Upgrade × Activation) :=
  Upgrade.all.map fun upgrade ↦ (upgrade, schedule.get upgrade)

def isActive (schedule : Schedule) (upgrade : Upgrade) (height : UInt32) : Bool :=
  (schedule.get upgrade).isActiveAt height

/-- The upgrades that are enforced at a height, in order of activation. -/
def activeAt (schedule : Schedule) (height : UInt32) : List Upgrade :=
  Upgrade.all.filter fun upgrade ↦ schedule.isActive upgrade height

/-- What is wrong with the window of one rule. -/
def faultOf? (rule : Upgrade × Activation) : Option Fault :=
  match rule.2.vote with
  | none => none
  | some window =>
    match window.validate with
    | .ok () => none
    | .error cause => some ⟨rule.1, cause⟩

/-- The windows are judged in order of activation. -/
def validate (schedule : Schedule) : Except Fault Unit :=
  match schedule.toList.findSome? faultOf? with
  | none => .ok ()
  | some fault => .error fault

end Schedule

end ChainParams
