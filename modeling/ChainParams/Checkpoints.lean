import ChainParams.BlockHash

/-!
# Checkpoints

Blocks that a chain is known to contain, from the oldest to the newest. Their heights are strictly
ascending, so that there is at most one checkpoint at a height and a last one at or before it.
-/

namespace ChainParams

structure Checkpoint where
  height : UInt32
  hash : BlockHash
  deriving DecidableEq

structure Checkpoints where
  toList : List Checkpoint
  ascending : toList.Pairwise fun a b ↦ a.height < b.height
  deriving DecidableEq

namespace Checkpoints

/-- Why there are no such checkpoints, or none that was asked for. -/
inductive Fault where
  | badHash (cause : BlockHash.Fault)
  /-- A height is no greater than the one before it. -/
  | outOfOrder (later earlier : UInt32)
  | noneUpTo (height : UInt32)
  deriving DecidableEq, Repr

def Fault.message : Fault → String
  | .badHash cause => cause.message
  | .outOfOrder later earlier => s!"Invalid checkpoints: height {later} follows height {earlier}"
  | .noneUpTo height => s!"No checkpoint found for height {height}"

def empty : Checkpoints := ⟨[], .nil⟩

def single (checkpoint : Checkpoint) : Checkpoints :=
  ⟨[checkpoint], List.pairwise_singleton _ checkpoint⟩

/-- The first neighbours whose heights do not ascend, the later one first. -/
def firstDescent? : List Checkpoint → Option (UInt32 × UInt32)
  | a :: b :: rest =>
    if b.height ≤ a.height then some (b.height, a.height) else firstDescent? (b :: rest)
  | _ => none

theorem pairwise_of_firstDescent?_eq_none {checkpoints : List Checkpoint}
    (h : firstDescent? checkpoints = none) :
    checkpoints.Pairwise fun a b ↦ a.height < b.height := by
  fun_induction firstDescent? checkpoints with
  | case1 => cases h
  | case2 a b rest hab ih =>
    have hlt : a.height < b.height := UInt32.not_le.mp hab
    have htail := ih h
    refine List.Pairwise.cons (fun c hc ↦ ?_) htail
    rcases List.mem_cons.mp hc with rfl | hc
    · exact hlt
    · exact UInt32.lt_trans hlt (List.rel_of_pairwise_cons htail hc)
  | case3 checkpoints hshort =>
    match checkpoints, hshort with
    | [], _ => exact .nil
    | [a], _ => exact List.pairwise_singleton _ a
    | a :: b :: rest, hshort => exact (hshort a b rest rfl).elim

def ofList (checkpoints : List Checkpoint) : Except Fault Checkpoints :=
  match h : firstDescent? checkpoints with
  | none => .ok ⟨checkpoints, pairwise_of_firstDescent?_eq_none h⟩
  | some (later, earlier) => .error (.outOfOrder later earlier)

/-- The checkpoint with a height and the text of a hash. -/
def entryOfHex (entry : UInt32 × String) : Except Fault Checkpoint :=
  match BlockHash.ofHex entry.2 with
  | .ok hash => .ok ⟨entry.1, hash⟩
  | .error cause => .error (.badHash cause)

/-- All hashes are judged before the order of the heights. -/
def ofHex (entries : List (UInt32 × String)) : Except Fault Checkpoints := do
  ofList (← entries.mapM entryOfHex)

/-- The checkpoint with the greatest height up to the given one. -/
def atOrBefore (checkpoints : Checkpoints) (height : UInt32) : Except Fault Checkpoint :=
  match checkpoints.toList.reverse.find? fun checkpoint ↦ checkpoint.height ≤ height with
  | some checkpoint => .ok checkpoint
  | none => .error (.noneUpTo height)

/-- The hash of the checkpoint at a height. -/
def get? (checkpoints : Checkpoints) (height : UInt32) : Option BlockHash :=
  (checkpoints.toList.find? fun checkpoint ↦ checkpoint.height = height).map (·.hash)

def latest? (checkpoints : Checkpoints) : Option Checkpoint :=
  checkpoints.toList.getLast?

def size (checkpoints : Checkpoints) : Nat :=
  checkpoints.toList.length

end Checkpoints

end ChainParams
