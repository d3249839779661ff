import Mathlib.Tactic
import ChainParams.Checkpoints
import ChainParams.Proofs.Search

/-!
# Checkpoints and lists

Checkpoints can be made from a list exactly if its heights ascend, and are then those of the list.
As no height stands twice, the checkpoint that is found at a height is the only one there.
-/

namespace ChainParams.Checkpoints

theorem firstDescent?_of_pairwise {checkpoints : List Checkpoint}
    (h : checkpoints.Pairwise fun a b ↦ a.height < b.height) :
    firstDescent? checkpoints = none := by
  fun_induction firstDescent? checkpoints with
  | case1 a b rest hab =>
    have hlt : a.height < b.height := List.rel_of_pairwise_cons h (List.mem_cons_self ..)
    exact absurd hlt (UInt32.not_lt.mpr hab)
  | case2 a b rest hab ih => exact ih h.tail
  | case3 => rfl

theorem ofList_of_ascending {checkpoints : List Checkpoint}
    (h : checkpoints.Pairwise fun a b ↦ a.height < b.height) :
    ofList checkpoints = .ok ⟨checkpoints, h⟩ := by
  unfold ofList
  split
  · rfl
  · next hdescent =>
    rw [firstDescent?_of_pairwise h] at hdescent
    cases hdescent

theorem toList_of_ofList {list : List Checkpoint} {checkpoints : Checkpoints}
    (h : ofList list = .ok checkpoints) : checkpoints.toList = list := by
  unfold ofList at h
  split at h
  · cases h
    rfl
  · cases h

theorem ofList_eq_ok_iff {list : List Checkpoint} {checkpoints : Checkpoints} :
    ofList list = .ok checkpoints ↔ checkpoints.toList = list := by
  constructor
  · exact toList_of_ofList
  · rintro rfl
    exact ofList_of_ascending checkpoints.ascending

theorem nodup_heights (checkpoints : Checkpoints) :
    (checkpoints.toList.map Checkpoint.height).Nodup := by
  rw [List.Nodup, List.pairwise_map]
  exact checkpoints.ascending.imp fun hlt ↦ UInt32.ne_of_lt hlt

/-- The look-up at a height finds the checkpoint that stands there. -/
theorem get?_eq_some_iff {checkpoints : Checkpoints} {height : UInt32} {hash : BlockHash} :
    checkpoints.get? height = some hash ↔ ⟨height, hash⟩ ∈ checkpoints.toList := by
  rw [get?, Option.map_eq_some_iff]
  simp only [find?_key_eq_some_iff checkpoints.nodup_heights]
  constructor
  · rintro ⟨found, ⟨hmem, rfl⟩, rfl⟩
    exact hmem
  · intro hmem
    exact ⟨_, ⟨hmem, rfl⟩, rfl⟩

end ChainParams.Checkpoints
