import ChainParams.Proofs.Checkpoints
import ChainParams.StandardNetwork

/-!
# Looking up checkpoints

A checkpoint is looked up at its very height by a search among the heights, and as the last one up
to a height by going through the list from its end. As the heights of every list of checkpoints
ascend, however the list was made, the two ways agree wherever both find something, a greater height
never leads to an older checkpoint, and the list ends with the newest.
-/

namespace ChainParams

namespace Checkpoints

variable {checkpoints : Checkpoints}

/-! ## At a height -/

def heights (checkpoints : Checkpoints) : List UInt32 :=
  checkpoints.toList.map (·.height)

theorem pairwise_heights (checkpoints : Checkpoints) : checkpoints.heights.Pairwise (· < ·) :=
  List.pairwise_map.mpr checkpoints.ascending

/-- The hash at the position where a search says that the height stands. -/
def getBy (search : List UInt32 → UInt32 → Option Nat) (checkpoints : Checkpoints)
    (height : UInt32) : Option BlockHash := do
  let index ← search checkpoints.heights height
  let found ← checkpoints.toList[index]?
  return found.hash

theorem getElem?_heights_eq_some_iff {index : Nat} {height : UInt32} :
    checkpoints.heights[index]? = some height ↔
      ∃ point, checkpoints.toList[index]? = some point ∧ point.height = height := by
  rw [heights, List.getElem?_map, Option.map_eq_some_iff]

/-- Every search finds the same, whichever way it goes through the list. -/
theorem getBy_eq_get? {search : List UInt32 → UInt32 → Option Nat} (h : IsKeySearch search)
    (checkpoints : Checkpoints) (height : UInt32) :
    checkpoints.getBy search height = checkpoints.get? height := by
  cases hsearch : search checkpoints.heights height with
  | some index =>
    obtain ⟨point, hpoint, rfl⟩ := getElem?_heights_eq_some_iff.mp
      (h.getElem?_of_some checkpoints.pairwise_heights hsearch)
    have hget : checkpoints.get? point.height = some point.hash :=
      get?_eq_some_iff.mpr (List.mem_of_getElem? hpoint)
    rw [hget]
    simp [getBy, hsearch, hpoint]
  | none =>
    have habsent := h.not_mem_of_none checkpoints.pairwise_heights hsearch
    have hget : checkpoints.get? height = none := by
      rw [Option.eq_none_iff_forall_ne_some]
      intro hash hfound
      exact habsent (List.mem_map_of_mem (get?_eq_some_iff.mp hfound))
    rw [hget]
    simp [getBy, hsearch]

/-! ## Up to a height -/

/-- The checkpoint has the greatest height up to the given one. -/
structure IsLastUpTo (checkpoints : Checkpoints) (height : UInt32) (point : Checkpoint) : Prop where
  mem : point ∈ checkpoints.toList
  height_le : point.height ≤ height
  le_height : ∀ other ∈ checkpoints.toList, other.height ≤ height → other.height ≤ point.height

theorem eq_of_height_eq {a b : Checkpoint} (ha : a ∈ checkpoints.toList)
    (hb : b ∈ checkpoints.toList) (h : a.height = b.height) : a = b :=
  List.inj_on_of_nodup_map checkpoints.nodup_heights ha hb h

theorem IsLastUpTo.unique {height : UInt32} {a b : Checkpoint}
    (ha : checkpoints.IsLastUpTo height a) (hb : checkpoints.IsLastUpTo height b) : a = b :=
  eq_of_height_eq ha.mem hb.mem
    (UInt32.le_antisymm (hb.le_height a ha.mem ha.height_le) (ha.le_height b hb.mem hb.height_le))

/-- The search from the newest checkpoint on passes over those above the height, and all that come
after it are older. -/
theorem isLastUpTo_of_find? {height : UInt32} {point : Checkpoint}
    (h : (checkpoints.toList.reverse.find? fun point ↦ point.height ≤ height) = some point) :
    checkpoints.IsLastUpTo height point := by
  obtain ⟨hle, newer, older, heq, hnewer⟩ := List.find?_eq_some_iff_append.mp h
  have hdescending : (newer ++ point :: older).Pairwise fun a b ↦ b.height < a.height := by
    rw [← heq, List.pairwise_reverse]
    exact checkpoints.ascending
  have hmem (other : Checkpoint) :
      other ∈ checkpoints.toList ↔ other ∈ newer ++ point :: older := by
    rw [← heq, List.mem_reverse]
  refine ⟨(hmem point).mpr (by simp), by simpa using hle, ?_⟩
  intro other hother hup
  rw [hmem, List.mem_append, List.mem_cons] at hother
  rcases hother with hother | rfl | hother
  · simpa [hup] using hnewer other hother
  · exact UInt32.le_refl _
  · have hrest := (List.pairwise_append.mp hdescending).2.1
    exact UInt32.le_of_lt (List.rel_of_pairwise_cons hrest hother)

theorem atOrBefore_eq_error_iff {height : UInt32} {fault : Fault} :
    checkpoints.atOrBefore height = .error fault ↔
      fault = .noneUpTo height ∧ ∀ point ∈ checkpoints.toList, height < point.height := by
  have hnone : (checkpoints.toList.reverse.find? fun point ↦ point.height ≤ height) = none ↔
      ∀ point ∈ checkpoints.toList, height < point.height := by
    simp [List.find?_eq_none]
  rw [atOrBefore, ← hnone]
  split
  · next hfound => simp [hfound]
  · next hfound => simp [hfound, eq_comm]

theorem atOrBefore_eq_ok_iff {height : UInt32} {point : Checkpoint} :
    checkpoints.atOrBefore height = .ok point ↔ checkpoints.IsLastUpTo height point := by
  rw [atOrBefore]
  split
  · next found hfound =>
    have hlast := isLastUpTo_of_find? hfound
    constructor
    · intro h
      cases h
      exact hlast
    · intro h
      rw [hlast.unique h]
  · next hnone =>
    constructor
    · intro h
      cases h
    · intro h
      rw [List.find?_eq_none] at hnone
      exact absurd (decide_eq_true h.height_le) (hnone point (List.mem_reverse.mpr h.mem))

theorem isLastUpTo_height {point : Checkpoint} (h : point ∈ checkpoints.toList) :
    checkpoints.IsLastUpTo point.height point :=
  ⟨h, UInt32.le_refl _, fun _ _ hle ↦ hle⟩

/-! ## The newest -/

theorem latest?_eq_none_iff : checkpoints.latest? = none ↔ checkpoints.toList = [] :=
  List.getLast?_eq_none_iff

/-- The list ends with the newest checkpoint. -/
theorem newest_of_latest? {last : Checkpoint} (h : checkpoints.latest? = some last) :
    last ∈ checkpoints.toList ∧ ∀ other ∈ checkpoints.toList, other.height ≤ last.height := by
  obtain ⟨earlier, heq⟩ := List.getLast?_eq_some_iff.mp h
  have hascending := checkpoints.ascending
  rw [heq, List.pairwise_append] at hascending
  refine ⟨by simp [heq], ?_⟩
  intro other hother
  rw [heq, List.mem_append, List.mem_singleton] at hother
  rcases hother with hother | rfl
  · exact UInt32.le_of_lt (hascending.2.2 other hother last (List.mem_singleton_self last))
  · exact UInt32.le_refl _

theorem latest?_eq_some_iff {last : Checkpoint} :
    checkpoints.latest? = some last ↔
      last ∈ checkpoints.toList ∧ ∀ other ∈ checkpoints.toList, other.height ≤ last.height := by
  constructor
  · exact newest_of_latest?
  · rintro ⟨hmem, hle⟩
    cases hlatest : checkpoints.latest? with
    | none =>
      rw [latest?_eq_none_iff.mp hlatest] at hmem
      cases hmem
    | some point =>
      obtain ⟨hpoint, hpointLe⟩ := newest_of_latest? hlatest
      have hheight := UInt32.le_antisymm (hle point hpoint) (hpointLe last hmem)
      rw [eq_of_height_eq hpoint hmem hheight]

theorem isLastUpTo_latest {last : Checkpoint} (hlast : checkpoints.latest? = some last)
    {height : UInt32} (hheight : last.height ≤ height) : checkpoints.IsLastUpTo height last := by
  obtain ⟨hmem, hle⟩ := newest_of_latest? hlast
  exact ⟨hmem, hheight, fun other hother _ ↦ hle other hother⟩

/-- From the greatest height on the newest checkpoint is found, if there is any. -/
theorem exists_latest (hne : checkpoints.toList ≠ []) {height : UInt32}
    (hheight : ∀ point ∈ checkpoints.toList, point.height ≤ height) :
    ∃ last, checkpoints.latest? = some last ∧ checkpoints.IsLastUpTo height last := by
  obtain ⟨last, hlast⟩ := Option.ne_none_iff_exists'.mp fun h ↦ hne (latest?_eq_none_iff.mp h)
  have hmem := (newest_of_latest? hlast).1
  exact ⟨last, hlast, isLastUpTo_latest hlast (hheight last hmem)⟩

theorem IsLastUpTo.exists_later {height later : UInt32} {point : Checkpoint}
    (h : checkpoints.IsLastUpTo height point) (hle : height ≤ later) :
    ∃ next, checkpoints.IsLastUpTo later next ∧ point.height ≤ next.height := by
  have hup : point.height ≤ later := UInt32.le_trans h.height_le hle
  cases hnext : checkpoints.atOrBefore later with
  | ok next =>
    have hnext := atOrBefore_eq_ok_iff.mp hnext
    exact ⟨next, hnext, hnext.le_height point h.mem hup⟩
  | error fault =>
    have hnone := (atOrBefore_eq_error_iff.mp hnext).2 point h.mem
    exact absurd hup (UInt32.not_le.mpr hnone)

/-- The look-up at a height finds the checkpoint that stands there, whichever search it uses. The
look-up up to a height finds the last such checkpoint, and fails only if there is none; it agrees
with the other look-up and never falls back as the height grows. Unless there are no checkpoints,
one of them is the newest, and it is found from its own height on. -/
theorem lookups_agree (checkpoints : Checkpoints) :
    (∀ search, IsKeySearch search → ∀ height,
      checkpoints.getBy search height = checkpoints.get? height) ∧
    (∀ height hash, checkpoints.get? height = some hash ↔ ⟨height, hash⟩ ∈ checkpoints.toList) ∧
    (∀ height point, checkpoints.atOrBefore height = .ok point ↔
      checkpoints.IsLastUpTo height point) ∧
    (∀ height fault, checkpoints.atOrBefore height = .error fault ↔
      fault = .noneUpTo height ∧ ∀ point ∈ checkpoints.toList, height < point.height) ∧
    (∀ height hash, checkpoints.get? height = some hash →
      checkpoints.atOrBefore height = .ok ⟨height, hash⟩) ∧
    (∀ height later point, height ≤ later → checkpoints.atOrBefore height = .ok point →
      ∃ next, checkpoints.atOrBefore later = .ok next ∧ point.height ≤ next.height) ∧
    (∀ last, checkpoints.latest? = some last → ∀ height, last.height ≤ height →
      checkpoints.atOrBefore height = .ok last) ∧
    (checkpoints.latest? = none ↔ checkpoints.toList = []) ∧
    (∀ last, checkpoints.latest? = some last ↔
      last ∈ checkpoints.toList ∧ ∀ other ∈ checkpoints.toList, other.height ≤ last.height) ∧
    (checkpoints.toList ≠ [] → ∀ height,
      (∀ point ∈ checkpoints.toList, point.height ≤ height) →
      ∃ last, checkpoints.latest? = some last ∧ checkpoints.atOrBefore height = .ok last) := by
  refine ⟨?_, ?_, ?_, ?_, ?_, ?_, ?_, ?_, ?_, ?_⟩
  · intro search hsearch height
    exact getBy_eq_get? hsearch checkpoints height
  · intro height hash
    exact get?_eq_some_iff
  · intro height point
    exact atOrBefore_eq_ok_iff
  · intro height fault
    exact atOrBefore_eq_error_iff
  · intro height hash hget
    exact atOrBefore_eq_ok_iff.mpr (isLastUpTo_height (get?_eq_some_iff.mp hget))
  · intro height later point hle hpoint
    simp only [atOrBefore_eq_ok_iff] at hpoint ⊢
    exact hpoint.exists_later hle
  · intro last hlast height hheight
    exact atOrBefore_eq_ok_iff.mpr (isLastUpTo_latest hlast hheight)
  · exact latest?_eq_none_iff
  · intro last
    exact latest?_eq_some_iff
  · intro hne height hheight
    simp only [atOrBefore_eq_ok_iff]
    exact exists_latest hne hheight

/-- The genesis block of the main network, the block of its upgrades and a later one. -/
def threeCheckpoints : Checkpoints :=
  ⟨[⟨0, StandardNetwork.mainGenesis⟩, ⟨1441, StandardNetwork.mainActivation⟩,
    ⟨5000, StandardNetwork.testActivation⟩], by decide⟩

/-- A search by halves finds the newest checkpoint, between two of them the older one counts, and
from the last height on the newest. -/
theorem lookups_agree_threeCheckpoints :
    threeCheckpoints.getBy (fun keys key ↦ bisect keys key 0 keys.length) 5000 =
        some StandardNetwork.testActivation ∧
      threeCheckpoints.atOrBefore 1441 = .ok ⟨1441, StandardNetwork.mainActivation⟩ ∧
      (∃ next, threeCheckpoints.atOrBefore 2000 = .ok next ∧ 1441 ≤ next.height) ∧
      threeCheckpoints.latest? = some ⟨5000, StandardNetwork.testActivation⟩ ∧
      threeCheckpoints.atOrBefore 9000 = .ok ⟨5000, StandardNetwork.testActivation⟩ ∧
      (∃ last, threeCheckpoints.latest? = some last ∧
        threeCheckpoints.atOrBefore 5000 = .ok last) ∧
      empty.latest? = none := by
  obtain ⟨hsearch, hget, -, -, hexact, hlater, hfrom, -, hnewest, hexists⟩ :=
    lookups_agree threeCheckpoints
  obtain ⟨-, -, -, -, -, -, -, hnone, -⟩ := lookups_agree empty
  have hmiddle : threeCheckpoints.atOrBefore 1441 = .ok ⟨1441, StandardNetwork.mainActivation⟩ :=
    hexact _ _ ((hget _ _).mpr (by simp [threeCheckpoints]))
  have hlast : threeCheckpoints.latest? = some ⟨5000, StandardNetwork.testActivation⟩ :=
    (hnewest _).mpr ⟨by simp [threeCheckpoints], by decide⟩
  refine ⟨?_, hmiddle, hlater _ _ _ (by decide) hmiddle, hlast, hfrom _ hlast _ (by decide),
    hexists (List.cons_ne_nil _ _) _ (by decide), hnone.mpr rfl⟩
  rw [hsearch _ isKeySearch_bisect]
  exact (hget _ _).mpr (by simp [threeCheckpoints])

end Checkpoints

end ChainParams
