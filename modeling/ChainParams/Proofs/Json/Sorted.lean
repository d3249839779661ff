import Mathlib.Tactic
import ChainParams.Json.Basic

/-!
# Values with sorted members

A value that was read has the members of all its objects in ascending order of their keys, whatever
their order in the text. As long as the keys of an object differ, sorting moves its members without
losing one, so that each key still leads to its value and the order in which they came is forgotten.
Members that are told by their keys may be taken out before the others are sorted or after.
-/

namespace ChainParams.Json

mutual

/-- The value with the members of each object sorted. -/
def sorted : Json → Json
  | .arr items => .arr (sortedItems items)
  | .obj members => .obj (sortMembers (sortedMembers members))
  | value => value

def sortedItems : List Json → List Json
  | [] => []
  | item :: rest => item.sorted :: sortedItems rest

def sortedMembers : List (String × Json) → List (String × Json)
  | [] => []
  | (key, value) :: rest => (key, value.sorted) :: sortedMembers rest

end

theorem sortedItems_eq_map (items : List Json) : sortedItems items = items.map sorted := by
  induction items with
  | nil => rfl
  | cons item rest ih => rw [sortedItems, ih, List.map_cons]

theorem sortedMembers_eq_map (members : List (String × Json)) :
    sortedMembers members = members.map fun member ↦ (member.1, member.2.sorted) := by
  induction members with
  | nil => rfl
  | cons member rest ih => rw [sortedMembers, ih, List.map_cons]

theorem sortedItems_append (before after : List Json) :
    sortedItems (before ++ after) = sortedItems before ++ sortedItems after := by
  simp only [sortedItems_eq_map, List.map_append]

theorem sortedMembers_append (before after : List (String × Json)) :
    sortedMembers (before ++ after) = sortedMembers before ++ sortedMembers after := by
  simp only [sortedMembers_eq_map, List.map_append]

theorem sortedItems_reverse (items : List Json) :
    sortedItems items.reverse = (sortedItems items).reverse := by
  rw [sortedItems_eq_map, sortedItems_eq_map, List.map_reverse]

theorem sortedMembers_reverse (members : List (String × Json)) :
    sortedMembers members.reverse = (sortedMembers members).reverse := by
  rw [sortedMembers_eq_map, sortedMembers_eq_map, List.map_reverse]

theorem keys_sortedMembers (members : List (String × Json)) :
    (sortedMembers members).map Prod.fst = members.map Prod.fst := by
  rw [sortedMembers_eq_map, List.map_map]
  rfl

/-! ## Sorting members -/

theorem insertMember_perm {key : String} (value : Json) {members : List (String × Json)}
    (h : key ∉ members.map Prod.fst) :
    (insertMember key value members).Perm ((key, value) :: members) := by
  induction members with
  | nil => exact .refl _
  | cons member rest ih =>
    rw [List.map_cons, List.mem_cons, not_or] at h
    rw [insertMember, if_neg h.1]
    split
    · exact .refl _
    · exact ((ih h.2).cons member).trans (.swap _ _ _)

theorem foldl_insertMember_perm (members sorted : List (String × Json))
    (h : ((members ++ sorted).map Prod.fst).Nodup) :
    (members.foldl (fun sorted member ↦ insertMember member.1 member.2 sorted) sorted).Perm
      (members ++ sorted) := by
  induction members generalizing sorted with
  | nil => exact .refl _
  | cons member rest ih =>
    have hmove : (member :: rest ++ sorted).Perm (rest ++ member :: sorted) :=
      List.perm_middle.symm
    have hnodup : ((rest ++ member :: sorted).map Prod.fst).Nodup :=
      (hmove.map Prod.fst).nodup_iff.mp h
    have hnew : member.1 ∉ sorted.map Prod.fst := by
      rw [List.map_append, List.map_cons] at hnodup
      exact (List.nodup_cons.mp (List.nodup_append.mp hnodup).2.1).1
    have hinsert : (rest ++ insertMember member.1 member.2 sorted).Perm
        (rest ++ member :: sorted) :=
      (insertMember_perm member.2 hnew).append_left rest
    rw [List.foldl_cons]
    exact (ih _ ((hinsert.map Prod.fst).nodup_iff.mpr hnodup)).trans (hinsert.trans hmove.symm)

theorem sortMembers_perm {members : List (String × Json)} (h : (members.map Prod.fst).Nodup) :
    (sortMembers members).Perm members := by
  have hperm := foldl_insertMember_perm members [] (by simpa using h)
  rwa [List.append_nil] at hperm

theorem insertMember_of_forall_lt {key : String} (value : Json) {members : List (String × Json)}
    (h : ∀ member ∈ members, member.1 < key) :
    insertMember key value members = members ++ [(key, value)] := by
  induction members with
  | nil => rfl
  | cons member rest ih =>
    obtain ⟨hmember, hrest⟩ := List.forall_mem_cons.mp h
    have hne : key ≠ member.1 := by
      rintro rfl
      exact String.lt_irrefl _ hmember
    rw [insertMember, if_neg (String.lt_asymm hmember), if_neg hne, ih hrest, List.cons_append]

theorem foldl_insertMember_of_pairwise (members sorted : List (String × Json))
    (h : ((sorted ++ members).map Prod.fst).Pairwise (· < ·)) :
    members.foldl (fun sorted member ↦ insertMember member.1 member.2 sorted) sorted =
      sorted ++ members := by
  induction members generalizing sorted with
  | nil => rw [List.foldl_nil, List.append_nil]
  | cons member rest ih =>
    have hlast : ∀ earlier ∈ sorted, earlier.1 < member.1 := by
      rw [List.map_append, List.pairwise_append] at h
      intro earlier hearlier
      exact h.2.2 _ (List.mem_map_of_mem hearlier) _ (List.mem_map_of_mem List.mem_cons_self)
    have happend : sorted ++ member :: rest = (sorted ++ [member]) ++ rest := by
      rw [List.append_assoc, List.singleton_append]
    rw [happend] at h ⊢
    rw [List.foldl_cons, insertMember_of_forall_lt member.2 hlast, ih _ h]

/-- Members whose keys ascend are left as they are. -/
theorem sortMembers_of_pairwise {members : List (String × Json)}
    (h : (members.map Prod.fst).Pairwise (· < ·)) : sortMembers members = members :=
  foldl_insertMember_of_pairwise members [] h

theorem mem_keys_insertMember {key : String} {value : Json} {members : List (String × Json)}
    {other : String} (h : other ∈ (insertMember key value members).map Prod.fst) :
    other = key ∨ other ∈ members.map Prod.fst := by
  induction members with
  | nil => exact .inl (List.mem_singleton.mp h)
  | cons member rest ih =>
    rw [insertMember] at h
    split_ifs at h with hlt heq
    · exact List.mem_cons.mp h
    · exact (List.mem_cons.mp h).imp_right (List.mem_cons_of_mem _)
    · rcases List.mem_cons.mp h with rfl | h
      · exact .inr (List.mem_cons_self ..)
      · exact (ih h).imp_right (List.mem_cons_of_mem _)

theorem pairwise_insertMember {key : String} (value : Json) {members : List (String × Json)}
    (h : (members.map Prod.fst).Pairwise (· < ·)) :
    ((insertMember key value members).map Prod.fst).Pairwise (· < ·) := by
  induction members with
  | nil => exact List.pairwise_singleton _ _
  | cons member rest ih =>
    obtain ⟨hfirst, hrest⟩ := List.pairwise_cons.mp h
    rw [insertMember]
    split_ifs with hlt heq
    · refine List.pairwise_cons.mpr ⟨List.forall_mem_cons.mpr ⟨hlt, ?_⟩, h⟩
      intro later hlater
      exact String.lt_trans hlt (hfirst later hlater)
    · exact List.pairwise_cons.mpr ⟨heq ▸ hfirst, hrest⟩
    · have hgt : member.1 < key :=
        String.not_le.mp fun hle ↦ heq (String.le_antisymm hle (String.not_lt.mp hlt))
      refine List.pairwise_cons.mpr ⟨?_, ih hrest⟩
      intro later hlater
      rcases mem_keys_insertMember hlater with rfl | hlater
      · exact hgt
      · exact hfirst later hlater

theorem pairwise_foldl_insertMember (members : List (String × Json)) {sorted : List (String × Json)}
    (h : (sorted.map Prod.fst).Pairwise (· < ·)) :
    ((members.foldl (fun sorted member ↦ insertMember member.1 member.2 sorted) sorted).map
      Prod.fst).Pairwise (· < ·) := by
  induction members generalizing sorted with
  | nil => exact h
  | cons member rest ih => exact ih (pairwise_insertMember member.2 h)

theorem pairwise_sortMembers (members : List (String × Json)) :
    ((sortMembers members).map Prod.fst).Pairwise (· < ·) :=
  pairwise_foldl_insertMember members .nil

/-- The order in which distinct keys are written does not matter. -/
theorem sortMembers_eq_of_perm {members others : List (String × Json)}
    (hperm : members.Perm others) (h : (members.map Prod.fst).Nodup) :
    sortMembers members = sortMembers others := by
  have hothers : (others.map Prod.fst).Nodup := (hperm.map Prod.fst).nodup_iff.mp h
  have hsorted : (sortMembers members).Perm (sortMembers others) :=
    ((sortMembers_perm h).trans hperm).trans (sortMembers_perm hothers).symm
  refine hsorted.eq_of_pairwise ?_ (List.pairwise_map.mp (pairwise_sortMembers members))
    (List.pairwise_map.mp (pairwise_sortMembers others))
  intro member other _ _ hlt hgt
  exact absurd hgt (String.lt_asymm hlt)

/-! ## Look-ups -/

theorem lookup_eq_none_of_not_mem {α : Type} {key : String} {members : List (String × α)}
    (h : key ∉ members.map Prod.fst) : members.lookup key = none := by
  rw [List.lookup_eq_none_iff]
  intro member hmember
  rw [bne_iff_ne]
  rintro rfl
  exact h (List.mem_map_of_mem hmember)

theorem lookup_eq_some_iff_mem {α : Type} {members : List (String × α)}
    (h : (members.map Prod.fst).Nodup) {key : String} {value : α} :
    members.lookup key = some value ↔ (key, value) ∈ members := by
  induction members with
  | nil => simp
  | cons member rest ih =>
    obtain ⟨first, firstValue⟩ := member
    obtain ⟨hfirst, hrest⟩ := List.nodup_cons.mp h
    by_cases hkey : key = first
    · subst hkey
      have hnot : (key, value) ∉ rest := fun hmem ↦ hfirst (List.mem_map.mpr ⟨_, hmem, rfl⟩)
      simp [hnot, eq_comm]
    · have hne : (key == first) = false := by simp [hkey]
      simp [List.lookup_cons, hne, ih hrest, hkey]

theorem lookup_eq_of_perm {members others : List (String × Json)} (hperm : members.Perm others)
    (h : (others.map Prod.fst).Nodup) (key : String) : members.lookup key = others.lookup key := by
  have hmembers := (hperm.map Prod.fst).nodup_iff.mpr h
  apply Option.ext
  intro value
  rw [lookup_eq_some_iff_mem hmembers, lookup_eq_some_iff_mem h, hperm.mem_iff]

theorem lookup_sortedMembers (members : List (String × Json)) (key : String) :
    (sortedMembers members).lookup key = (members.lookup key).map sorted := by
  induction members with
  | nil => rfl
  | cons member rest ih =>
    rw [sortedMembers, List.lookup_cons, List.lookup_cons]
    split
    · rfl
    · exact ih

/-- Sorting keeps the value of each key. -/
theorem lookup_sorted {members : List (String × Json)} (h : (members.map Prod.fst).Nodup)
    (key : String) :
    (sortMembers (sortedMembers members)).lookup key = (members.lookup key).map sorted := by
  have hnodup : ((sortedMembers members).map Prod.fst).Nodup := by rwa [keys_sortedMembers]
  calc
    (sortMembers (sortedMembers members)).lookup key = (sortedMembers members).lookup key :=
      lookup_eq_of_perm (sortMembers_perm hnodup) hnodup key
    _ = (members.lookup key).map sorted := lookup_sortedMembers members key

/-! ## Selecting members -/

/-- What a choice by key makes of a member: one with another value, or nothing. -/
def select (choice : String → Option (Json → Json)) (member : String × Json) :
    Option (String × Json) :=
  (choice member.1).map fun change ↦ (member.1, change member.2)

section Select

variable {choice : String → Option (Json → Json)}

theorem select_of_none {key : String} (h : choice key = none) (value : Json) :
    select choice (key, value) = none := by
  rw [select, h, Option.map_none]

theorem select_of_some {key : String} {change : Json → Json} (h : choice key = some change)
    (value : Json) : select choice (key, value) = some (key, change value) := by
  rw [select, h, Option.map_some]

theorem keys_filterMap_select_sublist (members : List (String × Json)) :
    ((members.filterMap (select choice)).map Prod.fst).Sublist (members.map Prod.fst) := by
  induction members with
  | nil => exact .slnil
  | cons member rest ih =>
    cases hchoice : choice member.1 with
    | none =>
      rw [List.filterMap_cons_none (select_of_none hchoice member.2)]
      exact ih.cons member.1
    | some change =>
      rw [List.filterMap_cons_some (select_of_some hchoice member.2)]
      exact ih.cons_cons member.1

theorem insertMember_of_forall_gt {key : String} (value : Json) {members : List (String × Json)}
    (h : ∀ other ∈ members.map Prod.fst, key < other) :
    insertMember key value members = (key, value) :: members := by
  cases members with
  | nil => rfl
  | cons member rest => exact if_pos (h _ (List.mem_cons_self ..))

theorem filterMap_insertMember_of_none {key : String} (hchoice : choice key = none) (value : Json)
    (members : List (String × Json)) :
    (insertMember key value members).filterMap (select choice) =
      members.filterMap (select choice) := by
  have hnone := select_of_none hchoice
  induction members with
  | nil => exact List.filterMap_cons_none (hnone value)
  | cons member rest ih =>
    rw [insertMember]
    split_ifs with hlt heq
    · exact List.filterMap_cons_none (hnone value)
    · subst heq
      rw [List.filterMap_cons_none (hnone value), List.filterMap_cons_none (hnone member.2)]
    · rw [List.filterMap_cons, List.filterMap_cons, ih]

theorem filterMap_insertMember_of_some {key : String} {change : Json → Json}
    (hchoice : choice key = some change) (value : Json) {members : List (String × Json)}
    (h : (members.map Prod.fst).Pairwise (· < ·)) :
    (insertMember key value members).filterMap (select choice) =
      insertMember key (change value) (members.filterMap (select choice)) := by
  have hsome := select_of_some hchoice
  induction members with
  | nil => exact List.filterMap_cons_some (hsome value)
  | cons member rest ih =>
    obtain ⟨hfirst, hrest⟩ := List.pairwise_cons.mp h
    rw [insertMember]
    split_ifs with hlt heq
    · rw [List.filterMap_cons_some (hsome value), insertMember_of_forall_gt]
      -- The member behind the new one may be taken out, so that all that follow must be greater.
      intro other hother
      rcases List.mem_cons.mp ((keys_filterMap_select_sublist _).subset hother) with rfl | hother
      · exact hlt
      · exact String.lt_trans hlt (hfirst other hother)
    · subst heq
      rw [List.filterMap_cons_some (hsome value), List.filterMap_cons_some (hsome member.2),
        insertMember, if_neg (String.lt_irrefl _), if_pos rfl]
    · cases hmember : select choice member with
      | none =>
        rw [List.filterMap_cons_none hmember, List.filterMap_cons_none hmember, ih hrest]
      | some selected =>
        obtain ⟨_, -, rfl⟩ := Option.map_eq_some_iff.mp hmember
        rw [List.filterMap_cons_some hmember, List.filterMap_cons_some hmember, ih hrest,
          insertMember, if_neg hlt, if_neg heq]

/-- Members are selected by their keys, so it does not matter whether that is done before they are
sorted or after. -/
theorem filterMap_foldl_insertMember (members : List (String × Json)) {sorted : List (String × Json)}
    (h : (sorted.map Prod.fst).Pairwise (· < ·)) :
    (members.foldl (fun sorted member ↦ insertMember member.1 member.2 sorted) sorted).filterMap
        (select choice) =
      (members.filterMap (select choice)).foldl
        (fun sorted member ↦ insertMember member.1 member.2 sorted)
        (sorted.filterMap (select choice)) := by
  induction members generalizing sorted with
  | nil => rfl
  | cons member rest ih =>
    rw [List.foldl_cons, ih (pairwise_insertMember member.2 h)]
    cases hchoice : choice member.1 with
    | none =>
      rw [filterMap_insertMember_of_none hchoice,
        List.filterMap_cons_none (select_of_none hchoice member.2)]
    | some change =>
      rw [filterMap_insertMember_of_some hchoice _ h,
        List.filterMap_cons_some (select_of_some hchoice member.2), List.foldl_cons]

theorem filterMap_sortMembers (members : List (String × Json)) :
    (sortMembers members).filterMap (select choice) =
      sortMembers (members.filterMap (select choice)) :=
  filterMap_foldl_insertMember members .nil

theorem lookup_filterMap_select (key : String) (members : List (String × Json)) :
    (members.filterMap (select choice)).lookup key =
      (members.lookup key).bind fun value ↦ (choice key).map (· value) := by
  induction members with
  | nil => rfl
  | cons member rest ih =>
    obtain ⟨first, value⟩ := member
    by_cases hkey : key = first
    · subst hkey
      cases hchoice : choice key with
      | none =>
        rw [List.filterMap_cons_none (select_of_none hchoice value), ih, hchoice]
        simp
      | some change =>
        rw [List.filterMap_cons_some (select_of_some hchoice value)]
        simp
    · rw [List.lookup_cons, beq_false_of_ne hkey, ← ih]
      cases hchoice : choice first with
      | none => rw [List.filterMap_cons_none (select_of_none hchoice value)]
      | some change =>
        rw [List.filterMap_cons_some (select_of_some hchoice value), List.lookup_cons,
          beq_false_of_ne hkey]

end Select

end ChainParams.Json
