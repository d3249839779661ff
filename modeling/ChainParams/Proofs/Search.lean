import Mathlib.Tactic

/-!
# Searching lists

A search finds the first item with a property. Where the property leaves no choice, as with a key
that no two items share, the order of the list does not matter. In an ascending list a key can also
be searched by halves, and any search that keeps its promise finds it at the same place.
-/

namespace ChainParams

variable {α β : Type}

/-- An item is found by its key if the keys differ. -/
theorem find?_key_eq_some_iff [DecidableEq β] {key : α → β} {items : List α}
    (hnodup : (items.map key).Nodup) {b : β} {a : α} :
    items.find? (fun item ↦ key item = b) = some a ↔ a ∈ items ∧ key a = b := by
  constructor
  · intro h
    exact ⟨List.mem_of_find?_eq_some h, by simpa using List.find?_some h⟩
  · rintro ⟨hmem, rfl⟩
    obtain ⟨found, hfound⟩ : ∃ found, items.find? (fun item ↦ key item = key a) = some found := by
      rw [← Option.isSome_iff_exists, List.find?_isSome]
      exact ⟨a, hmem, decide_eq_true rfl⟩
    have hkey : key found = key a := by simpa using List.find?_some hfound
    rw [hfound, List.inj_on_of_nodup_map hnodup (List.mem_of_find?_eq_some hfound) hmem hkey]

/-- In another order a search finds an item that looks the same, if all items with the property look
the same. -/
theorem map_find?_of_perm {items others : List α} (hperm : items.Perm others) {p : α → Bool}
    {view : α → β}
    (hagree : ∀ a ∈ others, ∀ b ∈ others, p a = true → p b = true → view a = view b) :
    (items.find? p).map view = (others.find? p).map view := by
  cases hothers : others.find? p with
  | none =>
    have hnone : items.find? p = none := by
      rw [List.find?_eq_none] at hothers ⊢
      intro a ha
      exact hothers a (hperm.mem_iff.mp ha)
    rw [hnone]
  | some b =>
    have hb := List.mem_of_find?_eq_some hothers
    obtain ⟨a, ha⟩ : ∃ a, items.find? p = some a := by
      rw [← Option.isSome_iff_exists, List.find?_isSome]
      exact ⟨b, hperm.mem_iff.mpr hb, List.find?_some hothers⟩
    have hmem := hperm.mem_iff.mp (List.mem_of_find?_eq_some ha)
    rw [ha, Option.map_some, Option.map_some,
      hagree a hmem b hb (List.find?_some ha) (List.find?_some hothers)]

theorem find?_of_perm {items others : List α} (hperm : items.Perm others) {p : α → Bool}
    (hunique : ∀ a ∈ others, ∀ b ∈ others, p a = true → p b = true → a = b) :
    items.find? p = others.find? p := by
  have hmap : (items.find? p).map id = (others.find? p).map id := map_find?_of_perm hperm hunique
  simpa using hmap

/-! ## Ascending lists -/

/-- A search for a key in ascending lists tells where the key stands, or that it stands nowhere. -/
structure IsKeySearch (search : List UInt32 → UInt32 → Option Nat) : Prop where
  getElem?_of_some : ∀ {keys key index}, keys.Pairwise (· < ·) → search keys key = some index →
    keys[index]? = some key
  not_mem_of_none : ∀ {keys key}, keys.Pairwise (· < ·) → search keys key = none → key ∉ keys

/-- Searches `size` keys from `base` on by halves. -/
def bisect (keys : List UInt32) (key : UInt32) (base size : Nat) : Option Nat :=
  if size ≤ 1 then
    if keys[base]? = some key then some base else none
  else
    match keys[base + size / 2]? with
    | none => none
    | some middle =>
      if key < middle then bisect keys key base (size - size / 2)
      else bisect keys key (base + size / 2) (size - size / 2)
termination_by size

theorem getElem?_of_bisect {keys : List UInt32} {key : UInt32} {base size index : Nat}
    (h : bisect keys key base size = some index) : keys[index]? = some key := by
  fun_induction bisect keys key base size with
  | case1 base size hsize hkey =>
    cases h
    exact hkey
  | case2 => cases h
  | case3 => cases h
  | case4 base size hsize middle hmiddle hlt ih => exact ih h
  | case5 base size hsize middle hmiddle hlt ih => exact ih h

theorem getElem?_lt_getElem? {keys : List UInt32} (hkeys : keys.Pairwise (· < ·)) {i j : Nat}
    {a b : UInt32} (ha : keys[i]? = some a) (hb : keys[j]? = some b) (hij : i < j) : a < b := by
  obtain ⟨hi, rfl⟩ := List.getElem?_eq_some_iff.mp ha
  obtain ⟨hj, rfl⟩ := List.getElem?_eq_some_iff.mp hb
  exact List.pairwise_iff_getElem.mp hkeys i j hi hj hij

/-- A key is in the half in which the search goes on. -/
theorem bisect_eq_some {keys : List UInt32} (hkeys : keys.Pairwise (· < ·)) {key : UInt32}
    {base size index : Nat} (hkey : keys[index]? = some key) (hlow : base ≤ index)
    (hhigh : index < base + size) (hsize : base + size ≤ keys.length) :
    bisect keys key base size = some index := by
  fun_induction bisect keys key base size with
  | case1 base size hone hfound =>
    congr 1
    omega
  | case2 base size hone hfound =>
    have heq : base = index := by omega
    exact absurd (heq ▸ hkey) hfound
  | case3 base size hmore hnone =>
    rw [List.getElem?_eq_none_iff] at hnone
    omega
  | case4 base size hmore middle hmiddle hlt ih =>
    have hbefore : index < base + size / 2 := by
      by_contra hafter
      rcases Nat.lt_or_eq_of_le (Nat.le_of_not_lt hafter) with hafter | rfl
      · exact UInt32.lt_asymm hlt (getElem?_lt_getElem? hkeys hmiddle hkey hafter)
      · rw [hmiddle] at hkey
        cases hkey
        exact UInt32.lt_irrefl _ hlt
    exact ih hlow (by omega) (by omega)
  | case5 base size hmore middle hmiddle hge ih =>
    have hfrom : base + size / 2 ≤ index := by
      by_contra hbefore
      exact hge (getElem?_lt_getElem? hkeys hkey hmiddle (Nat.lt_of_not_le hbefore))
    exact ih hfrom (by omega) (by omega)

theorem isKeySearch_bisect : IsKeySearch fun keys key ↦ bisect keys key 0 keys.length where
  getElem?_of_some _ h := getElem?_of_bisect h
  not_mem_of_none hkeys hnone hmem := by
    obtain ⟨index, hkey⟩ := List.mem_iff_getElem?.mp hmem
    obtain ⟨hindex, -⟩ := List.getElem?_eq_some_iff.mp hkey
    rw [bisect_eq_some hkeys hkey (Nat.zero_le _) (by omega) (by omega)] at hnone
    cases hnone

end ChainParams
