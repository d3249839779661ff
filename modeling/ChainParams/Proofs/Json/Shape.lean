import ChainParams.Proofs.Json.Sorted

/-!
# Values that are spelled differently

Which members of an object count is up to what the object stands for. A shape tells that: a record
passes over members that are none of its fields, everything else counts all members. A value is
spelled differently if members are moved or if members that are passed over come or go, at any depth.
What remains once the members are sorted and those passed over are left out is the same for every
spelling.
-/

namespace ChainParams.Json

inductive Shape where
  /-- A value of which every member counts. -/
  | plain
  /-- An object with fields, or the array of their values in order. -/
  | record (fields : List (String × Shape))
  | list (item : Shape)
  /-- An object whose keys are no field names, with entries of one shape. -/
  | table (entry : Shape)
  /-- One value of a shape or an array of them. -/
  | document (value : Shape)

namespace Shape

/-- What a member of an object stands for, or nothing if it is passed over. -/
def member? : Shape → String → Option Shape
  | .record fields, key => fields.lookup key
  | .table entry, _ => some entry
  | .document value, key => value.member? key
  | .plain, _ | .list _, _ => some .plain

/-- What an item of an array stands for. -/
def item : Shape → Nat → Shape
  | .record fields, index => (fields[index]?.map Prod.snd).getD .plain
  | .list item, _ => item
  | .document value, _ => value
  | .plain, _ | .table _, _ => .plain

end Shape

/-! ## Changes of the spelling -/

/-- One change of the spelling of a value. -/
inductive Respelling : Shape → Json → Json → Prop
  /-- The members of an object with distinct keys are moved. -/
  | reorder {shape : Shape} {members others : List (String × Json)} (hperm : members.Perm others)
      (hkeys : (members.map Prod.fst).Nodup) : Respelling shape (.obj members) (.obj others)
  /-- A member that is passed over is left out. -/
  | drop {shape : Shape} {before after : List (String × Json)} {key : String} {value : Json}
      (hkey : shape.member? key = none) :
      Respelling shape (.obj (before ++ (key, value) :: after)) (.obj (before ++ after))
  | member {shape part : Shape} {before after : List (String × Json)} {key : String}
      {value other : Json} (hkey : shape.member? key = some part)
      (h : Respelling part value other) :
      Respelling shape (.obj (before ++ (key, value) :: after))
        (.obj (before ++ (key, other) :: after))
  | item {shape : Shape} {before after : List Json} {value other : Json}
      (h : Respelling (shape.item before.length) value other) :
      Respelling shape (.arr (before ++ value :: after)) (.arr (before ++ other :: after))

/-- The values differ only in the order of members and in members that are passed over: one becomes
the other by changes of the spelling, there and back. -/
def SpelledAlike (shape : Shape) : Json → Json → Prop :=
  Relation.EqvGen (Respelling shape)

/-! ## What counts -/

namespace Shape

mutual

/-- The value without the members that are passed over. -/
def prune : Shape → Json → Json
  | shape, .arr items => .arr (pruneItems shape 0 items)
  | shape, .obj members => .obj (pruneMembers shape members)
  | _, value => value

/-- Items from a number on. -/
def pruneItems : Shape → Nat → List Json → List Json
  | _, _, [] => []
  | shape, index, item :: rest =>
    (shape.item index).prune item :: pruneItems shape (index + 1) rest

def pruneMembers : Shape → List (String × Json) → List (String × Json)
  | _, [] => []
  | shape, (key, value) :: rest =>
    match shape.member? key with
    | some part => (key, part.prune value) :: pruneMembers shape rest
    | none => pruneMembers shape rest

end

/-- What becomes of the value of a member. -/
def pruning (shape : Shape) (key : String) : Option (Json → Json) :=
  (shape.member? key).map prune

theorem pruning_of_none {shape : Shape} {key : String} (h : shape.member? key = none) :
    shape.pruning key = none := by
  rw [pruning, h, Option.map_none]

theorem pruning_of_some {shape part : Shape} {key : String} (h : shape.member? key = some part) :
    shape.pruning key = some part.prune := by
  rw [pruning, h, Option.map_some]

theorem pruneMembers_eq_filterMap (shape : Shape) (members : List (String × Json)) :
    shape.pruneMembers members = members.filterMap (select shape.pruning) := by
  induction members with
  | nil => rfl
  | cons member rest ih =>
    obtain ⟨key, value⟩ := member
    rw [pruneMembers, List.filterMap_cons, select, pruning, ← ih]
    cases shape.member? key <;> rfl

theorem pruneItems_append (shape : Shape) (start : Nat) (before after : List Json) :
    shape.pruneItems start (before ++ after) =
      shape.pruneItems start before ++ shape.pruneItems (start + before.length) after := by
  induction before generalizing start with
  | nil => rfl
  | cons item before ih =>
    rw [List.cons_append, pruneItems, ih, pruneItems, List.length_cons, Nat.add_assoc,
      Nat.add_comm 1, List.cons_append]

theorem length_pruneItems (shape : Shape) (start : Nat) (items : List Json) :
    (shape.pruneItems start items).length = items.length := by
  induction items generalizing start with
  | nil => rfl
  | cons item items ih => rw [pruneItems, List.length_cons, List.length_cons, ih]

theorem mapM_pruneItems {ε α : Type} {shape : Shape} {f : Json → Except ε α}
    (h : ∀ index item, f ((shape.item index).prune item) = f item) (start : Nat)
    (items : List Json) : (shape.pruneItems start items).mapM f = items.mapM f := by
  induction items generalizing start with
  | nil => rfl
  | cons item items ih => rw [pruneItems, List.mapM_cons, List.mapM_cons, h, ih]

mutual

theorem prune_plain : ∀ value, plain.prune value = value
  | .arr items => congrArg Json.arr (pruneItems_eq_self (fun _ ↦ rfl) 0 items)
  | .obj members => congrArg Json.obj (pruneMembers_eq_self (fun _ ↦ rfl) members)
  | .null | .bool _ | .int _ | .float _ _ | .str _ => rfl

theorem pruneItems_eq_self {shape : Shape} (h : ∀ index, shape.item index = .plain) :
    ∀ start items, shape.pruneItems start items = items
  | _, [] => rfl
  | start, item :: items => by
    rw [pruneItems, h, prune_plain item, pruneItems_eq_self h (start + 1) items]

theorem pruneMembers_eq_self {shape : Shape} (h : ∀ key, shape.member? key = some .plain) :
    ∀ members, shape.pruneMembers members = members
  | [] => rfl
  | (key, value) :: rest => by
    rw [pruneMembers, h]
    simp only [prune_plain value, pruneMembers_eq_self h rest]

end

/-- It does not matter whether members are passed over before they are sorted or after. -/
theorem prune_sorted_obj (shape : Shape) (members : List (String × Json)) :
    shape.prune (Json.obj members).sorted =
      .obj (sortMembers ((sortedMembers members).filterMap (select shape.pruning))) := by
  rw [sorted, prune, pruneMembers_eq_filterMap, filterMap_sortMembers]

end Shape

/-- What counts does not change with the spelling. -/
theorem Respelling.prune_sorted {shape : Shape} {value other : Json}
    (h : Respelling shape value other) : shape.prune value.sorted = shape.prune other.sorted := by
  induction h with
  | @reorder shape members others hperm hkeys =>
    have hsorted : sortMembers (sortedMembers members) = sortMembers (sortedMembers others) := by
      apply sortMembers_eq_of_perm
      · rw [sortedMembers_eq_map, sortedMembers_eq_map]
        exact hperm.map _
      · rwa [keys_sortedMembers]
    rw [sorted, sorted, hsorted]
  | @drop shape before after key value hkey =>
    have hnone := select_of_none (Shape.pruning_of_none hkey) value.sorted
    rw [Shape.prune_sorted_obj, Shape.prune_sorted_obj, sortedMembers_append,
      sortedMembers_append, sortedMembers, List.filterMap_append, List.filterMap_append,
      List.filterMap_cons_none hnone]
  | @member shape part before after key value other hkey _ ih =>
    have hsome := select_of_some (Shape.pruning_of_some hkey)
    rw [Shape.prune_sorted_obj, Shape.prune_sorted_obj, sortedMembers_append,
      sortedMembers_append, sortedMembers, sortedMembers, List.filterMap_append,
      List.filterMap_append, List.filterMap_cons_some (hsome value.sorted),
      List.filterMap_cons_some (hsome other.sorted), ih]
  | @item shape before after value other _ ih =>
    have hlength : (sortedItems before).length = before.length := by
      rw [sortedItems_eq_map, List.length_map]
    rw [sorted, sorted, Shape.prune, Shape.prune, sortedItems_append, sortedItems_append,
      Shape.pruneItems_append, Shape.pruneItems_append, hlength, Nat.zero_add, sortedItems,
      sortedItems, Shape.pruneItems, Shape.pruneItems, ih]

theorem SpelledAlike.prune_sorted {shape : Shape} {value other : Json}
    (h : SpelledAlike shape value other) : shape.prune value.sorted = shape.prune other.sorted := by
  induction h with
  | rel value other h => exact h.prune_sorted
  | refl value => rfl
  | symm value other _ ih => exact ih.symm
  | trans value middle other _ _ ih ih' => exact ih.trans ih'

end ChainParams.Json
