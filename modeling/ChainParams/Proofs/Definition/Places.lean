import Mathlib.Tactic
import ChainParams.Definition.Record
import ChainParams.Proofs.Computation

/-!
# Places in records

A record has the value of a field under its key in an object and at its number in an array. Either
way a value that does not fit its field makes the record unreadable, and the fault of the record is
that of one of its values.
-/

namespace ChainParams

namespace Json

/-- Where an object or an array has a value. -/
inductive Place where
  | member (key : String)
  | item (index : Nat)

inductive HasPart : Json → Place → Json → Prop
  | member {members : List (String × Json)} {key : String} {part : Json}
      (h : (key, part) ∈ members) : HasPart (.obj members) (.member key) part
  | item {items : List Json} {index : Nat} {part : Json}
      (h : items[index]? = some part) : HasPart (.arr items) (.item index) part

/-- Where a record has the value of one field. -/
structure Slot where
  key : String
  index : Nat

inductive Slot.Has (slot : Slot) : Place → Prop
  | member : slot.Has (.member slot.key)
  | item : slot.Has (.item slot.index)

/-- The value in a slot. -/
def at? (slot : Slot) : Json → Option Json
  | .obj members => members.lookup slot.key
  | .arr items => items[slot.index]?
  | _ => none

/-- Changes the value of the first member with a key. -/
def modifyMember (key : String) (f : Json → Json) : List (String × Json) → List (String × Json)
  | [] => []
  | member :: rest =>
    if key = member.1 then (key, f member.2) :: rest else member :: modifyMember key f rest

/-- Changes the value in a slot. -/
def modifyAt (slot : Slot) (f : Json → Json) : Json → Json
  | .obj members => .obj (modifyMember slot.key f members)
  | .arr items => .arr (items.modify slot.index f)
  | value => value

theorem mem_of_lookup {members : List (String × Json)} {key : String} {value : Json}
    (h : members.lookup key = some value) : (key, value) ∈ members := by
  obtain ⟨before, after, rfl, -⟩ := List.lookup_eq_some_iff.mp h
  simp

theorem exists_hasPart_of_at? {slot : Slot} {value part : Json} (h : value.at? slot = some part) :
    ∃ place, slot.Has place ∧ value.HasPart place part := by
  cases value with
  | obj members => exact ⟨_, .member, .member (mem_of_lookup h)⟩
  | arr items => exact ⟨_, .item, .item h⟩
  | _ => cases h

section Modify

variable (f : Json → Json)

theorem lookup_modifyMember_self (key : String) (members : List (String × Json)) :
    (modifyMember key f members).lookup key = (members.lookup key).map f := by
  induction members with
  | nil => rfl
  | cons member rest ih =>
    obtain ⟨name, value⟩ := member
    by_cases hkey : key = name
    · simp [modifyMember, hkey]
    · have hname : (key == name) = false := beq_false_of_ne hkey
      rw [modifyMember, if_neg hkey, List.lookup_cons, List.lookup_cons, hname]
      exact ih

theorem lookup_modifyMember_of_ne {key other : String} (h : other ≠ key)
    (members : List (String × Json)) :
    (modifyMember key f members).lookup other = members.lookup other := by
  induction members with
  | nil => rfl
  | cons member rest ih =>
    obtain ⟨name, value⟩ := member
    by_cases hkey : key = name
    · have hother : (other == name) = false := beq_false_of_ne (hkey ▸ h)
      simp [modifyMember, List.lookup_cons, hkey, hother]
    · simp [modifyMember, List.lookup_cons, hkey, ih]

theorem mem_modifyMember_or (key : String) {members : List (String × Json)}
    {member : String × Json} (h : member ∈ members) :
    member ∈ modifyMember key f members ∨
      member.1 = key ∧ members.lookup key = some member.2 := by
  induction members with
  | nil => cases h
  | cons first rest ih =>
    obtain ⟨name, value⟩ := first
    rw [modifyMember, List.lookup_cons]
    split_ifs with hkey
    · rcases List.mem_cons.mp h with rfl | hrest
      · exact .inr ⟨hkey.symm, by simp [hkey]⟩
      · exact .inl (List.mem_cons_of_mem _ hrest)
    · rcases List.mem_cons.mp h with rfl | hrest
      · exact .inl (List.mem_cons_self ..)
      · rw [beq_false_of_ne hkey]
        exact (ih hrest).imp_left (List.mem_cons_of_mem _)

theorem at?_modifyAt_self (slot : Slot) (value : Json) :
    (value.modifyAt slot f).at? slot = (value.at? slot).map f := by
  cases value with
  | obj members => exact lookup_modifyMember_self f slot.key members
  | arr items => simp [modifyAt, at?]
  | _ => rfl

theorem at?_modifyAt_of_ne {slot other : Slot} (hkey : other.key ≠ slot.key)
    (hindex : other.index ≠ slot.index) (value : Json) :
    (value.modifyAt slot f).at? other = value.at? other := by
  cases value with
  | obj members => exact lookup_modifyMember_of_ne f hkey members
  | arr items => simp [modifyAt, at?, hindex.symm]
  | _ => rfl

/-- A change leaves every part where it is, but for the one in the slot. -/
theorem hasPart_modifyAt_or {slot : Slot} {value part : Json} {place : Place}
    (h : value.HasPart place part) :
    (value.modifyAt slot f).HasPart place part ∨
      slot.Has place ∧ value.at? slot = some part := by
  cases h with
  | @member members key _ h =>
    rcases mem_modifyMember_or f slot.key h with hmem | ⟨rfl, hlookup⟩
    · exact .inl (.member hmem)
    · exact .inr ⟨.member, hlookup⟩
  | @item items index _ h =>
    by_cases hindex : slot.index = index
    · subst hindex
      exact .inr ⟨.item, h⟩
    · exact .inl (.item (by simp [hindex, h]))

end Modify

end Json

namespace Definition

open Json

variable {α β γ : Type}

namespace Fields

/-- What is wrong with an item of an array. -/
def itemFault? {α : Type} (item : Json) : Fields α → Nat → Option Fault
  | .nil, _ => none
  | .cons field _, 0 =>
    match field.form.read item with
    | .ok _ => none
    | .error fault => some fault
  | .cons _ rest, index + 1 => rest.itemFault? item index

/-- What is wrong with a part of a record. -/
def faultAt? (fields : Fields α) : Place → Json → Option Fault
  | .member key, part => fields.faultOf? (key, part)
  | .item index, part => fields.itemFault? part index

/-- What stands in the slot is read in the form. -/
def Reads (fields : Fields α) (slot : Slot) (form : Form γ) : Prop :=
  ∀ place part fault, slot.Has place →
    (fields.faultAt? place part = some fault ↔ form.read part = .error fault)

theorem reads_head (field : Field α) (rest : Fields β) :
    (cons field rest).Reads ⟨field.key, 0⟩ field.form := by
  rintro place part fault (_ | _)
  · simp only [faultAt?, faultOf?, if_true]
    split <;> simp [*]
  · simp only [faultAt?, itemFault?]
    split <;> simp [*]

theorem Reads.tail {rest : Fields β} {key : String} {index : Nat} {form : Form γ}
    (h : rest.Reads ⟨key, index⟩ form) {field : Field α} (hkey : key ≠ field.key) :
    (cons field rest).Reads ⟨key, index + 1⟩ form := by
  rintro place part fault (_ | _)
  · have hrest := h _ part fault .member
    simpa only [faultAt?, faultOf?, if_neg hkey] using hrest
  · exact h _ _ _ .item

/-! ## Objects -/

theorem faultOf?_of_readObject {fields : Fields α} {as : α} {members : List (String × Json)}
    (h : fields.readObject members = .ok as) {member : String × Json} (hmember : member ∈ members) :
    fields.faultOf? member = none := by
  unfold readObject at h
  split at h
  · cases h
  · next hnone => exact List.findSome?_eq_none_iff.mp hnone _ hmember

theorem readObject_of_fault {fields : Fields α} {members : List (String × Json)}
    {member : String × Json} (hmember : member ∈ members) (hbad : fields.faultOf? member ≠ none) :
    ∃ member ∈ members, ∃ fault, fields.faultOf? member = some fault ∧
      fields.readObject members = .error fault := by
  unfold readObject
  split
  · next fault hfault =>
    obtain ⟨first, hfirst, hfault⟩ := List.exists_of_findSome?_eq_some hfault
    exact ⟨first, hfirst, fault, hfault, rfl⟩
  · next hnone => exact absurd (List.findSome?_eq_none_iff.mp hnone _ hmember) hbad

/-! ## Arrays -/

theorem itemFault?_of_readItems {α : Type} {fields : Fields α} {as : α} {tooFew : Nat → Fault}
    {start : Nat} {items : List Json} (h : fields.readItems tooFew start items = .ok as)
    {index : Nat} {item : Json} (hitem : items[index]? = some item) :
    fields.itemFault? item index = none := by
  induction fields generalizing start items index with
  | nil => rw [itemFault?]
  | cons field rest ih =>
    rcases items with _ | ⟨first, items⟩
    · cases hitem
    · obtain ⟨value, hvalue, h⟩ := bind_eq_ok_iff.mp h
      obtain ⟨values, hvalues, -⟩ := bind_eq_ok_iff.mp h
      cases index with
      | zero =>
        cases hitem
        rw [itemFault?, hvalue]
      | succ index => exact ih hvalues hitem

theorem readItems_of_fault {α : Type} {fields : Fields α} {tooFew : Nat → Fault} (start : Nat)
    {items : List Json} {index : Nat} {item : Json} (hitem : items[index]? = some item)
    (hbad : fields.itemFault? item index ≠ none) :
    ∃ index item, items[index]? = some item ∧ ∃ fault, fields.itemFault? item index = some fault ∧
      fields.readItems tooFew start items = .error fault := by
  induction fields generalizing start items index with
  | nil => exact absurd (by rw [itemFault?]) hbad
  | cons field rest ih =>
    rcases items with _ | ⟨first, items⟩
    · cases hitem
    · rw [readItems]
      cases hfirst : field.form.read first with
      | error fault => exact ⟨0, first, rfl, fault, by rw [itemFault?, hfirst], rfl⟩
      | ok value =>
        cases index with
        | zero =>
          cases hitem
          rw [itemFault?, hfirst] at hbad
          exact absurd rfl hbad
        | succ index =>
          rw [List.getElem?_cons_succ] at hitem
          rw [itemFault?] at hbad
          obtain ⟨index, item, hitem, fault, hfault, hread⟩ := ih (start + 1) hitem hbad
          refine ⟨index + 1, item, hitem, fault, by rwa [itemFault?], ?_⟩
          rw [hread]
          rfl

end Fields

/-! ## Records -/

namespace Form

variable {name : String} {fields : Fields α} {decode : α → β} {encode : β → α} {value : Json}

/-- All parts of a record that was read fit their fields. -/
theorem faultAt?_of_record {b : β} (h : (record name fields decode encode).read value = .ok b)
    {place : Place} {part : Json} (hpart : value.HasPart place part) :
    fields.faultAt? place part = none := by
  cases hpart with
  | @member members key _ hmem =>
    obtain ⟨as, hread, -⟩ := map_eq_ok_iff.mp h
    exact Fields.faultOf?_of_readObject hread hmem
  | @item items index _ hitem =>
    obtain ⟨as, hread, -⟩ := map_eq_ok_iff.mp h
    exact Fields.itemFault?_of_readItems hread hitem

theorem exists_read_of_record {b : β} (h : (record name fields decode encode).read value = .ok b)
    {slot : Slot} {form : Form γ} (hreads : fields.Reads slot form) {part : Json}
    (hpart : value.at? slot = some part) : ∃ c, form.read part = .ok c := by
  obtain ⟨place, hslot, hpart⟩ := exists_hasPart_of_at? hpart
  cases hread : form.read part with
  | ok c => exact ⟨c, rfl⟩
  | error fault =>
    have hfault := (hreads _ _ _ hslot).mpr hread
    rw [faultAt?_of_record h hpart] at hfault
    cases hfault

/-- A record with a value that does not fit is refused for such a value. -/
theorem error_of_record {slot : Slot} {form : Form γ} (hreads : fields.Reads slot form)
    {bad : Json} (hbad : value.at? slot = some bad) {cause : Fault}
    (hcause : form.read bad = .error cause) :
    ∃ place part fault, value.HasPart place part ∧ fields.faultAt? place part = some fault ∧
      (record name fields decode encode).read value = .error fault := by
  obtain ⟨place, hslot, hpart⟩ := exists_hasPart_of_at? hbad
  have hfault := (hreads _ _ _ hslot).mpr hcause
  have hne : fields.faultAt? place bad ≠ none := by
    rw [hfault]
    exact Option.some_ne_none cause
  cases hpart with
  | @member members key _ hmem =>
    obtain ⟨⟨key, part⟩, hmem, fault, hfault, hread⟩ := Fields.readObject_of_fault hmem hne
    refine ⟨_, _, fault, .member hmem, hfault, ?_⟩
    change (fields.readObject members).map decode = _
    rw [hread, Except.map]
  | @item items index _ hitem =>
    obtain ⟨index, item, hitem, fault, hfault, hread⟩ := Fields.readItems_of_fault 0 hitem hne
    refine ⟨_, _, fault, .item hitem, hfault, ?_⟩
    change (fields.readItems _ 0 items).map decode = _
    rw [hread, Except.map]

/-- If a change of one value makes a record readable, the fault of that value is the only one. -/
theorem error_of_modifyAt {b : β} {slot : Slot} {form : Form γ} (hreads : fields.Reads slot form)
    {f : Json → Json} (h : (record name fields decode encode).read (value.modifyAt slot f) = .ok b)
    {bad : Json} (hbad : value.at? slot = some bad) {cause : Fault}
    (hcause : form.read bad = .error cause) :
    (record name fields decode encode).read value = .error cause := by
  obtain ⟨place, part, fault, hpart, hfault, herror⟩ : ∃ place part fault,
      value.HasPart place part ∧ fields.faultAt? place part = some fault ∧
        (record name fields decode encode).read value = .error fault :=
    error_of_record hreads hbad hcause
  rcases hasPart_modifyAt_or f hpart with hpart | ⟨hslot, hpart⟩
  · rw [faultAt?_of_record h hpart] at hfault
    cases hfault
  · rw [hbad] at hpart
    cases hpart
    have hread := (hreads _ _ _ hslot).mp hfault
    rw [hcause] at hread
    cases hread
    exact herror

end Form

end Definition

end ChainParams
