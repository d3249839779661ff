import ChainParams.Proofs.Definition.Record

/-!
# Fields with defaults

A field with a default has the value that an object gives for it, and the default if the object has
no such member. A member that is added, wherever it stands, replaces the default and nothing else,
and it mends nothing that is wrong with the object. What a field reads depends on no member but its
own.
-/

namespace ChainParams

namespace Json

/-- One more member does not touch the value of another key. -/
theorem lookup_insert_of_ne {key other : String} (h : other ≠ key) (value : Json)
    (before after : List (String × Json)) :
    (before ++ (key, value) :: after).lookup other = (before ++ after).lookup other := by
  rw [List.lookup_append, List.lookup_append, List.lookup_cons, beq_false_of_ne h]

theorem lookup_insert_self {key : String} (value : Json) {before : List (String × Json)}
    (h : key ∉ before.map Prod.fst) (after : List (String × Json)) :
    (before ++ (key, value) :: after).lookup key = some value := by
  rw [List.lookup_append, lookup_eq_none_of_not_mem h, Option.none_or, List.lookup_cons_self]

end Json

namespace Definition

variable {α β γ : Type} {key : String} {form : Form γ} {default : γ}

/-- A field with a default has what its member is read as, or the default if there is none. -/
theorem Field.ofMembers_default_eq_ok_iff {members : List (String × Json)} {c : γ} :
    (Field.default key form default).ofMembers members = .ok c ↔
      (∀ value, members.lookup key = some value → form.read value = .ok c) ∧
        (members.lookup key = none → c = default) := by
  cases hlookup : members.lookup key with
  | none => simp [ofMembers, Field.default, hlookup, eq_comm]
  | some value => simp [ofMembers, Field.default, hlookup]

namespace Fields

/-! ## A field with a default -/

/-- One of the fields has this key, form and default; its value is found with `get` and replaced
with `set`. -/
inductive HasDefault (key : String) (form : Form γ) (default : γ) :
    {α : Type} → Fields α → (α → γ) → (γ → α → α) → Prop
  | head {β : Type} {rest : Fields β} (hrest : key ∉ rest.keys) :
      HasDefault key form default (.cons (.default key form default) rest)
        (fun values ↦ values.1) fun value values ↦ (value, values.2)
  | tail {α β : Type} {field : Field α} {rest : Fields β} {get : β → γ} {set : γ → β → β}
      (hfield : key ≠ field.key) (hrest : HasDefault key form default rest get set) :
      HasDefault key form default (.cons field rest)
        (fun values ↦ get values.2) fun value values ↦ (values.1, set value values.2)

namespace HasDefault

variable {fields : Fields α} {get : α → γ} {set : γ → α → α}

theorem faultOf?_eq_none (h : HasDefault key form default fields get set) {value : Json} {c : γ}
    (hread : form.read value = .ok c) : fields.faultOf? (key, value) = none := by
  induction h with
  | head =>
    have hform : form.read value = .ok c := hread
    simp only [faultOf?, Field.default, if_true, hform]
  | tail hfield _ ih => rw [faultOf?, if_neg hfield, ih]

theorem get_of_ofMembers (h : HasDefault key form default fields get set)
    {members : List (String × Json)} {as : α} (hread : fields.ofMembers members = .ok as) :
    (∀ value, members.lookup key = some value → form.read value = .ok (get as)) ∧
      (members.lookup key = none → get as = default) := by
  induction h with
  | head => exact Field.ofMembers_default_eq_ok_iff.mp (ofMembers_cons_eq_ok_iff.mp hread).1
  | tail _ _ ih => exact ih (ofMembers_cons_eq_ok_iff.mp hread).2

section Insert

variable {value : Json} {c : γ} {before after : List (String × Json)}

/-- The field has the new member's value in place of the default. -/
theorem ofMembers_insert (h : HasDefault key form default fields get set)
    (hvalue : form.read value = .ok c) (hkey : key ∉ (before ++ after).map Prod.fst) :
    fields.ofMembers (before ++ (key, value) :: after) =
      (fields.ofMembers (before ++ after)).map (set c) := by
  have hbefore : key ∉ before.map Prod.fst := by
    rw [List.map_append, List.mem_append, not_or] at hkey
    exact hkey.1
  induction h with
  | @head _ rest hrest =>
    have htail : rest.ofMembers (before ++ (key, value) :: after) =
        rest.ofMembers (before ++ after) := by
      apply ofMembers_congr
      intro other hother
      apply Json.lookup_insert_of_ne
      rintro rfl
      exact hrest hother
    have hgiven : (Field.default key form default).ofMembers (before ++ (key, value) :: after) =
        .ok c := by
      simp only [Field.ofMembers, Field.default, Json.lookup_insert_self value hbefore after,
        hvalue]
    have habsent : (Field.default key form default).ofMembers (before ++ after) = .ok default := by
      simp only [Field.ofMembers, Field.default, Json.lookup_eq_none_of_not_mem hkey]
    rw [ofMembers, ofMembers, hgiven, habsent, htail]
    cases rest.ofMembers (before ++ after) <;> rfl
  | @tail _ _ field rest _ _ hfield _ ih =>
    have hhead : field.ofMembers (before ++ (key, value) :: after) =
        field.ofMembers (before ++ after) := by
      rw [Field.ofMembers, Field.ofMembers, Json.lookup_insert_of_ne hfield.symm]
    rw [ofMembers, ofMembers, hhead, ih]
    cases field.ofMembers (before ++ after) with
    | error fault => rfl
    | ok a => cases rest.ofMembers (before ++ after) <;> rfl

theorem readObject_insert (h : HasDefault key form default fields get set)
    (hvalue : form.read value = .ok c) (hkey : key ∉ (before ++ after).map Prod.fst) :
    fields.readObject (before ++ (key, value) :: after) =
      (fields.readObject (before ++ after)).map (set c) := by
  have hfault : (before ++ (key, value) :: after).findSome? fields.faultOf? =
      (before ++ after).findSome? fields.faultOf? := by
    rw [List.findSome?_append, List.findSome?_append, List.findSome?_cons,
      h.faultOf?_eq_none hvalue]
  rw [readObject, readObject, hfault, h.ofMembers_insert hvalue hkey]
  split <;> rfl

end Insert

end HasDefault

/-! ## The other fields -/

/-- All fields but those with one of the keys have the same values. -/
def AgreeOff (keys : List String) : {α : Type} → Fields α → α → α → Prop
  | _, .nil, (), () => True
  | _, .cons field rest, (a, as), (b, bs) => (field.key ∉ keys → a = b) ∧ rest.AgreeOff keys as bs

theorem agreeOff_of_ofMembers {α : Type} {keys : List String} {fields : Fields α}
    {members others : List (String × Json)} {as bs : α}
    (hsame : ∀ key, key ∉ keys → members.lookup key = others.lookup key)
    (hmembers : fields.ofMembers members = .ok as) (hothers : fields.ofMembers others = .ok bs) :
    fields.AgreeOff keys as bs := by
  induction fields with
  | nil => trivial
  | cons field rest ih =>
    obtain ⟨a, as⟩ := as
    obtain ⟨b, bs⟩ := bs
    obtain ⟨ha, has⟩ := ofMembers_cons_eq_ok_iff.mp hmembers
    obtain ⟨hb, hbs⟩ := ofMembers_cons_eq_ok_iff.mp hothers
    refine ⟨?_, ih has hbs⟩
    intro hkey
    rw [Field.ofMembers, hsame field.key hkey] at ha
    rw [Field.ofMembers, ha] at hb
    exact Except.ok.inj hb

end Fields

end Definition

end ChainParams
