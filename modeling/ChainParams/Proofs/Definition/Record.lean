import ChainParams.Definition.Record
import ChainParams.Proofs.Definition.Form

/-!
# Records that keep a value

If every field of a record keeps its value, or leaves it out and gives it back for a missing member,
then the record keeps all of them together. The keys of the fields must differ, as a value is found
by its key once the members are sorted.
-/

namespace ChainParams.Definition

variable {α β : Type}

/-- What a field is when its member is missing. -/
def Absence.Gives (absence : Absence α) (a : α) : Prop :=
  absence = .standsFor a ∨ absence = .standsForInObject a

/-- The field's value is written and read back, or it is left out and comes back all the same. -/
def Field.Keeps (field : Field α) (depth : Nat) (a : α) : Prop :=
  if field.isOmitted a then field.absence.Gives a else field.form.Keeps depth a

namespace Field

theorem keeps_required {key : String} {form : Form α} {depth : Nat} {a : α}
    (h : form.Keeps depth a) : (required key form).Keeps depth a := h

theorem keeps_default {key : String} {form : Form α} {value : α} {depth : Nat} {a : α}
    (h : form.Keeps depth a) : (default key form value).Keeps depth a := h

/-- An optional value of a type whose values are not written as null. -/
theorem keeps_optional {key : String} {form : Form α} {depth : Nat}
    (h : ∀ a, form.Keeps depth a) (hnull : ∀ a, form.write a ≠ .null) (a : Option α) :
    (optional key form).Keeps depth a := by
  cases a with
  | none => exact .inl rfl
  | some a => exact (h a).nullable_some (hnull a)

theorem keeps_nullable {key : String} {form : Form α} {depth : Nat}
    (h : ∀ a, form.Keeps depth a) (hnull : ∀ a, form.write a ≠ .null) (a : Option α) :
    (nullable key form).Keeps depth a := by
  cases a with
  | none => exact Form.Keeps.nullable_none form depth
  | some a => exact (h a).nullable_some (hnull a)

/-- A field reads its value from any members in which its key stands for what was written. -/
theorem ofMembers_of_keeps {field : Field α} {depth : Nat} {a : α} (h : field.Keeps depth a)
    {members : List (String × Json)}
    (hlookup : members.lookup field.key =
      ((field.toMembers a).lookup field.key).map Json.sorted) :
    field.ofMembers members = .ok a := by
  unfold Keeps at h
  unfold toMembers at hlookup
  split_ifs at h hlookup with homitted
  · rcases h with habsence | habsence <;> simp [ofMembers, hlookup, habsence]
  · simpa [ofMembers, hlookup] using h.read

end Field

namespace Fields

def keys {α : Type} : Fields α → List String
  | .nil => []
  | .cons field rest => field.key :: rest.keys

/-- Every field keeps its value. -/
def Keep {α : Type} (depth : Nat) : Fields α → α → Prop
  | .nil, () => True
  | .cons field rest, (a, as) => field.Keeps depth a ∧ rest.Keep depth as

theorem keys_toMembers_sublist {α : Type} (fields : Fields α) (as : α) :
    ((fields.toMembers as).map Prod.fst).Sublist fields.keys := by
  induction fields with
  | nil => exact .slnil
  | cons field rest ih =>
    obtain ⟨a, as⟩ := as
    rw [toMembers, List.map_append, Field.toMembers]
    split
    · exact (ih as).cons field.key
    · exact (ih as).cons_cons field.key

theorem membersFit_toMembers {α : Type} {depth : Nat} {fields : Fields α} {as : α}
    (h : fields.Keep depth as) : Json.MembersFit depth (fields.toMembers as) := by
  induction fields with
  | nil => trivial
  | cons field rest ih =>
    obtain ⟨a, as⟩ := as
    obtain ⟨hfield, hrest⟩ := h
    unfold Field.Keeps at hfield
    rw [toMembers, Field.toMembers]
    split_ifs at hfield ⊢ with homitted
    · exact ih hrest
    · exact ⟨hfield.fits, ih hrest⟩

/-- A key of no field is not written. -/
theorem lookup_eq_none {α : Type} {fields : Fields α} (as : α) {key : String}
    (h : key ∉ fields.keys) : (fields.toMembers as).lookup key = none :=
  Json.lookup_eq_none_of_not_mem fun hmem ↦ h ((keys_toMembers_sublist fields as).subset hmem)

theorem lookup_cons_self {field : Field α} {rest : Fields β} (h : field.key ∉ rest.keys)
    (a : α) (as : β) :
    ((cons field rest).toMembers (a, as)).lookup field.key =
      (field.toMembers a).lookup field.key := by
  rw [toMembers, List.lookup_append, lookup_eq_none as h, Option.or_none]

theorem lookup_cons_of_ne {field : Field α} {rest : Fields β} {key : String} (h : key ≠ field.key)
    (a : α) (as : β) :
    ((cons field rest).toMembers (a, as)).lookup key = (rest.toMembers as).lookup key := by
  have hfield : (field.toMembers a).lookup key = none := by
    unfold Field.toMembers
    split <;> simp [h]
  rw [toMembers, List.lookup_append, hfield, Option.none_or]

theorem ofMembers_cons_eq_ok_iff {field : Field α} {rest : Fields β}
    {members : List (String × Json)} {values : α × β} :
    (cons field rest).ofMembers members = .ok values ↔
      field.ofMembers members = .ok values.1 ∧ rest.ofMembers members = .ok values.2 := by
  obtain ⟨a, as⟩ := values
  rw [ofMembers]
  cases field.ofMembers members <;> cases rest.ofMembers members <;>
    simp [bind, Except.bind, pure, Except.pure]

theorem ofMembers_of_readObject {fields : Fields α} {as : α} {members : List (String × Json)}
    (h : fields.readObject members = .ok as) : fields.ofMembers members = .ok as := by
  unfold readObject at h
  split at h
  · cases h
  · exact h

theorem ofMembers_congr {α : Type} {fields : Fields α} {members others : List (String × Json)}
    (h : ∀ key ∈ fields.keys, members.lookup key = others.lookup key) :
    fields.ofMembers members = fields.ofMembers others := by
  induction fields with
  | nil => rfl
  | cons field rest ih =>
    obtain ⟨hfirst, hrest⟩ := List.forall_mem_cons.mp h
    have hhead : field.ofMembers members = field.ofMembers others := by
      rw [Field.ofMembers, Field.ofMembers, hfirst]
    rw [ofMembers, ofMembers, hhead, ih hrest]

/-- What the fields are read from fits them, unless another member hides it. -/
theorem faultOf?_of_ofMembers {α : Type} {fields : Fields α} {as : α}
    {members : List (String × Json)} (hkeys : (members.map Prod.fst).Nodup)
    (h : fields.ofMembers members = .ok as) {member : String × Json} (hmember : member ∈ members) :
    fields.faultOf? member = none := by
  induction fields with
  | nil => rfl
  | cons field rest ih =>
    obtain ⟨hhead, htail⟩ := ofMembers_cons_eq_ok_iff.mp h
    rw [faultOf?]
    split_ifs with hkey
    · have hlookup : members.lookup field.key = some member.2 :=
        (Json.lookup_eq_some_iff_mem hkeys).mpr (hkey ▸ hmember)
      have hread : field.form.read member.2 = .ok as.1 := by
        simpa only [Field.ofMembers, hlookup] using hhead
      rw [hread]
    · exact ih htail

/-- As long as the keys differ, the members are read if the fields find what they need. -/
theorem readObject_eq_ok_iff {fields : Fields α} {as : α} {members : List (String × Json)}
    (hkeys : (members.map Prod.fst).Nodup) :
    fields.readObject members = .ok as ↔ fields.ofMembers members = .ok as := by
  refine ⟨ofMembers_of_readObject, fun h ↦ ?_⟩
  have hfault : members.findSome? fields.faultOf? = none :=
    List.findSome?_eq_none_iff.mpr fun _ ↦ faultOf?_of_ofMembers hkeys h
  rw [readObject, hfault, h]

/-- Members with distinct keys may stand in any order. -/
theorem readObject_of_perm {fields : Fields α} {as : α} {members others : List (String × Json)}
    (h : fields.readObject members = .ok as) (hperm : others.Perm members)
    (hkeys : (members.map Prod.fst).Nodup) : fields.readObject others = .ok as := by
  have hsame : fields.ofMembers others = fields.ofMembers members :=
    ofMembers_congr fun key _ ↦ Json.lookup_eq_of_perm hperm hkeys key
  rw [readObject_eq_ok_iff ((hperm.map Prod.fst).nodup_iff.mpr hkeys), hsame]
  exact ofMembers_of_readObject h

/-- Every field finds its value among the members that were written. -/
theorem ofMembers_eq_ok {α : Type} {depth : Nat} {fields : Fields α} {as : α}
    (hkeys : fields.keys.Nodup) (h : fields.Keep depth as) {members : List (String × Json)}
    (hlookup : ∀ key ∈ fields.keys,
      members.lookup key = ((fields.toMembers as).lookup key).map Json.sorted) :
    fields.ofMembers members = .ok as := by
  induction fields with
  | nil => rfl
  | cons field rest ih =>
    obtain ⟨a, as⟩ := as
    obtain ⟨hfield, hrest⟩ := h
    obtain ⟨hkey, hkeys⟩ := List.nodup_cons.mp hkeys
    have hhead : field.ofMembers members = .ok a := by
      apply Field.ofMembers_of_keeps hfield
      rw [hlookup _ (List.mem_cons_self ..), lookup_cons_self hkey]
    have htail : rest.ofMembers members = .ok as := by
      apply ih hkeys hrest
      intro key hmem
      have hne : key ≠ field.key := fun heq ↦ hkey (heq ▸ hmem)
      rw [hlookup key (List.mem_cons_of_mem _ hmem), lookup_cons_of_ne hne]
    exact ofMembers_cons_eq_ok_iff.mpr ⟨hhead, htail⟩

/-- The fields are read from the members that were written, once these are sorted. -/
theorem readObject_sorted {α : Type} {depth : Nat} {fields : Fields α} {as : α}
    (hkeys : fields.keys.Nodup) (h : fields.Keep depth as) :
    fields.readObject (Json.sortMembers (Json.sortedMembers (fields.toMembers as))) = .ok as := by
  have hnodup : ((fields.toMembers as).map Prod.fst).Nodup :=
    (keys_toMembers_sublist fields as).nodup hkeys
  have hnodup' : ((Json.sortedMembers (fields.toMembers as)).map Prod.fst).Nodup := by
    rwa [Json.keys_sortedMembers]
  have hsorted : ((Json.sortMembers (Json.sortedMembers (fields.toMembers as))).map
      Prod.fst).Nodup :=
    ((Json.sortMembers_perm hnodup').map Prod.fst).nodup_iff.mpr hnodup'
  apply (readObject_eq_ok_iff hsorted).mpr
  apply ofMembers_eq_ok hkeys h
  intro key _
  exact Json.lookup_sorted hnodup key

end Fields

theorem Form.keeps_record {name : String} {fields : Fields α} {decode : α → β} {encode : β → α}
    {depth : Nat} {b : β} (hkeys : fields.keys.Nodup) (h : fields.Keep depth (encode b))
    (hdecode : decode (encode b) = b) :
    (record name fields decode encode).Keeps (depth + 1) b where
  fits := ⟨Nat.succ_pos depth, Fields.membersFit_toMembers h⟩
  read := by
    change (fields.readObject (Json.sortMembers
      (Json.sortedMembers (fields.toMembers (encode b))))).map decode = .ok b
    rw [Fields.readObject_sorted hkeys h, Except.map, hdecode]

/-- A record can be read from its members in any order. -/
theorem Form.read_record_of_perm {name : String} {fields : Fields α} {decode : α → β}
    {encode : β → α} {b : β} {members others : List (String × Json)}
    (h : (record name fields decode encode).read (.obj members) = .ok b)
    (hperm : others.Perm members) (hkeys : (members.map Prod.fst).Nodup) :
    (record name fields decode encode).read (.obj others) = .ok b := by
  obtain ⟨as, hread, rfl⟩ := map_eq_ok_iff.mp h
  exact map_eq_ok_iff.mpr ⟨as, Fields.readObject_of_perm hread hperm hkeys, rfl⟩

end ChainParams.Definition
