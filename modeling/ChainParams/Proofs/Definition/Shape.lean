import ChainParams.Proofs.Definition.Record
import ChainParams.Proofs.Json.Shape

/-!
# Forms with a shape

A form has a shape if it reads a value just as what counts of it: the members that the shape passes
over make no difference, neither to what is read nor to what is wrong. Every form has the shape of a
value of which all members count. A form made from others has the shape made from theirs, and a
record that of its fields under their keys.
-/

namespace ChainParams.Definition

open Json (Shape select select_of_none select_of_some)

variable {α β : Type}

/-- What is passed over by the shape makes no difference to the form. -/
def Form.HasShape (form : Form α) (shape : Shape) : Prop :=
  ∀ value, form.read (shape.prune value) = form.read value

namespace Form

/-! ## Making forms -/

theorem hasShape_plain (form : Form α) : form.HasShape .plain := fun value ↦ by
  rw [Shape.prune_plain]

theorem HasShape.refine {form : Form α} {shape : Shape} (h : form.HasShape shape)
    (decode : α → Except Fault β) (encode : β → α) :
    (form.refine decode encode).HasShape shape :=
  fun value ↦ congrArg (Except.bind · decode) (h value)

theorem HasShape.nullable {form : Form α} {shape : Shape} (h : form.HasShape shape) :
    form.nullable.HasShape shape := by
  intro value
  cases value with
  | arr items => exact congrArg (Except.map some) (h (.arr items))
  | obj members => exact congrArg (Except.map some) (h (.obj members))
  | _ => rfl

theorem HasShape.list {form : Form α} {shape : Shape} (h : form.HasShape shape) :
    form.list.HasShape (.list shape) := by
  intro value
  cases value with
  | arr items =>
    have hitem (index : Nat) (item : Json) :
        form.read (((Shape.list shape).item index).prune item) = form.read item := h item
    exact Shape.mapM_pruneItems hitem 0 items
  | obj members =>
    have hplain : (Shape.list shape).prune (.obj members) = .obj members :=
      congrArg Json.obj (Shape.pruneMembers_eq_self (fun _ ↦ rfl) members)
    rw [hplain]
  | _ => rfl

end Form

/-! ## Records -/

namespace Fields

/-- The fields have these keys and forms with these shapes. -/
inductive HaveShapes : {α : Type} → Fields α → List (String × Shape) → Prop
  | nil : HaveShapes .nil []
  | cons {α β : Type} {field : Field α} {rest : Fields β} {shape : Shape}
      {shapes : List (String × Shape)} (hfield : field.form.HasShape shape)
      (hrest : rest.HaveShapes shapes) :
      HaveShapes (.cons field rest) ((field.key, shape) :: shapes)

theorem haveShapes_plain {α : Type} (fields : Fields α) :
    fields.HaveShapes (fields.keys.map fun key ↦ (key, .plain)) := by
  induction fields with
  | nil => exact .nil
  | cons field rest ih => exact .cons field.form.hasShape_plain ih

theorem HaveShapes.keys_eq {fields : Fields α} {shapes : List (String × Shape)}
    (h : fields.HaveShapes shapes) : fields.keys = shapes.map Prod.fst := by
  induction h with
  | nil => rfl
  | cons _ _ ih => rw [keys, ih, List.map_cons]

theorem HaveShapes.faultOf?_eq_none {fields : Fields α} {shapes : List (String × Shape)}
    (h : fields.HaveShapes shapes) {key : String} (hkey : shapes.lookup key = none)
    (value : Json) : fields.faultOf? (key, value) = none := by
  induction h with
  | nil => rfl
  | @cons _ _ field rest shape shapes _ _ ih =>
    rw [List.lookup_cons] at hkey
    split at hkey
    · cases hkey
    · next hne =>
      have hne : key ≠ field.key := by simpa using hne
      rw [faultOf?, if_neg hne, ih hkey]

theorem HaveShapes.faultOf?_prune {fields : Fields α} {shapes : List (String × Shape)}
    (h : fields.HaveShapes shapes) {key : String} {part : Shape}
    (hkey : shapes.lookup key = some part) (value : Json) :
    fields.faultOf? (key, part.prune value) = fields.faultOf? (key, value) := by
  induction h with
  | nil => rfl
  | @cons _ _ field rest shape shapes hfield _ ih =>
    rw [List.lookup_cons] at hkey
    split at hkey
    · next heq =>
      cases hkey
      simp only [faultOf?, if_pos (eq_of_beq heq), hfield value]
    · next hne =>
      have hne : key ≠ field.key := by simpa using hne
      rw [faultOf?, faultOf?, if_neg hne, if_neg hne, ih hkey]

/-- The same member is at fault. -/
theorem HaveShapes.findSome?_faultOf? {fields : Fields α} {shapes : List (String × Shape)}
    (h : fields.HaveShapes shapes) (members : List (String × Json)) :
    (members.filterMap (select (Shape.record shapes).pruning)).findSome? fields.faultOf? =
      members.findSome? fields.faultOf? := by
  induction members with
  | nil => rfl
  | cons member rest ih =>
    obtain ⟨key, value⟩ := member
    rw [List.findSome?_cons]
    cases hkey : (Shape.record shapes).member? key with
    | none =>
      have hnone := select_of_none (Shape.pruning_of_none hkey) value
      rw [List.filterMap_cons_none hnone, h.faultOf?_eq_none hkey value, ih]
    | some part =>
      have hsome := select_of_some (Shape.pruning_of_some hkey) value
      rw [List.filterMap_cons_some hsome, List.findSome?_cons, h.faultOf?_prune hkey value, ih]

theorem HaveShapes.ofMembers_filterMap {fields : Fields α} {shapes : List (String × Shape)}
    (h : fields.HaveShapes shapes) {choice : String → Option (Json → Json)}
    (hchoice : ∀ shape ∈ shapes, choice shape.1 = some shape.2.prune)
    (members : List (String × Json)) :
    fields.ofMembers (members.filterMap (select choice)) = fields.ofMembers members := by
  induction h with
  | nil => rfl
  | @cons _ _ field rest shape shapes hfield _ ih =>
    obtain ⟨hfirst, hrest⟩ := List.forall_mem_cons.mp hchoice
    have hhead : field.ofMembers (members.filterMap (select choice)) = field.ofMembers members := by
      rw [Field.ofMembers, Field.ofMembers, Json.lookup_filterMap_select, hfirst]
      cases members.lookup field.key with
      | none => rfl
      | some value => exact hfield value
    rw [ofMembers, ofMembers, hhead, ih hrest]

theorem HaveShapes.readObject_prune {fields : Fields α} {shapes : List (String × Shape)}
    (h : fields.HaveShapes shapes) (hkeys : fields.keys.Nodup) (members : List (String × Json)) :
    fields.readObject ((Shape.record shapes).pruneMembers members) = fields.readObject members := by
  have hchoice : ∀ shape ∈ shapes, (Shape.record shapes).pruning shape.1 = some shape.2.prune := by
    intro shape hshape
    -- As the keys differ, no field hides the shape of another.
    have hlookup := (Json.lookup_eq_some_iff_mem (h.keys_eq ▸ hkeys)).mpr hshape
    exact Shape.pruning_of_some hlookup
  rw [readObject, readObject, Shape.pruneMembers_eq_filterMap, h.findSome?_faultOf?,
    h.ofMembers_filterMap hchoice]

theorem HaveShapes.readItems_prune {fields : Fields α} {shapes : List (String × Shape)}
    (h : fields.HaveShapes shapes) {whole : Shape} {start : Nat}
    (hitem : ∀ index shape, shapes[index]? = some shape → whole.item (start + index) = shape.2)
    (tooFew : Nat → Fault) (number : Nat) (items : List Json) :
    fields.readItems tooFew number (whole.pruneItems start items) =
      fields.readItems tooFew number items := by
  induction h generalizing start number items with
  | nil =>
    cases items with
    | nil => rfl
    | cons item items =>
      change Except.error (Fault.tooMany (number + (whole.pruneItems start (item :: items)).length)) =
        .error (.tooMany (number + (item :: items).length))
      rw [Shape.length_pruneItems]
  | @cons _ _ field rest shape shapes hfield _ ih =>
    cases items with
    | nil => rfl
    | cons item items =>
      have hhead : whole.item start = shape := hitem 0 _ rfl
      -- The other fields have their items one place further on in the whole record.
      have htail : ∀ index shape, shapes[index]? = some shape →
          whole.item (start + 1 + index) = shape.2 := by
        intro index shape hshape
        rw [Nat.add_assoc, Nat.add_comm 1]
        exact hitem (index + 1) shape hshape
      rw [Shape.pruneItems, readItems, readItems, hhead, hfield, ih htail]

end Fields

/-- A record has the shape of its fields under their keys. -/
theorem Form.hasShape_record {name : String} {fields : Fields α} {decode : α → β} {encode : β → α}
    {shapes : List (String × Shape)} (h : fields.HaveShapes shapes) (hkeys : fields.keys.Nodup) :
    (record name fields decode encode).HasShape (.record shapes) := by
  intro value
  cases value with
  | obj members => exact congrArg (Except.map decode) (h.readObject_prune hkeys members)
  | arr items =>
    refine congrArg (Except.map decode) (h.readItems_prune ?_ _ 0 items)
    intro index shape hshape
    rw [Nat.zero_add, Shape.item, hshape]
    rfl
  | _ => rfl

end ChainParams.Definition
