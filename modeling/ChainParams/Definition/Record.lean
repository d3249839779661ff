import ChainParams.Definition.Form

/-!
# Forms of records

A record is written as an object with a member for each field and is read from an object or from an
array of its fields in order.

Of an object the members are read first, in the order in which they stand, which is that of their
keys; the first one that does not fit its field decides, and members with other keys are passed
over. Only then are fields without a member looked at, in their order. Of an array the items and the
fields are gone through together.
-/

namespace ChainParams.Definition

/-- What a field without a value is. -/
inductive Absence (α : Type) where
  | required
  | standsFor (value : α)
  /-- Only an object may leave the field out. -/
  | standsForInObject (value : α)

structure Field (α : Type) where
  key : String
  form : Form α
  absence : Absence α
  /-- Whether a value is not written. -/
  isOmitted : α → Bool

namespace Field

def required {α : Type} (key : String) (form : Form α) : Field α where
  key := key
  form := form
  absence := .required
  isOmitted _ := false

/-- A field that may be left out, but is always written. -/
def default {α : Type} (key : String) (form : Form α) (value : α) : Field α where
  key := key
  form := form
  absence := .standsFor value
  isOmitted _ := false

/-- A field that is written only if there is a value. -/
def optional {α : Type} (key : String) (form : Form α) : Field (Option α) where
  key := key
  form := form.nullable
  absence := .standsFor none
  isOmitted := Option.isNone

/-- A field that is written as null if there is no value. -/
def nullable {α : Type} (key : String) (form : Form α) : Field (Option α) where
  key := key
  form := form.nullable
  absence := .standsForInObject none
  isOmitted _ := false

/-- The field's value in an object. -/
def ofMembers {α : Type} (field : Field α) (members : List (String × Json)) : Except Fault α :=
  match members.lookup field.key with
  | some value => field.form.read value
  | none =>
    match field.absence with
    | .required => .error (.missing field.key)
    | .standsFor value | .standsForInObject value => .ok value

/-- The field's member in an object. -/
def toMembers {α : Type} (field : Field α) (value : α) : List (String × Json) :=
  if field.isOmitted value then [] else [(field.key, field.form.write value)]

end Field

/-- The fields of a record in order, and the type of their values. -/
inductive Fields : Type → Type 1 where
  | nil : Fields Unit
  | cons {α β : Type} (field : Field α) (rest : Fields β) : Fields (α × β)

namespace Fields

def size {α : Type} : Fields α → Nat
  | .nil => 0
  | .cons _ rest => rest.size + 1

/-- What is wrong with a member of an object. -/
def faultOf? {α : Type} (member : String × Json) : Fields α → Option Fault
  | .nil => none
  | .cons field rest =>
    if member.1 = field.key then
      match field.form.read member.2 with
      | .ok _ => none
      | .error fault => some fault
    else rest.faultOf? member

/-- The values of all fields in an object. -/
def ofMembers {α : Type} (members : List (String × Json)) : Fields α → Except Fault α
  | .nil => .ok ()
  | .cons field rest => do
    let value ← field.ofMembers members
    let values ← rest.ofMembers members
    return (value, values)

def readObject {α : Type} (fields : Fields α) (members : List (String × Json)) : Except Fault α :=
  match members.findSome? fields.faultOf? with
  | some fault => .error fault
  | none => fields.ofMembers members

/-- The values of the fields from number `index` on, of the record that `tooFew` is about. -/
def readItems {α : Type} (tooFew : Nat → Fault) (index : Nat) :
    Fields α → List Json → Except Fault α
  | .nil, [] => .ok ()
  | .nil, items => .error (.tooMany (index + items.length))
  | .cons field rest, [] =>
    match field.absence with
    | .standsFor value => do
      let values ← rest.readItems tooFew (index + 1) []
      return (value, values)
    | .required | .standsForInObject _ => .error (tooFew index)
  | .cons field rest, item :: items => do
    let value ← field.form.read item
    let values ← rest.readItems tooFew (index + 1) items
    return (value, values)

def toMembers {α : Type} : Fields α → α → List (String × Json)
  | .nil, () => []
  | .cons field rest, (value, values) => field.toMembers value ++ rest.toMembers values

end Fields

/-- A record whose fields have the values that `encode` gives. -/
def Form.record {α β : Type} (name : String) (fields : Fields α) (decode : α → β) (encode : β → α) :
    Form β where
  read
    | .obj members => (fields.readObject members).map decode
    | .arr items => (fields.readItems (.tooFew · name fields.size) 0 items).map decode
    | value => .error (.wrongType value s!"struct {name}")
  write b := .obj (fields.toMembers (encode b))

end ChainParams.Definition
