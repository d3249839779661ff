/-!
# Tables

Finite maps, kept as a list of keys with their values. No key stands twice, and the order of the
entries carries no meaning.
-/

namespace ChainParams

structure Table (α β : Type) where
  entries : List (α × β)
  distinct : entries.Pairwise fun a b ↦ a.1 ≠ b.1

namespace Table

variable {α β : Type}

def empty : Table α β := ⟨[], .nil⟩

def size (table : Table α β) : Nat :=
  table.entries.length

def isEmpty (table : Table α β) : Bool :=
  table.entries.isEmpty

variable [DecidableEq α]

def get? (table : Table α β) (key : α) : Option β :=
  table.entries.lookup key

def contains (table : Table α β) (key : α) : Bool :=
  (table.get? key).isSome

/-- Sets the value of a key, in place of an earlier one. -/
def insert (table : Table α β) (key : α) (value : β) : Table α β where
  entries := (key, value) :: table.entries.filter fun entry ↦ entry.1 ≠ key
  distinct := by
    apply List.Pairwise.cons _ (table.distinct.filter _)
    intro entry hentry
    have hne := (List.mem_filter.mp hentry).2
    exact Ne.symm (of_decide_eq_true hne)

@[simp] theorem get?_empty (key : α) : (empty : Table α β).get? key = none := rfl

theorem lookup_filter_ne {key other : α} (h : other ≠ key) (entries : List (α × β)) :
    (entries.filter fun entry ↦ entry.1 ≠ key).lookup other = entries.lookup other := by
  induction entries with
  | nil => rfl
  | cons entry rest ih =>
    obtain ⟨a, b⟩ := entry
    by_cases hkey : a = key
    · have hne : (other == a) = false := by simp [hkey, h]
      rw [List.filter_cons_of_neg (by simp [hkey]), ih]
      simp [List.lookup_cons, hne]
    · rw [List.filter_cons_of_pos (by simp [hkey]), List.lookup_cons, List.lookup_cons, ih]

theorem get?_insert (table : Table α β) (key other : α) (value : β) :
    (table.insert key value).get? other = if other = key then some value else table.get? other := by
  by_cases h : other = key
  · simp [get?, insert, h]
  · have hne : (other == key) = false := by simp [h]
    rw [if_neg h, get?, insert, List.lookup_cons, hne]
    exact lookup_filter_ne h table.entries

theorem contains_insert (table : Table α β) (key other : α) (value : β) :
    (table.insert key value).contains other = (decide (other = key) || table.contains other) := by
  rw [contains, get?_insert]
  by_cases h : other = key <;> simp [h, contains]

/-- A key without a value adds an entry. -/
theorem size_insert (table : Table α β) {key : α} (value : β) (h : table.get? key = none) :
    (table.insert key value).size = table.size + 1 := by
  have hkeep : table.entries.filter (fun entry ↦ entry.1 ≠ key) = table.entries := by
    rw [List.filter_eq_self]
    intro entry hentry
    have hne : (key != entry.1) = true := by simpa using List.lookup_eq_none_iff.mp h entry hentry
    exact decide_eq_true (Ne.symm (bne_iff_ne.mp hne))
  calc
    _ = (table.entries.filter fun entry ↦ entry.1 ≠ key).length + 1 := rfl
    _ = table.size + 1 := by rw [hkeep, size]

end Table

end ChainParams
