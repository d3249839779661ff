import Mathlib.Tactic

/-!
# Computations that can fail

What it takes for a computation to give a value: each of its steps gives one.
-/

namespace ChainParams

variable {ε δ α β : Type}

/-- The first step gives a value, and the rest goes on from there. -/
theorem bind_eq_ok_iff {first : Except ε α} {rest : α → Except ε β} {b : β} :
    first.bind rest = .ok b ↔ ∃ a, first = .ok a ∧ rest a = .ok b := by
  cases first <;> simp [Except.bind]

theorem bind_unit_eq_ok_iff {first : Except ε Unit} {rest : Unit → Except ε β} {b : β} :
    first.bind rest = .ok b ↔ first = .ok () ∧ rest () = .ok b := by
  rw [bind_eq_ok_iff]
  constructor
  · rintro ⟨⟨⟩, hfirst, hrest⟩
    exact ⟨hfirst, hrest⟩
  · rintro ⟨hfirst, hrest⟩
    exact ⟨(), hfirst, hrest⟩

theorem mapError_eq_ok_iff {f : ε → δ} {result : Except ε α} {a : α} :
    result.mapError f = .ok a ↔ result = .ok a := by
  cases result <;> simp [Except.mapError]

theorem mapError_eq_error_iff {f : ε → δ} {result : Except ε α} {fault : δ} :
    result.mapError f = .error fault ↔ ∃ cause, result = .error cause ∧ f cause = fault := by
  cases result <;> simp [Except.mapError]

theorem map_eq_ok_iff {f : α → β} {result : Except ε α} {b : β} :
    result.map f = .ok b ↔ ∃ a, result = .ok a ∧ f a = b := by
  cases result <;> simp [Except.map]

/-- A list is gone through without an error if each of its items gives a value. -/
theorem mapM_eq_ok_iff {f : α → Except ε β} {as : List α} {bs : List β} :
    as.mapM f = .ok bs ↔ List.Forall₂ (fun a b ↦ f a = .ok b) as bs := by
  induction as generalizing bs with
  | nil => cases bs <;> simp [pure, Except.pure]
  | cons a as ih =>
    rw [List.mapM_cons]
    cases ha : f a with
    | error fault => cases bs <;> simp [ha, bind, Except.bind]
    | ok b =>
      cases has : as.mapM f with
      | error fault => cases bs <;> simp [← ih, ha, has, bind, Except.bind]
      | ok rest => cases bs <;> simp [← ih, ha, has, bind, Except.bind, pure, Except.pure]

theorem mapM_mapError {f : α → Except ε β} {g : ε → δ} (as : List α) :
    (as.mapM fun a ↦ (f a).mapError g) = (as.mapM f).mapError g := by
  induction as with
  | nil => rfl
  | cons a as ih =>
    rw [List.mapM_cons, List.mapM_cons, ih]
    cases f a with
    | error fault => rfl
    | ok b => cases as.mapM f <;> rfl

theorem forM_eq_ok_iff {f : α → Except ε Unit} {as : List α} :
    as.forM f = .ok () ↔ ∀ a ∈ as, f a = .ok () := by
  induction as with
  | nil => exact iff_of_true rfl (List.forall_mem_nil _)
  | cons a as ih =>
    rw [List.forall_mem_cons, ← ih]
    exact bind_unit_eq_ok_iff

/-- The first item that fails decides how the whole list fails. -/
theorem mapM_eq_error_iff {f : α → Except ε β} {as : List α} {error : ε} :
    as.mapM f = .error error ↔ ∃ before a rest, as = before ++ a :: rest ∧
      (∀ earlier ∈ before, ∃ b, f earlier = .ok b) ∧ f a = .error error := by
  constructor
  · intro h
    induction as with
    | nil => cases h
    | cons a as ih =>
      rw [List.mapM_cons] at h
      cases ha : f a with
      | error fault =>
        rw [ha] at h
        cases h
        exact ⟨[], a, as, rfl, List.forall_mem_nil _, ha⟩
      | ok b =>
        cases has : as.mapM f with
        | error fault =>
          rw [ha, has] at h
          cases h
          obtain ⟨before, c, rest, rfl, hbefore, hc⟩ := ih has
          exact ⟨a :: before, c, rest, rfl, List.forall_mem_cons.mpr ⟨⟨b, ha⟩, hbefore⟩, hc⟩
        | ok bs =>
          rw [ha, has] at h
          cases h
  · rintro ⟨before, a, rest, rfl, hbefore, ha⟩
    induction before with
    | nil =>
      rw [List.nil_append, List.mapM_cons, ha]
      rfl
    | cons earlier before ih =>
      obtain ⟨⟨b, hb⟩, hbefore⟩ := List.forall_mem_cons.mp hbefore
      rw [List.cons_append, List.mapM_cons, hb, ih hbefore]
      rfl

theorem forM_eq_error_iff {f : α → Except ε Unit} {as : List α} {error : ε} :
    as.forM f = .error error ↔ ∃ before a rest, as = before ++ a :: rest ∧
      (∀ earlier ∈ before, f earlier = .ok ()) ∧ f a = .error error := by
  constructor
  · intro h
    induction as with
    | nil => cases h
    | cons a as ih =>
      rw [List.forM_eq_forM, List.forM_cons] at h
      cases ha : f a with
      | error fault =>
        rw [ha] at h
        cases h
        exact ⟨[], a, as, rfl, List.forall_mem_nil _, ha⟩
      | ok _ =>
        rw [ha] at h
        obtain ⟨before, c, rest, rfl, hbefore, hc⟩ := ih h
        exact ⟨a :: before, c, rest, rfl, List.forall_mem_cons.mpr ⟨ha, hbefore⟩, hc⟩
  · rintro ⟨before, a, rest, rfl, hbefore, ha⟩
    have hpassed := forM_eq_ok_iff.mpr hbefore
    rw [List.forM_eq_forM] at hpassed ⊢
    rw [List.forM_append, hpassed, List.forM_cons, ha]
    rfl

end ChainParams
