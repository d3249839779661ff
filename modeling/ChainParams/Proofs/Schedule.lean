import Mathlib.Tactic
import ChainParams.Schedule

/-!
# Schedules as tables

A schedule has one rule for each upgrade. Setting a rule changes no other one, and a list that has
each upgrade once gives back the schedule it was taken from, in whatever order it stands.
-/

namespace ChainParams

theorem Upgrade.ofName?_name (upgrade : Upgrade) : ofName? upgrade.name = some upgrade := by
  cases upgrade <;> rfl

namespace Schedule

theorem ext {s t : Schedule} (h : ∀ upgrade, s.get upgrade = t.get upgrade) : s = t := by
  cases s
  cases t
  congr
  funext upgrade
  exact h upgrade

theorem get_set (schedule : Schedule) (upgrade other : Upgrade) (rule : Activation) :
    (schedule.set upgrade rule).get other = if other = upgrade then rule else schedule.get other :=
  rfl

/-! ## Schedules from lists -/

theorem get_foldl_set_of_not_mem {rules : List (Upgrade × Activation)} {upgrade : Upgrade}
    (h : upgrade ∉ rules.map Prod.fst) (schedule : Schedule) :
    (rules.foldl (fun schedule rule ↦ schedule.set rule.1 rule.2) schedule).get upgrade =
      schedule.get upgrade := by
  induction rules generalizing schedule with
  | nil => rfl
  | cons rule rest ih =>
    rw [List.map_cons, List.mem_cons, not_or] at h
    rw [List.foldl_cons, ih h.2, get_set, if_neg h.1]

theorem get_foldl_set_of_mem {rules : List (Upgrade × Activation)}
    (hnodup : (rules.map Prod.fst).Nodup) {upgrade : Upgrade} {rule : Activation}
    (h : (upgrade, rule) ∈ rules) (schedule : Schedule) :
    (rules.foldl (fun schedule rule ↦ schedule.set rule.1 rule.2) schedule).get upgrade = rule := by
  induction rules generalizing schedule with
  | nil => cases h
  | cons first rest ih =>
    obtain ⟨hfirst, hrest⟩ := List.nodup_cons.mp hnodup
    rw [List.foldl_cons]
    rcases List.mem_cons.mp h with rfl | hmem
    · rw [get_foldl_set_of_not_mem hfirst, get_set, if_pos rfl]
    · exact ih hrest hmem _

theorem map_fst_toList (schedule : Schedule) : schedule.toList.map Prod.fst = Upgrade.all := by
  rw [toList, List.map_map]
  exact List.map_id _

theorem mem_toList (schedule : Schedule) (upgrade : Upgrade) :
    (upgrade, schedule.get upgrade) ∈ schedule.toList :=
  List.mem_map_of_mem (Upgrade.mem_all upgrade)

theorem ofList_of_perm {schedule : Schedule} {rules : List (Upgrade × Activation)}
    (h : rules.Perm schedule.toList) : ofList rules = schedule := by
  have hnodup : (rules.map Prod.fst).Nodup := by
    rw [(h.map Prod.fst).nodup_iff, map_fst_toList]
    decide
  apply ext
  intro upgrade
  exact get_foldl_set_of_mem hnodup (h.mem_iff.mpr (schedule.mem_toList upgrade)) never

/-! ## Validity -/

theorem faultOf?_eq_none_iff {upgrade : Upgrade} {rule : Activation} :
    faultOf? (upgrade, rule) = none ↔
      ∀ window, rule.vote = some window → window.validate = .ok () := by
  unfold faultOf?
  cases hvote : rule.vote with
  | none => simp
  | some window => cases hvalid : window.validate <;> simp [hvalid]

/-- A schedule is valid if every window in it is. -/
theorem validate_eq_ok_iff (schedule : Schedule) :
    schedule.validate = .ok () ↔
      ∀ upgrade window, (schedule.get upgrade).vote = some window → window.validate = .ok () := by
  have hnone : schedule.validate = .ok () ↔ schedule.toList.findSome? faultOf? = none := by
    unfold validate
    split <;> simp [*]
  rw [hnone, List.findSome?_eq_none_iff, toList, List.forall_mem_map]
  simp only [Upgrade.mem_all, forall_const, faultOf?_eq_none_iff]

theorem faultOf?_eq_some_iff {upgrade : Upgrade} {rule : Activation} {fault : Fault} :
    faultOf? (upgrade, rule) = some fault ↔ fault.upgrade = upgrade ∧
      ∃ window, rule.vote = some window ∧ window.validate = .error fault.cause := by
  obtain ⟨other, cause⟩ := fault
  unfold faultOf?
  cases hvote : rule.vote with
  | none => simp
  | some window => cases hvalid : window.validate <;> simp [hvalid, eq_comm]

/-- The fault is that of the first upgrade, in order of activation, whose window is not valid. -/
theorem validate_eq_error_iff {schedule : Schedule} {fault : Fault} :
    schedule.validate = .error fault ↔
      ∃ before after, Upgrade.all = before ++ fault.upgrade :: after ∧
        (∀ earlier ∈ before, ∀ window, (schedule.get earlier).vote = some window →
          window.validate = .ok ()) ∧
        ∃ window, (schedule.get fault.upgrade).vote = some window ∧
          window.validate = .error fault.cause := by
  have hsome : schedule.validate = .error fault ↔
      (Upgrade.all.findSome? fun upgrade ↦ faultOf? (upgrade, schedule.get upgrade)) =
        some fault := by
    rw [validate, toList, List.findSome?_map]
    change _ ↔ Upgrade.all.findSome? (faultOf? ∘ fun upgrade ↦ (upgrade, schedule.get upgrade)) = _
    split <;> simp [*]
  rw [hsome, List.findSome?_eq_some_iff]
  simp only [faultOf?_eq_some_iff, faultOf?_eq_none_iff]
  constructor
  · rintro ⟨before, upgrade, after, hall, ⟨rfl, hfault⟩, hbefore⟩
    exact ⟨before, after, hall, hbefore, hfault⟩
  · rintro ⟨before, after, hall, hbefore, hfault⟩
    exact ⟨before, _, after, hall, ⟨rfl, hfault⟩, hbefore⟩

end Schedule

end ChainParams
