import Mathlib.Order.UpperLower.Basic
import Mathlib.Tactic
import ChainParams.Json.Printer
import ChainParams.Proofs.Definition.Parts
import ChainParams.Proofs.Json.Text

/-!
# Schedules as tables, maps and texts

A schedule can be kept as a table with one row for each upgrade, as a map from upgrades to rules, or
as text. All of them tell the same, as the place of an upgrade in the table, its place in the order
of activation and its name belong together. At each upgrade the heights at which it is enforced go
on without end from the height of its activation.
-/

namespace ChainParams

theorem Upgrade.map_index_all : all.map index = List.range 12 := rfl

theorem Upgrade.nodup_all : all.Nodup := by
  decide

namespace Activation

/-- The heights at which the rule enforces its upgrade. -/
def heights (rule : Activation) : Set UInt32 :=
  {height | rule.isActiveAt height}

theorem mem_heights {rule : Activation} {height : UInt32} :
    height ∈ rule.heights ↔ ∃ first, rule.height = some first ∧ first ≤ height := by
  unfold heights isActiveAt
  cases rule.height <;> simp

theorem isUpperSet_heights (rule : Activation) : IsUpperSet rule.heights := by
  intro height later hle hmem
  obtain ⟨first, hfirst, hheight⟩ := mem_heights.mp hmem
  exact mem_heights.mpr ⟨first, hfirst, UInt32.le_trans hheight hle⟩

theorem heights_eq_empty_iff {rule : Activation} : rule.heights = ∅ ↔ rule.height = none := by
  rw [Set.eq_empty_iff_forall_notMem, Option.eq_none_iff_forall_ne_some]
  constructor
  · intro h first hfirst
    exact h first (mem_heights.mpr ⟨first, hfirst, UInt32.le_refl first⟩)
  · intro h height hmem
    obtain ⟨first, hfirst, -⟩ := mem_heights.mp hmem
    exact h first hfirst

theorem isActivationHeight_iff {rule : Activation} {height : UInt32} :
    rule.isActivationHeight height ↔ IsLeast rule.heights height := by
  rw [isActivationHeight, decide_eq_true_eq]
  constructor
  · intro h
    refine ⟨mem_heights.mpr ⟨height, h, UInt32.le_refl height⟩, ?_⟩
    intro other hother
    obtain ⟨first, hfirst, hle⟩ := mem_heights.mp hother
    rw [h] at hfirst
    cases hfirst
    exact hle
  · rintro ⟨hmem, hleast⟩
    obtain ⟨first, hfirst, hle⟩ := mem_heights.mp hmem
    have hge : height ≤ first := hleast (mem_heights.mpr ⟨first, hfirst, UInt32.le_refl first⟩)
    rw [hfirst, UInt32.le_antisymm hle hge]

end Activation

/-! ## Rules as they are written -/

namespace Definition.Form

theorem sorted_write_voteWindow (window : VoteWindow) :
    (voteWindow.write window).sorted = voteWindow.write window := by
  have hkeys : List.Pairwise (· < ·) ["bit", "start_time", "timeout"] := by decide
  exact congrArg Json.obj (Json.sortMembers_of_pairwise hkeys)

/-- The members of a rule, of which only the height is always written. -/
def activationMembers (rule : Activation) : List (String × Json) :=
  ("activation_height", u32.nullable.write rule.height) ::
    (rule.block.map fun block ↦ ("activation_block", hash.write block)).toList ++
    (rule.vote.map fun vote ↦ ("vote", voteWindow.write vote)).toList

theorem write_activation (rule : Activation) :
    activation.write rule = .obj (activationMembers rule) := by
  obtain ⟨height, _ | block, _ | vote⟩ := rule <;> rfl

theorem sortedMembers_activationMembers (rule : Activation) :
    Json.sortedMembers (activationMembers rule) = activationMembers rule := by
  have hheight (height : Option UInt32) :
      (u32.nullable.write height).sorted = u32.nullable.write height := by
    cases height <;> rfl
  have hblock (block : BlockHash) : (hash.write block).sorted = hash.write block := rfl
  obtain ⟨height, _ | block, _ | vote⟩ := rule <;>
    simp [activationMembers, Json.sortedMembers, hheight, hblock, sorted_write_voteWindow]

theorem nodup_activationMembers (rule : Activation) :
    ((activationMembers rule).map Prod.fst).Nodup := by
  obtain ⟨height, _ | block, _ | vote⟩ := rule <;> simp [activationMembers]

/-- A rule is read from its members as they are written, which are not in the order of their
keys. -/
theorem read_write_activation (rule : Activation) :
    activation.read (activation.write rule) = .ok rule := by
  have hperm := Json.sortMembers_perm (nodup_activationMembers rule)
  have hread := (keeps_activation 0 rule).read
  rw [write_activation, Json.sorted, sortedMembers_activationMembers] at hread
  rw [write_activation]
  exact read_record_of_perm hread hperm.symm
    ((hperm.map Prod.fst).nodup_iff.mpr (nodup_activationMembers rule))

theorem readRule_write (rule : Upgrade × Activation) :
    readRule (rule.1.name, activation.write rule.2) = .ok rule := by
  rw [readRule, Upgrade.ofName?_name, read_write_activation]
  rfl

theorem read_ruleMembers_of_perm {s : Schedule} {members : List (String × Json)}
    (h : members.Perm (ruleMembers s)) : schedule.read (.obj members) = .ok s := by
  refine read_schedule_of_perm ?_ h
  rw [ruleMembers, List.forall₂_map_left_iff, List.forall₂_same]
  intro rule _
  exact readRule_write rule

end Definition.Form

namespace Schedule

open ChainParams.Definition (Form)

/-! ## Tables -/

/-- The rules alone, in order of activation. -/
def rows (schedule : Schedule) : List Activation :=
  Upgrade.all.map schedule.get

theorem rows_getElem?_index (schedule : Schedule) (upgrade : Upgrade) :
    schedule.rows[upgrade.index]? = some (schedule.get upgrade) := by
  rw [rows, List.getElem?_map, Upgrade.all_getElem?_index, Option.map_some]

/-- Setting a rule changes the row at the place of its upgrade and no other one. -/
theorem rows_set (schedule : Schedule) (upgrade : Upgrade) (rule : Activation) :
    (schedule.set upgrade rule).rows = schedule.rows.set upgrade.index rule := by
  cases upgrade <;> rfl

theorem zip_rows (schedule : Schedule) : Upgrade.all.zip schedule.rows = schedule.toList := rfl

theorem mem_toList_iff {schedule : Schedule} {upgrade : Upgrade} {rule : Activation} :
    (upgrade, rule) ∈ schedule.toList ↔ schedule.get upgrade = rule := by
  constructor
  · intro hmem
    obtain ⟨_, -, heq⟩ := List.mem_map.mp hmem
    cases heq
    rfl
  · rintro rfl
    exact schedule.mem_toList upgrade

/-! ## Maps -/

/-- It does not matter in which order the entries of a map are gone through. -/
theorem get_foldl_set_of_agree {rules : List (Upgrade × Activation)} {upgrade : Upgrade}
    {rule : Activation} (hmem : (upgrade, rule) ∈ rules)
    (hagree : ∀ other, (upgrade, other) ∈ rules → other = rule) (schedule : Schedule) :
    (rules.foldl (fun schedule rule ↦ schedule.set rule.1 rule.2) schedule).get upgrade = rule := by
  induction rules generalizing schedule with
  | nil => cases hmem
  | cons first rest ih =>
    have hrest : ∀ other, (upgrade, other) ∈ rest → other = rule :=
      fun other hother ↦ hagree other (List.mem_cons_of_mem first hother)
    rw [List.foldl_cons]
    by_cases hlater : (upgrade, rule) ∈ rest
    · exact ih hlater hrest _
    · -- No later entry replaces the first one, as it would have to be the same.
      have hkey : upgrade ∉ rest.map Prod.fst := by
        intro hmem
        obtain ⟨⟨_, other⟩, hother, rfl⟩ := List.mem_map.mp hmem
        rw [hrest other hother] at hother
        exact hlater hother
      obtain rfl : (upgrade, rule) = first := (List.mem_cons.mp hmem).resolve_right hlater
      rw [get_foldl_set_of_not_mem hkey, get_set, if_pos rfl]

theorem get_ofList {map : Upgrade → Option Activation} {rules : List (Upgrade × Activation)}
    (h : ∀ upgrade rule, (upgrade, rule) ∈ rules ↔ map upgrade = some rule) (upgrade : Upgrade) :
    (ofList rules).get upgrade = (map upgrade).getD .never := by
  cases hmap : map upgrade with
  | none =>
    have hkey : upgrade ∉ rules.map Prod.fst := by
      intro hmem
      obtain ⟨⟨_, rule⟩, hrule, rfl⟩ := List.mem_map.mp hmem
      rw [h, hmap] at hrule
      cases hrule
    exact get_foldl_set_of_not_mem hkey never
  | some rule =>
    refine get_foldl_set_of_agree ((h upgrade rule).mpr hmap) ?_ never
    intro other hother
    rw [h, hmap] at hother
    exact (Option.some_inj.mp hother).symm

/-! ## Texts -/

theorem read_text {schedule : Schedule} {text : String}
    (h : text = (Form.schedule.write schedule).compact ∨
      text = (Form.schedule.write schedule).pretty) :
    ∃ value, Json.parse text = .ok value ∧ Form.schedule.read value = .ok schedule := by
  have hkeeps := Form.keeps_schedule 124 schedule
  refine ⟨(Form.schedule.write schedule).sorted, ?_, hkeeps.read⟩
  rcases h with rfl | rfl
  · exact Json.parse_compact hkeeps.fits
  · exact Json.parse_pretty hkeeps.fits

/-- A schedule has one rule for each upgrade, as a table, as a map and as a text. A rule that is set
stands in the row of its upgrade and in no other one, the rows are gone through in order of
activation, a map gives its rules and `never` elsewhere, and a schedule comes back from its map and
from its text, in whatever order the rules stand. Each upgrade is enforced from the height of its
activation on. -/
theorem table_map_text (schedule : Schedule) :
    (∀ upgrade rule,
      (schedule.set upgrade rule).get upgrade = rule ∧
      (∀ other, other ≠ upgrade → (schedule.set upgrade rule).get other = schedule.get other) ∧
      (schedule.set upgrade rule).rows = schedule.rows.set upgrade.index rule) ∧
    (∀ upgrade : Upgrade, schedule.rows[upgrade.index]? = some (schedule.get upgrade)) ∧
    (Upgrade.all.zip schedule.rows = schedule.toList ∧
      schedule.toList.map Prod.fst = Upgrade.all ∧
      Upgrade.all.Nodup ∧ Upgrade.all.map Upgrade.index = List.range 12 ∧
      ∀ upgrade rule, (upgrade, rule) ∈ schedule.toList ↔ schedule.get upgrade = rule) ∧
    (∀ (map : Upgrade → Option Activation) (rules : List (Upgrade × Activation)),
      (∀ upgrade rule, (upgrade, rule) ∈ rules ↔ map upgrade = some rule) →
      ∀ upgrade, (ofList rules).get upgrade = (map upgrade).getD .never) ∧
    (∀ rules : List (Upgrade × Activation),
      (∀ upgrade rule, (upgrade, rule) ∈ rules ↔ schedule.get upgrade = rule) →
      ofList rules = schedule) ∧
    (∀ text, text = (Form.schedule.write schedule).compact ∨
        text = (Form.schedule.write schedule).pretty →
      ∃ value, Json.parse text = .ok value ∧ Form.schedule.read value = .ok schedule) ∧
    (∀ members : List (String × Json),
      members.Perm (schedule.toList.map fun rule ↦ (rule.1.name, Form.activation.write rule.2)) →
      Form.schedule.read (.obj members) = .ok schedule) ∧
    ∀ upgrade,
      IsUpperSet {height | schedule.isActive upgrade height} ∧
      ({height | schedule.isActive upgrade height} = ∅ ↔ (schedule.get upgrade).height = none) ∧
      ∀ height, (schedule.get upgrade).isActivationHeight height ↔
        IsLeast {height | schedule.isActive upgrade height} height := by
  refine ⟨?set, rows_getElem?_index schedule, ?table, fun _ _ h ↦ get_ofList h, ?back,
    fun _ h ↦ read_text h, fun _ h ↦ Form.read_ruleMembers_of_perm h, ?heights⟩
  case set =>
    intro upgrade rule
    refine ⟨?_, ?_, schedule.rows_set upgrade rule⟩
    · rw [get_set, if_pos rfl]
    · intro other hne
      rw [get_set, if_neg hne]
  case table =>
    exact ⟨schedule.zip_rows, schedule.map_fst_toList, Upgrade.nodup_all, Upgrade.map_index_all,
      fun _ _ ↦ mem_toList_iff⟩
  case back =>
    intro rules hrules
    apply ext
    intro upgrade
    have hmap (upgrade : Upgrade) (rule : Activation) :
        (upgrade, rule) ∈ rules ↔ some (schedule.get upgrade) = some rule := by
      rw [hrules, Option.some_inj]
    exact get_ofList hmap upgrade
  case heights =>
    intro upgrade
    exact ⟨Activation.isUpperSet_heights _, Activation.heights_eq_empty_iff,
      fun _ ↦ Activation.isActivationHeight_iff⟩

/-- The next upgrade is voted on with the highest bit during the year 2030. -/
def votedRule : Activation :=
  (Activation.atHeight 4000000).withVote ⟨28, .ofSeconds 1893456000, .ofSeconds 1924992000⟩

/-- Only two upgrades have a rule. -/
def sparseRules : Upgrade → Option Activation
  | .pos => some (.atHeight 259201)
  | .v50Dummy => some votedRule
  | _ => none

theorem table_map_text_votedRule :
    (ofList [(.v50Dummy, votedRule), (.pos, .atHeight 259201)]).get .v50Dummy = votedRule ∧
      (ofList [(.v50Dummy, votedRule), (.pos, .atHeight 259201)]).get .posV2 = .never ∧
      (never.set .v50Dummy votedRule).get .pos = .never ∧
      ofList (never.set .v50Dummy votedRule).toList.reverse = never.set .v50Dummy votedRule ∧
      (∃ value, Json.parse (Form.schedule.write (never.set .v50Dummy votedRule)).compact =
        .ok value ∧ Form.schedule.read value = .ok (never.set .v50Dummy votedRule)) ∧
      IsLeast {height | (never.set .v50Dummy votedRule).isActive .v50Dummy height} 4000000 := by
  obtain ⟨hset, -, -, hmap, -⟩ := table_map_text never
  obtain ⟨-, -, ⟨-, -, -, -, hentries⟩, -, hback, htext, -, hheights⟩ :=
    table_map_text (never.set .v50Dummy votedRule)
  have hrules (upgrade : Upgrade) (rule : Activation) :
      (upgrade, rule) ∈ [(.v50Dummy, votedRule), (.pos, .atHeight 259201)] ↔
        sparseRules upgrade = some rule := by
    cases upgrade <;> simp [sparseRules, eq_comm]
  refine ⟨hmap _ _ hrules .v50Dummy, hmap _ _ hrules .posV2, ?_, ?_, htext _ (.inl rfl), ?_⟩
  · exact (hset .v50Dummy votedRule).2.1 .pos (by decide)
  · apply hback
    intro upgrade rule
    rw [List.mem_reverse, hentries]
  · exact ((hheights .v50Dummy).2.2 4000000).mp rfl

end Schedule

end ChainParams
