import ChainParams.Json.Parser
import ChainParams.Proofs.Computation
import ChainParams.Proofs.Json.Sorted

/-!
# Values as they are written

The machine sorts the members of an object when the object ends. A machine that leaves them as they
stand in the text gives the value as it is written. The two go through a text in the same way: at
every place their states differ only in the values that they hold, so that what a text is read as is
what is written there, sorted.
-/

namespace ChainParams.Json

namespace State

/-! ## The machine that does not sort -/

/-- Takes in a character after a complete value. -/
def writtenAfter (s : State) (c : Char) : Except SyntaxFault State :=
  match s.mode with
  | .member members =>
    if c = '\x7d' then .ok (deliver (.obj members.reverse) s.stack) else s.stepAfter c
  | _ => s.stepAfter c

/-- Takes in one character. Only where an object ends is it not the step of the other machine. -/
def writtenStep (s : State) (c : Char) : Except SyntaxFault State :=
  match s.mode with
  | .number t =>
    match t.push c with
    | .ended => do (← endNumber s.stack t).writtenAfter c
    | _ => s.step c
  | .member _ => s.writtenAfter c
  | _ => s.step c

end State

/-- The value that a text spells, with the members of its objects in the order of the text and of
several with one key all of them. -/
def parseWritten (text : String) : Except SyntaxFault Json := do
  (← text.toList.foldlM State.writtenStep .start).finish

/-! ## States with sorted values -/

def Frame.sorted : Frame → Frame
  | .array items => .array (sortedItems items)
  | .object members key => .object (sortedMembers members) key

def StringRole.sorted : StringRole → StringRole
  | .value => .value
  | .key members => .key (sortedMembers members)

def Mode.sorted : Mode → Mode
  | .item items => .item (sortedItems items)
  | .nextKey members => .nextKey (sortedMembers members)
  | .colon members key => .colon (sortedMembers members) key
  | .member members => .member (sortedMembers members)
  | .string role text => .string role.sorted text
  | .word rest result => .word rest result.sorted
  | .done result => .done result.sorted
  | mode => mode

theorem NumberText.sorted_of_float? {t : NumberText} {value : Json} (h : t.float? = some value) :
    value.sorted = value := by
  obtain ⟨magnitude, -, rfl⟩ := Option.map_eq_some_iff.mp h
  rfl

/-- A number has no members. -/
theorem NumberText.sorted_of_value? {t : NumberText} {value : Json} (h : t.value? = some value) :
    value.sorted = value := by
  unfold value? at h
  dsimp only at h
  split_ifs at h
  · cases h
    rfl
  · exact sorted_of_float? h
  · cases h
    rfl
  · exact sorted_of_float? h
  · exact sorted_of_float? h

namespace State

/-- The same place with all values sorted that are held there. -/
def sorted (s : State) : State :=
  ⟨s.stack.map Frame.sorted, s.mode.sorted⟩

theorem sorted_deliver (value : Json) (stack : List Frame) :
    (deliver value stack).sorted = deliver value.sorted (stack.map Frame.sorted) := by
  rcases stack with _ | ⟨_ | _, _⟩ <;> rfl

theorem enter_sorted (stack : List Frame) {mode : Mode} (hmode : mode.sorted = mode) :
    enter (stack.map Frame.sorted) mode = (enter stack mode).map sorted := by
  simp only [enter, List.length_map]
  split <;> simp [Except.map, sorted, hmode]

theorem stepValue_sorted (stack : List Frame) (c : Char) :
    stepValue (stack.map Frame.sorted) c = (stepValue stack c).map sorted := by
  unfold stepValue
  split_ifs
  any_goals rfl
  · exact enter_sorted stack rfl
  · exact enter_sorted stack rfl
  · cases NumberText.start? c <;> rfl

/-- Where an object ends, one machine sorts its members and the other does not. -/
theorem stepAfter_sorted (s : State) (c : Char) :
    s.sorted.stepAfter c = (s.writtenAfter c).map sorted := by
  obtain ⟨stack, mode⟩ := s
  cases mode with
  | member members =>
    by_cases hclose : c = '\x7d'
    · subst hclose
      change Except.ok (deliver (.obj (sortMembers (sortedMembers members).reverse))
        (stack.map Frame.sorted)) =
        .ok (deliver (.obj members.reverse) stack).sorted
      rw [sorted_deliver, Json.sorted, sortedMembers_reverse]
    · simp only [stepAfter, writtenAfter, sorted, Mode.sorted, if_neg hclose]
      split_ifs <;> rfl
  | item items =>
    by_cases hclose : c = ']'
    · subst hclose
      change Except.ok (deliver (.arr (sortedItems items).reverse) (stack.map Frame.sorted)) =
        .ok (deliver (.arr items.reverse) stack).sorted
      rw [sorted_deliver, Json.sorted, sortedItems_reverse]
    · simp only [stepAfter, writtenAfter, sorted, Mode.sorted, if_neg hclose]
      split_ifs <;> rfl
  | _ =>
    simp only [stepAfter, writtenAfter, sorted, Mode.sorted]
    split_ifs <;> rfl

theorem stepString_sorted (stack : List Frame) (role : StringRole) (t : StringText) (c : Char) :
    stepString (stack.map Frame.sorted) role.sorted t c =
      (stepString stack role t c).map sorted := by
  unfold stepString
  cases t.push c with
  | ended value =>
    cases role with
    | value => exact congrArg Except.ok (sorted_deliver (.str value) stack).symm
    | key members => rfl
  | _ => rfl

theorem endNumber_sorted (stack : List Frame) (t : NumberText) :
    endNumber (stack.map Frame.sorted) t = (endNumber stack t).map sorted := by
  unfold endNumber
  cases hvalue : t.value? with
  | none => rfl
  | some value =>
    change Except.ok _ = Except.ok _
    rw [sorted_deliver, NumberText.sorted_of_value? hvalue]

theorem step_sorted (s : State) (c : Char) : s.sorted.step c = (s.writtenStep c).map sorted := by
  obtain ⟨stack, mode⟩ := s
  cases mode with
  | value => exact stepValue_sorted stack c
  | firstItem =>
    simp only [step, writtenStep, sorted, Mode.sorted]
    split_ifs
    · rfl
    · exact congrArg Except.ok (sorted_deliver (.arr []) stack).symm
    · exact stepValue_sorted (.array [] :: stack) c
  | firstKey =>
    simp only [step, writtenStep, sorted, Mode.sorted]
    split_ifs
    any_goals rfl
    exact congrArg Except.ok (sorted_deliver (.obj []) stack).symm
  | nextKey members =>
    simp only [step, writtenStep, sorted, Mode.sorted]
    split_ifs <;> rfl
  | colon members key =>
    simp only [step, writtenStep, sorted, Mode.sorted]
    split_ifs <;> rfl
  | string role t => exact stepString_sorted stack role t c
  | word rest result =>
    simp only [step, writtenStep, sorted, Mode.sorted]
    rcases rest with _ | ⟨d, _ | ⟨next, rest⟩⟩
    · rfl
    · dsimp only
      split_ifs
      · exact congrArg Except.ok (sorted_deliver result stack).symm
      · rfl
    · dsimp only
      split_ifs <;> rfl
  | number t =>
    simp only [step, writtenStep, sorted, Mode.sorted]
    cases t.push c with
    | ended =>
      dsimp only
      rw [endNumber_sorted]
      cases endNumber stack t with
      | error fault => rfl
      | ok after => exact stepAfter_sorted after c
    | _ => rfl
  | item _ | member _ | done _ => exact stepAfter_sorted _ c

theorem finish_sorted (s : State) : s.sorted.finish = s.finish.map Json.sorted := by
  obtain ⟨stack, mode⟩ := s
  cases mode with
  | number t =>
    simp only [finish, sorted, Mode.sorted]
    split_ifs
    · rw [endNumber_sorted]
      cases endNumber stack t with
      | error fault => rfl
      | ok after =>
        obtain ⟨_, mode⟩ := after
        cases mode <;> rfl
    · rfl
  | _ => rfl

theorem run_sorted (text : List Char) (s : State) :
    s.sorted.run text = (text.foldlM writtenStep s).map sorted := by
  induction text generalizing s with
  | nil => rfl
  | cons c text ih =>
    rw [run, List.foldlM_cons, List.foldlM_cons, step_sorted]
    cases s.writtenStep c with
    | error fault => rfl
    | ok next => exact ih next

end State

/-- A text is read as what is written there, with sorted members. -/
theorem parse_eq_sorted (text : String) : parse text = (parseWritten text).map sorted := by
  have hrun : State.start.run text.toList = _ := State.run_sorted text.toList .start
  rw [parse, parseWritten, hrun]
  cases text.toList.foldlM State.writtenStep .start with
  | error fault => rfl
  | ok s => exact s.finish_sorted

end ChainParams.Json
