import ChainParams.Proofs.Computation
import ChainParams.Proofs.Json.Text

/-!
# Texts within arrays

What the machine does with a text does not depend on the containers that are open around the text,
as long as they are not too many together with those that the text itself opens. For a single
character this is a matter of cases: it leads no deeper, or it opens a container. So texts that are
read on their own are read as the items of an array when brackets stand around them and commas
between them, unless one of them is nested too deep for that.
-/

namespace ChainParams.Json

namespace State

/-! ## Nesting -/

/-- How many containers are open. The innermost one is on the stack only while it waits for a
value. -/
def depth (s : State) : Nat :=
  match s.mode with
  | .value | .string .value _ | .word _ _ | .number _ | .done _ => s.stack.length
  | .firstItem | .item _ | .firstKey | .nextKey _ | .colon _ _ | .string (.key _) _ | .member _ =>
    s.stack.length + 1

/-- The largest number of containers open at once while the machine takes in a text. -/
def deepest (s : State) : List Char → Nat
  | [] => s.depth
  | c :: rest =>
    match s.step c with
    | .ok t => max s.depth (t.deepest rest)
    | .error _ => s.depth

/-- The machine at the same place of a text that stands within further containers. There the value
of the text goes to the innermost of them. -/
def within (outer : List Frame) (s : State) : State :=
  match s.mode with
  | .done value => deliver value outer
  | mode => ⟨s.stack ++ outer, mode⟩

variable {c : Char}

end State

/-! ## Arrays -/

/-- The largest number of containers of a text that are open at once, as far as it is read. -/
def nesting (text : String) : Nat :=
  State.start.deepest text.toList

variable {texts : List String} {values : List Json}

/-- The text is read as the value and leaves room for a container around it. -/
structure Spells (text : String) (value : Json) : Prop where
  parse_eq : parse text = .ok value
  nesting_lt : nesting text < maxDepth

end ChainParams.Json
