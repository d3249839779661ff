import ChainParams.Magic
import ChainParams.KeyVersion

/-!
# Events

What is worth telling about a run besides its result. An event has a level, by which it can be left
out, and the part of the program that it comes from.
-/

namespace ChainParams

/-- How much an event matters. -/
inductive Level where
  | error
  | warn
  | info
  | debug
  deriving DecidableEq, Repr

namespace Level

def name : Level → String
  | error => "ERROR"
  | warn => "WARN"
  | info => "INFO"
  | debug => "DEBUG"

/-- Zero for the level that matters most. -/
def rank : Level → Nat
  | error => 0
  | warn => 1
  | info => 2
  | debug => 3

end Level

/-- Which events are told. -/
inductive LogFilter where
  | off
  /-- Those of a level and of all that matter more. -/
  | upTo (level : Level)
  deriving DecidableEq, Repr

namespace LogFilter

def default : LogFilter := .upTo .info

def ofName? : String → Option LogFilter
  | "off" => some .off
  | "error" => some (.upTo .error)
  | "warn" => some (.upTo .warn)
  | "info" => some (.upTo .info)
  | "debug" => some (.upTo .debug)
  | "default" => some .default
  | _ => none

def lets (filter : LogFilter) (level : Level) : Bool :=
  match filter with
  | off => false
  | upTo highest => level.rank ≤ highest.rank

end LogFilter

inductive Event where
  /-- A network is registered. -/
  | registered (name : String) (magic : Magic) (port : String)
  /-- A network is not registered, because its magic is taken. -/
  | rejected (name : String) (magic : Magic)
  /-- Another public version takes the place of an earlier one. -/
  | remapped (privateVersion earlier later : KeyVersion)
  /-- Networks were read from a file. -/
  | loaded (count : Nat) (path : String)
  /-- The networks of a file are registered. -/
  | added (count : Nat) (path : String)
  /-- The registry is complete. -/
  | ready (count : Nat)
  deriving DecidableEq

namespace Event

def level : Event → Level
  | registered _ _ _ => .debug
  | rejected _ _ => .warn
  | remapped _ _ _ => .warn
  | loaded _ _ => .debug
  | added _ _ => .info
  | ready _ => .debug

/-- The part of the program that an event comes from. -/
def target : Event → String
  | registered _ _ _ | rejected _ _ | remapped _ _ _ => "euno_params::registry"
  | loaded _ _ => "euno_params::custom"
  | added _ _ | ready _ => "params_inspect"

def message : Event → String
  | registered name magic port =>
    s!"Registered network {Text.Quoted.string name} (magic {magic.text}, port {port})"
  | rejected name magic =>
    s!"Rejected network {Text.Quoted.string name}: magic {magic.text} already registered"
  | remapped privateVersion earlier later =>
    s!"HD private version {privateVersion.toHex} remapped from {earlier.toHex} to {later.toHex}"
  | loaded count path => s!"Loaded {count} network definition(s) from {path}"
  | added count path => s!"Registered {count} custom network(s) from {path}"
  | ready count => s!"{count} networks registered"

/-- The event as a line of a log. -/
def line (event : Event) : String :=
  s!"{event.level.name} {event.target}: {event.message}\n"

end Event

namespace LogFilter

/-- The log of the events that are told. -/
def log (filter : LogFilter) (events : List Event) : String :=
  String.join ((events.filter fun event ↦ filter.lets event.level).map Event.line)

end LogFilter

end ChainParams
