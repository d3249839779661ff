/-!
# Arguments of the command line

One command with at most one operand. A file with more networks may be given by `-n` or
`--networks`, before or after the command, once on either side; the one after it counts. An argument
that starts with a hyphen is an option, unless it is just the hyphen or an operand after `--`.

The arguments are taken in one at a time. The first that has no place decides, so that a call for
help counts unless something before it is wrong.
-/

namespace ChainParams.Inspect

inductive Command where
  /-- Tells all networks. -/
  | list
  /-- Tells one network's parameters. -/
  | show (network : String)
  /-- Tells what addresses start with a byte. -/
  | classify (byte : String)
  /-- Tells the public key version that belongs to a private one. -/
  | resolve (version : String)
  /-- Tells one network's checkpoints. -/
  | checkpoints (network : String)
  deriving DecidableEq, Repr

structure Arguments where
  networks : Option String
  command : Command
  deriving DecidableEq, Repr

/-- Why arguments lead to no command. -/
inductive Refusal where
  | help
  | usage
  deriving DecidableEq, Repr

/-- The part that an argument plays before `--`. -/
inductive Token where
  /-- The option for a file, with the value that is attached to it. -/
  | networks (value : Option String)
  | help
  /-- The end of options. -/
  | stop
  | unknown
  | word (text : String)
  deriving DecidableEq, Repr

/-- A value attached to a long option. -/
def attached? : List Char → Option (Option String)
  | [] => some none
  | '=' :: value => some (some (String.ofList value))
  | _ => none

def longToken (name : List Char) : Token :=
  if name = [] then .stop
  else if name = "help".toList then .help
  else if "networks".toList.isPrefixOf name then
    match attached? (name.drop "networks".length) with
    | some value => .networks value
    | none => .unknown
  else .unknown

def Token.ofArgument (argument : String) : Token :=
  match argument.toList with
  | '-' :: '-' :: name => longToken name
  | ['-'] => .word argument
  | ['-', 'n'] => .networks none
  | '-' :: 'n' :: '=' :: value => .networks (some (String.ofList value))
  | '-' :: 'n' :: value => .networks (some (String.ofList value))
  | '-' :: 'h' :: _ => .help
  | '-' :: _ => .unknown
  | _ => .word argument

/-- What kind of argument comes next. -/
inductive Mode where
  | any
  /-- The value of the option before it. -/
  | value
  /-- An operand, whatever it looks like. -/
  | operand
  deriving DecidableEq, Repr

/-- The arguments taken in so far. -/
structure Reading where
  mode : Mode
  /-- The file given before the command. -/
  before : Option String
  command : Option String
  /-- The file given after the command. -/
  after : Option String
  operands : List String
  deriving DecidableEq, Repr

namespace Reading

def start : Reading := ⟨.any, none, none, none, []⟩

def operandCount? : String → Option Nat
  | "list" => some 0
  | "show" => some 1
  | "prefix" => some 1
  | "resolve-hd" => some 1
  | "checkpoints" => some 1
  | _ => none

/-- Takes in the name of a file. -/
def setNetworks (reading : Reading) (path : String) : Except Refusal Reading :=
  if path = "" then .error .usage
  else
    match reading.command, reading.before, reading.after with
    | none, none, _ => .ok { reading with mode := .any, before := some path }
    | some _, _, none => .ok { reading with mode := .any, after := some path }
    | _, _, _ => .error .usage

/-- Takes in a command or an operand. -/
def addWord (reading : Reading) (word : String) : Except Refusal Reading :=
  match reading.command with
  | none =>
    if word = "help" ∨ (operandCount? word).isSome then .ok { reading with command := some word }
    else .error .usage
  | some command =>
    if reading.operands.length < (operandCount? command).getD 0 then
      .ok { reading with operands := reading.operands ++ [word] }
    else .error .usage

/-- Takes in the name of a command that help is asked for. -/
def addTopic (reading : Reading) (word : String) : Except Refusal Reading :=
  if reading.operands = [] ∧ (word = "help" ∨ (operandCount? word).isSome) then
    .ok { reading with operands := [word] }
  else .error .usage

def step (reading : Reading) (argument : String) : Except Refusal Reading :=
  if reading.command = some "help" then reading.addTopic argument
  else
    match reading.mode with
    | .operand => reading.addWord argument
    | .value =>
      match Token.ofArgument argument with
      | .word path => reading.setNetworks path
      | _ => .error .usage
    | .any =>
      match Token.ofArgument argument with
      | .networks (some path) => reading.setNetworks path
      | .networks none => .ok { reading with mode := .value }
      | .help => .error .help
      | .stop =>
        if reading.command.isSome then .ok { reading with mode := .operand } else .error .usage
      | .unknown => .error .usage
      | .word word => reading.addWord word

def finish (reading : Reading) : Except Refusal Arguments := do
  if reading.mode = .value then
    throw .usage
  let command ← match reading.command, reading.operands with
    | some "list", [] => .ok .list
    | some "show", [network] => .ok (.show network)
    | some "prefix", [byte] => .ok (.classify byte)
    | some "resolve-hd", [version] => .ok (.resolve version)
    | some "checkpoints", [network] => .ok (.checkpoints network)
    | some "help", _ => .error .help
    | _, _ => .error .usage
  return ⟨reading.after <|> reading.before, command⟩

end Reading

/-- Reads the arguments that come after the name of the program. -/
def Arguments.parse (arguments : List String) : Except Refusal Arguments := do
  (← arguments.foldlM Reading.step .start).finish

end ChainParams.Inspect
