import ChainParams.Json.Number
import ChainParams.Text.Numeral
import ChainParams.Text.Utf8

/-!
# Reading JSON text

The reader is a machine that takes the text in one character at a time. A character that no JSON
text could have at its place makes the text malformed, there and then; a text that ends while the
machine still waits is unfinished. So the first problem from the left decides which of the two a bad
text is. Containers may be nested 127 deep.
-/

namespace ChainParams.Json

/-- Why a text is no JSON value. -/
inductive SyntaxFault where
  | unfinished
  | malformed
  deriving DecidableEq, Repr

def SyntaxFault.message : SyntaxFault → String
  | .unfinished => "unexpected end of the JSON text"
  | .malformed => "malformed JSON text"

def maxDepth : Nat := 127

/-- A container that waits for the value being read, with what it holds so far, the last first. -/
inductive Frame where
  | array (items : List Json)
  | object (members : List (String × Json)) (key : String)

/-- Where the machine stands within an escape sequence. -/
inductive EscapePhase where
  | none
  /-- After a backslash. -/
  | backslash
  /-- After `\u`, with the leading surrogate before it and the characters since, the last first. -/
  | unit (high : Option Nat) (digits : List Char)
  /-- After a leading surrogate, before the backslash of its partner. -/
  | partner (high : Nat)
  /-- After a leading surrogate and a backslash. -/
  | partnerMark (high : Nat)

/-- A string being read, the last character first. -/
structure StringText where
  chars : List Char
  escape : EscapePhase

/-- What a string is read for: a value, or the next key after the given members. -/
inductive StringRole where
  | value
  | key (members : List (String × Json))

inductive Mode where
  /-- Before a value. -/
  | value
  /-- After the bracket that opens an array. -/
  | firstItem
  /-- After an item of an array. -/
  | item (items : List Json)
  /-- After the brace that opens an object. -/
  | firstKey
  /-- After the comma of an object. -/
  | nextKey (members : List (String × Json))
  /-- After a key. -/
  | colon (members : List (String × Json)) (key : String)
  /-- After a member of an object. -/
  | member (members : List (String × Json))
  | string (role : StringRole) (text : StringText)
  /-- Within a literal word, before the given rest of it. -/
  | word (rest : List Char) (result : Json)
  | number (text : NumberText)
  /-- After the value of the whole text. -/
  | done (value : Json)

/-- The open containers outside the current place, the innermost first, and the place. -/
structure State where
  stack : List Frame
  mode : Mode

/-- White space of JSON. -/
def isSpace (c : Char) : Bool :=
  c = ' ' || c = '\t' || c = '\n' || c = '\r'

namespace State

/-- Before any text. -/
def start : State := ⟨[], .value⟩

/-- Hands a complete value to the container that waits for it. -/
def deliver (value : Json) : List Frame → State
  | [] => ⟨[], .done value⟩
  | .array items :: outer => ⟨outer, .item (value :: items)⟩
  | .object members key :: outer => ⟨outer, .member ((key, value) :: members)⟩

/-- Enters a container, unless too many are open already. -/
def enter (stack : List Frame) (mode : Mode) : Except SyntaxFault State :=
  if stack.length < maxDepth then .ok ⟨stack, mode⟩ else .error .malformed

/-- Takes in a character before a value. -/
def stepValue (stack : List Frame) (c : Char) : Except SyntaxFault State :=
  if isSpace c then .ok ⟨stack, .value⟩
  else if c = '"' then .ok ⟨stack, .string .value ⟨[], .none⟩⟩
  else if c = '[' then enter stack .firstItem
  else if c = '\x7b' then enter stack .firstKey
  else if c = 'n' then .ok ⟨stack, .word ['u', 'l', 'l'] .null⟩
  else if c = 't' then .ok ⟨stack, .word ['r', 'u', 'e'] (.bool true)⟩
  else if c = 'f' then .ok ⟨stack, .word ['a', 'l', 's', 'e'] (.bool false)⟩
  else
    match NumberText.start? c with
    | some t => .ok ⟨stack, .number t⟩
    | none => .error .malformed

/-- Takes in a character after a complete value. -/
def stepAfter (s : State) (c : Char) : Except SyntaxFault State :=
  if isSpace c then .ok s
  else
    match s.mode with
    | .item items =>
      if c = ',' then .ok ⟨.array items :: s.stack, .value⟩
      else if c = ']' then .ok (deliver (.arr items.reverse) s.stack)
      else .error .malformed
    | .member members =>
      if c = ',' then .ok ⟨s.stack, .nextKey members⟩
      else if c = '\x7d' then .ok (deliver (.obj (sortMembers members.reverse)) s.stack)
      else .error .malformed
    | _ => .error .malformed

end State

/-- The character that a letter after a backslash stands for. -/
def unescape? : Char → Option Char
  | '"' => some '"'
  | '\\' => some '\\'
  | '/' => some '/'
  | 'b' => some '\x08'
  | 'f' => some '\x0c'
  | 'n' => some '\n'
  | 'r' => some '\r'
  | 't' => some '\t'
  | _ => none

/-- The value of four hexadecimal digits, the last first. -/
def unitValue? : List Char → Option Nat
  | [d, c, b, a] => do
    let a ← Text.Numeral.digit? 16 a
    let b ← Text.Numeral.digit? 16 b
    let c ← Text.Numeral.digit? 16 c
    let d ← Text.Numeral.digit? 16 d
    return ((a * 16 + b) * 16 + c) * 16 + d
  | _ => none

/-- What becomes of a string at a character. -/
inductive StringStep where
  | extended (text : StringText)
  | ended (value : String)
  | malformed

namespace StringText

/-- Takes in a 16-bit unit, after the leading surrogate `high` if there is one. A surrogate counts
only as one of a pair. -/
def pushUnit (t : StringText) (high : Option Nat) (unit : Nat) : StringStep :=
  match high with
  | some high =>
    if 0xDC00 ≤ unit ∧ unit ≤ 0xDFFF then
      let point := 0x10000 + (high - 0xD800) * 0x400 + (unit - 0xDC00)
      .extended ⟨Char.ofNat point :: t.chars, .none⟩
    else .malformed
  | none =>
    if 0xD800 ≤ unit ∧ unit ≤ 0xDBFF then .extended { t with escape := .partner unit }
    else if 0xDC00 ≤ unit ∧ unit ≤ 0xDFFF then .malformed
    else .extended ⟨Char.ofNat unit :: t.chars, .none⟩

/-- The digits of a unit are looked at when four bytes are there. -/
def push (t : StringText) (c : Char) : StringStep :=
  match t.escape with
  | .none =>
    if c = '"' then .ended (String.ofList t.chars.reverse)
    else if c = '\\' then .extended { t with escape := .backslash }
    else if c.toNat < 0x20 then .malformed
    else .extended { t with chars := c :: t.chars }
  | .backslash =>
    if c = 'u' then .extended { t with escape := .unit none [] }
    else
      match unescape? c with
      | some u => .extended ⟨u :: t.chars, .none⟩
      | none => .malformed
  | .unit high digits =>
    let digits := c :: digits
    if Text.Utf8.size digits < 4 then .extended { t with escape := .unit high digits }
    else
      match unitValue? digits with
      | some unit => t.pushUnit high unit
      | none => .malformed
  | .partner high =>
    if c = '\\' then .extended { t with escape := .partnerMark high } else .malformed
  | .partnerMark high =>
    if c = 'u' then .extended { t with escape := .unit (some high) [] } else .malformed

end StringText

namespace State

def stepString (stack : List Frame) (role : StringRole) (t : StringText) (c : Char) :
    Except SyntaxFault State :=
  match t.push c with
  | .extended t => .ok ⟨stack, .string role t⟩
  | .malformed => .error .malformed
  | .ended s =>
    match role with
    | .value => .ok (deliver (.str s) stack)
    | .key members => .ok ⟨stack, .colon members s⟩

/-- The value of a literal that is complete. -/
def endNumber (stack : List Frame) (t : NumberText) : Except SyntaxFault State :=
  match t.value? with
  | some value => .ok (deliver value stack)
  | none => .error .malformed

/-- Takes in one character. -/
def step (s : State) (c : Char) : Except SyntaxFault State :=
  match s.mode with
  | .value => stepValue s.stack c
  | .firstItem =>
    if isSpace c then .ok s
    else if c = ']' then .ok (deliver (.arr []) s.stack)
    else stepValue (.array [] :: s.stack) c
  | .firstKey =>
    if isSpace c then .ok s
    else if c = '"' then .ok ⟨s.stack, .string (.key []) ⟨[], .none⟩⟩
    else if c = '\x7d' then .ok (deliver (.obj []) s.stack)
    else .error .malformed
  | .nextKey members =>
    if isSpace c then .ok s
    else if c = '"' then .ok ⟨s.stack, .string (.key members) ⟨[], .none⟩⟩
    else .error .malformed
  | .colon members key =>
    if isSpace c then .ok s
    else if c = ':' then .ok ⟨.object members key :: s.stack, .value⟩
    else .error .malformed
  | .string role t => stepString s.stack role t c
  | .word rest result =>
    match rest with
    | [] => .error .malformed
    | [d] => if c = d then .ok (deliver result s.stack) else .error .malformed
    | d :: rest => if c = d then .ok ⟨s.stack, .word rest result⟩ else .error .malformed
  | .number t =>
    match t.push c with
    | .extended t => .ok ⟨s.stack, .number t⟩
    | .malformed => .error .malformed
    | .ended => do
      let after ← endNumber s.stack t
      after.stepAfter c
  | .item _ | .member _ | .done _ => s.stepAfter c

/-- The value of a text that ends here. -/
def finish (s : State) : Except SyntaxFault Json :=
  let result (s : State) : Except SyntaxFault Json :=
    match s.mode with
    | .done value => .ok value
    | _ => .error .unfinished
  match s.mode with
  | .number t =>
    if t.phase.complete then do
      result (← endNumber s.stack t)
    else .error .unfinished
  | _ => result s

/-- Takes in a text. -/
def run (s : State) (text : List Char) : Except SyntaxFault State :=
  text.foldlM step s

end State

/-- The value that a text spells. -/
def parse (text : String) : Except SyntaxFault Json := do
  (← State.start.run text.toList).finish

end ChainParams.Json
