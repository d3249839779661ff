import ChainParams.Decimal.Shortest
import ChainParams.Json.Basic

/-!
# Writing JSON text

Two layouts: without any white space, and with every item and member on a line of its own, indented
by two spaces a level. Members are written in the order in which they stand. In strings only the
quotation mark, the backslash and controls are escaped.
-/

namespace ChainParams.Json

/-- The white space that a layout puts between the parts of a container. -/
structure Layout where
  /-- What stands before an item, or before the closing bracket, at a depth. -/
  gap : Nat → List Char
  /-- What separates a key from its value. -/
  colon : List Char

def Layout.compact : Layout where
  gap _ := []
  colon := [':']

def Layout.indented : Layout where
  gap depth := '\n' :: List.replicate (2 * depth) ' '
  colon := [':', ' ']

def escapeChar : Char → List Char
  | '"' => ['\\', '"']
  | '\\' => ['\\', '\\']
  | '\x08' => ['\\', 'b']
  | '\x0c' => ['\\', 'f']
  | '\n' => ['\\', 'n']
  | '\r' => ['\\', 'r']
  | '\t' => ['\\', 't']
  | c =>
    if c.toNat < 0x20 then
      ['\\', 'u', '0', '0', (c.toNat / 16).digitChar, (c.toNat % 16).digitChar]
    else [c]

def stringChars (s : String) : List Char :=
  '"' :: (s.toList.flatMap escapeChar ++ ['"'])

def intChars : Int → List Char
  | .ofNat n => Nat.toDigits 10 n
  | .negSucc n => '-' :: Nat.toDigits 10 (n + 1)

mutual

/-- The text of a value that stands at a depth. -/
def chars (layout : Layout) (depth : Nat) : Json → List Char
  | .null => ['n', 'u', 'l', 'l']
  | .bool true => ['t', 'r', 'u', 'e']
  | .bool false => ['f', 'a', 'l', 's', 'e']
  | .int n => intChars n
  | .float negative magnitude => (magnitude.text negative).toList
  | .str s => stringChars s
  | .arr [] => ['[', ']']
  | .arr (item :: rest) =>
    '[' :: (layout.gap (depth + 1) ++ item.chars layout (depth + 1)
      ++ itemChars layout (depth + 1) rest ++ layout.gap depth ++ [']'])
  | .obj [] => ['\x7b', '\x7d']
  | .obj ((key, value) :: rest) =>
    '\x7b' :: (layout.gap (depth + 1) ++ stringChars key ++ layout.colon
      ++ value.chars layout (depth + 1) ++ memberChars layout (depth + 1) rest
      ++ layout.gap depth ++ ['\x7d'])

/-- The items after the first. -/
def itemChars (layout : Layout) (depth : Nat) : List Json → List Char
  | [] => []
  | item :: rest =>
    ',' :: (layout.gap depth ++ item.chars layout depth ++ itemChars layout depth rest)

/-- The members after the first. -/
def memberChars (layout : Layout) (depth : Nat) : List (String × Json) → List Char
  | [] => []
  | (key, value) :: rest =>
    ',' :: (layout.gap depth ++ stringChars key ++ layout.colon
      ++ value.chars layout depth ++ memberChars layout depth rest)

end

/-- The text without white space. -/
def compact (value : Json) : String :=
  String.ofList (value.chars .compact 0)

/-- The text with one item or member a line. -/
def pretty (value : Json) : String :=
  String.ofList (value.chars .indented 0)

end ChainParams.Json
