import ChainParams.Text.Printable

/-!
# Quoted text

Messages show foreign text between quotation marks, so that its ends and its invisible characters
can be seen. The mark, the backslash and the usual controls get a backslash and a letter, every
other character that is not printable its code point in braces.
-/

namespace ChainParams.Text.Quoted

open Printable

def codePoint (c : Char) : List Char :=
  '\\' :: 'u' :: '\x7b' :: (Nat.toDigits 16 c.toNat ++ ['\x7d'])

/-- One character between two marks. Only the mark itself has to be told from the end of the text,
so the other kind of mark stands as it is. -/
def escape (mark : Char) : Char → List Char
  | '\x00' => ['\\', '0']
  | '\t' => ['\\', 't']
  | '\n' => ['\\', 'n']
  | '\r' => ['\\', 'r']
  | '\\' => ['\\', '\\']
  | c => if c = mark then ['\\', c] else if isPrintable c then [c] else codePoint c

def between (mark : Char) (cs : List Char) : String :=
  String.ofList (mark :: (cs.flatMap (escape mark) ++ [mark]))

/-- A string between double quotation marks. -/
def string (s : String) : String :=
  between '"' s.toList

/-- A character between single quotation marks. -/
def char (c : Char) : String :=
  between '\x27' [c]

end ChainParams.Text.Quoted
