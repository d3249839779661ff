/-!
# Columns

Text set in a column of a given width, which counts characters. Longer text is kept whole.
-/

namespace ChainParams.Text.Column

/-- Flush left, with spaces after it. -/
def left (width : Nat) (s : String) : String :=
  String.ofList (s.toList ++ List.replicate (width - s.length) ' ')

/-- Flush right, with spaces before it. -/
def right (width : Nat) (s : String) : String :=
  String.ofList (List.replicate (width - s.length) ' ' ++ s.toList)

end ChainParams.Text.Column
