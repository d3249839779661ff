import ChainParams.Inspect.Report
import ChainParams.Proofs.Magic

/-!
# The layout of lists

The networks and the checkpoints are listed one to a line. What stands in the columns of a line is
told here apart from the way in which the line is printed.
-/

namespace ChainParams.Inspect

open Text

/-! ## Columns -/

/-- The column is the text with spaces after it up to the width, or a longer text alone. -/
structure FlushLeft (width : Nat) (text column : List Char) : Prop where
  exists_eq : ∃ spaces, column = text ++ List.replicate spaces ' '
  length_eq : column.length = max width text.length

/-- The column is the text with spaces before it up to the width, or a longer text alone. -/
structure FlushRight (width : Nat) (text column : List Char) : Prop where
  exists_eq : ∃ spaces, column = List.replicate spaces ' ' ++ text
  length_eq : column.length = max width text.length

theorem flushLeft_left (width : Nat) (s : String) :
    FlushLeft width s.toList (Column.left width s).toList where
  exists_eq := ⟨_, String.toList_ofList⟩
  length_eq := by
    calc
      (Column.left width s).toList.length = s.toList.length + (width - s.toList.length) := by
        rw [Column.left, String.toList_ofList, List.length_append, List.length_replicate,
          String.length_toList]
      _ = max width s.toList.length := by omega

theorem flushRight_right (width : Nat) (s : String) :
    FlushRight width s.toList (Column.right width s).toList where
  exists_eq := ⟨_, String.toList_ofList⟩
  length_eq := by
    calc
      (Column.right width s).toList.length = width - s.toList.length + s.toList.length := by
        rw [Column.right, String.toList_ofList, List.length_append, List.length_replicate,
          String.length_toList]
      _ = max width s.toList.length := by omega

theorem flushRight_repr (width n : Nat) :
    FlushRight width (Nat.toDigits 10 n) (Column.right width (Nat.repr n)).toList := by
  have h := flushRight_right width (Nat.repr n)
  rwa [Nat.toList_repr] at h

/-! ## Networks -/

/-- The text has ten characters: a zero and a mark, and eight digits in lower case that stand for
the number of the magic. -/
structure IsMagic (magic : Magic) (text : List Char) : Prop where
  length_eq : text.length = 10
  mark_eq : text.take 2 = ['0', 'x']
  lower : ∀ c ∈ text.drop 2, c ∈ Hex.lowerDigits
  number_eq : Hex.number (text.drop 2) = magic.value.toNat

theorem isMagic_text (magic : Magic) : IsMagic magic magic.text.toList := by
  rw [magic.toList_text]
  refine ⟨?_, rfl, ?_, magic.number_digits⟩
  · rw [List.length_cons, List.length_cons, Magic.digits, Hex.length_encodeChars]
    rfl
  · intro c hc
    apply Hex.mem_lowerDigits_of_mem_encode
    rwa [Hex.encode, String.toList_ofList]

/-- The entry of a network is a line with its name, its magic, its port and the bytes that its
addresses start with. -/
inductive IsEntry (network : Network) : List Char → Prop
  | line {name magic port pubkeyHash scriptHash stakingKey : List Char}
      (hname : FlushLeft 10 network.name.toList name)
      (hmagic : IsMagic network.magic magic)
      (hport : FlushLeft 6 network.defaultPort.toList port)
      (hpubkeyHash :
        FlushRight 3 (Nat.toDigits 10 network.addressPrefixes.pubkeyHash.toNat) pubkeyHash)
      (hscriptHash :
        FlushRight 3 (Nat.toDigits 10 network.addressPrefixes.scriptHash.toNat) scriptHash)
      (hstakingKey :
        FlushRight 3 (Nat.toDigits 10 network.addressPrefixes.stakingKey.toNat) stakingKey) :
      IsEntry network (name ++ " ".toList ++ magic ++ "  port ".toList ++ port ++ " pkh ".toList
        ++ pubkeyHash ++ "  sh ".toList ++ scriptHash ++ "  stake ".toList ++ stakingKey
        ++ "\n".toList)

theorem isEntry_listLine (network : Network) : IsEntry network (listLine network).toList := by
  simp only [listLine, String.toList_append]
  exact .line (flushLeft_left _ _) (isMagic_text _) (flushLeft_left _ _) (flushRight_repr _ _)
    (flushRight_repr _ _) (flushRight_repr _ _)

/-- The text consists of one entry for each network, in their order. -/
def IsTable (networks : List Network) (text : String) : Prop :=
  ∃ entries, List.Forall₂ IsEntry networks entries ∧ text.toList = entries.flatten

theorem isTable_join (networks : List Network) :
    IsTable networks (String.join (networks.map listLine)) := by
  refine ⟨networks.map fun network ↦ (listLine network).toList, ?_, ?_⟩
  · rw [List.forall₂_map_right_iff, List.forall₂_same]
    exact fun network _ ↦ isEntry_listLine network
  · rw [String.toList_join, List.flatMap_map, List.flatMap_def]

/-! ## Lines -/

/-- The lines of a text, without the character that ends each of them. -/
def lines (text : String) : List (List Char) :=
  (text.toList.splitOn '\n').dropLast

theorem splitOn_flatMap {rows : List (List Char)} (h : ∀ row ∈ rows, '\n' ∉ row) :
    (rows.flatMap (· ++ ['\n'])).splitOn '\n' = rows ++ [[]] := by
  induction rows with
  | nil => rfl
  | cons row rows ih =>
    obtain ⟨hrow, hrows⟩ := List.forall_mem_cons.mp h
    calc
      ((row :: rows).flatMap (· ++ ['\n'])).splitOn '\n' =
          (row ++ '\n' :: rows.flatMap (· ++ ['\n'])).splitOn '\n' := by
        rw [List.flatMap_cons, List.append_assoc, List.singleton_append]
      _ = row :: (rows.flatMap (· ++ ['\n'])).splitOn '\n' :=
        List.splitOn_append_cons_self_of_not_mem hrow _
      _ = row :: rows ++ [[]] := by rw [ih hrows, List.cons_append]

theorem lines_eq {text : String} {rows : List (List Char)} (h : ∀ row ∈ rows, '\n' ∉ row)
    (htext : text.toList = rows.flatMap (· ++ ['\n'])) : lines text = rows := by
  rw [lines, htext, splitOn_flatMap h, List.dropLast_concat]

/-! ## Checkpoints -/

section Columns

variable (point : Checkpoint)

def heightDigits : List Char :=
  Nat.toDigits 10 point.height.toNat

/-- The height flush right in ten characters. -/
def heightColumn : List Char :=
  List.replicate (10 - (heightDigits point).length) ' ' ++ heightDigits point

/-- The line of a checkpoint without its end. -/
def row : List Char :=
  heightColumn point ++ ([' ', ' '] ++ point.hash.toHex.toList)

/-- No height has more than ten digits. -/
theorem length_heightColumn : (heightColumn point).length = 10 := by
  have hheight : point.height.toNat < 10 ^ 10 := point.height.toNat_lt.trans (by decide)
  have hdigits : (heightDigits point).length ≤ 10 :=
    (Nat.length_toDigits_le_iff (by decide) (by decide)).mpr hheight
  rw [heightColumn, List.length_append, List.length_replicate]
  omega

theorem length_hashColumn : point.hash.toHex.toList.length = 64 := by
  rw [String.length_toList]
  exact point.hash.isText_toHex.1

theorem toList_checkpointLine : (checkpointLine point).toList = row point ++ ['\n'] := by
  have hcolumn : (Column.right 10 (Nat.repr point.height.toNat)).toList = heightColumn point := by
    rw [Column.right, String.toList_ofList, ← String.length_toList, Nat.toList_repr]
    rfl
  simp only [checkpointLine, String.toList_append, hcolumn, row, List.append_assoc]
  rfl

theorem isDigit_of_mem_heightDigits {c : Char} (h : c ∈ heightDigits point) : c.isDigit :=
  Nat.isDigit_of_mem_toDigits (by decide) (by decide) h

theorem newline_not_mem_row : '\n' ∉ row point := by
  intro h
  simp only [row, heightColumn, List.mem_append] at h
  rcases h with (hspace | hdigit) | hgap | hhash
  · exact absurd (List.eq_of_mem_replicate hspace) (by decide)
  · exact absurd (isDigit_of_mem_heightDigits point hdigit) (by decide)
  · exact absurd hgap (by decide)
  · exact absurd (Hex.mem_lowerDigits_of_mem_encode hhash) (by decide)

/-- The line has 76 characters: the height flush right in ten of them, two spaces, and the hash in
64 digits. -/
structure IsLine (line : List Char) : Prop where
  length_eq : line.length = 76
  height_eq : line.take 10 = heightColumn point
  gap_eq : (line.drop 10).take 2 = [' ', ' ']
  hash_eq : line.drop 12 = point.hash.toHex.toList
  lower : ∀ c ∈ line.drop 12, c ∈ Hex.lowerDigits

theorem drop_row : (row point).drop 12 = point.hash.toHex.toList := by
  have hlength : (heightColumn point ++ [' ', ' ']).length = 12 := by
    rw [List.length_append, length_heightColumn]
    rfl
  rw [row, ← List.append_assoc]
  exact List.drop_left' hlength

theorem isLine_row : IsLine point (row point) where
  length_eq := by
    rw [row, List.length_append, List.length_append, length_heightColumn, length_hashColumn]
    rfl
  height_eq := List.take_left' (length_heightColumn point)
  gap_eq := by
    rw [row, List.drop_left' (length_heightColumn point)]
    exact List.take_left' rfl
  hash_eq := drop_row point
  lower := by
    rw [drop_row]
    exact fun c hc ↦ Hex.mem_lowerDigits_of_mem_encode hc

end Columns

def listing (points : Checkpoints) : String :=
  String.join (points.toList.map checkpointLine)

theorem toList_listing (points : Checkpoints) :
    (listing points).toList = (points.toList.map row).flatMap (· ++ ['\n']) := by
  rw [listing, String.toList_join, List.flatMap_map, List.flatMap_map]
  exact congrArg (points.toList.flatMap ·) (funext toList_checkpointLine)

theorem lines_listing (points : Checkpoints) : lines (listing points) = points.toList.map row := by
  apply lines_eq _ (toList_listing points)
  intro line hline
  obtain ⟨point, -, rfl⟩ := List.mem_map.mp hline
  exact newline_not_mem_row point

theorem isLine_listing (points : Checkpoints) :
    List.Forall₂ IsLine points.toList (lines (listing points)) := by
  rw [lines_listing, List.forall₂_map_right_iff, List.forall₂_same]
  exact fun point _ ↦ isLine_row point

/-- The text consists of one line for each checkpoint, from the oldest to the newest. -/
structure IsListing (points : Checkpoints) (text : String) : Prop where
  isLine : List.Forall₂ IsLine points.toList (lines text)
  toList_eq : text.toList = (lines text).flatMap (· ++ ['\n'])

theorem isListing_listing (points : Checkpoints) : IsListing points (listing points) where
  isLine := isLine_listing points
  toList_eq := by rw [lines_listing, toList_listing]

end ChainParams.Inspect
