import Mathlib.Data.List.TakeWhile
import ChainParams.Proofs.Checkpoints.Construction
import ChainParams.Proofs.Inspect.Layout
import ChainParams.Proofs.Inspect.Lookup

/-!
# The listing of checkpoints

As every height fits its column, the line of a checkpoint can be cut at fixed places, and what
stands there can be read back. Hence the listing tells the checkpoints in full.
-/

namespace ChainParams.Inspect

open Text

/-! ## Reading back -/

/-- The height in the first ten characters of a line, and the text in the last 64. -/
def readColumns (line : List Char) : Except Numeral.Fault (UInt32 × String) :=
  (Numeral.read 10 UInt32.size ((line.take 10).dropWhile (· = ' '))).map fun height ↦
    (UInt32.ofNat height, String.ofList (line.drop (line.length - 64)))

/-- The checkpoints that the lines of a text tell. -/
def readListing (text : String) : Except (Numeral.Fault ⊕ Checkpoints.Fault) Checkpoints := do
  let entries ← ((lines text).mapM readColumns).mapError .inl
  (Checkpoints.ofHex entries).mapError .inr

/-- The padding ends where the digits start. -/
theorem dropWhile_heightColumn (point : Checkpoint) :
    (heightColumn point).dropWhile (· = ' ') = heightDigits point := by
  rw [heightColumn, List.dropWhile_append_of_pos, List.dropWhile_eq_self_iff]
  · intro hpos hspace
    have hdigit := isDigit_of_mem_heightDigits point (List.getElem_mem hpos)
    rw [of_decide_eq_true hspace] at hdigit
    cases hdigit
  · intro c hc
    exact decide_eq_true (List.eq_of_mem_replicate hc)

theorem read_heightDigits (point : Checkpoint) :
    Numeral.read 10 UInt32.size (heightDigits point) = .ok point.height.toNat := by
  rw [Numeral.read_eq_ok_iff (by decide) (by decide)]
  exact ⟨Numeral.spells_toDigits 0 _, point.height.toNat_lt⟩

theorem IsLine.readColumns_eq {point : Checkpoint} {line : List Char} (h : IsLine point line) :
    readColumns line = .ok (point.height, point.hash.toHex) := by
  rw [readColumns, h.height_eq, dropWhile_heightColumn, read_heightDigits, h.length_eq, h.hash_eq,
    String.ofList_toList, Except.map, UInt32.ofNat_toNat]

/-- Heights and hashes as they are read from lines. -/
def entries (points : Checkpoints) : List (UInt32 × String) :=
  points.toList.map fun point ↦ (point.height, point.hash.toHex)

theorem ofHex_entries (points : Checkpoints) :
    Checkpoints.ofHex (entries points) = .ok points := by
  apply Checkpoints.ofHex_eq_iff.mpr
  apply Checkpoints.Yields.ok
  rw [entries, List.forall₂_map_left_iff, List.forall₂_same]
  exact fun point _ ↦ ⟨rfl, point.hash.ofHex_toHex⟩

theorem pairwise_entries (points : Checkpoints) :
    ((entries points).map Prod.fst).Pairwise (· < ·) := by
  rw [entries, List.map_map, List.pairwise_map]
  exact points.ascending

section Texts

variable {text : String} {points : Checkpoints}

theorem mapM_readColumns_of_lines (h : List.Forall₂ IsLine points.toList (lines text)) :
    (lines text).mapM readColumns = .ok (entries points) := by
  rw [mapM_eq_ok_iff, entries, List.forall₂_map_right_iff]
  exact (h.imp fun _ _ hline ↦ hline.readColumns_eq).flip

/-- Whatever text has the lines of the checkpoints is read as these. -/
theorem readListing_of_lines (h : List.Forall₂ IsLine points.toList (lines text)) :
    readListing text = .ok points := by
  rw [readListing, mapM_readColumns_of_lines h]
  change (Checkpoints.ofHex (entries points)).mapError Sum.inr = _
  rw [ofHex_entries]
  rfl

end Texts

theorem listing_injective : Function.Injective listing := by
  intro points other h
  have hpoints := readListing_of_lines (isLine_listing points)
  rw [h, readListing_of_lines (isLine_listing other)] at hpoints
  exact (Except.ok.inj hpoints).symm

/-! ## Answers -/

section Answers

variable {registry : Registry} {network : Network} {text : String}

theorem answer_checkpoints_of_find (h : find registry text = .ok network) :
    answer registry (.checkpoints text) = .ok (listing network.checkpoints) := by
  rw [answer, h]
  rfl

/-- No name is as long as the magic behind enough zeros. -/
theorem exists_find {networks : List Network} (hlists : registry.Lists networks)
    (hmem : network ∈ networks) : ∃ text, find registry text = .ok network := by
  let zeros := (networks.map fun other ↦ other.name.length).sum
  let digits := List.replicate zeros '0' ++ Nat.toDigits 10 network.magic.value.toNat
  have hspells : Magic.Spells (String.ofList digits) network.magic.value.toNat := by
    rw [Magic.Spells, String.toList_ofList]
    exact Numeral.spellsMarked_of_spells (Numeral.spells_toDigits zeros _)
  have hunnamed : ∀ other ∈ networks, other.name ≠ String.ofList digits := by
    intro other hother hname
    have hle : other.name.length ≤ zeros := List.le_sum_of_mem (List.mem_map_of_mem hother)
    have hpos : 0 < (Nat.toDigits 10 network.magic.value.toNat).length :=
      List.length_pos_of_ne_nil Nat.toDigits_ne_nil
    rw [hname, String.length_ofList, List.length_append, List.length_replicate] at hle
    omega
  exact ⟨_, (Finds.magic hunnamed hmem hspells).find_eq hlists⟩

end Answers

/-- Every registered network can be found by some text, and its checkpoints are then listed. A
listing has one line for each checkpoint, of which the heights ascend, is read back as the
checkpoints, and is therefore not the listing of any others. -/
theorem checkpoints_listed :
    (∀ registry : Registry, registry.Reachable → ∀ network ∈ registry.networks,
      (∃ text, find registry text = .ok network) ∧
      ∀ text, find registry text = .ok network →
        answer registry (.checkpoints text) = .ok (listing network.checkpoints)) ∧
    (∀ points : Checkpoints,
      List.Forall₂ IsLine points.toList (lines (listing points)) ∧
      (listing points).toList = (lines (listing points)).flatMap (· ++ ['\n']) ∧
      (∃ entries, (lines (listing points)).mapM readColumns = .ok entries ∧
        (entries.map Prod.fst).Pairwise (· < ·)) ∧
      readListing (listing points) = .ok points) ∧
    (∀ points other : Checkpoints, points ≠ other → listing points ≠ listing other) ∧
    ∀ (arguments : List String) (networks : Option String) (text : String) (filter : LogFilter)
        (readFile : String → Except FileFault ByteArray) (registry : Registry) (network : Network),
      Arguments.parse arguments = .ok ⟨networks, .checkpoints text⟩ →
      (prepare networks readFile).2 = .ok registry → find registry text = .ok network →
      (run arguments filter readFile).Tells (listing network.checkpoints) := by
  refine ⟨?_, ?_, fun _ _ ↦ listing_injective.ne, ?_⟩
  · intro registry h network hmem
    obtain ⟨calls, rfl⟩ := h.exists_run
    have hlists := (Registry.records_run calls).lists
    rw [hlists.networks_eq] at hmem
    exact ⟨exists_find hlists hmem, fun _ ↦ answer_checkpoints_of_find⟩
  · intro points
    obtain ⟨hlines, htext⟩ := isListing_listing points
    refine ⟨hlines, htext, ?_, readListing_of_lines hlines⟩
    exact ⟨_, mapM_readColumns_of_lines hlines, pairwise_entries points⟩
  · intro arguments networks text filter readFile registry network hparse hprepare hfind
    exact run_of_prepare_ok filter hparse hprepare (answer_checkpoints_of_find hfind)

/-- The genesis block of the main network, and a block at the greatest height. -/
def farCheckpoints : Checkpoints where
  toList := [⟨0, StandardNetwork.mainGenesis⟩, ⟨4294967295, .zero⟩]
  ascending := by decide

def farNetwork : Network :=
  { StandardNetwork.mainNetwork with
    name := "far"
    magic := ⟨0x12121212⟩
    checkpoints := farCheckpoints }

theorem checkpoints_listed_farNetwork :
    answer (Registry.standard.registry.after (.register farNetwork)) (.checkpoints "0x12121212") =
      .ok (listing farCheckpoints) ∧
    List.Forall₂ IsLine farCheckpoints.toList (lines (listing farCheckpoints)) ∧
    (lines (listing farCheckpoints)).map (·.take 10) =
      ["         0".toList, "4294967295".toList] ∧
    readListing (listing farCheckpoints) = .ok farCheckpoints ∧
    listing farCheckpoints ≠ listing StandardNetwork.mainNetwork.checkpoints ∧
    (run ["checkpoints", "main"] .off fun _ ↦ .error .notFound).Tells
      (listing StandardNetwork.mainNetwork.checkpoints) := by
  obtain ⟨hanswers, hpoints, hdistinct, hruns⟩ := checkpoints_listed
  have hmem : farNetwork ∈ (Registry.standard.registry.after (.register farNetwork)).networks :=
    List.mem_append_right (StandardNetwork.all.map StandardNetwork.network)
      (List.mem_singleton_self farNetwork)
  refine ⟨?_, (hpoints farCheckpoints).1, ?_, ?_, ?_, ?_⟩
  · exact (hanswers _ (.call .standard (.register farNetwork)) farNetwork hmem).2 _ rfl
  · rw [lines_listing]
    rfl
  · exact (hpoints farCheckpoints).2.2.2
  · exact hdistinct _ _ (by decide)
  · exact hruns _ none "main" .off _ _ _ rfl rfl rfl

end ChainParams.Inspect
