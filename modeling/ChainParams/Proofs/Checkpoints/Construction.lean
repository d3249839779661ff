import ChainParams.Error
import ChainParams.Json.Printer
import ChainParams.Proofs.Checkpoints
import ChainParams.Proofs.Definition.Parts
import ChainParams.Proofs.Json.Text
import ChainParams.StandardNetwork

/-!
# Making checkpoints

Checkpoints are made from heights and texts of hashes, directly or out of a definition. Only
neighbours are compared, yet that suffices for all heights to ascend. A text that is no hash is
reported before any heights are compared; of several bad texts or descents the first one is
reported.
-/

namespace ChainParams

namespace Checkpoints

/-! ## Descents -/

/-- Up to these neighbours all heights ascend, and these do not. -/
def IsFirstDescent (heights : List UInt32) (later earlier : UInt32) : Prop :=
  ∃ before rest, heights = before ++ earlier :: later :: rest ∧
    (before ++ [earlier]).IsChain (· < ·) ∧ later ≤ earlier

theorem IsFirstDescent.two_le_length {heights : List UInt32} {later earlier : UInt32}
    (h : IsFirstDescent heights later earlier) : 2 ≤ heights.length := by
  obtain ⟨before, rest, rfl, -, -⟩ := h
  simp only [List.length_append, List.length_cons]
  omega

/-- If the first two heights do not ascend, theirs is the first descent. -/
theorem isFirstDescent_of_le {x y : UInt32} (h : y ≤ x) (rest : List UInt32)
    {later earlier : UInt32} :
    IsFirstDescent (x :: y :: rest) later earlier ↔ y = later ∧ x = earlier := by
  constructor
  · rintro ⟨before, after, heq, hchain, -⟩
    rcases before with _ | ⟨_, _ | ⟨_, before⟩⟩
    · cases heq
      exact ⟨rfl, rfl⟩
    · cases heq
      exact absurd (List.isChain_pair.mp hchain) (UInt32.not_lt.mpr h)
    · cases heq
      exact absurd (List.isChain_cons_cons.mp hchain).1 (UInt32.not_lt.mpr h)
  · rintro ⟨rfl, rfl⟩
    exact ⟨[], rest, rfl, List.isChain_singleton x, h⟩

/-- If they ascend, the first descent comes later. -/
theorem isFirstDescent_of_lt {x y : UInt32} (h : x < y) (rest : List UInt32)
    {later earlier : UInt32} :
    IsFirstDescent (x :: y :: rest) later earlier ↔ IsFirstDescent (y :: rest) later earlier := by
  constructor
  · rintro ⟨before, after, heq, hchain, hle⟩
    cases before with
    | nil =>
      cases heq
      exact absurd h (UInt32.not_lt.mpr hle)
    | cons _ before => exact ⟨before, after, (List.cons.inj heq).2, hchain.tail, hle⟩
  · rintro ⟨before, after, heq, hchain, hle⟩
    refine ⟨x :: before, after, congrArg (x :: ·) heq, ?_, hle⟩
    cases before with
    | nil =>
      cases heq
      exact List.isChain_pair.mpr h
    | cons _ before =>
      cases heq
      exact List.isChain_cons_cons.mpr ⟨h, hchain⟩

theorem firstDescent?_eq_some_iff {points : List Checkpoint} {later earlier : UInt32} :
    firstDescent? points = some (later, earlier) ↔
      IsFirstDescent (points.map (·.height)) later earlier := by
  fun_induction firstDescent? points with
  | case1 a b rest hab =>
    rw [List.map_cons, List.map_cons, isFirstDescent_of_le hab, Option.some_inj, Prod.mk.injEq]
  | case2 a b rest hab ih =>
    exact ih.trans (isFirstDescent_of_lt (UInt32.not_le.mp hab) _).symm
  | case3 points hshort =>
    refine iff_of_false (fun h ↦ by cases h) fun h ↦ ?_
    have hlength := h.two_le_length
    rcases points with _ | ⟨a, _ | ⟨b, rest⟩⟩
    · contradiction
    · contradiction
    · exact hshort a b rest rfl

theorem ofList_eq_error_iff {points : List Checkpoint} {fault : Fault} :
    ofList points = .error fault ↔ ∃ later earlier, fault = .outOfOrder later earlier ∧
      IsFirstDescent (points.map (·.height)) later earlier := by
  simp only [← firstDescent?_eq_some_iff]
  unfold ofList
  split
  · next hnone => simp [hnone]
  · next hsome => simp [hsome, eq_comm]

/-! ## Entries -/

/-- The checkpoint has the height of the entry and the hash that its text spells. -/
def Spells (entry : UInt32 × String) (point : Checkpoint) : Prop :=
  point.height = entry.1 ∧ BlockHash.ofHex entry.2 = .ok point.hash

theorem entryOfHex_eq_ok_iff {entry : UInt32 × String} {point : Checkpoint} :
    entryOfHex entry = .ok point ↔ Spells entry point := by
  obtain ⟨height, hash⟩ := point
  unfold entryOfHex Spells
  split
  · next h => simp [h, eq_comm]
  · next h => simp [h]

theorem entryOfHex_eq_error_iff {entry : UInt32 × String} {fault : Fault} :
    entryOfHex entry = .error fault ↔
      ∃ cause, fault = .badHash cause ∧ BlockHash.ofHex entry.2 = .error cause := by
  unfold entryOfHex
  split
  · next h => simp [h]
  · next h => simp [h, eq_comm]

theorem exists_entryOfHex_iff {entry : UInt32 × String} :
    (∃ point, entryOfHex entry = .ok point) ↔ BlockHash.IsText entry.2 := by
  rw [← BlockHash.exists_ofHex_iff]
  constructor
  · rintro ⟨point, h⟩
    exact ⟨point.hash, (entryOfHex_eq_ok_iff.mp h).2⟩
  · rintro ⟨hash, h⟩
    exact ⟨⟨entry.1, hash⟩, entryOfHex_eq_ok_iff.mpr ⟨rfl, h⟩⟩

theorem map_height_of_spells {entries : List (UInt32 × String)} {points : List Checkpoint}
    (h : List.Forall₂ Spells entries points) :
    points.map (·.height) = entries.map Prod.fst := by
  induction h with
  | nil => rfl
  | cons hhead _ ih => rw [List.map_cons, List.map_cons, hhead.1, ih]

theorem isText_of_spells {entries : List (UInt32 × String)} {points : List Checkpoint}
    (h : List.Forall₂ Spells entries points) : ∀ entry ∈ entries, BlockHash.IsText entry.2 := by
  induction h with
  | nil => exact List.forall_mem_nil _
  | cons hhead _ ih =>
    exact List.forall_mem_cons.mpr ⟨BlockHash.exists_ofHex_iff.mp ⟨_, hhead.2⟩, ih⟩

theorem exists_spells {entries : List (UInt32 × String)}
    (h : ∀ entry ∈ entries, BlockHash.IsText entry.2) :
    ∃ points, List.Forall₂ Spells entries points := by
  induction entries with
  | nil => exact ⟨[], .nil⟩
  | cons entry entries ih =>
    obtain ⟨hentry, hentries⟩ := List.forall_mem_cons.mp h
    obtain ⟨hash, hhash⟩ := BlockHash.exists_ofHex_iff.mpr hentry
    obtain ⟨points, hpoints⟩ := ih hentries
    exact ⟨⟨entry.1, hash⟩ :: points, .cons ⟨rfl, hhash⟩ hpoints⟩

theorem mapM_entryOfHex_eq_ok_iff {entries : List (UInt32 × String)} {points : List Checkpoint} :
    entries.mapM entryOfHex = .ok points ↔ List.Forall₂ Spells entries points := by
  simp only [mapM_eq_ok_iff, entryOfHex_eq_ok_iff]

theorem ofHex_of_spells {entries : List (UInt32 × String)} {points : List Checkpoint}
    (h : List.Forall₂ Spells entries points) : ofHex entries = ofList points := by
  rw [ofHex, mapM_entryOfHex_eq_ok_iff.mpr h]
  rfl

/-- What becomes of entries. -/
inductive Yields : List (UInt32 × String) → Except Fault Checkpoints → Prop
  /-- The first text that is no hash decides, whatever the heights before it. -/
  | badHash {before rest : List (UInt32 × String)} {height : UInt32} {text : String}
      {cause : BlockHash.Fault} (hbefore : ∀ entry ∈ before, BlockHash.IsText entry.2)
      (hcause : BlockHash.ofHex text = .error cause) :
      Yields (before ++ (height, text) :: rest) (.error (.badHash cause))
  | outOfOrder {entries : List (UInt32 × String)} {later earlier : UInt32}
      (htexts : ∀ entry ∈ entries, BlockHash.IsText entry.2)
      (hdescent : IsFirstDescent (entries.map Prod.fst) later earlier) :
      Yields entries (.error (.outOfOrder later earlier))
  | ok {entries : List (UInt32 × String)} {points : Checkpoints}
      (hspells : List.Forall₂ Spells entries points.toList) : Yields entries (.ok points)

theorem Yields.ofHex_eq {entries : List (UInt32 × String)} {result : Except Fault Checkpoints}
    (h : Yields entries result) : ofHex entries = result := by
  cases h with
  | @badHash before rest height text cause hbefore hcause =>
    have hread : (before ++ (height, text) :: rest).mapM entryOfHex = .error (.badHash cause) := by
      refine mapM_eq_error_iff.mpr ⟨before, _, rest, rfl, ?_, ?_⟩
      · intro entry hentry
        exact exists_entryOfHex_iff.mpr (hbefore entry hentry)
      · exact entryOfHex_eq_error_iff.mpr ⟨cause, rfl, hcause⟩
    rw [ofHex, hread]
    rfl
  | outOfOrder htexts hdescent =>
    obtain ⟨points, hspells⟩ := exists_spells htexts
    rw [ofHex_of_spells hspells, ofList_eq_error_iff, map_height_of_spells hspells]
    exact ⟨_, _, rfl, hdescent⟩
  | ok hspells => rw [ofHex_of_spells hspells, ofList_eq_ok_iff]

theorem yields_ofHex (entries : List (UInt32 × String)) : Yields entries (ofHex entries) := by
  cases hread : entries.mapM entryOfHex with
  | error fault =>
    obtain ⟨before, entry, rest, rfl, hbefore, hentry⟩ := mapM_eq_error_iff.mp hread
    obtain ⟨cause, -, hcause⟩ := entryOfHex_eq_error_iff.mp hentry
    have hyields : Yields (before ++ entry :: rest) (.error (.badHash cause)) := by
      refine .badHash ?_ hcause
      intro earlier hearlier
      exact exists_entryOfHex_iff.mp (hbefore earlier hearlier)
    rwa [hyields.ofHex_eq]
  | ok points =>
    have hspells := mapM_entryOfHex_eq_ok_iff.mp hread
    rw [ofHex_of_spells hspells]
    cases hlist : ofList points with
    | error fault =>
      obtain ⟨later, earlier, rfl, hdescent⟩ := ofList_eq_error_iff.mp hlist
      rw [map_height_of_spells hspells] at hdescent
      exact .outOfOrder (isText_of_spells hspells) hdescent
    | ok made =>
      rw [ofList_eq_ok_iff] at hlist
      exact .ok (hlist ▸ hspells)

theorem ofHex_eq_iff {entries : List (UInt32 × String)} {result : Except Fault Checkpoints} :
    ofHex entries = result ↔ Yields entries result := by
  constructor
  · rintro rfl
    exact yields_ofHex entries
  · exact Yields.ofHex_eq

end Checkpoints

/-! ## Definitions -/

namespace Definition

/-- The entries as a definition has them. -/
def entriesValue (entries : List (UInt32 × String)) : Json :=
  .arr (entries.map fun entry ↦ .obj [("height", .int entry.1.toNat), ("hash", .str entry.2)])

/-- What is wrong with a definition of checkpoints that cannot be made. -/
def Fault.ofCheckpoints : Checkpoints.Fault → Fault
  | .badHash cause => .badHash cause
  | fault => .badCheckpoints fault

theorem sorted_entry (entry : UInt32 × String) :
    (Json.obj [("height", .int entry.1.toNat), ("hash", .str entry.2)]).sorted =
      .obj [("hash", .str entry.2), ("height", .int entry.1.toNat)] := by
  have hkeys : List.Pairwise (· < ·) ["hash", "height"] := by decide
  have hsort := Json.sortMembers_eq_of_perm
    (List.Perm.swap ("hash", Json.str entry.2) ("height", Json.int entry.1.toNat) []) (by simp)
  exact congrArg Json.obj (hsort.trans (Json.sortMembers_of_pairwise hkeys))

/-- The text is judged, and any height fits. -/
theorem read_entry (entry : UInt32 × String) :
    Form.checkpoint.read (.obj [("hash", .str entry.2), ("height", .int entry.1.toNat)]) =
      (Checkpoints.entryOfHex entry).mapError .ofCheckpoints := by
  have hheight : Form.u32.read (.int entry.1.toNat) = .ok entry.1 := (Form.keeps_u32 0 entry.1).read
  have hhash : Form.hash.read (.str entry.2) = (BlockHash.ofHex entry.2).mapError .badHash := rfl
  have hlookup : [("hash", Json.str entry.2), ("height", Json.int entry.1.toNat)].lookup "height" =
      some (.int entry.1.toNat) := rfl
  unfold Checkpoints.entryOfHex
  cases htext : BlockHash.ofHex entry.2 with
  | error cause =>
    rw [htext, Except.mapError] at hhash
    simp [Form.checkpoint, Form.record, Fields.readObject, Fields.faultOf?, Field.required, hhash,
      Except.mapError, Fault.ofCheckpoints, Except.map]
  | ok hash =>
    rw [htext, Except.mapError] at hhash
    simp [Form.checkpoint, Form.record, Fields.readObject, Fields.faultOf?, Fields.ofMembers,
      Field.ofMembers, Field.required, hhash, hheight, hlookup, Except.mapError, bind, Except.bind,
      pure, Except.pure, Except.map]

theorem sorted_entriesValue (entries : List (UInt32 × String)) :
    (entriesValue entries).sorted = .arr (entries.map fun entry ↦
      .obj [("hash", .str entry.2), ("height", .int entry.1.toNat)]) := by
  rw [entriesValue, Json.sorted, Json.sortedItems_eq_map, List.map_map]
  exact congrArg Json.arr (List.map_congr_left fun entry _ ↦ sorted_entry entry)

theorem mapError_ofList (points : List Checkpoint) :
    (Checkpoints.ofList points).mapError Fault.badCheckpoints =
      (Checkpoints.ofList points).mapError Fault.ofCheckpoints := by
  cases hlist : Checkpoints.ofList points with
  | ok made => rfl
  | error fault =>
    obtain ⟨later, earlier, rfl, -⟩ := Checkpoints.ofList_eq_error_iff.mp hlist
    rfl

/-- A definition of the entries comes to the same as the entries themselves. -/
theorem read_entriesValue (entries : List (UInt32 × String)) :
    Form.checkpoints.read (entriesValue entries).sorted =
      (Checkpoints.ofHex entries).mapError .ofCheckpoints := by
  have hitems : Form.checkpoint.list.read (entriesValue entries).sorted =
      (entries.mapM Checkpoints.entryOfHex).mapError .ofCheckpoints := by
    rw [sorted_entriesValue, ← mapM_mapError]
    change List.mapM Form.checkpoint.read (entries.map _) = _
    rw [List.mapM_map]
    exact congrArg (List.mapM · entries) (funext read_entry)
  change (Form.checkpoint.list.read (entriesValue entries).sorted).bind
    (fun points ↦ (Checkpoints.ofList points).mapError .badCheckpoints) = _
  rw [hitems, Checkpoints.ofHex]
  cases entries.mapM Checkpoints.entryOfHex with
  | error fault => rfl
  | ok points => exact mapError_ofList points

theorem itemsFit_entries (entries : List (UInt32 × String)) :
    Json.ItemsFit 126 (entries.map fun entry ↦
      .obj [("height", .int entry.1.toNat), ("hash", .str entry.2)]) := by
  induction entries with
  | nil => trivial
  | cons entry entries ih =>
    have hheight : entry.1.toNat < 4294967296 := entry.1.toNat_lt
    refine ⟨⟨by decide, ⟨?_, ?_⟩, trivial, trivial⟩, ih⟩ <;> omega

theorem parse_entriesValue (entries : List (UInt32 × String)) :
    Json.parse (entriesValue entries).compact = .ok (entriesValue entries).sorted :=
  Json.parse_compact ⟨by decide, itemsFit_entries entries⟩

end Definition

namespace Checkpoints

open Definition (entriesValue)

theorem exists_ofHex_iff {entries : List (UInt32 × String)} :
    (∃ points, ofHex entries = .ok points) ↔
      (∀ entry ∈ entries, BlockHash.IsText entry.2) ∧ (entries.map Prod.fst).Pairwise (· < ·) := by
  constructor
  · rintro ⟨points, h⟩
    have hspells : List.Forall₂ Spells entries points.toList := by
      cases ofHex_eq_iff.mp h with
      | ok hspells => exact hspells
    refine ⟨isText_of_spells hspells, ?_⟩
    rw [← map_height_of_spells hspells, List.pairwise_map]
    exact points.ascending
  · rintro ⟨htexts, hascending⟩
    obtain ⟨points, hspells⟩ := exists_spells htexts
    rw [← map_height_of_spells hspells, List.pairwise_map] at hascending
    exact ⟨⟨points, hascending⟩, ofHex_eq_iff.mpr (.ok hspells)⟩

/-- A bad text makes the error one of a hash, even behind heights that do not ascend. -/
theorem kind_of_ofHex {entries : List (UInt32 × String)} {fault : Fault}
    (h : ofHex entries = .error fault) :
    ((Error.checkpoints fault).kind = .invalidHash ∧ ∃ entry ∈ entries, ¬BlockHash.IsText entry.2) ∨
      ((Error.checkpoints fault).kind = .invalidCheckpoints ∧
        ∀ entry ∈ entries, BlockHash.IsText entry.2) := by
  cases ofHex_eq_iff.mp h with
  | @badHash before rest height text cause _ hcause =>
    refine .inl ⟨rfl, (height, text), by simp, ?_⟩
    rw [← BlockHash.exists_ofHex_iff]
    rintro ⟨hash, hhash⟩
    rw [hcause] at hhash
    cases hhash
  | outOfOrder htexts => exact .inr ⟨rfl, htexts⟩

/-- Checkpoints are made exactly from texts of hashes with ascending heights, entry by entry.
Otherwise the first bad text is reported, or if there is none the first descent. A definition with
the same entries comes to the same, and the list of any checkpoints makes these again. -/
theorem made_iff_ascending (entries : List (UInt32 × String)) :
    (∀ result, ofHex entries = result ↔ Yields entries result) ∧
    ((∃ points, ofHex entries = .ok points) ↔
      (∀ entry ∈ entries, BlockHash.IsText entry.2) ∧ (entries.map Prod.fst).Pairwise (· < ·)) ∧
    (∀ fault, ofHex entries = .error fault →
      ((Error.checkpoints fault).kind = .invalidHash ∧
          ∃ entry ∈ entries, ¬BlockHash.IsText entry.2) ∨
        ((Error.checkpoints fault).kind = .invalidCheckpoints ∧
          ∀ entry ∈ entries, BlockHash.IsText entry.2)) ∧
    (∃ value, Json.parse (entriesValue entries).compact = .ok value ∧
      Definition.Form.checkpoints.read value = (ofHex entries).mapError .ofCheckpoints) ∧
    ∀ points : Checkpoints, ofList points.toList = .ok points := by
  refine ⟨fun _ ↦ ofHex_eq_iff, exists_ofHex_iff, fun _ ↦ kind_of_ofHex, ?_, ?_⟩
  · exact ⟨_, Definition.parse_entriesValue entries, Definition.read_entriesValue entries⟩
  · intro points
    exact ofList_of_ascending points.ascending

/-- Heights that descend. -/
def descendingEntries : List (UInt32 × String) :=
  [(5, StandardNetwork.mainGenesis.toHex), (1, StandardNetwork.mainGenesis.toHex)]

/-- The text that is too short comes behind the descent. -/
def lateText : List (UInt32 × String) :=
  descendingEntries ++ [(9, "00")]

theorem made_iff_ascending_lateText :
    ofHex lateText = .error (.badHash (.badLength 2)) ∧
      ∃ entry ∈ lateText, ¬BlockHash.IsText entry.2 := by
  obtain ⟨hyields, -, hkind, -, -⟩ := made_iff_ascending lateText
  have hfault : ofHex lateText = .error (.badHash (.badLength 2)) := by
    have hbefore : ∀ entry ∈ descendingEntries, BlockHash.IsText entry.2 := by
      simp [descendingEntries, BlockHash.isText_toHex]
    exact (hyields _).mpr (.badHash hbefore rfl)
  refine ⟨hfault, ?_⟩
  rcases hkind _ hfault with ⟨-, htext⟩ | ⟨hother, -⟩
  · exact htext
  · cases hother

end Checkpoints

end ChainParams
