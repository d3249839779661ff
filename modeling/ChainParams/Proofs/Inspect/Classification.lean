import ChainParams.Proofs.Inspect.StandardNetworks
import ChainParams.Proofs.Registry.Prefixes
import ChainParams.Proofs.Text.Marked

/-!
# Kinds of addresses by their first byte

A text that spells a byte, in hexadecimal or in decimal, is answered with the kinds of addresses for
which some registered network has that byte. Any other text makes the command fail without output.
-/

namespace ChainParams

namespace Registry.AddressKind

/-- Every kind, in the order in which they are told. -/
def all : List AddressKind :=
  [pubkeyHash, scriptHash, stakingKey]

def label : AddressKind → String
  | pubkeyHash => "pubkey-hash"
  | scriptHash => "script-hash"
  | stakingKey => "staking-key"

theorem mem_all (kind : AddressKind) : kind ∈ all := by
  cases kind <;> simp [all]

/-- The kinds for which some network has the byte. -/
def ofByte (networks : List Network) (byte : UInt8) : List AddressKind :=
  all.filter fun kind ↦ ∃ network ∈ networks, kind.byte network = byte

theorem mem_ofByte {networks : List Network} {byte : UInt8} {kind : AddressKind} :
    kind ∈ ofByte networks byte ↔ ∃ network ∈ networks, kind.byte network = byte := by
  simp [ofByte, mem_all]

theorem ofByte_eq_nil_iff {networks : List Network} {byte : UInt8} :
    ofByte networks byte = [] ↔
      ∀ network ∈ networks, ∀ kind : AddressKind, kind.byte network ≠ byte := by
  rw [List.eq_nil_iff_forall_not_mem]
  simp only [mem_ofByte, not_exists, not_and]
  constructor
  · exact fun h network hmem kind ↦ h kind network hmem
  · exact fun h kind network hmem ↦ h network hmem kind

end Registry.AddressKind

namespace Inspect

open Text
open Registry (AddressKind)

/-! ## Texts of bytes -/

/-- The text spells the number, in hexadecimal after a mark in lower case. -/
def Spells (text : String) (n : Nat) : Prop :=
  Numeral.SpellsMarked ['x'] text.toList n

theorem Spells.unique {text : String} {n m : Nat} (h : Spells text n) (hother : Spells text m) :
    n = m :=
  Numeral.SpellsMarked.unique (List.forall_mem_singleton.mpr (by decide)) h hother

/-- A numeral below 256 is the byte of that number. -/
theorem map_read_eq_ok_iff {radix : Nat} (hradix : 0 < radix) {numeral : List Char}
    {byte : UInt8} :
    (Numeral.read radix UInt8.size numeral).map UInt8.ofNat = .ok byte ↔
      Numeral.Spells radix numeral byte.toNat := by
  rw [map_eq_ok_iff]
  simp only [Numeral.read_eq_ok_iff hradix (show 0 < UInt8.size by decide)]
  constructor
  · rintro ⟨n, ⟨hspells, hlt⟩, rfl⟩
    rwa [UInt8.toNat_ofNat_of_lt' hlt]
  · intro h
    exact ⟨byte.toNat, ⟨h, byte.toNat_lt⟩, UInt8.ofNat_toNat⟩

theorem readByte_eq_ok_iff {text : String} {byte : UInt8} :
    readByte text = .ok byte ↔ Spells text byte.toNat := by
  rw [readByte, Spells]
  split
  · next digits htext =>
    rw [htext, map_read_eq_ok_iff (by decide),
      Numeral.spellsMarked_mark_iff (List.mem_singleton_self _) (by decide)]
  · next hplain =>
    rw [map_read_eq_ok_iff (by decide), Numeral.spellsMarked_plain_iff]
    intro mark hmark numeral htext
    rw [List.mem_singleton.mp hmark] at htext
    exact hplain numeral htext

theorem exists_readByte_error_iff {text : String} :
    (∃ cause, readByte text = .error cause) ↔ ∀ n ≤ 255, ¬Spells text n := by
  constructor
  · rintro ⟨cause, hcause⟩ n hle hspells
    have hread : readByte text = .ok (UInt8.ofNat n) := by
      rw [readByte_eq_ok_iff, UInt8.toNat_ofNat_of_lt' (Nat.lt_succ_of_le hle)]
      exact hspells
    rw [hcause] at hread
    cases hread
  · intro hnone
    cases hread : readByte text with
    | error cause => exact ⟨cause, rfl⟩
    | ok byte =>
      exact absurd (readByte_eq_ok_iff.mp hread) (hnone _ (Nat.le_of_lt_succ byte.toNat_lt))

/-! ## Answers -/

/-- The kinds one after the other, behind the number of the byte. -/
def kindsLine (byte : UInt8) (kinds : List AddressKind) : String :=
  Nat.repr byte.toNat ++ ": " ++ ", ".intercalate (kinds.map AddressKind.label) ++ "\n"

/-- What is told about a text among networks. -/
inductive Classifies (networks : List Network) (text : String) : Except Failure String → Prop
  | known {byte : UInt8} (hspells : Spells text byte.toNat)
      (hkinds : AddressKind.ofByte networks byte ≠ []) :
      Classifies networks text (.ok (kindsLine byte (AddressKind.ofByte networks byte)))
  | unregistered {byte : UInt8} (hspells : Spells text byte.toNat)
      (hnone : ∀ network ∈ networks, ∀ kind : AddressKind, kind.byte network ≠ byte) :
      Classifies networks text (.ok (Nat.repr byte.toNat ++ ": not a registered prefix\n"))
  | noByte {cause : Numeral.Fault} (hnone : ∀ n ≤ 255, ¬Spells text n)
      (hcause : readByte text = .error cause) :
      Classifies networks text
        (.error ⟨s!"invalid prefix byte {Quoted.string text}", [cause.message]⟩)

section Answers

variable {registry : Registry} {text : String}

theorem isPrefix_iff_of_reachable (h : registry.Reachable) {kind : AddressKind} {byte : UInt8} :
    registry.isPrefix kind byte = true ↔
      ∃ network ∈ registry.networks, kind.byte network = byte := by
  obtain ⟨calls, rfl⟩ := h.exists_run
  have hrecords := Registry.records_run calls
  rw [hrecords.networks_eq]
  exact hrecords.isPrefix_iff kind byte

/-- The tables of prefixes are gone through in the order of the kinds. -/
theorem addressKinds_eq (h : registry.Reachable) (byte : UInt8) :
    addressKinds registry byte =
      (AddressKind.ofByte registry.networks byte).map AddressKind.label := by
  have hfilter : addressKinds registry byte =
      (AddressKind.all.filter fun kind ↦ registry.isPrefix kind byte).map AddressKind.label := by
    simp only [addressKinds, AddressKind.all, List.filter_cons, List.filter_nil, Registry.isPrefix]
    split_ifs <;> rfl
  rw [hfilter, AddressKind.ofByte]
  simp only [← isPrefix_iff_of_reachable h, Bool.decide_eq_true]

theorem answer_classify_of_spells {byte : UInt8} (h : Spells text byte.toNat) :
    answer registry (.classify text) = .ok (classifyLine registry byte) := by
  rw [answer, readByte_eq_ok_iff.mpr h]
  rfl

theorem answer_classify_of_error {cause : Numeral.Fault} (h : readByte text = .error cause) :
    answer registry (.classify text) =
      .error ⟨s!"invalid prefix byte {Quoted.string text}", [cause.message]⟩ := by
  rw [answer, h]
  rfl

theorem Classifies.answer_eq {result : Except Failure String} (hreachable : registry.Reachable)
    (h : Classifies registry.networks text result) :
    answer registry (.classify text) = result := by
  cases h with
  | @known byte hspells hkinds =>
    rw [answer_classify_of_spells hspells, classifyLine, addressKinds_eq hreachable]
    cases hlist : AddressKind.ofByte registry.networks byte with
    | nil => exact absurd hlist hkinds
    | cons kind kinds => rfl
  | @unregistered byte hspells hnone =>
    rw [answer_classify_of_spells hspells, classifyLine, addressKinds_eq hreachable,
      AddressKind.ofByte_eq_nil_iff.mpr hnone]
    rfl
  | noByte _ hcause => exact answer_classify_of_error hcause

theorem exists_classifies (networks : List Network) (text : String) :
    ∃ result, Classifies networks text result := by
  cases hread : readByte text with
  | error cause => exact ⟨_, .noByte (exists_readByte_error_iff.mp ⟨cause, hread⟩) hread⟩
  | ok byte =>
    have hspells := readByte_eq_ok_iff.mp hread
    by_cases hkinds : AddressKind.ofByte networks byte = []
    · exact ⟨_, .unregistered hspells (AddressKind.ofByte_eq_nil_iff.mp hkinds)⟩
    · exact ⟨_, .known hspells hkinds⟩

theorem answer_classify_iff (h : registry.Reachable) {result : Except Failure String} :
    answer registry (.classify text) = result ↔ Classifies registry.networks text result := by
  constructor
  · intro hanswer
    obtain ⟨told, htold⟩ := exists_classifies registry.networks text
    rwa [← hanswer, htold.answer_eq h]
  · exact fun htold ↦ htold.answer_eq h

theorem exists_answer_classify_error_iff :
    (∃ failure, answer registry (.classify text) = .error failure) ↔
      ∀ n ≤ 255, ¬Spells text n := by
  rw [← exists_readByte_error_iff]
  constructor
  · rintro ⟨failure, h⟩
    cases hread : readByte text with
    | error cause => exact ⟨cause, rfl⟩
    | ok byte =>
      rw [answer_classify_of_spells (readByte_eq_ok_iff.mp hread)] at h
      cases h
  · rintro ⟨cause, hcause⟩
    exact ⟨_, answer_classify_of_error hcause⟩

end Answers

/-- A text that spells no number below 256 makes the command fail, and the run without any output.
Any other text spells one byte, and is answered with its number and, in their order, the kinds for
which some registered network has the byte, or with the note that there are none. -/
theorem classify_byte :
    (∀ registry : Registry, registry.Reachable → ∀ text : String,
      (∀ result, answer registry (.classify text) = result ↔
        Classifies registry.networks text result) ∧
      ((∃ failure, answer registry (.classify text) = .error failure) ↔
        ∀ n ≤ 255, ¬Spells text n)) ∧
    (∀ (text : String) (n m : Nat), Spells text n → Spells text m → n = m) ∧
    ∀ (arguments : List String) (networks : Option String) (text : String) (filter : LogFilter)
        (readFile : String → Except FileFault ByteArray) (registry : Registry),
      Arguments.parse arguments = .ok ⟨networks, .classify text⟩ →
      (prepare networks readFile).2 = .ok registry →
      ((run arguments filter readFile).Fails ↔ ∀ n ≤ 255, ¬Spells text n) ∧
      ∀ output, Classifies registry.networks text (.ok output) →
        (run arguments filter readFile).Tells output := by
  refine ⟨fun registry h text ↦ ⟨fun _ ↦ answer_classify_iff h, exists_answer_classify_error_iff⟩,
    fun _ _ _ ↦ Spells.unique, ?_⟩
  intro arguments networks text filter readFile registry hparse hprepare
  have hreachable := reachable_of_prepare hprepare
  refine ⟨?_, ?_⟩
  · rw [← @exists_answer_classify_error_iff registry text]
    constructor
    · intro hfails
      cases hanswer : answer registry (.classify text) with
      | error failure => exact ⟨failure, rfl⟩
      | ok output =>
        have htells := run_of_prepare_ok filter hparse hprepare hanswer
        have hcode := htells.exitCode_eq
        rw [hfails.exitCode_eq] at hcode
        cases hcode
    · rintro ⟨failure, hanswer⟩
      exact run_of_answer_error filter hparse hprepare hanswer
  · intro output houtput
    exact run_of_prepare_ok filter hparse hprepare (houtput.answer_eq hreachable)

/-- A byte of two networks in decimal, one of the main network behind a mark, one that no network
has, a number that is too large, and a mark in upper case. -/
theorem classify_byte_standard :
    (run ["prefix", "+0139"] .off fun _ ↦ .error .notFound).Tells "139: pubkey-hash\n" ∧
    (run ["prefix", "0x+3F"] .off fun _ ↦ .error .notFound).Tells "63: staking-key\n" ∧
    (run ["prefix", "0x00"] .off fun _ ↦ .error .notFound).Tells
      "0: not a registered prefix\n" ∧
    (run ["prefix", "256"] .off fun _ ↦ .error .notFound).Fails ∧
    ∃ failure, answer Registry.standard.registry (.classify "0X21") = .error failure := by
  obtain ⟨hanswers, hunique, hruns⟩ := classify_byte
  have hdecimal : Spells "+0139" (139 : UInt8).toNat :=
    .decimal (.inr rfl) (List.cons_ne_nil _ _) (List.forall_iff_forall_mem.mp (by decide))
  have hmarked : Spells "0x+3F" (63 : UInt8).toNat :=
    .hexadecimal (List.mem_singleton_self _) (.inr rfl) (List.cons_ne_nil _ _)
      (List.forall_iff_forall_mem.mp (by decide))
  have hzero : Spells "0x00" (0 : UInt8).toNat :=
    .hexadecimal (List.mem_singleton_self _) (.inl rfl) (List.cons_ne_nil _ _)
      (List.forall_iff_forall_mem.mp (by decide))
  have hlarge : Spells "256" 256 :=
    .decimal (.inl rfl) (List.cons_ne_nil _ _) (List.forall_iff_forall_mem.mp (by decide))
  refine ⟨?_, ?_, ?_, ?_, ?_⟩
  · exact (hruns _ none "+0139" .off _ _ rfl rfl).2 _ (.known hdecimal (by decide))
  · exact (hruns _ none "0x+3F" .off _ _ rfl rfl).2 _ (.known hmarked (by decide))
  · exact (hruns _ none "0x00" .off _ _ rfl rfl).2 _
      (.unregistered hzero (AddressKind.ofByte_eq_nil_iff.mp (by decide)))
  · apply (hruns _ none "256" .off _ _ rfl rfl).1.mpr
    intro n hle hspells
    cases hunique _ _ _ hspells hlarge
    exact absurd hle (by decide)
  · exact (hanswers _ .standard _).2.mpr (exists_readByte_error_iff.mp ⟨_, rfl⟩)

end Inspect

end ChainParams
