import ChainParams.Proofs.Inspect.StandardNetworks
import ChainParams.Proofs.Magic

/-!
# Networks by name or magic

A text on the command line is taken as a name first, and as a magic only if no network has that
name. A network whose name spells the magic of another one therefore hides that spelling and no
other.
-/

namespace ChainParams.Inspect

/-- What a text leads to among networks. -/
inductive Finds (networks : List Network) (text : String) : Except Error Network → Prop
  /-- The first network with the name is found, whether the text spells a magic or not. -/
  | name {before after : List Network} {network : Network}
      (hnetworks : networks = before ++ network :: after) (hname : network.name = text)
      (hfirst : ∀ earlier ∈ before, earlier.name ≠ text) : Finds networks text (.ok network)
  | magic {network : Network} (hunnamed : ∀ other ∈ networks, other.name ≠ text)
      (hmem : network ∈ networks) (hspells : Magic.Spells text network.magic.value.toNat) :
      Finds networks text (.ok network)
  | unknownMagic {magic : Magic} (hunnamed : ∀ other ∈ networks, other.name ≠ text)
      (hspells : Magic.Spells text magic.value.toNat)
      (hfree : ∀ other ∈ networks, other.magic ≠ magic) :
      Finds networks text (.error (.unknownMagic magic))
  | noMagic {fault : Magic.Fault} (hunnamed : ∀ other ∈ networks, other.name ≠ text)
      (hnone : ∀ n < 4294967296, ¬Magic.Spells text n) (hfault : Magic.parse text = .error fault) :
      Finds networks text (.error (.magic fault))

section Lookup

variable {registry : Registry} {networks : List Network} {text : String}

theorem find_of_byName?_eq_some {network : Network} (h : registry.byName? text = some network) :
    find registry text = .ok network := by
  rw [find, h]

/-- What is no name is judged as a magic. -/
theorem find_of_byName?_eq_none (h : registry.byName? text = none) :
    find registry text = ((Magic.parse text).mapError .magic).bind registry.require := by
  rw [find, h]
  rfl

theorem Finds.find_eq {result : Except Error Network} (h : Finds networks text result)
    (hlists : registry.Lists networks) : find registry text = result := by
  cases h with
  | name hnetworks hname hfirst =>
    apply find_of_byName?_eq_some
    exact hlists.byName?_eq_some_iff.mpr ⟨hname, _, _, hnetworks, hfirst⟩
  | magic hunnamed hmem hspells =>
    rw [find_of_byName?_eq_none (hlists.byName?_eq_none_iff.mpr hunnamed),
      Magic.parse_eq_ok_iff.mpr hspells]
    exact hlists.require_of_mem _ hmem
  | unknownMagic hunnamed hspells hfree =>
    rw [find_of_byName?_eq_none (hlists.byName?_eq_none_iff.mpr hunnamed),
      Magic.parse_eq_ok_iff.mpr hspells]
    exact hlists.require_of_ne _ hfree
  | noMagic hunnamed _ hfault =>
    rw [find_of_byName?_eq_none (hlists.byName?_eq_none_iff.mpr hunnamed), hfault]
    rfl

/-- A search ends with a name, with a magic that is registered or not, or with a text that spells no
magic. -/
theorem exists_finds (hlists : registry.Lists networks) (text : String) :
    ∃ result, Finds networks text result := by
  cases hname : registry.byName? text with
  | some network =>
    obtain ⟨hnetwork, _, _, hnetworks, hfirst⟩ := hlists.byName?_eq_some_iff.mp hname
    exact ⟨_, .name hnetworks hnetwork hfirst⟩
  | none =>
    have hunnamed := hlists.byName?_eq_none_iff.mp hname
    cases hparse : Magic.parse text with
    | error fault =>
      have hnone := Magic.exists_parse_error_iff.mp
        ⟨fault, hparse, Magic.text_of_parse_eq_error hparse⟩
      exact ⟨_, .noMagic hunnamed hnone hparse⟩
    | ok magic =>
      have hspells := Magic.parse_eq_ok_iff.mp hparse
      by_cases hmagic : ∃ network ∈ networks, network.magic = magic
      · obtain ⟨network, hmem, rfl⟩ := hmagic
        exact ⟨_, .magic hunnamed hmem hspells⟩
      · push Not at hmagic
        exact ⟨_, .unknownMagic hunnamed hspells hmagic⟩

theorem find_eq_iff (hlists : registry.Lists networks) {result : Except Error Network} :
    find registry text = result ↔ Finds networks text result := by
  constructor
  · intro h
    obtain ⟨found, hfound⟩ := exists_finds hlists text
    rwa [← h, hfound.find_eq hlists]
  · exact fun h ↦ h.find_eq hlists

theorem exists_find_name (hlists : registry.Lists networks) {network : Network}
    (hmem : network ∈ networks) :
    ∃ found ∈ networks, find registry network.name = .ok found ∧ found.name = network.name := by
  cases hname : registry.byName? network.name with
  | none => exact absurd rfl (hlists.byName?_eq_none_iff.mp hname network hmem)
  | some found =>
    obtain ⟨hfound, before, after, hnetworks, -⟩ := hlists.byName?_eq_some_iff.mp hname
    refine ⟨found, ?_, find_of_byName?_eq_some hname, hfound⟩
    rw [hnetworks]
    exact List.mem_append_right before (List.mem_cons_self ..)

end Lookup

/-- A text leads to the first network with that name. If there is none, it leads to the network
whose magic it spells, and fails if it spells no magic or one that is not registered. So each
network is found by every spelling of its magic that is no network's name, and by its own name at
least some network with that name is found. -/
theorem find_name_or_magic (registry : Registry) (h : registry.Reachable) :
    (∀ text result, find registry text = result ↔ Finds registry.networks text result) ∧
    (∀ network ∈ registry.networks, ∀ text, Magic.Spells text network.magic.value.toNat →
      (∀ other ∈ registry.networks, other.name ≠ text) → find registry text = .ok network) ∧
    ∀ network ∈ registry.networks, ∃ found ∈ registry.networks,
      find registry network.name = .ok found ∧ found.name = network.name := by
  obtain ⟨calls, rfl⟩ := h.exists_run
  have hlists := (Registry.records_run calls).lists
  rw [hlists.networks_eq]
  refine ⟨fun _ _ ↦ find_eq_iff hlists, ?_, fun _ ↦ exists_find_name hlists⟩
  intro network hmem text hspells hunnamed
  exact (Finds.magic hunnamed hmem hspells).find_eq hlists

/-- A network whose name is the text of the main network's magic. -/
def misnamedNetwork : Network :=
  { StandardNetwork.regtestNetwork with
    name := StandardNetwork.mainNetwork.magic.text
    magic := ⟨0x12121212⟩ }

def misnamedRegistry : Registry :=
  Registry.standard.registry.after (.register misnamedNetwork)

theorem networks_misnamedRegistry :
    misnamedRegistry.networks =
      StandardNetwork.all.map StandardNetwork.network ++ [misnamedNetwork] := rfl

/-- The name hides one spelling of the magic, and other spellings still lead to the main network. -/
theorem find_name_or_magic_misnamedNetwork :
    find misnamedRegistry "0xe9fdc490" = .ok misnamedNetwork ∧
    find misnamedRegistry "0Xe9fdc490" = .ok StandardNetwork.mainNetwork ∧
    find misnamedRegistry "+003925722256" = .ok StandardNetwork.mainNetwork ∧
    find misnamedRegistry "0x0" = .error (.unknownMagic ⟨0⟩) ∧
    find misnamedRegistry "Main" = .error (.magic ⟨"Main", .badDigit⟩) ∧
    ∃ found ∈ misnamedRegistry.networks,
      find misnamedRegistry misnamedNetwork.name = .ok found ∧
        found.name = misnamedNetwork.name := by
  obtain ⟨hfind, hspelled, hnamed⟩ :=
    find_name_or_magic misnamedRegistry (.call .standard (.register misnamedNetwork))
  rw [networks_misnamedRegistry] at hfind hspelled hnamed ⊢
  have hmarked : Magic.Spells "0Xe9fdc490" 3925722256 :=
    .hexadecimal (by decide) (.inl rfl) (List.cons_ne_nil _ _)
      (List.forall_iff_forall_mem.mp (by decide))
  have hplain : Magic.Spells "+003925722256" 3925722256 :=
    .decimal (.inr rfl) (List.cons_ne_nil _ _)
      (List.forall_iff_forall_mem.mp (by decide))
  have hzero : Magic.Spells "0x0" 0 :=
    .hexadecimal (by decide) (.inl rfl) (List.cons_ne_nil _ _)
      (List.forall_iff_forall_mem.mp (by decide))
  have hnone := Magic.exists_parse_error_iff.mp ⟨⟨"Main", .badDigit⟩, rfl, rfl⟩
  refine ⟨?_, ?_, ?_, ?_, ?_, ?_⟩
  · apply (hfind _ _).mpr
    exact .name rfl rfl (by decide)
  · exact hspelled _ (List.mem_cons_self ..) _ hmarked (by decide)
  · exact hspelled _ (List.mem_cons_self ..) _ hplain (by decide)
  · exact (hfind _ _).mpr (.unknownMagic (by decide) hzero (by decide))
  · exact (hfind _ _).mpr (.noMagic (by decide) hnone rfl)
  · exact hnamed _ (by simp)

end ChainParams.Inspect
