import ChainParams.Proofs.Json.Scalar
import ChainParams.Proofs.Json.Sorted

/-!
# Reading values back

The text of a value is read as the value with its members sorted, in either layout, as long as the
value holds no floats, its integers fit into 64 bits and it is not nested too deep.
-/

namespace ChainParams.Json

mutual

/-- A value without floats and with 64-bit integers, nested no deeper than given. -/
def Fits (depth : Nat) : Json → Prop
  | .int n => -9223372036854775808 ≤ n ∧ n < 18446744073709551616
  | .float _ _ => False
  | .arr items => 0 < depth ∧ ItemsFit (depth - 1) items
  | .obj members => 0 < depth ∧ MembersFit (depth - 1) members
  | _ => True

def ItemsFit (depth : Nat) : List Json → Prop
  | [] => True
  | item :: rest => item.Fits depth ∧ ItemsFit depth rest

def MembersFit (depth : Nat) : List (String × Json) → Prop
  | [] => True
  | (_, value) :: rest => value.Fits depth ∧ MembersFit depth rest

end

/-- A layout puts only white space between the parts. -/
structure Layout.Blank (layout : Layout) : Prop where
  gap : ∀ depth, ∀ c ∈ layout.gap depth, isSpace c = true
  colon : ∃ blank, layout.colon = ':' :: blank ∧ ∀ c ∈ blank, isSpace c = true

theorem Layout.blank_compact : Layout.compact.Blank where
  gap _ _ h := by cases h
  colon := ⟨[], rfl, fun _ h ↦ by cases h⟩

theorem Layout.blank_indented : Layout.indented.Blank where
  gap depth c h := by
    rcases List.mem_cons.mp h with rfl | hspace
    · rfl
    · rw [List.eq_of_mem_replicate hspace]
      rfl
  colon := ⟨[' '], rfl, fun c h ↦ by rw [List.mem_singleton.mp h]; rfl⟩

namespace State

/-! ## What follows a value -/

theorem follows_append {blank rest : List Char} (hblank : ∀ c ∈ blank, isSpace c = true)
    (hrest : Follows rest) : Follows (blank ++ rest) := by
  cases blank with
  | nil => exact hrest
  | cons c blank =>
    rintro d ⟨⟩
    exact .inl (hblank c (List.mem_cons_self ..))

theorem follows_itemChars (layout : Layout) (depth : Nat) (items : List Json) {rest : List Char}
    (hrest : Follows rest) : Follows (itemChars layout depth items ++ rest) := by
  cases items with
  | nil => simpa only [itemChars, List.nil_append] using hrest
  | cons item items =>
    rw [itemChars, List.cons_append]
    rintro c ⟨⟩
    exact .inr (.inl rfl)

theorem follows_memberChars (layout : Layout) (depth : Nat) (members : List (String × Json))
    {rest : List Char} (hrest : Follows rest) :
    Follows (memberChars layout depth members ++ rest) := by
  cases members with
  | nil => simpa only [memberChars, List.nil_append] using hrest
  | cons member members =>
    rw [memberChars, List.cons_append]
    rintro c ⟨⟩
    exact .inr (.inl rfl)

/-! ## What the machine waits for -/

theorem idle_value (stack : List Frame) : Idle ⟨stack, .value⟩ := by
  intro c hc
  simp only [step, stepValue, hc, if_true]

theorem idle_firstItem (stack : List Frame) : Idle ⟨stack, .firstItem⟩ := by
  intro c hc
  simp only [step, hc, if_true]

theorem idle_item (stack : List Frame) (items : List Json) : Idle ⟨stack, .item items⟩ := by
  intro c hc
  simp only [step, stepAfter, hc, if_true]

theorem idle_firstKey (stack : List Frame) : Idle ⟨stack, .firstKey⟩ := by
  intro c hc
  simp only [step, hc, if_true]

theorem idle_nextKey (stack : List Frame) (members : List (String × Json)) :
    Idle ⟨stack, .nextKey members⟩ := by
  intro c hc
  simp only [step, hc, if_true]

theorem idle_member (stack : List Frame) (members : List (String × Json)) :
    Idle ⟨stack, .member members⟩ := by
  intro c hc
  simp only [step, stepAfter, hc, if_true]

theorem idle_done (stack : List Frame) (value : Json) : Idle ⟨stack, .done value⟩ := by
  intro c hc
  simp only [step, stepAfter, hc, if_true]

theorem step_enter {stack : List Frame} (h : 0 < maxDepth - stack.length) :
    step ⟨stack, .value⟩ '[' = .ok ⟨stack, .firstItem⟩ ∧
      step ⟨stack, .value⟩ '\x7b' = .ok ⟨stack, .firstKey⟩ := by
  have hroom : stack.length < maxDepth := Nat.lt_of_sub_pos h
  have henter (mode : Mode) : enter stack mode = .ok ⟨stack, mode⟩ := if_pos hroom
  exact ⟨henter .firstItem, henter .firstKey⟩

/-- No value starts with white space or with a closing bracket. -/
theorem chars_eq_cons (layout : Layout) (depth : Nat) {value : Json} {fuel : Nat}
    (h : value.Fits fuel) :
    ∃ c cs, value.chars layout depth = c :: cs ∧ isSpace c = false ∧ c ≠ ']' := by
  match value with
  | .null | .bool true | .bool false =>
    exact ⟨_, _, by simp only [chars]; rfl, by decide, by decide⟩
  | .int (.negSucc n) => exact ⟨_, _, by simp only [chars, intChars]; rfl, by decide, by decide⟩
  | .int (.ofNat n) =>
    obtain ⟨c, cs, hdigits, hc⟩ := toDigits_eq_cons n
    exact ⟨c, cs, by simp only [chars, intChars, hdigits], isSpace_of_isDigit hc,
      ne_of_isDigit hc rfl⟩
  | .float _ _ => exact h.elim
  | .str s => exact ⟨_, _, by simp only [chars, stringChars]; rfl, by decide, by decide⟩
  | .arr [] | .obj [] => exact ⟨_, _, by simp only [chars]; rfl, by decide, by decide⟩
  | .arr (item :: items) => exact ⟨_, _, by simp only [chars]; rfl, by decide, by decide⟩
  | .obj ((key, value) :: members) => exact ⟨_, _, by simp only [chars]; rfl, by decide, by decide⟩

theorem readRest_firstItem (layout : Layout) (depth : Nat) {value : Json} {fuel : Nat}
    (h : value.Fits fuel) (stack : List Frame) (rest : List Char) :
    readRest ⟨stack, .firstItem⟩ (value.chars layout depth ++ rest) =
      readRest ⟨.array [] :: stack, .value⟩ (value.chars layout depth ++ rest) := by
  obtain ⟨c, cs, hchars, hspace, hclose⟩ := chars_eq_cons layout depth h
  have hstep : step ⟨stack, .firstItem⟩ c = step ⟨.array [] :: stack, .value⟩ c := by
    simp [step, hspace, hclose]
  simp only [hchars, List.cons_append, readRest, run, List.foldlM_cons, hstep]

/-! ## Values -/

/-- A member from the first mark of its key on, with a value that is read back. -/
theorem readRest_keyed {layout : Layout} (hlayout : layout.Blank) (stack : List Frame)
    (before : List (String × Json)) (key : String) {value : Json} {text rest : List Char}
    (hvalue : readRest ⟨.object before key :: stack, .value⟩ (text ++ rest) =
      (deliver value (.object before key :: stack)).readRest rest) :
    readRest ⟨stack, .string (.key before) ⟨[], .none⟩⟩
        (key.toList.flatMap escapeChar ++ '"' :: (layout.colon ++ (text ++ rest))) =
      readRest ⟨stack, .member ((key, value) :: before)⟩ rest := by
  obtain ⟨blank, hcolon, hblank⟩ := hlayout.colon
  calc
    _ = readRest ⟨stack, .colon before key⟩ (':' :: (blank ++ (text ++ rest))) := by
      rw [readRest_stringChars, hcolon]
      rfl
    _ = readRest ⟨.object before key :: stack, .value⟩ (blank ++ (text ++ rest)) := rfl
    _ = _ := by
      rw [(idle_value _).readRest_append hblank, hvalue]
      rfl

mutual

theorem readRest_chars {layout : Layout} (hlayout : layout.Blank) (depth : Nat) :
    ∀ (value : Json) (stack : List Frame), value.Fits (maxDepth - stack.length) →
      ∀ {rest : List Char}, Follows rest →
        readRest ⟨stack, .value⟩ (value.chars layout depth ++ rest) =
          (deliver value.sorted stack).readRest rest
  | .null, _, _, _, _ => by
    simp only [chars, sorted]
    rfl
  | .bool true, _, _, _, _ => by
    simp only [chars, sorted]
    rfl
  | .bool false, _, _, _, _ => by
    simp only [chars, sorted]
    rfl
  | .int n, stack, hfits, rest, hrest => by
    obtain ⟨hlow, hhigh⟩ := hfits
    simpa only [chars, sorted] using readRest_intChars stack hlow hhigh hrest
  | .float _ _, _, hfits, _, _ => hfits.elim
  | .str s, stack, _, rest, _ => by
    simp only [chars, sorted, stringChars, List.cons_append, List.append_assoc, List.nil_append]
    exact readRest_stringChars stack .value s rest
  | .arr [], stack, hfits, rest, _ => by
    simp only [chars, sorted, sortedItems, List.cons_append, List.nil_append]
    rw [readRest_cons (step_enter hfits.1).1]
    rfl
  | .arr (item :: items), stack, hfits, rest, hrest => by
    obtain ⟨hroom, hitem, hitems⟩ := hfits
    have hclose : Follows (layout.gap depth ++ ']' :: rest) := by
      apply follows_append (hlayout.gap depth)
      rintro c ⟨⟩
      exact .inr (.inr (.inl rfl))
    simp only [chars, sorted, sortedItems, List.cons_append, List.nil_append, List.append_assoc]
    -- Within the array the stack is one frame deeper, for which the bound leaves one level less.
    rw [readRest_cons (step_enter hroom).1, (idle_firstItem stack).readRest_append (hlayout.gap _),
      readRest_firstItem layout _ hitem,
      readRest_chars hlayout _ item (.array [] :: stack) hitem
        (follows_itemChars layout _ items hclose)]
    change readRest ⟨stack, .item [item.sorted]⟩ _ = _
    rw [readRest_itemChars hlayout _ items stack _ hitems hclose,
      (idle_item stack _).readRest_append (hlayout.gap _)]
    have hend : step ⟨stack, .item ((sortedItems items).reverse ++ [item.sorted])⟩ ']' =
        .ok (deliver (.arr (item.sorted :: sortedItems items)) stack) := by
      simp [step, stepAfter, isSpace]
    exact readRest_cons hend rest
  | .obj [], stack, hfits, rest, _ => by
    simp only [chars, sorted, sortedMembers, List.cons_append, List.nil_append]
    rw [readRest_cons (step_enter hfits.1).2]
    rfl
  | .obj ((key, value) :: members), stack, hfits, rest, hrest => by
    obtain ⟨hroom, hvalue, hmembers⟩ := hfits
    have hclose : Follows (layout.gap depth ++ '\x7d' :: rest) := by
      apply follows_append (hlayout.gap depth)
      rintro c ⟨⟩
      exact .inr (.inr (.inr rfl))
    simp only [chars, sorted, sortedMembers, stringChars, List.cons_append, List.nil_append,
      List.append_assoc]
    rw [readRest_cons (step_enter hroom).2, (idle_firstKey stack).readRest_append (hlayout.gap _)]
    change readRest ⟨stack, .string (.key []) ⟨[], .none⟩⟩ _ = _
    rw [readRest_keyed hlayout stack [] key (readRest_chars hlayout _ value
        (.object [] key :: stack) hvalue (follows_memberChars layout _ members hclose)),
      readRest_memberChars hlayout _ members stack _ hmembers hclose,
      (idle_member stack _).readRest_append (hlayout.gap _)]
    have hend : step ⟨stack, .member ((sortedMembers members).reverse ++ [(key, value.sorted)])⟩
        '\x7d' = .ok (deliver (.obj (sortMembers ((key, value.sorted) :: sortedMembers members)))
          stack) := by
      simp [step, stepAfter, isSpace]
    exact readRest_cons hend rest

theorem readRest_itemChars {layout : Layout} (hlayout : layout.Blank) (depth : Nat) :
    ∀ (items : List Json) (stack : List Frame) (before : List Json),
      ItemsFit (maxDepth - stack.length - 1) items → ∀ {rest : List Char}, Follows rest →
        readRest ⟨stack, .item before⟩ (itemChars layout depth items ++ rest) =
          readRest ⟨stack, .item ((sortedItems items).reverse ++ before)⟩ rest
  | [], _, _, _, _, _ => rfl
  | item :: items, stack, before, hfits, rest, hrest => by
    obtain ⟨hitem, hitems⟩ := hfits
    simp only [itemChars, sortedItems, List.cons_append, List.append_assoc, List.reverse_cons]
    change readRest ⟨.array before :: stack, .value⟩ _ = _
    rw [(idle_value _).readRest_append (hlayout.gap _),
      readRest_chars hlayout _ item (.array before :: stack) hitem
        (follows_itemChars layout _ items hrest)]
    exact readRest_itemChars hlayout _ items stack _ hitems hrest

theorem readRest_memberChars {layout : Layout} (hlayout : layout.Blank) (depth : Nat) :
    ∀ (members : List (String × Json)) (stack : List Frame) (before : List (String × Json)),
      MembersFit (maxDepth - stack.length - 1) members → ∀ {rest : List Char}, Follows rest →
        readRest ⟨stack, .member before⟩ (memberChars layout depth members ++ rest) =
          readRest ⟨stack, .member ((sortedMembers members).reverse ++ before)⟩ rest
  | [], _, _, _, _, _ => rfl
  | (key, value) :: members, stack, before, hfits, rest, hrest => by
    obtain ⟨hvalue, hmembers⟩ := hfits
    simp only [memberChars, sortedMembers, stringChars, List.cons_append, List.append_assoc,
      List.reverse_cons, List.nil_append]
    change readRest ⟨stack, .nextKey before⟩ _ = _
    rw [(idle_nextKey stack before).readRest_append (hlayout.gap _)]
    change readRest ⟨stack, .string (.key before) ⟨[], .none⟩⟩ _ = _
    rw [readRest_keyed hlayout stack before key (readRest_chars hlayout _ value
      (.object before key :: stack) hvalue (follows_memberChars layout _ members hrest))]
    exact readRest_memberChars hlayout _ members stack _ hmembers hrest

end

end State

/-! ## Texts -/

/-- White space after a value is passed over. -/
theorem parse_chars {layout : Layout} (hlayout : layout.Blank) {value : Json}
    (hfits : value.Fits maxDepth) (blank : List Char) (hblank : ∀ c ∈ blank, isSpace c = true) :
    parse (String.ofList (value.chars layout 0 ++ blank)) = .ok value.sorted := by
  have hend : State.Follows (blank ++ []) := by
    apply State.follows_append hblank
    rintro c ⟨⟩
  rw [State.parse_eq_readRest, String.toList_ofList, ← List.append_nil blank]
  calc
    _ = (State.deliver value.sorted []).readRest (blank ++ []) :=
      State.readRest_chars hlayout 0 value [] hfits hend
    _ = .ok value.sorted := (State.idle_done [] _).readRest_append hblank []

theorem parse_compact {value : Json} (hfits : value.Fits maxDepth) :
    parse value.compact = .ok value.sorted := by
  have hparse := parse_chars Layout.blank_compact hfits [] (by simp)
  rwa [List.append_nil] at hparse

theorem parse_pretty {value : Json} (hfits : value.Fits maxDepth) :
    parse value.pretty = .ok value.sorted := by
  have hparse := parse_chars Layout.blank_indented hfits [] (by simp)
  rwa [List.append_nil] at hparse

/-- The text that ends its last line. -/
theorem parse_pretty_line {value : Json} (hfits : value.Fits maxDepth) :
    parse (value.pretty ++ "\n") = .ok value.sorted := by
  have hparse := parse_chars Layout.blank_indented hfits ['\n']
    (fun c hc ↦ by rw [List.mem_singleton.mp hc]; rfl)
  rwa [String.ofList_append] at hparse

end ChainParams.Json
