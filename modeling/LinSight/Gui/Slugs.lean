import LinSight.Core.Types

set_option autoImplicit false

/-! The slugs of dashboards. `DefaultHasher` is a parameter. -/

namespace LinSight.Gui

def isSlugChar (c : Char) : Bool := c.isLower || c.isDigit || c == '-'

/-- `contains("--")`. -/
def hasDoubleDash : List Char → Bool
  | '-' :: '-' :: _ => true
  | _ :: rest => hasDoubleDash rest
  | [] => false

def slugMaxLen : Nat := 40

def isValidSlug (s : String) : Bool :=
  if s.toList.isEmpty ∨ slugMaxLen < s.utf8ByteSize then false
  else if s.toList.head? = some '-' ∨ s.toList.getLast? = some '-' ∨ hasDoubleDash s.toList then
    false
  else s.toList.all isSlugChar

/-- One character of `derive_slug`, with what is out already and whether a dash is its last. -/
def slugTurn (state : List Char × Bool) (ch : Char) : List Char × Bool :=
  let (out, lastDash) := state
  let lower := ch.toLower
  if lower.isAlphanum then (out ++ [lower], false)
  else if !lastDash then (out ++ ['-'], true)
  else (out, lastDash)

def popDashes (out : List Char) : List Char := out.rdropWhile (· == '-')

/-- `{:08x}` of a `u32`. -/
def hex8 (n : UInt32) : List Char :=
  (List.range 8).reverse.map fun i => Nat.digitChar (n.toNat / 16 ^ i % 16)

/-- Everything that is out is ASCII, so its number of characters is its length in bytes. -/
def truncateSlug (out : List Char) : List Char :=
  if slugMaxLen < out.length then popDashes (out.take slugMaxLen) else out

/-- `dash-{:08x}`. -/
def hashSlug (n : UInt32) : List Char := ['d', 'a', 's', 'h', '-'] ++ hex8 n

def deriveSlug (hash : String → UInt64) (name : String) : String :=
  let out := truncateSlug (popDashes (name.toList.foldl slugTurn ([], true)).1)
  String.ofList (if out.isEmpty then hashSlug (hash name).toUInt32 else out)

/-- Letters, digits and single dashes that do not start with a dash. -/
structure Dashed (out : List Char) : Prop where
  chars : ∀ c ∈ out, isSlugChar c = true
  starts : out.head? ≠ some '-'
  single : out.IsChain fun a b => ¬ (a = '-' ∧ b = '-')

theorem hasDoubleDash_eq_false (out : List Char) :
    hasDoubleDash out = false ↔ out.IsChain fun a b => ¬ (a = '-' ∧ b = '-') := by
  fun_induction hasDoubleDash out with
  | case1 rest => simp
  | case2 c rest apart ih =>
      rw [ih]
      cases rest with
      | nil => simp
      | cons next rest =>
          have differ : ¬ (c = '-' ∧ next = '-') := fun both => apart rest both.1 (by rw [both.2])
          rw [List.isChain_cons_cons, and_iff_right differ]
  | case3 => simp

theorem Dashed.prefix {out front : List Char} (dashed : Dashed out) (shorter : front <+: out) :
    Dashed front where
  chars c member := dashed.chars c (shorter.subset member)
  starts := by
    cases front with
    | nil => exact fun same => nomatch same
    | cons c front =>
        obtain ⟨rest, rfl⟩ := shorter
        exact dashed.starts
  single := dashed.single.prefix shorter

/-- Every slug character is one byte. -/
theorem utf8Len_of_slugChars {out : List Char} (chars : ∀ c ∈ out, isSlugChar c = true) :
    String.utf8Len out = out.length := by
  induction out with
  | nil => rfl
  | cons c rest ih =>
      have one : c.utf8Size = 1 := by
        have slug := chars c List.mem_cons_self
        simp only [isSlugChar, Char.isLower, Char.isDigit, Bool.or_eq_true, Bool.and_eq_true,
          decide_eq_true_eq, beq_iff_eq] at slug
        have small : c.val ≤ 0x7f := by
          have lower : 'z'.val.toNat = 122 := rfl
          have digit : '9'.val.toNat = 57 := rfl
          have ascii : (0x7f : UInt32).toNat = 127 := rfl
          rw [UInt32.le_iff_toNat_le]
          simp only [UInt32.le_iff_toNat_le, ge_iff_le] at slug
          rcases slug with (⟨_, upper⟩ | ⟨_, upper⟩) | rfl
          · omega
          · omega
          · decide
        unfold Char.utf8Size
        exact if_pos small
      have later := ih fun other member => chars other (List.mem_cons_of_mem _ member)
      simp only [String.utf8Len, one, later, List.length_cons]

theorem isValidSlug_ofList {out : List Char} (dashed : Dashed out) (filled : out ≠ [])
    (short : out.length ≤ slugMaxLen) (ends : out.getLast? ≠ some '-') :
    isValidSlug (String.ofList out) = true := by
  have bytes : (String.ofList out).utf8ByteSize = out.length := by
    rw [String.utf8ByteSize_ofList, utf8Len_of_slugChars dashed.chars]
  have apart := (hasDoubleDash_eq_false out).mpr dashed.single
  simp only [isValidSlug, String.toList_ofList, bytes, List.isEmpty_iff, filled, dashed.starts,
    ends, apart, Nat.not_lt.mpr short, or_self, Bool.false_eq_true, ↓reduceIte]
  exact List.all_eq_true.mpr dashed.chars

/-- What the loop of `derive_slug` keeps: it puts a dash only behind a character. -/
theorem slugTurn_dashed {state : List Char × Bool} (ch : Char) (dashed : Dashed state.1)
    (last : state.2 = false → state.1 ≠ [] ∧ state.1.getLast? ≠ some '-') :
    Dashed (slugTurn state ch).1 ∧ ((slugTurn state ch).2 = false →
      (slugTurn state ch).1 ≠ [] ∧ (slugTurn state ch).1.getLast? ≠ some '-') := by
  obtain ⟨out, lastDash⟩ := state
  unfold slugTurn
  by_cases kept : ch.toLower.isAlphanum = true
  · have plain : ch.toLower ≠ '-' := by
      intro dash
      rw [dash] at kept
      cases kept
    have slug : isSlugChar ch.toLower = true := by
      simp only [Char.isAlphanum, Char.isAlpha, Char.isUpper_toLower_eq_false, Bool.false_or] at kept
      simp only [isSlugChar, kept, Bool.true_or]
    simp only [kept, ↓reduceIte]
    refine ⟨⟨?_, ?_, ?_⟩, fun _ => ⟨by simp, by simpa using plain⟩⟩
    · simpa [or_imp, forall_and, slug] using dashed.chars
    · cases out with
      | nil => simpa using plain
      | cons first rest => exact dashed.starts
    · rw [List.isChain_append]
      refine ⟨dashed.single, List.IsChain.singleton _, ?_⟩
      rintro x _ y found ⟨_, dash⟩
      rw [List.head?_cons, Option.mem_some_iff] at found
      exact plain (found.trans dash)
  · cases lastDash with
    | true =>
        simp only [kept, Bool.false_eq_true, ↓reduceIte, Bool.not_true]
        exact ⟨dashed, fun same => nomatch same⟩
    | false =>
        obtain ⟨filled, ends⟩ := last rfl
        simp only [kept, Bool.false_eq_true, ↓reduceIte, Bool.not_false]
        refine ⟨⟨?_, ?_, ?_⟩, fun same => nomatch same⟩
        · have dash : isSlugChar '-' = true := rfl
          simpa [or_imp, forall_and, dash] using dashed.chars
        · cases out with
          | nil => exact absurd rfl filled
          | cons first rest => exact dashed.starts
        · rw [List.isChain_append]
          refine ⟨dashed.single, List.IsChain.singleton _, ?_⟩
          rintro x found y _ ⟨rfl, _⟩
          exact ends found

theorem foldl_slugTurn_dashed (chars : List Char) {state : List Char × Bool}
    (dashed : Dashed state.1)
    (last : state.2 = false → state.1 ≠ [] ∧ state.1.getLast? ≠ some '-') :
    Dashed (chars.foldl slugTurn state).1 := by
  induction chars generalizing state with
  | nil => exact dashed
  | cons ch rest ih =>
      obtain ⟨next, ends⟩ := slugTurn_dashed ch dashed last
      exact ih next ends

theorem popDashes_ends (out : List Char) : (popDashes out).getLast? ≠ some '-' := by
  intro last
  by_cases empty : popDashes out = []
  · rw [empty] at last
    cases last
  · rw [List.getLast?_eq_some_getLast empty, Option.some.injEq] at last
    have kept := List.rdropWhile_last_not (· == '-') out empty
    exact kept (beq_iff_eq.mpr last)

theorem hashSlug_valid (n : UInt32) : isValidSlug (String.ofList (hashSlug n)) = true := by
  have digit : ∀ d < 16, (Nat.digitChar d).isLower || (Nat.digitChar d).isDigit = true := by
    decide
  have plain : ∀ c ∈ hex8 n, (c.isLower || c.isDigit) = true := by
    intro c member
    obtain ⟨i, _, rfl⟩ := List.mem_map.mp member
    simpa using digit _ (Nat.mod_lt _ (by decide))
  have dashless : ∀ c ∈ hex8 n, c ≠ '-' := by
    rintro _ member rfl
    cases plain '-' member
  have length : (hex8 n).length = 8 := rfl
  have filled : hex8 n ≠ [] := fun empty => by rw [empty] at length; cases length
  have fixed : ∀ c ∈ ['d', 'a', 's', 'h', '-'], isSlugChar c = true := by simp [isSlugChar]
  have dashed : Dashed (hashSlug n) := by
    refine ⟨?_, (fun same => nomatch same), ?_⟩
    · intro c member
      rcases List.mem_append.mp member with front | back
      · exact fixed c front
      · simp only [isSlugChar, plain c back, Bool.true_or]
    · rw [hashSlug, List.isChain_append]
      refine ⟨by decide, ?_, ?_⟩
      · apply List.Pairwise.isChain
        exact List.pairwise_of_forall_mem_list fun a first b _ both => dashless a first both.1
      · rintro x _ y found ⟨_, rfl⟩
        exact dashless '-' (List.mem_of_mem_head? found) rfl
  have short : (hashSlug n).length ≤ slugMaxLen := by
    rw [hashSlug, List.length_append, length]
    decide
  have ends : (hashSlug n).getLast? ≠ some '-' := by
    rw [hashSlug, List.getLast?_append_of_ne_nil _ filled]
    intro last
    exact dashless '-' (List.mem_of_getLast? last) rfl
  have some_out : hashSlug n ≠ [] := fun same => nomatch same
  exact isValidSlug_ofList dashed some_out short ends

theorem truncateSlug_spec {out : List Char} (dashed : Dashed out)
    (ends : out.getLast? ≠ some '-') :
    Dashed (truncateSlug out) ∧ (truncateSlug out).length ≤ slugMaxLen ∧
      (truncateSlug out).getLast? ≠ some '-' := by
  by_cases long : slugMaxLen < out.length
  · rw [truncateSlug, if_pos long]
    have shorter := List.rdropWhile_prefix (· == '-') (out.take slugMaxLen)
    have short : (popDashes (out.take slugMaxLen)).length ≤ slugMaxLen :=
      le_trans shorter.length_le (List.length_take_le _ _)
    exact ⟨ dashed.prefix (shorter.trans (List.take_prefix _ _)), short, popDashes_ends _⟩
  · rw [truncateSlug, if_neg long]
    exact ⟨dashed, Nat.le_of_not_lt long, ends⟩

/-- The debug assertion of `derive_slug` holds for every name. -/
theorem deriveSlug_valid (hash : String → UInt64) (name : String) :
    isValidSlug (deriveSlug hash name) = true := by
  have empty : Dashed [] := ⟨fun _ member => absurd member List.not_mem_nil,
    (fun same => nomatch same), List.IsChain.nil⟩
  have apart : (true : Bool) = false → ([] : List Char) ≠ [] ∧ [].getLast? ≠ some '-' :=
    fun same => nomatch same
  have folded : Dashed (name.toList.foldl slugTurn ([], true)).1 :=
    foldl_slugTurn_dashed name.toList empty apart
  have dashed : Dashed (popDashes (name.toList.foldl slugTurn ([], true)).1) :=
    folded.prefix (List.rdropWhile_prefix _ _)
  obtain ⟨cut, short, ends⟩ := truncateSlug_spec dashed (popDashes_ends _)
  unfold deriveSlug
  generalize truncateSlug (popDashes (name.toList.foldl slugTurn ([], true)).1) = out
    at cut short ends
  cases out with
  | nil => exact hashSlug_valid _
  | cons first rest =>
      have filled : first :: rest ≠ [] := fun same => nomatch same
      exact isValidSlug_ofList cut filled short ends

theorem isValidSlug_iff (s : String) : isValidSlug s = true ↔
    Dashed s.toList ∧ s.toList ≠ [] ∧ s.toList.length ≤ slugMaxLen ∧
      s.toList.getLast? ≠ some '-' := by
  constructor
  · intro valid
    unfold isValidSlug at valid
    split at valid
    · cases valid
    · rename_i sized
      split at valid
      · cases valid
      · rename_i shaped
        rw [not_or, List.isEmpty_iff, Nat.not_lt] at sized
        simp only [not_or, Bool.not_eq_true] at shaped
        obtain ⟨starts, ends, apart⟩ := shaped
        have chars := List.all_eq_true.mp valid
        have bytes : s.utf8ByteSize = s.toList.length := by
          rw [← utf8Len_of_slugChars chars, ← String.utf8ByteSize_ofList, String.ofList_toList]
        exact ⟨⟨chars, starts, (hasDoubleDash_eq_false _).mp apart⟩, sized.1, bytes ▸ sized.2, ends⟩
  · rintro ⟨dashed, filled, short, ends⟩
    rw [← String.ofList_toList (s := s)]
    exact isValidSlug_ofList dashed filled short ends

/-- The loop of `derive_slug` takes a slug over as it is. -/
theorem foldl_slugTurn_slug (chars : List Char) (state : List Char × Bool)
    (slug : ∀ c ∈ chars, isSlugChar c = true)
    (single : chars.IsChain fun a b => ¬ (a = '-' ∧ b = '-'))
    (starts : state.2 = true → chars.head? ≠ some '-') :
    (chars.foldl slugTurn state).1 = state.1 ++ chars := by
  induction chars generalizing state with
  | nil => rw [List.append_nil, List.foldl_nil]
  | cons c rest ih =>
      have later : ∀ c ∈ rest, isSlugChar c = true := fun c member =>
        slug c (List.mem_cons_of_mem _ member)
      have here : isSlugChar c = true := slug c List.mem_cons_self
      have next : slugTurn state c = (state.1 ++ [c], c == '-') := by
        by_cases dash : c = '-'
        · subst dash
          have open_word : state.2 = false := by
            rw [← Bool.not_eq_true]
            exact fun last => starts last rfl
          have other : '-'.toLower.isAlphanum = false := by decide
          simp only [slugTurn, open_word, other, Bool.false_eq_true, ↓reduceIte, Bool.not_false,
            beq_self_eq_true]
        · simp only [isSlugChar, beq_iff_eq, dash, Bool.or_eq_true, or_false] at here
          have same : c.toLower = c := by
            apply Char.toLower_eq_of_not_isUpper
            rcases here with lower | digit
            · exact Char.not_isUpper_of_isLower lower
            · simp [Char.isDigit, Char.isUpper, UInt32.le_iff_toNat_le] at digit ⊢
              omega
          have word : c.isAlphanum = true := by
            simp only [Char.isAlphanum, Char.isAlpha, Bool.or_eq_true]
            tauto
          simp only [slugTurn, same, word, ↓reduceIte, beq_eq_false_iff_ne.mpr dash]
      have behind : (c == '-') = true → rest.head? ≠ some '-' := by
        intro dash second
        cases rest with
        | nil => cases second
        | cons d rest =>
            rw [List.isChain_cons_cons] at single
            exact single.1 ⟨beq_iff_eq.mp dash, Option.some.inj second⟩
      rw [List.foldl_cons, next, ih _ later single.tail behind, List.append_assoc]
      rfl

theorem deriveSlug_of_valid (hash : String → UInt64) {name : String}
    (valid : isValidSlug name = true) : deriveSlug hash name = name := by
  obtain ⟨dashed, filled, short, ends⟩ := (isValidSlug_iff name).mp valid
  have folded : (name.toList.foldl slugTurn ([], true)).1 = name.toList := by
    rw [foldl_slugTurn_slug name.toList ([], true) dashed.chars dashed.single fun _ => dashed.starts]
    rfl
  have kept : popDashes name.toList = name.toList := by
    rw [popDashes, List.rdropWhile_eq_self_iff]
    intro nonempty dash
    rw [List.getLast?_eq_some_getLast nonempty] at ends
    exact ends (congrArg some (beq_iff_eq.mp dash))
  have whole : truncateSlug name.toList = name.toList := by
    rw [truncateSlug, if_neg (Nat.not_lt.mpr short)]
  have some_out : name.toList.isEmpty = false := by
    rw [← Bool.not_eq_true, List.isEmpty_iff]
    exact filled
  simp only [deriveSlug, folded, kept, whole, some_out, Bool.false_eq_true, ↓reduceIte,
    String.ofList_toList]

example : deriveSlug (fun _ => 0) "  Production   Server #2 " = "production-server-2" := by
  decide +kernel

end LinSight.Gui
