import LinSight.Gui.Dashboards

set_option autoImplicit false

/-! How many suffixes the length of a slug leaves room for. -/

namespace LinSight.Gui

/-- How many of `base`, `base-2`, ..., `base-99` are at most 40 characters long. -/
def suffixRoom (base : String) : Nat :=
  if base.toList.length ≤ 37 then 99 else if base.toList.length ≤ 38 then 9 else 1

/-- How many of `base`, `base-2`, ..., `base-99` are in the directory. -/
def sharing (dir : Directory) (base : String) : Nat :=
  (List.range 99).countP fun i => fileName (slugCandidate base i) ∈ dir

/-- The dashboard went to a valid slug that was not in the directory. -/
def Allocated (dir : Directory) (result : Except String String × Directory) : Prop :=
  ∃ slug, result.1 = .ok slug ∧ isValidSlug slug = true ∧ fileName slug ∉ dir

/-- Allocation for `base` takes what the directory and the length of `base` leave. -/
def Allocates (dir : Directory) (base : String) (result : Except String String × Directory) :
    Prop :=
  (sharing dir base < suffixRoom base → Allocated dir result) ∧
    (Allocated dir result ↔ ∃ i < suffixRoom base, fileName (slugCandidate base i) ∉ dir)

theorem suffixRoom_pos (base : String) : 0 < suffixRoom base := by
  unfold suffixRoom
  split
  · decide
  · split <;> decide

theorem suffixRoom_le (base : String) : suffixRoom base ≤ 99 := by
  unfold suffixRoom
  split
  · decide
  · split <;> decide

/-- The number behind the dash. -/
def suffixDigits (i : Nat) : List Char := Nat.toDigits 10 (i + 1)

theorem isDigit_suffixDigits (i : Nat) : ∀ c ∈ suffixDigits i, c.isDigit = true :=
  fun _ member => Nat.isDigit_of_mem_toDigits (by decide) (by decide) member

theorem length_suffixDigits {i : Nat} (bounded : i < 99) :
    (suffixDigits i).length = if i < 9 then 1 else 2 := by
  have some_digit : 0 < (suffixDigits i).length := Nat.length_toDigits_pos
  have one : (suffixDigits i).length ≤ 1 ↔ i + 1 < 10 ^ 1 :=
    Nat.length_toDigits_le_iff (by decide) (by decide)
  have two : (suffixDigits i).length ≤ 2 ↔ i + 1 < 10 ^ 2 :=
    Nat.length_toDigits_le_iff (by decide) (by decide)
  split <;> omega

theorem toList_slugCandidate (base : String) {i : Nat} (later : i ≠ 0) :
    (slugCandidate base i).toList = base.toList ++ '-' :: suffixDigits i := by
  rw [slugCandidate, if_neg later, String.toList_append, String.toList_append, suffixDigits,
    List.append_assoc, Nat.toString_eq_repr, Nat.toList_repr]
  rfl

theorem Dashed.suffix {base digits : List Char} (dashed : Dashed base) (filled : base ≠ [])
    (ends : base.getLast? ≠ some '-') (plain : ∀ c ∈ digits, c.isDigit = true) :
    Dashed (base ++ '-' :: digits) where
  chars c member := by
    rcases List.mem_append.mp member with front | back
    · exact dashed.chars c front
    · rcases List.mem_cons.mp back with rfl | digit
      · rfl
      · simp only [isSlugChar, plain c digit, Bool.or_true, Bool.true_or]
  starts := by
    rw [List.head?_append_of_ne_nil _ filled]
    exact dashed.starts
  single := by
    have dashless : ∀ c ∈ digits, c ≠ '-' := by
      rintro _ member rfl
      cases plain '-' member
    rw [List.isChain_append]
    refine ⟨dashed.single, ?_, ?_⟩
    · cases digits with
      | nil => exact List.IsChain.singleton _
      | cons d digits =>
          rw [List.isChain_cons_cons]
          constructor
          · exact fun both => dashless d List.mem_cons_self both.2
          · apply List.Pairwise.isChain
            exact List.pairwise_of_forall_mem_list fun a first b _ both => dashless a first both.1
    · rintro x found y _ ⟨rfl, _⟩
      exact ends found

/-- A suffix makes no valid slug invalid except by its length. -/
theorem isValidSlug_slugCandidate {base : String} (valid : isValidSlug base = true) {i : Nat}
    (bounded : i < 99) : isValidSlug (slugCandidate base i) = true ↔ i < suffixRoom base := by
  obtain ⟨dashed, filled, short, ends⟩ := (isValidSlug_iff base).mp valid
  by_cases first : i = 0
  · subst first
    rw [slugCandidate, if_pos rfl]
    exact iff_of_true valid (suffixRoom_pos base)
  · have plain := isDigit_suffixDigits i
    have some_digits : suffixDigits i ≠ [] := Nat.toDigits_ne_nil
    have last : (base.toList ++ '-' :: suffixDigits i).getLast? ≠ some '-' := by
      rw [List.getLast?_append_of_ne_nil _ (List.cons_ne_nil _ _), List.getLast?_cons,
        List.getLast?_eq_some_getLast some_digits]
      intro dash
      cases plain '-' (Option.some.inj dash ▸ List.getLast_mem some_digits)
    rw [isValidSlug_iff, toList_slugCandidate base first]
    have sized : (base.toList ++ '-' :: suffixDigits i).length ≤ slugMaxLen ↔
        i < suffixRoom base := by
      rw [List.length_append, List.length_cons, length_suffixDigits bounded]
      simp only [suffixRoom, slugMaxLen] at short ⊢
      repeat' split
      all_goals omega
    rw [← sized]
    constructor
    · exact fun parts => parts.2.2.1
    · exact fun fits => ⟨dashed.suffix filled ends plain, by simp, fits, last⟩

section Allocation

variable {serde : Serde} {dir : Directory} {base : String}

theorem allocateUniqueSlug_ok_iff (dir : Directory) (valid : isValidSlug base = true) :
    (∃ result, allocateUniqueSlug dir base = .ok result) ↔
      ∃ i < suffixRoom base, fileName (slugCandidate base i) ∉ dir := by
  simp only [allocateUniqueSlug, valid, Bool.not_true, Bool.false_eq_true, ↓reduceIte]
  split
  · rename_i candidate found
    refine iff_of_true ⟨_, rfl⟩ ?_
    obtain ⟨i, member, picked⟩ := List.exists_of_findSome?_eq_some found
    have bounded : i < 99 := List.mem_range.mp member
    split at picked
    · cases picked
    · rename_i fits
      split at picked
      · cases picked
      · rename_i fresh
        have accepted : isValidSlug (slugCandidate base i) = true := by simpa using fits
        exact ⟨i, (isValidSlug_slugCandidate valid bounded).mp accepted, fresh⟩
  · rename_i none_left
    refine iff_of_false (fun made => by obtain ⟨_, wrong⟩ := made; cases wrong) ?_
    rintro ⟨i, fits, fresh⟩
    have bounded : i < 99 := lt_of_lt_of_le fits (suffixRoom_le base)
    have skipped := List.findSome?_eq_none_iff.mp none_left i (List.mem_range.mpr bounded)
    have accepted := (isValidSlug_slugCandidate valid bounded).mpr fits
    simp only [accepted, Bool.not_true, Bool.false_eq_true, ↓reduceIte, fresh] at skipped
    cases skipped

/-- Where fewer are in the directory than there is room for, one that fits is free. -/
theorem exists_free (few : sharing dir base < suffixRoom base) :
    ∃ i < suffixRoom base, fileName (slugCandidate base i) ∉ dir := by
  by_contra taken
  simp only [not_exists, not_and, not_not] at taken
  have all_in : (List.range (suffixRoom base)).Subset
      ((List.range 99).filter fun i => fileName (slugCandidate base i) ∈ dir) := by
    intro i member
    rw [List.mem_range] at member
    rw [List.mem_filter, List.mem_range, decide_eq_true_eq]
    exact ⟨lt_of_lt_of_le member (suffixRoom_le base), taken i member⟩
  have count := (List.nodup_range.subperm all_in).length_le
  rw [List.length_range, ← List.countP_eq_length_filter] at count
  exact absurd count (Nat.not_le.mpr few)

theorem writeNew_allocates (valid : isValidSlug base = true) {build : String → DashboardFile}
    (keeps : ∀ slug, (build slug).slug = slug) :
    Allocates dir base (writeNew serde dir base build) := by
  have exact_when : Allocated dir (writeNew serde dir base build) ↔
      ∃ i < suffixRoom base, fileName (slugCandidate base i) ∉ dir := by
    rw [← allocateUniqueSlug_ok_iff dir valid]
    constructor
    · rintro ⟨slug, written, _⟩
      cases reserved : allocateUniqueSlug dir base with
      | error e =>
          simp only [writeNew, reserved] at written
          cases written
      | ok result => exact ⟨result, rfl⟩
    · rintro ⟨⟨reservation, occupied⟩, reserved⟩
      have accepted := allocateUniqueSlug_fresh reserved
      refine ⟨reservation.slug, ?_, accepted.1, accepted.2.1 ▸ accepted.2.2.1⟩
      simp only [writeNew, reserved, writeReservedDashboardFile, keeps, ne_eq, not_true_eq_false,
        ↓reduceIte, Except.map]
  exact ⟨fun few => exact_when.mpr (exists_free few), exact_when⟩

theorem Allocates.failed {result : Except String String × Directory}
    (allocates : Allocates dir base result) (operation : String) :
    Allocates dir base (failed operation result) := by
  have same : Allocated dir (Gui.failed operation result) ↔ Allocated dir result := by
    obtain ⟨outcome, next⟩ := result
    cases outcome with
    | error e =>
        constructor
        · rintro ⟨slug, wrong, _⟩
          cases wrong
        · rintro ⟨slug, wrong, _⟩
          cases wrong
    | ok slug => rfl
  unfold Allocates
  rw [same]
  exact allocates

end Allocation

/-- `derive_slug` gives a slug of at most 40 characters and keeps a slug, and a new or duplicated
dashboard gets a fresh one as long as a suffix that fits is free. -/
theorem slugs_allocated (serde : Serde) (hash : String → UInt64) (dir : Directory) :
    (∀ name, isValidSlug (deriveSlug hash name) = true ∧
      (deriveSlug hash name).toList.length ≤ 40 ∧
      (isValidSlug name = true → deriveSlug hash name = name)) ∧
    (∀ name now, Allocates dir (deriveSlug hash name) (create serde hash dir name now)) ∧
    ∀ slug d now, isValidSlug slug = true → readOne serde dir (fileName slug) = some d →
      Allocates dir (deriveSlug hash (d.name ++ " (copy)"))
        (duplicate serde hash dir slug now) := by
  refine ⟨?_, ?_, ?_⟩
  · intro name
    have valid := deriveSlug_valid hash name
    exact ⟨valid, ((isValidSlug_iff _).mp valid).2.2.1, deriveSlug_of_valid hash⟩
  · intro name now
    have written : Allocates dir (deriveSlug hash name)
        (writeNew serde dir (deriveSlug hash name) fun slug =>
          ⟨defaultSchemaVersion, name, slug, [], now, now⟩) :=
      writeNew_allocates (deriveSlug_valid hash name) fun _ => rfl
    exact written.failed "create"
  · intro slug d now valid read
    have resolved : dashboardPath slug = some (fileName slug) := if_pos valid
    have made : duplicateDashboardFile serde hash dir slug now =
        writeNew serde dir (deriveSlug hash (d.name ++ " (copy)")) fun newSlug =>
          ⟨defaultSchemaVersion, d.name ++ " (copy)", newSlug, d.layout, now, now⟩ := by
      simp only [duplicateDashboardFile, resolved, read]
    rw [duplicate, made]
    exact (writeNew_allocates (deriveSlug_valid hash _) fun _ => rfl).failed "duplicate"

/-- The directory with one file. -/
def holding (slug text : String) : Directory :=
  AList.insert (fileName slug) text (∅ : Directory)

theorem slugs_allocated_copy :
    Allocated (holding "cpu" cpuText)
        (create twoDashboards (fun _ => 0) (holding "cpu" cpuText) "CPU" "") ∧
      Allocated (holding "cpu" cpuText)
        (duplicate twoDashboards (fun _ => 0) (holding "cpu" cpuText) "cpu" "") := by
  have spec := slugs_allocated twoDashboards (fun _ => 0) (holding "cpu" cpuText)
  have read : readOne twoDashboards (holding "cpu" cpuText) (fileName "cpu") =
      some ⟨1, "CPU", "cpu", [], "", ""⟩ := by
    rw [readOne, holding, AList.lookup_insert]
    rfl
  constructor
  · exact (spec.2.1 "CPU" "").1 (by decide +kernel)
  · exact (spec.2.2 "cpu" _ "" (by decide +kernel) read).1 (by decide +kernel)

/-- The longest slug there is. -/
def longestSlug : String := String.ofList (List.replicate 40 'a')

/-- One dashboard with the longest slug leaves none for another one of its name. -/
theorem slugs_allocated_longest :
    ¬ ∀ (dir : Directory) (name now : String),
      sharing dir (deriveSlug (fun _ => 0) name) < 99 →
        Allocated dir (create twoDashboards (fun _ => 0) dir name now) := by
  intro always
  have valid : isValidSlug longestSlug = true := by decide +kernel
  have same : deriveSlug (fun _ => 0) longestSlug = longestSlug := deriveSlug_of_valid _ valid
  have allocated := always (holding longestSlug "") longestSlug "" (by
    rw [same]
    decide +kernel)
  have written : Allocates (holding longestSlug "") (deriveSlug (fun _ => 0) longestSlug)
      (writeNew twoDashboards (holding longestSlug "") (deriveSlug (fun _ => 0) longestSlug)
        fun slug => ⟨defaultSchemaVersion, longestSlug, slug, [], "", ""⟩) :=
    writeNew_allocates (deriveSlug_valid _ longestSlug) fun _ => rfl
  obtain ⟨i, fits, free⟩ := (written.failed "create").2.mp allocated
  rw [same] at fits free
  have room : suffixRoom longestSlug = 1 := by decide +kernel
  have first : i = 0 := by omega
  subst first
  exact free (AList.mem_insert _ |>.mpr (.inl rfl))

end LinSight.Gui
