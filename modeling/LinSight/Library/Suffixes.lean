import LinSight.Library.Words

set_option autoImplicit false

/-! Names that are told apart by a number at the end of the repeated ones. -/

namespace Suffixes

/-- `{base}_{n}`. -/
def suffixed (base : String) (n : Nat) : String := base ++ "_" ++ toString n

/-- A free base is the name and taken; the name of another one gets its number, and is not taken. -/
def claim (taken : List String) (base : String) (n : Nat) : String × List String :=
  if base ∈ taken then (suffixed base n, taken) else (base, base :: taken)

theorem mem_claim {taken : List String} {base other : String} {n : Nat} :
    other ∈ (claim taken base n).2 ↔ other = base ∨ other ∈ taken := by
  unfold claim
  split
  · rename_i known
    exact ⟨.inr, fun member => member.elim (fun same => same ▸ known) id⟩
  · exact List.mem_cons

section Text

theorem toList_suffixed (base : String) (n : Nat) :
    (suffixed base n).toList = base.toList ++ '_' :: Nat.toDigits 10 n := by
  rw [suffixed, String.toList_append, String.toList_append, List.append_assoc,
    Nat.toString_eq_repr, Nat.toList_repr]
  rfl

theorem not_mem_toDigits (n : Nat) : '_' ∉ Nat.toDigits 10 n := by
  intro member
  exact absurd (Nat.isDigit_of_mem_toDigits (by decide) (by decide) member) (by decide)

/-- The number is what stands behind the last underscore. -/
theorem suffixed_inj {base base' : String} {n n' : Nat}
    (same : suffixed base n = suffixed base' n') : base = base' ∧ n = n' := by
  have chars := congrArg String.toList same
  rw [toList_suffixed, toList_suffixed] at chars
  obtain ⟨bases, digits⟩ := Words.cut_last_inj (not_mem_toDigits n) (not_mem_toDigits n') chars
  constructor
  · exact String.toList_injective bases
  · apply Nat.repr_injective
    apply String.toList_injective
    rw [Nat.toList_repr, Nat.toList_repr]
    exact digits

theorem suffixed_ne (base : String) (n : Nat) : suffixed base n ≠ base := by
  intro same
  have lengths := congrArg (fun name => name.toList.length) same
  rw [toList_suffixed, List.length_append, List.length_cons] at lengths
  omega

end Text

variable {α : Type} (base : α → String) (number : α → Nat)

/-- Every item with its name. -/
def named (taken : List String) : List α → List (α × String)
  | [] => []
  | item :: rest =>
      let (name, taken) := claim taken (base item) (number item)
      (item, name) :: named taken rest

/-- The name of an item where these bases were there before. -/
def NameOf (seen : List String) (item : α) (name : String) : Prop :=
  (base item ∈ seen ∧ name = suffixed (base item) (number item)) ∨
    (base item ∉ seen ∧ name = base item)

/-- An earlier item has the base of this one. -/
def Repeats (items : List α) (item : α) : Prop :=
  ∃ front back, items = front ++ item :: back ∧ base item ∈ front.map base

def First (items : List α) (item : α) : Prop :=
  ∃ front back, items = front ++ item :: back ∧ base item ∉ front.map base

/-- No suffixed name is the bare name of another item, where both are kept. -/
def Apart (items : List α) (kept : α → Prop) : Prop :=
  ∀ a b, Repeats base items a → First base items b → kept a → kept b →
    suffixed (base a) (number a) ≠ base b

variable {base number} {items : List α} {taken : List String} {item : α} {name : String}

theorem map_fst_named : (named base number taken items).map Prod.fst = items := by
  induction items generalizing taken with
  | nil => rfl
  | cons item rest ih => rw [named, List.map_cons, ih]

theorem NameOf.congr {seen seen' : List String} (same : base item ∈ seen ↔ base item ∈ seen') :
    NameOf base number seen item name ↔ NameOf base number seen' item name := by
  unfold NameOf
  rw [same]

theorem nameOf_claim : NameOf base number taken item name ↔
    name = (claim taken (base item) (number item)).1 := by
  unfold NameOf claim
  by_cases known : base item ∈ taken
  · simp only [known, true_and, not_true_eq_false, false_and, or_false, if_true]
  · simp only [known, false_and, not_false_eq_true, true_and, false_or, if_false]

/-- The name of an item is decided by what stands before it. -/
theorem mem_named : (item, name) ∈ named base number taken items ↔
    ∃ front back, items = front ++ item :: back ∧
      NameOf base number (taken ++ front.map base) item name := by
  induction items generalizing taken with
  | nil =>
      constructor
      · intro member
        cases member
      · rintro ⟨front, back, whole, _⟩
        exact absurd whole.symm
          (List.append_ne_nil_of_right_ne_nil front (List.cons_ne_nil item back))
  | cons first rest ih =>
      have seen (front : List α) : base item ∈ (claim taken (base first) (number first)).2 ++
          front.map base ↔ base item ∈ taken ++ (first :: front).map base := by
        simp only [List.mem_append, mem_claim, List.map_cons, List.mem_cons]
        tauto
      rw [named, List.mem_cons, ih]
      constructor
      · rintro (here | ⟨front, back, rfl, named⟩)
        · obtain ⟨rfl, same⟩ := Prod.mk.inj here
          refine ⟨[], rest, rfl, ?_⟩
          rw [List.map_nil, List.append_nil]
          exact nameOf_claim.mpr same
        · exact ⟨first :: front, back, rfl, (NameOf.congr (seen front)).mp named⟩
      · rintro ⟨front, back, whole, named⟩
        cases front with
        | nil =>
            obtain ⟨rfl, rfl⟩ := List.cons.inj whole
            rw [List.map_nil, List.append_nil] at named
            exact .inl (Prod.ext rfl (nameOf_claim.mp named))
        | cons other front =>
            obtain ⟨rfl, rfl⟩ := List.cons.inj whole
            exact .inr ⟨front, back, rfl, (NameOf.congr (seen front)).mpr named⟩

theorem mem_named_iff : (item, name) ∈ named base number [] items ↔
    (Repeats base items item ∧ name = suffixed (base item) (number item)) ∨
      (First base items item ∧ name = base item) := by
  rw [mem_named]
  simp only [List.nil_append]
  constructor
  · rintro ⟨front, back, whole, ⟨earlier, named⟩ | ⟨new, named⟩⟩
    · exact .inl ⟨⟨front, back, whole, earlier⟩, named⟩
    · exact .inr ⟨⟨front, back, whole, new⟩, named⟩
  · rintro (⟨⟨front, back, whole, earlier⟩, named⟩ | ⟨⟨front, back, whole, new⟩, named⟩)
    · exact ⟨front, back, whole, .inl ⟨earlier, named⟩⟩
    · exact ⟨front, back, whole, .inr ⟨new, named⟩⟩

/-- Two bare names have different bases, and no two items have one number. -/
theorem named_pairwise (numbers : (items.map number).Nodup) :
    (named base number taken items).Pairwise fun a b =>
      number a.1 ≠ number b.1 ∧ (b.2 = base b.1 → base a.1 ≠ base b.1) := by
  induction items generalizing taken with
  | nil => exact List.Pairwise.nil
  | cons first rest ih =>
      rw [List.map_cons, List.nodup_cons] at numbers
      rw [named]
      refine List.Pairwise.cons ?_ (ih numbers.2)
      rintro ⟨item, name⟩ member
      obtain ⟨front, back, rfl, named⟩ := mem_named.mp member
      constructor
      · intro same
        apply numbers.1
        rw [same]
        exact List.mem_map_of_mem (List.mem_append_right _ List.mem_cons_self)
      · intro bare same
        rcases named with ⟨_, suffix⟩ | ⟨new, _⟩
        · exact suffixed_ne _ _ (suffix.symm.trans bare)
        · exact new (List.mem_append_left _ (mem_claim.mpr (.inl same.symm)))

/-- The kept names are pairwise different exactly where no suffixed one is a bare one. -/
theorem named_distinct_iff (numbers : (items.map number).Nodup) (kept : α → Prop) :
    (named base number [] items).Pairwise (fun a b => kept a.1 → kept b.1 → a.2 ≠ b.2) ↔
      Apart base number items kept := by
  have split {a : α × String} (member : a ∈ named base number [] items) :=
    mem_named_iff.mp (show (a.1, a.2) ∈ named base number [] items from member)
  constructor
  · intro distinct a b repeats first kept_a kept_b same
    have symmetric : Std.Symm fun a b : α × String => kept a.1 → kept b.1 → a.2 ≠ b.2 :=
      ⟨fun _ _ apart kept_b kept_a same => apart kept_a kept_b same.symm⟩
    have member : (a, suffixed (base a) (number a)) ∈ named base number [] items :=
      mem_named_iff.mpr (.inl ⟨repeats, rfl⟩)
    have member' : (b, base b) ∈ named base number [] items := mem_named_iff.mpr (.inr ⟨first, rfl⟩)
    refine distinct.forall member member' ?_ kept_a kept_b same
    intro whole
    obtain ⟨rfl, suffix⟩ := Prod.mk.inj whole
    exact suffixed_ne _ _ suffix
  · intro apart
    refine (named_pairwise numbers).imp_of_mem ?_
    rintro a b inside inside' ⟨numbered, bases⟩ kept_a kept_b same
    rcases split inside with ⟨repeats, name⟩ | ⟨first, name⟩
    · rcases split inside' with ⟨repeats', name'⟩ | ⟨first', name'⟩
      · rw [name, name'] at same
        exact numbered (suffixed_inj same).2
      · rw [name, name'] at same
        exact apart _ _ repeats first' kept_a kept_b same
    · rcases split inside' with ⟨repeats', name'⟩ | ⟨first', name'⟩
      · rw [name, name'] at same
        exact apart _ _ repeats' first kept_b kept_a same.symm
      · rw [name, name'] at same
        exact bases name' same

/-- A name that no other item has finds its item. -/
theorem find_name {name : α → String} (distinct : (items.map name).Nodup) (member : item ∈ items) :
    items.find? (fun other => name other = name item) = some item := by
  cases search : items.find? fun other => name other = name item with
  | none =>
      have absent := List.find?_eq_none.mp search item member
      exact absurd (decide_eq_true rfl) absent
  | some other =>
      have picked := List.find?_some search
      have same : name other = name item := of_decide_eq_true picked
      exact congrArg some
        (List.inj_on_of_nodup_map distinct (List.mem_of_find?_eq_some search) member same)

end Suffixes
