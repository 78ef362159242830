import Mathlib

set_option autoImplicit false

/-- A finite map with one value type for all keys. -/
abbrev KeyMap (κ ν : Type) := AList (fun _ : κ => ν)

namespace KeyMap

open AList

variable {κ κ' ν ν' M : Type}

/-- Rewrite every value in place; the key set and its order stay. -/
def mapValues (f : κ → ν → ν') (map : KeyMap κ ν) : KeyMap κ ν' where
  entries := map.entries.map fun entry => ⟨entry.1, f entry.1 entry.2⟩
  nodupKeys := map.nodupKeys.map₂ f _

/-- Rename every key; no two keys get one name. -/
def rekey (f : κ → κ') (injective : Function.Injective f) (map : KeyMap κ ν) : KeyMap κ' ν where
  entries := map.entries.map fun entry => ⟨f entry.1, entry.2⟩
  nodupKeys := by
    have distinct : (map.keys.map f).Nodup := map.keys_nodup.map injective
    rw [AList.keys, List.keys, List.map_map] at distinct
    rw [List.NodupKeys, List.keys, List.map_map]
    exact distinct

/-- Both maps answer every lookup alike. -/
def Same [DecidableEq κ] (first second : KeyMap κ ν) : Prop :=
  ∀ key, first.lookup key = second.lookup key

/-- Keep the entries that pass. -/
def retain (keep : κ → ν → Bool) (map : KeyMap κ ν) : KeyMap κ ν where
  entries := map.entries.filter fun entry => keep entry.1 entry.2
  nodupKeys := map.nodupKeys.sublist List.filter_sublist

/-- The sum of a measure over all entries. -/
def total [AddCommMonoid M] (measure : κ → ν → M) (map : KeyMap κ ν) : M :=
  (map.entries.map fun entry => measure entry.1 entry.2).sum

/-- The smallest key, where the keys are ordered. -/
def firstKey [LinearOrder κ] (map : KeyMap κ ν) : Option κ := map.keys.min?

@[simp] theorem total_empty [AddCommMonoid M] (measure : κ → ν → M) :
    total measure (∅ : KeyMap κ ν) = 0 := rfl

theorem total_mapValues [AddCommMonoid M] (measure : κ → ν' → M) (f : κ → ν → ν')
    (map : KeyMap κ ν) :
    total measure (mapValues f map) = total (fun key value => measure key (f key value)) map := by
  simp only [total, mapValues, List.map_map, Function.comp_def]

section Lookup

variable [DecidableEq κ]

@[simp] theorem lookup_mapValues (f : κ → ν → ν') (map : KeyMap κ ν) (key : κ) :
    (mapValues f map).lookup key = (map.lookup key).map (f key) :=
  List.dlookup_map₂ key

theorem lookup_rekey [DecidableEq κ'] (f : κ → κ') (injective : Function.Injective f)
    (map : KeyMap κ ν) (key : κ) : (rekey f injective map).lookup (f key) = map.lookup key := by
  change (map.entries.map fun entry => (⟨f entry.1, entry.2⟩ : Sigma fun _ : κ' => ν)).dlookup
    (f key) = map.entries.dlookup key
  induction map.entries with
  | nil => rfl
  | cons entry rest ih =>
      obtain ⟨stored, value⟩ := entry
      by_cases same : key = stored
      · subst same
        rw [List.map_cons, List.dlookup_cons_eq, List.dlookup_cons_eq]
      · have differs : f key ≠ f stored := fun names => same (injective names)
        rw [List.map_cons, List.dlookup_cons_ne _ ⟨_, _⟩ differs, List.dlookup_cons_ne _ ⟨_, _⟩ same]
        exact ih

/-- Every key of the renamed map is a name. -/
theorem exists_of_lookup_rekey [DecidableEq κ'] {f : κ → κ'} {injective : Function.Injective f}
    {map : KeyMap κ ν} {name : κ'} {value : ν}
    (found : (rekey f injective map).lookup name = some value) :
    ∃ key, f key = name ∧ map.lookup key = some value := by
  have stored := List.of_mem_dlookup (Option.mem_def.mpr found)
  obtain ⟨entry, inside, same⟩ := List.mem_map.mp stored
  cases same
  refine ⟨entry.1, rfl, ?_⟩
  have lookup := lookup_rekey f injective map entry.1
  rw [found] at lookup
  exact lookup.symm

theorem mem_of_lookup {map : KeyMap κ ν} {key : κ} {value : ν}
    (found : map.lookup key = some value) : key ∈ map := by
  rw [← lookup_isSome, found]
  rfl

theorem exists_lookup {map : KeyMap κ ν} {key : κ} (member : key ∈ map) :
    ∃ value, map.lookup key = some value :=
  Option.isSome_iff_exists.mp (lookup_isSome.mpr member)

theorem lookup_insert_eq (map : KeyMap κ ν) (key other : κ) (value : ν) :
    (map.insert key value).lookup other =
      if other = key then some value else map.lookup other := by
  split
  · rename_i same
    subst same
    exact lookup_insert map
  · rename_i differs
    exact lookup_insert_ne differs

theorem lookup_erase_eq (map : KeyMap κ ν) (key other : κ) :
    (map.erase key).lookup other = if other = key then none else map.lookup other := by
  split
  · rename_i same
    subst same
    exact lookup_erase other map
  · rename_i differs
    exact lookup_erase_ne differs

/-- Inserting entries with distinct keys stores each of them. -/
theorem lookup_foldl_insert {α : Type} (key : α → κ) (value : α → ν)
    {items : List α} (distinct : (items.map key).Nodup) (map : KeyMap κ ν) (k : κ) (v : ν) :
    (items.foldl (fun map item => map.insert (key item) (value item)) map).lookup k = some v ↔
      (∃ item ∈ items, key item = k ∧ value item = v) ∨
        (∀ item ∈ items, key item ≠ k) ∧ map.lookup k = some v := by
  induction items generalizing map with
  | nil => simp
  | cons first rest ih =>
    rw [List.map_cons, List.nodup_cons] at distinct
    rw [List.foldl_cons, ih distinct.2, lookup_insert_eq]
    by_cases same : k = key first
    · have absent : ∀ item ∈ rest, key item ≠ k := by
        intro item member equal
        apply distinct.1
        rw [← same, ← equal]
        exact List.mem_map_of_mem member
      rw [if_pos same, Option.some.injEq]
      constructor
      · intro found
        rcases found with ⟨item, member, equal, _⟩ | ⟨_, stored⟩
        · exact absurd equal (absent item member)
        · exact .inl ⟨first, List.mem_cons_self, same.symm, stored⟩
      · intro found
        rcases found with ⟨item, member, equal, stored⟩ | ⟨other, _⟩
        · rcases List.mem_cons.mp member with rfl | later
          · exact .inr ⟨absent, stored⟩
          · exact absurd equal (absent item later)
        · exact absurd same.symm (other first List.mem_cons_self)
    · rw [if_neg same]
      constructor
      · intro found
        rcases found with ⟨item, member, stored⟩ | ⟨absent, stored⟩
        · exact .inl ⟨item, List.mem_cons_of_mem first member, stored⟩
        · refine .inr ⟨?_, stored⟩
          intro item member
          rcases List.mem_cons.mp member with rfl | later
          · exact fun equal => same equal.symm
          · exact absent item later
      · intro found
        rcases found with ⟨item, member, equal, stored⟩ | ⟨absent, stored⟩
        · rcases List.mem_cons.mp member with rfl | later
          · exact absurd equal.symm same
          · exact .inl ⟨item, later, equal, stored⟩
        · exact .inr ⟨fun item member => absent item (List.mem_cons_of_mem first member), stored⟩

/-- What is stored after entries are inserted is one of them or was stored before. -/
theorem of_lookup_foldl_insert {α : Type} (key : α → κ) (value : α → ν)
    {items : List α} {map : KeyMap κ ν} {k : κ} {v : ν}
    (found : (items.foldl (fun map item => map.insert (key item) (value item)) map).lookup k =
      some v) : (∃ item ∈ items, key item = k ∧ value item = v) ∨ map.lookup k = some v := by
  induction items generalizing map with
  | nil => exact .inr found
  | cons item rest ih =>
      rcases ih found with ⟨later, member, stored⟩ | before
      · exact .inl ⟨later, List.mem_cons_of_mem item member, stored⟩
      · rw [lookup_insert_eq] at before
        split_ifs at before with same
        · exact .inl ⟨item, List.mem_cons_self, same.symm, Option.some.inj before⟩
        · exact .inr before

theorem mem_foldl_insert {α : Type} (key : α → κ) (value : α → ν)
    {items : List α} {map : KeyMap κ ν} {k : κ}
    (present : (∃ item ∈ items, key item = k) ∨ k ∈ map) :
    k ∈ items.foldl (fun map item => map.insert (key item) (value item)) map := by
  induction items generalizing map with
  | nil =>
      rcases present with ⟨item, member, _⟩ | before
      · cases member
      · exact before
  | cons item rest ih =>
      apply ih
      rcases present with ⟨other, member, same⟩ | before
      · rcases List.mem_cons.mp member with rfl | later
        · exact .inr ((mem_insert _).mpr (.inl same.symm))
        · exact .inl ⟨other, later, same⟩
      · exact .inr ((mem_insert _).mpr (.inr before))

theorem mem_entries_iff (map : KeyMap κ ν) (key : κ) (value : ν) :
    (⟨key, value⟩ : Sigma fun _ : κ => ν) ∈ map.entries ↔ map.lookup key = some value :=
  (List.mem_dlookup_iff map.nodupKeys).symm

/-- The other entries stay in place when one is taken out. -/
theorem entries_perm_erase {map : KeyMap κ ν} {key : κ} {value : ν}
    (found : map.lookup key = some value) :
    ((⟨key, value⟩ : Sigma fun _ : κ => ν) :: (map.erase key).entries).Perm map.entries := by
  obtain ⟨held, front, back, _, split, erased⟩ :=
    List.exists_of_kerase (mem_keys.mp (mem_of_lookup found))
  have same : held = value := by
    have member : (⟨key, held⟩ : Sigma fun _ : κ => ν) ∈ map.entries := by simp [split]
    rw [mem_entries_iff, found] at member
    exact (Option.some.inj member).symm
  have rest : (map.erase key).entries = front ++ back := erased
  rw [rest, split, same]
  exact List.perm_middle.symm

/-- Taking one entry out leaves the measure of the others. -/
theorem total_erase [AddCommMonoid M] (measure : κ → ν → M) (map : KeyMap κ ν)
    {key : κ} {value : ν} (found : map.lookup key = some value) :
    measure key value + total measure (map.erase key) = total measure map := by
  have parts := (entries_perm_erase found).map fun entry => measure entry.1 entry.2
  exact parts.sum_eq

theorem total_insert_eq [AddCommMonoid M] (measure : κ → ν → M) (map : KeyMap κ ν) (key : κ)
    (value : ν) :
    total measure (map.insert key value) = measure key value + total measure (map.erase key) := by
  simp only [total, entries_insert, AList.erase, List.map_cons, List.sum_cons]

theorem total_insert_of_notMem [AddCommMonoid M] (measure : κ → ν → M) (map : KeyMap κ ν)
    {key : κ} (value : ν) (fresh : key ∉ map) :
    total measure (map.insert key value) = measure key value + total measure map := by
  simp only [total, entries_insert_of_notMem fresh, List.map_cons, List.sum_cons]

theorem lookup_retain (keep : κ → ν → Bool) (map : KeyMap κ ν) (key : κ) :
    (retain keep map).lookup key = (map.lookup key).filter (keep key) := by
  apply Option.ext
  intro value
  rw [← mem_entries_iff, Option.filter_eq_some_iff, ← mem_entries_iff]
  exact List.mem_filter

end Lookup

section FirstKey

variable [LinearOrder κ]

theorem firstKey_isLeast {map : KeyMap κ ν} {key : κ} (first : firstKey map = some key) :
    IsLeast {k | k ∈ map} key := by
  obtain ⟨member, least⟩ := List.min?_eq_some_iff.mp first
  exact ⟨member, fun other present => least other present⟩

theorem exists_firstKey {map : KeyMap κ ν} {key : κ} (member : key ∈ map) :
    ∃ first, firstKey map = some first := by
  have nonempty : map.keys ≠ [] := List.ne_nil_of_mem (mem_keys.mp member)
  exact Option.isSome_iff_exists.mp (List.isSome_min?_of_ne_nil nonempty)

end FirstKey

end KeyMap
