import Mathlib

set_option autoImplicit false

/-! Loops over a list whose body can fail. -/

namespace Fallible

variable {α β ε : Type}

theorem bind_eq_ok {first : Except ε α} {next : α → Except ε β} {result : β} :
    (first >>= next) = .ok result ↔ ∃ value, first = .ok value ∧ next value = .ok result := by
  cases first with
  | error e => simp [bind, Except.bind]
  | ok value => simp [bind, Except.bind]

theorem bind_eq_error {first : Except ε α} {next : α → Except ε β} {e : ε} :
    (first >>= next) = .error e ↔
      first = .error e ∨ ∃ value, first = .ok value ∧ next value = .error e := by
  cases first with
  | error e => simp [bind, Except.bind]
  | ok value => simp [bind, Except.bind]

/-- A loop of checks succeeds where every check does. -/
theorem forM_eq_ok {check : α → Except ε PUnit.{1}} {list : List α} :
    list.forM check = .ok ⟨⟩ ↔ ∀ item ∈ list, check item = .ok ⟨⟩ := by
  induction list with
  | nil => exact ⟨fun _ _ member => absurd member List.not_mem_nil, fun _ => rfl⟩
  | cons item rest ih =>
      change (check item >>= fun _ => rest.forM check) = .ok ⟨⟩ ↔ _
      rw [bind_eq_ok, List.forall_mem_cons, ← ih]
      exact ⟨fun ⟨_, here, later⟩ => ⟨here, later⟩, fun ⟨here, later⟩ => ⟨⟨⟩, here, later⟩⟩

/-- A loop of conversions succeeds with the list of the single results. -/
theorem mapM_eq_some {convert : α → Option β} {list : List α} {results : List β} :
    list.mapM convert = some results ↔
      List.Forall₂ (fun item result => convert item = some result) list results := by
  induction list generalizing results with
  | nil =>
      rw [List.mapM_nil, List.forall₂_nil_left_iff]
      exact ⟨fun done => (Option.some.inj done).symm, fun empty => empty ▸ rfl⟩
  | cons item rest ih =>
      simp only [List.mapM_cons, List.forall₂_cons_left_iff, ← ih]
      change (convert item).bind _ = some results ↔ _
      rw [Option.bind_eq_some_iff]
      constructor
      · rintro ⟨result, here, later⟩
        obtain ⟨others, rest_done, whole⟩ := Option.bind_eq_some_iff.mp later
        exact ⟨result, others, here, rest_done, (Option.some.inj whole).symm⟩
      · rintro ⟨result, others, here, rest_done, whole⟩
        exact ⟨result, here, Option.bind_eq_some_iff.mpr ⟨others, rest_done, whole ▸ rfl⟩⟩

theorem map_some_of_mapM {convert : α → Option β} {list : List α} {results : List β}
    (done : list.mapM convert = some results) : results.map some = list.map convert := by
  have pairs := mapM_eq_some.mp done
  clear done
  induction pairs with
  | nil => rfl
  | cons here _ ih => rw [List.map_cons, List.map_cons, here, ih]

/-- What every conversion keeps, the loop keeps. -/
theorem map_eq_of_mapM {γ : Type} {convert : α → Option β} {before : α → γ} {after : β → γ}
    (kept : ∀ item result, convert item = some result → after result = before item)
    {list : List α} {results : List β} (done : list.mapM convert = some results) :
    results.map after = list.map before := by
  have pairs := mapM_eq_some.mp done
  clear done
  induction pairs with
  | nil => rfl
  | cons here _ ih => rw [List.map_cons, List.map_cons, kept _ _ here, ih]

theorem exists_of_mem_mapM {convert : α → Option β} {list : List α} {results : List β}
    (done : list.mapM convert = some results) {result : β} (member : result ∈ results) :
    ∃ item ∈ list, convert item = some result := by
  have pairs := mapM_eq_some.mp done
  clear done
  induction pairs with
  | nil => exact absurd member List.not_mem_nil
  | cons here _ ih =>
      rcases List.mem_cons.mp member with rfl | later
      · exact ⟨_, List.mem_cons_self, here⟩
      · obtain ⟨item, inside, converted⟩ := ih later
        exact ⟨item, List.mem_cons_of_mem _ inside, converted⟩

/-- Where every conversion succeeds, the loop does. -/
theorem mapM_exists {convert : α → Option β} {list : List α}
    (each : ∀ item ∈ list, ∃ result, convert item = some result) :
    ∃ results, list.mapM convert = some results := by
  induction list with
  | nil => exact ⟨[], rfl⟩
  | cons item rest ih =>
      obtain ⟨result, here⟩ := each item List.mem_cons_self
      obtain ⟨results, later⟩ := ih fun other member => each other (List.mem_cons_of_mem _ member)
      exact ⟨result :: results, mapM_eq_some.mpr (.cons here (mapM_eq_some.mp later))⟩

/-- What every step of a fallible fold preserves, the fold preserves. -/
theorem foldlM_invariant {step : β → α → Option β} {inv : β → Prop} {list : List α}
    (preserved : ∀ state item, inv state → ∃ next, step state item = some next ∧ inv next)
    {start : β} (initial : inv start) : ∃ final, list.foldlM step start = some final ∧ inv final := by
  induction list generalizing start with
  | nil => exact ⟨start, rfl, initial⟩
  | cons item rest ih =>
      obtain ⟨next, taken, kept⟩ := preserved start item initial
      obtain ⟨final, done, holds⟩ := ih kept
      refine ⟨final, ?_, holds⟩
      rw [List.foldlM_cons, taken]
      exact done

end Fallible
