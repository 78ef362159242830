import Mathlib

set_option autoImplicit false

/-! Jobs of a queue on equal workers: each goes, in its turn, to the worker that is free first. -/

namespace ListSchedule

theorem insertionSort_of_perm {α : Type} [LinearOrder α] {one two : List α} (same : one.Perm two) :
    one.insertionSort (· ≤ ·) = two.insertionSort (· ≤ ·) := by
  apply @List.Perm.eq_of_pairwise _ (· ≤ ·)
  · exact fun _ _ _ _ below above => le_antisymm below above
  · exact List.pairwise_insertionSort _ one
  · exact List.pairwise_insertionSort _ two
  · exact (List.perm_insertionSort _ one).trans (same.trans (List.perm_insertionSort _ two).symm)

variable {τ : Type} [LinearOrder τ] [OrderTop τ]

section Ends

variable [Add τ]

/-- When jobs of the given lengths end. The workers get free at the given times, the earliest
first; without workers no job ends. -/
def ends : List τ → List τ → List τ
  | _, [] => []
  | [], _ :: rest => ⊤ :: ends [] rest
  | free :: others, length :: rest =>
      (free + length) :: ends (others.orderedInsert (· ≤ ·) (free + length)) rest

/-- The same for workers in any order. -/
def endTimes (free lengths : List τ) : List τ := ends (free.insertionSort (· ≤ ·)) lengths

@[simp] theorem endTimes_nil (free : List τ) : endTimes free [] = [] := by
  rw [endTimes, ends]

theorem length_ends (free lengths : List τ) : (ends free lengths).length = lengths.length := by
  induction lengths generalizing free with
  | nil => rw [ends]
  | cons length rest ih =>
      cases free with
      | nil => rw [ends, List.length_cons, ih, List.length_cons]
      | cons free others => rw [ends, List.length_cons, ih, List.length_cons]

@[simp] theorem length_endTimes (free lengths : List τ) :
    (endTimes free lengths).length = lengths.length := length_ends _ lengths

theorem endTimes_of_perm {one two : List τ} (same : one.Perm two) (lengths : List τ) :
    endTimes one lengths = endTimes two lengths := by
  rw [endTimes, endTimes, insertionSort_of_perm same]

/-- A worker that is free before all others takes the first job. -/
theorem endTimes_set {free lengths : List τ} {worker : Nat} {least length : τ}
    (here : free[worker]? = some least) (first : ∀ other ∈ free, least ≤ other) :
    endTimes free (length :: lengths) =
      (least + length) :: endTimes (free.set worker (least + length)) lengths := by
  obtain ⟨inside, same⟩ := List.getElem?_eq_some_iff.mp here
  let others := (free.eraseIdx worker).insertionSort (· ≤ ·)
  have taken : (least :: others).Perm free := by
    rw [← same]
    refine List.Perm.trans ?_ (List.getElem_cons_eraseIdx_perm inside)
    exact (List.perm_insertionSort _ _).cons _
  have sorted : (least :: others).Pairwise (· ≤ ·) := by
    refine List.pairwise_cons.mpr ⟨fun other member => ?_, List.pairwise_insertionSort _ _⟩
    exact first other (List.mem_of_mem_eraseIdx ((List.mem_insertionSort _).mp member))
  have busy : (free.set worker (least + length)).Perm ((least + length) :: free.eraseIdx worker) :=
    List.set_perm_cons_eraseIdx inside _
  rw [← endTimes_of_perm taken, endTimes_of_perm busy, endTimes, sorted.insertionSort_eq, ends,
    endTimes, List.insertionSort_cons]

end Ends

/-- No job ends before the first worker is free. -/
theorem le_of_mem_ends [AddCommMonoid τ] [CanonicallyOrderedAdd τ] {free lengths : List τ}
    {floor : τ} (late : ∀ time ∈ free, floor ≤ time) :
    ∀ time ∈ ends free lengths, floor ≤ time := by
  induction lengths generalizing free with
  | nil =>
      intro time member
      rw [ends] at member
      cases member
  | cons length rest ih =>
      cases free with
      | nil =>
          rw [ends]
          exact List.forall_mem_cons.mpr ⟨le_top, ih late⟩
      | cons free others =>
          obtain ⟨now, later⟩ := List.forall_mem_cons.mp late
          have ended : floor ≤ free + length := now.trans le_self_add
          rw [ends]
          refine List.forall_mem_cons.mpr ⟨ended, ih fun time member => ?_⟩
          rcases (List.mem_orderedInsert _).mp member with rfl | other
          · exact ended
          · exact later time other

theorem le_of_mem_endTimes [AddCommMonoid τ] [CanonicallyOrderedAdd τ] {free lengths : List τ}
    {floor : τ} (late : ∀ time ∈ free, floor ≤ time) :
    ∀ time ∈ endTimes free lengths, floor ≤ time := by
  refine le_of_mem_ends fun time member => ?_
  exact late time ((List.mem_insertionSort _).mp member)

end ListSchedule
