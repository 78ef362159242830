import Mathlib.Data.List.Basic
import Mathlib.Data.List.Nodup

set_option autoImplicit false

/-! What each of several actors did, out of one log of them all. -/

namespace Journal

variable {α β : Type} [DecidableEq α]

/-- The entries of one actor, in their order. -/
def entriesOf (log : List (α × β)) (actor : α) : List β :=
  log.filterMap fun entry => if entry.1 = actor then some entry.2 else none

@[simp] theorem entriesOf_append (first second : List (α × β)) (actor : α) :
    entriesOf (first ++ second) actor = entriesOf first actor ++ entriesOf second actor :=
  List.filterMap_append

@[simp] theorem entriesOf_own (actor : α) (entries : List β) :
    entriesOf (entries.map fun entry => (actor, entry)) actor = entries := by
  simp [entriesOf, List.filterMap_map]

theorem entriesOf_other {actor other : α} (differs : other ≠ actor) (entries : List β) :
    entriesOf (entries.map fun entry => (other, entry)) actor = [] := by
  simp [entriesOf, List.filterMap_map, differs]

/-- One entry for each actor of a list without repetitions. -/
theorem entriesOf_each {actors : List α} (distinct : actors.Nodup) (entry : β) (actor : α) :
    entriesOf (actors.map fun other => (other, entry)) actor =
      if actor ∈ actors then [entry] else [] := by
  induction actors with
  | nil => rfl
  | cons first rest ih =>
      obtain ⟨absent, distinct⟩ := List.nodup_cons.mp distinct
      have split : (first :: rest).map (fun other => (other, entry)) =
          [entry].map (fun held => (first, held)) ++ rest.map fun other => (other, entry) := rfl
      rw [split, entriesOf_append, ih distinct]
      by_cases same : first = actor
      · have once : actor ∉ rest := same ▸ absent
        rw [← same] at once ⊢
        rw [entriesOf_own, if_neg once, if_pos List.mem_cons_self, List.append_nil]
      · have member : actor ∈ first :: rest ↔ actor ∈ rest := by
          rw [List.mem_cons]
          exact or_iff_right fun equal => same equal.symm
        rw [entriesOf_other same, List.nil_append]
        simp only [member]

end Journal
