import Mathlib

set_option autoImplicit false

/-! Snapshots that are taken now and then and served to several readers, each of which keeps the
last one that it was served. -/

namespace SharedSnapshots

/-- The snapshots taken, oldest first, and for each reader the numbers of those that it was
served, newest first. -/
structure Record (S κ : Type) where
  taken : List S
  served : κ → List Nat

namespace Record

variable {S κ : Type}

def start : Record S κ := ⟨[], fun _ => []⟩

/-- Take a snapshot, where there is a fresh one. -/
def take (record : Record S κ) (fresh : Option S) : Record S κ :=
  { record with taken := record.taken ++ fresh.toList }

/-- Serve the newest snapshot. -/
def serve [DecidableEq κ] (record : Record S κ) (reader : κ) : Record S κ :=
  { record with
    served := Function.update record.served reader
      ((record.taken.length - 1) :: record.served reader) }

/-- The last snapshot that a reader was served. -/
def latest (record : Record S κ) (reader : κ) : Option S :=
  (record.served reader).head?.bind fun i => record.taken[i]?

/-- The newest snapshot was served to the reader. -/
def SeesNewest (record : Record S κ) (reader : κ) : Prop :=
  record.taken.length - 1 ∈ record.served reader

/-- The one before the newest was served to the reader. -/
def SawPrevious (record : Record S κ) (reader : κ) : Prop :=
  record.taken.length - 2 ∈ record.served reader

instance (record : Record S κ) (reader : κ) : Decidable (record.SeesNewest reader) :=
  inferInstanceAs (Decidable (_ ∈ _))

instance (record : Record S κ) (reader : κ) : Decidable (record.SawPrevious reader) :=
  inferInstanceAs (Decidable (_ ∈ _))

/-- No reader goes back to an older snapshot. -/
structure Ordered (record : Record S κ) : Prop where
  falling : ∀ reader, (record.served reader).Pairwise fun newer older => older ≤ newer
  known : ∀ reader, ∀ i ∈ record.served reader, i < record.taken.length

@[simp] theorem served_take (record : Record S κ) (fresh : Option S) :
    (record.take fresh).served = record.served := rfl

theorem take_none (record : Record S κ) : record.take none = record := by
  simp only [take, Option.toList_none, List.append_nil]

variable {record : Record S κ} {reader other : κ} {front : List S} {prev cur : S}

theorem start_ordered : (start : Record S κ).Ordered :=
  ⟨fun _ => List.Pairwise.nil, fun _ _ member => absurd member List.not_mem_nil⟩

theorem Ordered.take (ordered : record.Ordered) (fresh : Option S) :
    (record.take fresh).Ordered := by
  refine ⟨ordered.falling, fun reader i member => ?_⟩
  have before := ordered.known reader i member
  simp only [Record.take, List.length_append]
  omega

/-- A snapshot that is taken leaves what the readers have. -/
theorem latest_take (ordered : record.Ordered) (fresh : Option S) (reader : κ) :
    (record.take fresh).latest reader = record.latest reader := by
  unfold latest
  rw [served_take]
  cases newest : (record.served reader).head? with
  | none => rfl
  | some i =>
      have within := ordered.known reader i (List.mem_of_head? newest)
      rw [Option.bind_some, Option.bind_some, Record.take, List.getElem?_append_left within]

theorem length_taken (taken : record.taken = front ++ [prev, cur]) :
    record.taken.length = front.length + 2 := by
  rw [taken, List.length_append]
  rfl

theorem getLast?_taken (taken : record.taken = front ++ [prev, cur]) :
    record.taken.getLast? = some cur := by
  rw [taken]
  exact List.getLast?_append_cons _ _ _

/-- The last number that a reader was served is the highest. -/
theorem Ordered.exists_newest (ordered : record.Ordered) {i : Nat}
    (member : i ∈ record.served reader) :
    ∃ newest, (record.served reader).head? = some newest ∧ newest ∈ record.served reader ∧
      i ≤ newest ∧ newest < record.taken.length := by
  cases served : record.served reader with
  | nil =>
      rw [served] at member
      cases member
  | cons newest rest =>
      have low := ordered.known reader newest (served ▸ List.mem_cons_self)
      have falling := ordered.falling reader
      rw [served, List.pairwise_cons] at falling
      refine ⟨newest, rfl, List.mem_cons_self, ?_, low⟩
      rw [served] at member
      rcases List.mem_cons.mp member with here | later
      · exact here.le
      · exact falling.1 i later

/-- The reader that lacks only the newest snapshot has the one before it. -/
theorem latest_previous (ordered : record.Ordered) (taken : record.taken = front ++ [prev, cur])
    (lacks : ¬ record.SeesNewest reader) (saw : record.SawPrevious reader) :
    record.latest reader = some prev := by
  have count := length_taken taken
  obtain ⟨newest, head, member, high, low⟩ := ordered.exists_newest saw
  have other : newest ≠ record.taken.length - 1 := by
    rintro rfl
    exact lacks member
  have here : newest = front.length := by omega
  rw [latest, head, Option.bind_some, here, taken, List.getElem?_append_right le_rfl, Nat.sub_self]
  rfl

/-- The reader that was served the newest snapshot has it. -/
theorem latest_newest (ordered : record.Ordered) (sees : record.SeesNewest reader) :
    record.latest reader = record.taken.getLast? := by
  obtain ⟨newest, head, _, high, low⟩ := ordered.exists_newest sees
  have here : newest = record.taken.length - 1 := by omega
  rw [latest, head, Option.bind_some, here, List.getLast?_eq_getElem?]

/-- Nobody was served a snapshot that was only just taken. -/
theorem not_seesNewest_take (ordered : record.Ordered) (fresh : S) (reader : κ) :
    ¬ (record.take (some fresh)).SeesNewest reader := by
  intro sees
  have before := ordered.known reader _ sees
  simp only [Record.take, Option.toList_some, List.length_append, List.length_singleton] at before
  omega

section Serve

variable [DecidableEq κ]

@[simp] theorem taken_serve (record : Record S κ) (reader : κ) :
    (record.serve reader).taken = record.taken := rfl

theorem served_serve (record : Record S κ) (reader other : κ) :
    (record.serve reader).served other =
      if other = reader then (record.taken.length - 1) :: record.served other
      else record.served other := by
  unfold serve
  dsimp only
  split
  · rename_i same
    rw [same, Function.update_self]
  · rename_i differs
    rw [Function.update_of_ne differs]

theorem Ordered.serve (ordered : record.Ordered) (some_taken : record.taken ≠ []) (reader : κ) :
    (record.serve reader).Ordered := by
  have positive := List.length_pos_of_ne_nil some_taken
  constructor
  · intro other
    rw [served_serve]
    split
    · refine List.pairwise_cons.mpr ⟨fun i member => ?_, ordered.falling other⟩
      have before := ordered.known other i member
      omega
    · exact ordered.falling other
  · intro other i member
    rw [served_serve] at member
    rw [taken_serve]
    split at member
    · rcases List.mem_cons.mp member with rfl | earlier
      · omega
      · exact ordered.known other i earlier
    · exact ordered.known other i member

theorem latest_serve (record : Record S κ) (reader other : κ) :
    (record.serve reader).latest other =
      if other = reader then record.taken.getLast? else record.latest other := by
  unfold latest
  rw [served_serve, taken_serve]
  split
  · rw [List.head?_cons, Option.bind_some, List.getLast?_eq_getElem?]
  · rfl

theorem seesNewest_serve (record : Record S κ) (reader other : κ) :
    (record.serve reader).SeesNewest other ↔ other = reader ∨ record.SeesNewest other := by
  unfold SeesNewest
  rw [served_serve, taken_serve]
  split
  · rename_i same
    exact iff_of_true List.mem_cons_self (.inl same)
  · rename_i differs
    rw [or_iff_right differs]

/-- Serving the newest snapshot serves no earlier one. -/
theorem sawPrevious_serve (taken : record.taken = front ++ [prev, cur]) :
    (record.serve reader).SawPrevious other ↔ record.SawPrevious other := by
  have count := length_taken taken
  unfold SawPrevious
  rw [served_serve, taken_serve, count]
  split
  · rw [List.mem_cons]
    refine or_iff_right fun same => ?_
    omega
  · rfl

end Serve

end Record

end SharedSnapshots
