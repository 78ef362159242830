import LinSight.Library.Run
import Mathlib

set_option autoImplicit false

/-! The slots that the RPC workers of the GUI share. -/

namespace LinSight.Gui.RpcWorker

def maxConcurrentRpc : Nat := 16

/-- Where a worker thread stands. `parked` is the wait for a slot, `returned` has its result and
still its slot, and `unwound` is a thread that a panic of its fetch has ended. -/
inductive Phase where
  | spawned
  | parked
  | fetching
  | returned
  | released
  | ended
  | unwound
deriving DecidableEq

/-- The count behind the mutex, and the workers in the order in which they were spawned. -/
structure State where
  count : Nat
  workers : List Phase
deriving DecidableEq

def State.start : State := ⟨0, []⟩

inductive Label where
  | spawnRpc
  /-- The worker has the lock and looks at the count. -/
  | acquireRpcSlot (worker : Nat)
  /-- A parked worker wakes up without a notification. -/
  | wake (worker : Nat)
  /-- The fetch returns; a fetch that times out returns its error. -/
  | fetchReturns (worker : Nat)
  | fetchPanics (worker : Nat)
  /-- The worker that `notify_one` wakes is given. -/
  | releaseRpcSlot (worker : Nat) (notified : Option Nat)
  /-- The result goes to the event loop. -/
  | queue (worker : Nat)
deriving DecidableEq

namespace State

/-- The worker goes from one phase to the next. -/
def move (s : State) (worker : Nat) (before after : Phase) : Option State :=
  if s.workers[worker]? = some before then some { s with workers := s.workers.set worker after }
  else none

/-- `notify_one`: one of the parked workers wakes up, if there is one. -/
def notifyOne (s : State) : Option Nat → Option State
  | some worker => s.move worker .parked .spawned
  | none => if .parked ∈ s.workers then none else some s

/-- `none` is a step that the worker cannot make, or an overflow of the count. -/
def step (s : State) : Label → Option State
  | .spawnRpc => some { s with workers := s.workers ++ [.spawned] }
  | .acquireRpcSlot worker =>
      if maxConcurrentRpc ≤ s.count then s.move worker .spawned .parked
      else (s.move worker .spawned .fetching).map fun s => { s with count := s.count + 1 }
  | .wake worker => s.move worker .parked .spawned
  | .fetchReturns worker => s.move worker .fetching .returned
  -- nothing on the way of the unwinding gives the slot back
  | .fetchPanics worker => s.move worker .fetching .unwound
  | .releaseRpcSlot worker notified => do
      let s ← s.move worker .returned .released
      if s.count = 0 then none
      else notifyOne { s with count := s.count - 1 } notified
  | .queue worker => s.move worker .released .ended

end State

/-- The fetch runs: it has got its slot, and has not given it back. -/
def Phase.running : Phase → Bool
  | fetching | returned => true
  | _ => false

/-- The worker has come to its end. -/
def Phase.over : Phase → Bool
  | ended | unwound => true
  | _ => false

/-- The taken slots are those of the running fetches, they are not too many, and all are free when
all workers have ended. -/
structure Conserved (s : State) : Prop where
  running : s.count = s.workers.countP Phase.running
  limit : s.count ≤ maxConcurrentRpc
  free : (∀ phase ∈ s.workers, phase.over = true) → s.count = 0

/-- The fetch of the worker panics. -/
def Label.panics : Label → Bool
  | fetchPanics _ => true
  | _ => false

section Runs

variable {s next : State} {labels : List Label}

/-- The fetch has panicked. -/
def Phase.leaked : Phase → Bool
  | unwound => true
  | _ => false

/-- A slot of the count is of the worker. -/
def Phase.holds (phase : Phase) : Bool := phase.running || phase.leaked

theorem countP_set (p : Phase → Bool) {workers : List Phase} {worker : Nat} {before : Phase}
    (here : workers[worker]? = some before) (after : Phase) :
    (workers.set worker after).countP p + (if p before then 1 else 0) =
      workers.countP p + if p after then 1 else 0 := by
  obtain ⟨inside, same⟩ := List.getElem?_eq_some_iff.mp here
  have present : (if p before then 1 else 0) ≤ workers.countP p := by
    split
    · rename_i yes
      exact List.countP_pos_iff.mpr ⟨before, same ▸ List.getElem_mem inside, yes⟩
    · exact Nat.zero_le _
  rw [List.countP_set inside, same]
  omega

theorem move_eq_some {worker : Nat} {before after : Phase} :
    s.move worker before after = some next ↔ s.workers[worker]? = some before ∧
      next = { s with workers := s.workers.set worker after } := by
  unfold State.move
  split
  · rename_i here
    exact ⟨fun same => ⟨here, (Option.some.inj same).symm⟩, fun both => by rw [both.2]⟩
  · rename_i elsewhere
    exact iff_of_false (fun same => by cases same) (fun both => elsewhere both.1)

/-- The workers of a kind, before and after a move. -/
theorem countP_move (p : Phase → Bool) {worker : Nat} {before after : Phase}
    (moved : s.move worker before after = some next) :
    next.count = s.count ∧ next.workers.countP p + (if p before then 1 else 0) =
      s.workers.countP p + if p after then 1 else 0 := by
  obtain ⟨here, rfl⟩ := move_eq_some.mp moved
  exact ⟨rfl, countP_set p here after⟩

theorem countP_notifyOne (p : Phase → Bool) (same : p .parked = p .spawned)
    {notified : Option Nat} (woken : s.notifyOne notified = some next) :
    next.count = s.count ∧ next.workers.countP p = s.workers.countP p := by
  cases notified with
  | none =>
      simp only [State.notifyOne, Option.ite_none_left_eq_some, Option.some.injEq] at woken
      rw [woken.2]
      exact ⟨rfl, rfl⟩
  | some worker =>
      obtain ⟨count, workers⟩ := countP_move p woken
      rw [same] at workers
      exact ⟨count, Nat.add_right_cancel workers⟩

/-- A release gives one slot back, and it is one of the count. -/
theorem release_cases {worker : Nat} {notified : Option Nat}
    (taken : s.step (.releaseRpcSlot worker notified) = some next) (p : Phase → Bool)
    (same : p .parked = p .spawned) :
    next.count + 1 = s.count ∧ next.workers.countP p + (if p .returned then 1 else 0) =
      s.workers.countP p + if p .released then 1 else 0 := by
  obtain ⟨middle, moved, rest⟩ := Option.bind_eq_some_iff.mp taken
  obtain ⟨count, workers⟩ := countP_move p moved
  simp only [Option.ite_none_left_eq_some] at rest
  obtain ⟨positive, woken⟩ := rest
  obtain ⟨count', workers'⟩ := countP_notifyOne p same woken
  dsimp only at count' workers'
  exact ⟨by omega, by omega⟩

/-- What a step does to the count and to the workers that have a slot of it. -/
theorem step_holds {label : Label} (taken : s.step label = some next)
    (held : s.count = s.workers.countP Phase.holds) (limit : s.count ≤ maxConcurrentRpc) :
    next.count = next.workers.countP Phase.holds ∧ next.count ≤ maxConcurrentRpc := by
  have kept {worker : Nat} {before after : Phase} (moved : s.move worker before after = some next)
      (same : before.holds = after.holds) :
      next.count = next.workers.countP Phase.holds ∧ next.count ≤ maxConcurrentRpc := by
    obtain ⟨count, workers⟩ := countP_move Phase.holds moved
    rw [same] at workers
    omega
  cases label with
  | spawnRpc =>
      cases Option.some.inj taken
      refine ⟨?_, limit⟩
      rw [List.countP_append]
      exact held
  | acquireRpcSlot worker =>
      unfold State.step at taken
      dsimp only at taken
      split at taken
      · exact kept taken rfl
      · rename_i room
        obtain ⟨middle, moved, rfl⟩ := Option.map_eq_some_iff.mp taken
        obtain ⟨count, workers⟩ := countP_move Phase.holds moved
        rw [if_neg (by decide), if_pos (by decide)] at workers
        dsimp only
        omega
  | wake worker => exact kept taken rfl
  | fetchReturns worker => exact kept taken rfl
  | fetchPanics worker => exact kept taken rfl
  | releaseRpcSlot worker notified =>
      obtain ⟨count, workers⟩ := release_cases taken Phase.holds rfl
      rw [if_pos (by decide), if_neg (by decide)] at workers
      omega
  | queue worker => exact kept taken rfl

/-- A panic leaks a slot, and nothing else does. -/
theorem step_leaked {label : Label} (taken : s.step label = some next) :
    next.workers.countP Phase.leaked =
      s.workers.countP Phase.leaked + if label.panics then 1 else 0 := by
  have kept {worker : Nat} {before after : Phase} (moved : s.move worker before after = some next)
      (plain : before.leaked = false) (plain' : after.leaked = false) :
      next.workers.countP Phase.leaked = s.workers.countP Phase.leaked := by
    obtain ⟨_, workers⟩ := countP_move Phase.leaked moved
    rw [plain, plain'] at workers
    exact workers
  cases label with
  | spawnRpc =>
      cases Option.some.inj taken
      exact List.countP_append
  | acquireRpcSlot worker =>
      unfold State.step at taken
      dsimp only at taken
      split at taken
      · exact kept taken rfl rfl
      · obtain ⟨middle, moved, rfl⟩ := Option.map_eq_some_iff.mp taken
        obtain ⟨_, workers⟩ := countP_move Phase.leaked moved
        exact workers
  | wake worker => exact kept taken rfl rfl
  | fetchReturns worker => exact kept taken rfl rfl
  | fetchPanics worker => exact (countP_move Phase.leaked taken).2
  | releaseRpcSlot worker notified => exact (release_cases taken Phase.leaked rfl).2
  | queue worker => exact kept taken rfl rfl

theorem countP_holds (workers : List Phase) :
    workers.countP Phase.holds = workers.countP Phase.running + workers.countP Phase.leaked := by
  induction workers with
  | nil => rfl
  | cons phase rest ih =>
      have single : (if phase.holds then 1 else 0) =
          (if phase.running then 1 else 0) + if phase.leaked then 1 else 0 := by
        cases phase <;> rfl
      simp only [List.countP_cons, ih, single]
      omega

theorem holds_run (run : Run.exec State.step .start labels = some s) :
    s.count = s.workers.countP Phase.holds ∧ s.count ≤ maxConcurrentRpc := by
  have preserved : ∀ before label after, State.step before label = some after →
      before.count = before.workers.countP Phase.holds ∧ before.count ≤ maxConcurrentRpc →
      after.count = after.workers.countP Phase.holds ∧ after.count ≤ maxConcurrentRpc :=
    fun _ _ _ taken inv => step_holds taken inv.1 inv.2
  exact Run.exec_invariant preserved run ⟨rfl, Nat.zero_le _⟩

theorem leaked_run (run : Run.exec State.step .start labels = some s) :
    s.workers.countP Phase.leaked = labels.countP Label.panics := by
  induction labels using List.reverseRecOn generalizing s with
  | nil =>
      cases Option.some.inj run
      rfl
  | append_singleton front last ih =>
      obtain ⟨middle, ran, taken⟩ := Run.exec_append.mp run
      obtain ⟨next, stepped, done⟩ := Run.exec_cons.mp taken
      cases Option.some.inj done
      rw [step_leaked stepped, ih ran, List.countP_append, List.countP_singleton]

theorem conserved_iff (run : Run.exec State.step .start labels = some s) :
    Conserved s ↔ labels.countP Label.panics = 0 := by
  obtain ⟨held, limit⟩ := holds_run run
  rw [countP_holds, leaked_run run] at held
  constructor
  · intro conserved
    have running := conserved.running
    omega
  · intro calm
    refine ⟨by omega, limit, fun finished => ?_⟩
    have idle : s.workers.countP Phase.running = 0 := by
      refine List.countP_eq_zero.mpr fun phase member => ?_
      have here := finished phase member
      cases phase <;> first | exact Bool.false_ne_true | cases here
    omega

/-- The count of a release does not go below zero. -/
theorem release_positive (run : Run.exec State.step .start labels = some s) {worker : Nat}
    (here : s.workers[worker]? = some .returned) : 0 < s.count := by
  obtain ⟨held, _⟩ := holds_run run
  rw [held]
  exact List.countP_pos_iff.mpr ⟨.returned, List.mem_of_getElem? here, rfl⟩

/-- When as many fetches have panicked as there are slots, no fetch starts any more. -/
theorem starved (run : Run.exec State.step .start labels = some s)
    (lost : maxConcurrentRpc ≤ labels.countP Label.panics) {worker : Nat}
    (taken : s.step (.acquireRpcSlot worker) = some next) :
    next.workers[worker]? = some .parked := by
  obtain ⟨held, _⟩ := holds_run run
  rw [countP_holds, leaked_run run] at held
  unfold State.step at taken
  dsimp only at taken
  rw [if_pos (by omega)] at taken
  obtain ⟨here, rfl⟩ := move_eq_some.mp taken
  exact List.getElem?_set_self (List.getElem?_eq_some_iff.mp here).choose

end Runs

/-- The slots are conserved throughout a run exactly where no fetch of it panics. -/
theorem slots_conserved_iff {labels : List Label} {s : State}
    (run : Run.exec State.step .start labels = some s) :
    (∀ state, Run.Visits State.step .start labels state → Conserved state) ↔
      ∀ label ∈ labels, label.panics = false := by
  constructor
  · intro conserved label member
    have calm := (conserved_iff run).mp (conserved s (Run.Visits.last run))
    exact Bool.eq_false_iff.mpr (List.countP_eq_zero.mp calm label member)
  · rintro calm state ⟨front, here, ran⟩
    refine (conserved_iff ran).mpr (List.countP_eq_zero.mpr fun label member => ?_)
    exact Bool.eq_false_iff.mp (calm label (here.subset member))

/-- Seventeen workers start: the last one has to park, until the first one gives its slot back. -/
def crowdedRun : List Label :=
  List.replicate 17 .spawnRpc ++ (List.range 17).map .acquireRpcSlot ++
    [.fetchReturns 0, .releaseRpcSlot 0 (some 16), .acquireRpcSlot 16, .queue 0]

theorem slots_conserved_iff_returned : ∃ s, Run.exec State.step .start crowdedRun = some s ∧
    s.count = 16 ∧ s.workers[16]? = some .fetching ∧
    ∀ state, Run.Visits State.step .start crowdedRun state → Conserved state := by
  obtain ⟨s, run, count, last⟩ : ∃ s, Run.exec State.step .start crowdedRun = some s ∧
      s.count = 16 ∧ s.workers[16]? = some .fetching := ⟨_, rfl, rfl, rfl⟩
  exact ⟨s, run, count, last, (slots_conserved_iff run).mpr (by decide)⟩

/-- One fetch panics, and its slot stays taken when all workers have ended. -/
theorem slot_leaked : ∃ s, Run.exec State.step .start
    [.spawnRpc, .acquireRpcSlot 0, .fetchPanics 0] = some s ∧ ¬ Conserved s := by
  refine ⟨⟨1, [.unwound]⟩, by decide, fun conserved => ?_⟩
  exact absurd conserved.running (by decide)

end LinSight.Gui.RpcWorker
