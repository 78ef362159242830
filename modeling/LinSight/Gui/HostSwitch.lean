import LinSight.Library.Run
import Mathlib

set_option autoImplicit false

/-! The host switcher: `HostsModel` asks the workspace to reconnect, and so does the supervisor of
a lost connection. Both dial before they take the lock under which the target is replaced. -/

namespace LinSight.Gui

inductive SwitchPhase where
  | dialing
  | finished (result : Except String PUnit.{1})
  /-- On the queue of the Qt thread. -/
  | queued (result : Except String PUnit.{1})
deriving DecidableEq

structure HostWorker where
  generation : Nat
  target : String
  phase : SwitchPhase
deriving DecidableEq

/-- The worker has replaced the target. -/
def HostWorker.committed (worker : HostWorker) : Bool :=
  match worker.phase with
  | .finished (.ok _) | .queued (.ok _) => true
  | _ => false

/-- `target` and `alive` are of the workspace, `supervisor` is what it dials. -/
structure HostSwitch where
  target : String
  alive : Bool
  supervisor : Option String
  activeHost : String
  isConnecting : Bool
  lastError : String
  requestGeneration : Nat
  workers : List HostWorker
deriving DecidableEq

inductive SwitchEvent where
  | connectionDies
  | superviseDial
  | superviseFail
  | superviseCommit
  | reload
  /-- The saved host is found, or not. -/
  | connectTo (name : String) (url : Option String)
  | connectLocal
  | commit (i : Nat)
  | fail (i : Nat) (error : String)
  | queue (i : Nat)
  /-- The worker panics while it dials. -/
  | panic (i : Nat)
  | deliver (i : Nat)
deriving DecidableEq

namespace HostSwitch

/-- The switcher after its first `reload`. -/
def start (target : String) : HostSwitch := ⟨target, true, none, target, false, "", 0, []⟩

def spawnReconnect (s : HostSwitch) (target : String) : HostSwitch :=
  if s.isConnecting then s
  else
    let generation := s.requestGeneration + 1
    { s with
      isConnecting := true
      lastError := ""
      requestGeneration := generation
      workers := s.workers ++ [⟨generation, target, .dialing⟩] }

/-- The closure that the worker has queued. -/
def apply (s : HostSwitch) (worker : HostWorker) (result : Except String PUnit.{1}) : HostSwitch :=
  if s.requestGeneration = worker.generation then
    match result with
    | .ok _ => { s with isConnecting := false, activeHost := worker.target, lastError := "" }
    | .error e => { s with isConnecting := false, lastError := e }
  else s

def step (s : HostSwitch) : SwitchEvent → Option HostSwitch
  | .connectionDies => some { s with alive := false }
  | .superviseDial =>
      Run.enabled (s.alive = false ∧ s.supervisor = none) { s with supervisor := some s.target }
  | .superviseFail => Run.enabled (s.supervisor.isSome = true) { s with supervisor := none }
  | .superviseCommit =>
      match s.supervisor with
      | some target => some { s with target, alive := true, supervisor := none }
      | none => none
  | .reload => some { s with lastError := "", activeHost := s.target }
  | .connectTo name url =>
      match url with
      | none => some { s with lastError := "host '" ++ name ++ "' not found" }
      | some url => some (s.spawnReconnect url)
  | .connectLocal => some (s.spawnReconnect "local")
  | .commit i =>
      match s.workers[i]? with
      | some ⟨generation, target, .dialing⟩ => some { s with
          target
          alive := true
          workers := s.workers.set i ⟨generation, target, .finished (.ok ⟨⟩)⟩ }
      | _ => none
  | .fail i error =>
      match s.workers[i]? with
      | some ⟨generation, target, .dialing⟩ => some { s with
          workers := s.workers.set i ⟨generation, target, .finished (.error error)⟩ }
      | _ => none
  | .queue i =>
      match s.workers[i]? with
      | some ⟨generation, target, .finished result⟩ => some { s with
          workers := s.workers.set i ⟨generation, target, .queued result⟩ }
      | _ => none
  | .panic i =>
      match s.workers[i]? with
      | some ⟨_, _, .dialing⟩ => some { s with workers := s.workers.eraseIdx i }
      | _ => none
  | .deliver i =>
      match s.workers[i]? with
      | some ⟨generation, target, .queued result⟩ =>
          let rest := { s with workers := s.workers.eraseIdx i }
          some (rest.apply ⟨generation, target, .queued result⟩ result)
      | _ => none

/-- The host that the switcher names once what is under way has arrived. -/
def due (s : HostSwitch) : String :=
  ((s.workers.find? HostWorker.committed).map HostWorker.target).getD s.activeHost

/-- At most one switch is under way, and its result will be taken. -/
def Single (s : HostSwitch) : Prop :=
  s.workers = [] ∨
    ∃ worker, s.workers = [worker] ∧ worker.generation = s.requestGeneration ∧
      s.isConnecting = true

/-- The supervisor does not replace the target by an older one. -/
def Fresh (s : HostSwitch) : SwitchEvent → Prop
  | .superviseCommit => ∀ target, s.supervisor = some target → target = s.target
  | _ => True

variable {s next : HostSwitch}

theorem start_single (target : String) : (start target).Single := .inl rfl

theorem Single.worker (single : s.Single) {i : Nat} {worker : HostWorker}
    (here : s.workers[i]? = some worker) :
    i = 0 ∧ s.workers = [worker] ∧ worker.generation = s.requestGeneration ∧
      s.isConnecting = true := by
  rcases single with none_there | ⟨only, alone, current, busy⟩
  · rw [none_there] at here
    cases here
  · rw [alone] at here
    cases i with
    | zero =>
        cases here
        exact ⟨rfl, alone, current, busy⟩
    | succ i => cases here

theorem Single.idle (single : s.Single) (quiet : s.isConnecting = false) : s.workers = [] := by
  rcases single with none_there | ⟨_, _, _, busy⟩
  · exact none_there
  · rw [quiet] at busy
    cases busy

theorem due_of_empty (none_there : s.workers = []) : s.due = s.activeHost := by
  rw [due, none_there]
  rfl

theorem due_of_worker {worker : HostWorker} (alone : s.workers = [worker]) :
    s.due = if worker.committed then worker.target else s.activeHost := by
  rw [due, alone]
  cases committed : worker.committed with
  | true => simp [committed]
  | false => simp [committed]

/-- A click starts a switch, or does nothing while one is under way. -/
theorem Single.spawnReconnect (single : s.Single) (target : String) :
    (s.spawnReconnect target).Single ∧ (s.spawnReconnect target).due = s.due ∧
      (s.spawnReconnect target).target = s.target := by
  unfold HostSwitch.spawnReconnect
  split
  · exact ⟨single, rfl, rfl⟩
  · rename_i quiet
    have empty := single.idle (Bool.eq_false_of_not_eq_true quiet)
    have one : s.workers ++ [⟨s.requestGeneration + 1, target, .dialing⟩] =
        [⟨s.requestGeneration + 1, target, .dialing⟩] := by rw [empty]; rfl
    refine ⟨.inr ⟨⟨s.requestGeneration + 1, target, .dialing⟩, one, rfl, rfl⟩, ?_, rfl⟩
    rw [due_of_worker one, due_of_empty empty]
    rfl

/-- The one worker goes on. -/
theorem Single.set (single : s.Single) {i : Nat} {worker : HostWorker}
    (here : s.workers[i]? = some worker) (phase : SwitchPhase) (target : String) (alive : Bool) :
    let next : HostSwitch := { s with
      target
      alive
      workers := s.workers.set i ⟨worker.generation, worker.target, phase⟩ }
    next.Single ∧ next.due = if HostWorker.committed ⟨worker.generation, worker.target, phase⟩ then
      worker.target else s.activeHost := by
  obtain ⟨first, alone, current, busy⟩ := single.worker here
  have set : s.workers.set i ⟨worker.generation, worker.target, phase⟩ =
      [⟨worker.generation, worker.target, phase⟩] := by
    rw [alone, first]
    rfl
  exact ⟨.inr ⟨_, set, current, busy⟩, due_of_worker set⟩

theorem Single.erase (single : s.Single) {i : Nat} {worker : HostWorker}
    (here : s.workers[i]? = some worker) : s.workers.eraseIdx i = [] := by
  obtain ⟨first, alone, _, _⟩ := single.worker here
  rw [alone, first]
  rfl

/-- Never more than one switch is under way. -/
theorem step_single {event : SwitchEvent} (taken : s.step event = some next) (single : s.Single) :
    next.Single := by
  cases event with
  | connectionDies =>
      cases taken
      exact single
  | superviseDial =>
      obtain ⟨_, rfl⟩ := Run.enabled_eq_some.mp taken
      exact single
  | superviseFail =>
      obtain ⟨_, rfl⟩ := Run.enabled_eq_some.mp taken
      exact single
  | superviseCommit =>
      unfold step at taken
      dsimp only at taken
      split at taken
      · cases taken
        exact single
      · cases taken
  | reload =>
      cases taken
      exact single
  | connectTo name url =>
      cases url with
      | none =>
          cases taken
          exact single
      | some url =>
          cases taken
          exact (single.spawnReconnect url).1
  | connectLocal =>
      cases taken
      exact (single.spawnReconnect "local").1
  | commit i | fail i error | queue i =>
      unfold step at taken
      dsimp only at taken
      split at taken
      · rename_i here
        cases taken
        exact (single.set here _ _ _).1
      · cases taken
  | panic i =>
      unfold step at taken
      dsimp only at taken
      split at taken
      · rename_i here
        cases taken
        exact .inl (single.erase here)
      · cases taken
  | deliver i =>
      unfold step at taken
      dsimp only at taken
      split at taken
      · rename_i result here
        cases taken
        have gone := single.erase here
        unfold apply
        split
        · cases result <;> exact .inl gone
        · exact .inl gone
      · cases taken

/-- An event keeps the right host due, unless the supervisor comes with an older target. -/
theorem step_due {event : SwitchEvent} (taken : s.step event = some next) (single : s.Single)
    (right : s.due = s.target) : next.due = next.target ↔ s.Fresh event := by
  cases event with
  | connectionDies =>
      cases taken
      exact iff_of_true right trivial
  | superviseDial =>
      obtain ⟨_, rfl⟩ := Run.enabled_eq_some.mp taken
      exact iff_of_true right trivial
  | superviseFail =>
      obtain ⟨_, rfl⟩ := Run.enabled_eq_some.mp taken
      exact iff_of_true right trivial
  | superviseCommit =>
      unfold step at taken
      dsimp only at taken
      split at taken
      · rename_i target dialed
        cases taken
        show s.due = target ↔ ∀ other, s.supervisor = some other → other = s.target
        rw [right, dialed]
        constructor
        · intro same other found
          rw [← Option.some.inj found, same]
        · intro fresh
          exact (fresh target rfl).symm
      · cases taken
  | reload =>
      cases taken
      refine iff_of_true ?_ trivial
      rcases single with none_there | ⟨worker, alone, _, _⟩
      · exact due_of_empty none_there
      · have before := due_of_worker alone
        have after := due_of_worker (s := { s with lastError := "", activeHost := s.target }) alone
        rw [after]
        split
        · rename_i committed
          rw [committed, if_pos rfl] at before
          rw [← before, right]
        · rfl
  | connectTo name url =>
      cases url with
      | none =>
          cases taken
          exact iff_of_true right trivial
      | some url =>
          cases taken
          obtain ⟨_, due, target⟩ := single.spawnReconnect url
          exact iff_of_true (by rw [due, target, right]) trivial
  | connectLocal =>
      cases taken
      obtain ⟨_, due, target⟩ := single.spawnReconnect "local"
      exact iff_of_true (by rw [due, target, right]) trivial
  | commit i =>
      unfold step at taken
      dsimp only at taken
      split at taken
      · rename_i generation target here
        cases taken
        exact iff_of_true (single.set here (.finished (.ok ⟨⟩)) target true).2 trivial
      · cases taken
  | fail i error =>
      unfold step at taken
      dsimp only at taken
      split at taken
      · rename_i generation target here
        cases taken
        obtain ⟨_, alone, _, _⟩ := single.worker here
        have due := (single.set here (.finished (.error error)) s.target s.alive).2
        refine iff_of_true (due.trans ?_) trivial
        rw [← right, due_of_worker alone]
        rfl
      · cases taken
  | queue i =>
      unfold step at taken
      dsimp only at taken
      split at taken
      · rename_i generation target result here
        cases taken
        obtain ⟨_, alone, _, _⟩ := single.worker here
        have due := (single.set here (.queued result) s.target s.alive).2
        refine iff_of_true (due.trans ?_) trivial
        rw [← right, due_of_worker alone]
        cases result <;> rfl
      · cases taken
  | panic i =>
      unfold step at taken
      dsimp only at taken
      split at taken
      · rename_i generation target here
        cases taken
        obtain ⟨_, alone, _, _⟩ := single.worker here
        have gone := single.erase here
        refine iff_of_true ?_ trivial
        rw [due_of_empty (s := { s with workers := s.workers.eraseIdx i }) gone]
        show s.activeHost = s.target
        rw [← right, due_of_worker alone]
        rfl
      · cases taken
  | deliver i =>
      unfold step at taken
      dsimp only at taken
      split at taken
      · rename_i generation target result here
        cases taken
        obtain ⟨_, alone, current, _⟩ := single.worker here
        have gone := single.erase here
        have before := due_of_worker alone
        have same : s.requestGeneration = generation := current.symm
        unfold apply
        simp only [same, ↓reduceIte]
        cases result with
        | ok done =>
            refine iff_of_true ?_ trivial
            rw [due_of_empty gone]
            exact before.symm.trans right
        | error error =>
            refine iff_of_true ?_ trivial
            rw [due_of_empty gone]
            exact before.symm.trans right
      · cases taken

/-- The switcher names the workspace's target whenever no switch is under way, and will name it
otherwise, exactly in the runs in which the supervisor never brings an older target back. At most
one switch is under way. -/
theorem switcher_right_iff (target : String) (events : List SwitchEvent) :
    ((∀ s, Run.Visits step (start target) events s → s.due = s.target) ↔
        Run.Always step Fresh (start target) events) ∧
      ∀ s, Run.Visits step (start target) events s → s.workers.length ≤ 1 ∧
        (s.isConnecting = false → s.due = s.activeHost) := by
  constructor
  · have preserved : ∀ (s : HostSwitch) (event : SwitchEvent) (next : HostSwitch),
        step s event = some next → Single s → Single next := by
      intro s event next taken single
      exact step_single taken single
    apply Run.visits_iff_always preserved
    · intro s event stuck
      cases event with
      | superviseCommit =>
          intro other dialed
          unfold step at stuck
          rw [dialed] at stuck
          cases stuck
      | _ => trivial
    · intro s event next taken single right
      exact step_due taken single right
    · exact start_single target
    · rfl
  · intro s visited
    obtain ⟨front, _, run⟩ := visited
    have single : Single s :=
      Run.exec_invariant (fun _ _ _ taken single => step_single taken single) run
        (start_single target)
    constructor
    · rcases single with none_there | ⟨worker, alone, _, _⟩
      · simp [none_there]
      · simp [alone]
    · intro quiet
      exact due_of_empty (single.idle quiet)

/-- The supervisor dials a lost host, the user goes back to the local daemon, and then the dial
succeeds: the workspace talks to the host again under the name of the local daemon. -/
example : (Run.exec step (start "ssh://lab")
    [.connectionDies, .superviseDial, .connectLocal, .commit 0, .queue 0, .deliver 0,
      .superviseCommit]).map (fun s => (s.isConnecting, s.activeHost, s.target)) =
    some (false, "local", "ssh://lab") := by
  decide

end HostSwitch

end LinSight.Gui
