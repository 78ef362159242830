import LinSight.Alerts.Engine
import LinSight.Library.Locks
import LinSight.Protocol.Messages

set_option autoImplicit false

/-! What the threads of the daemon lock and where they block. Each activity of a thread is a
program; threads interleave between any two actions. -/

namespace LinSight

open Locks

inductive DaemonLock where
  | scheduler
  | registryRead
  | registryWrite
  | clients
  | subscriptions (client : Nat)
  | writer (client : Nat)
  | engine
deriving DecidableEq

/-- Readers of the registry share it. -/
def DaemonLock.conflicts : DaemonLock → DaemonLock → Bool
  | .registryRead, .registryRead => false
  | .registryRead, .registryWrite => true
  | .registryWrite, .registryRead => true
  | first, second => decide (first = second)

inductive Blocking where
  | pluginSample
  | evalWait
  | historyQuery
  | socketWrite
deriving DecidableEq

inductive DaemonThread where
  | sampler
  | worker (index : Nat)
  | session (client : Nat)
  | pump (client : Nat)
  | scrape (connection : Nat)
deriving DecidableEq

abbrev Program := List (Action DaemonLock Blocking)

/-- What the branches of a request's handler depend on. -/
structure RequestView where
  sensors : List SensorId
  historyEnabled : Bool
  alertsLoaded : Bool
  alertsConfigured : Bool
  /-- The arguments pass the handler's own checks. -/
  accepted : Bool
  /-- The device or the rule is there. -/
  found : Bool
  saved : Bool
  /-- How many toggles reach the alert engine. -/
  toggles : Nat

inductive Activity where
  | samplerTick (planned : Bool) (observed : List (Alerts.AlertEngine × Sample))
      (produced : Bool) (sinks : List Nat) (disconnected : Bool)
  | sampleJob (worker : Nat)
  | handshake (client : Nat) (accepted : Bool)
  | listSensors (client : Nat)
  | subscribe (client degraded : Nat)
  | unsubscribe (client : Nat) (removed : Bool)
  | duplicateHello (client : Nat)
  | request (client : Nat) (op : RequestOp) (view : RequestView)
  | disconnect (client : Nat) (removed : Bool)
  | pumpDrain (client count : Nat)
  | scrape (connection targets : Nat)
  | scrapeRefused (connection : Nat)

namespace Activity

def thread : Activity → DaemonThread
  | .samplerTick _ _ _ _ _ => .sampler
  | .sampleJob worker => .worker worker
  | .handshake client _ => .session client
  | .listSensors client => .session client
  | .subscribe client _ => .session client
  | .unsubscribe client _ => .session client
  | .duplicateHello client => .session client
  | .request client _ _ => .session client
  | .disconnect client _ => .session client
  | .pumpDrain client _ => .pump client
  | .scrape connection _ => .scrape connection
  | .scrapeRefused connection => .scrape connection

/-- `writer.lock().unwrap().write_server(..)`. -/
def respond (client : Nat) : Program := locked (.writer client) (blocking .socketWrite)

/-- A block of its own around the lock. -/
def brief (lock : DaemonLock) : Program := locked lock []

/-- `on_sample`: the result of each job is awaited and applied. -/
def onSample (engine : Alerts.AlertEngine) (sample : Sample) : Program :=
  brief .engine ++ (engine.observe sample).2.flatMap fun _ =>
    blocking .evalWait ++ brief .engine

/-- The catalogue is built under the scheduler and the registry. -/
def catalogue : Program := locked .scheduler (brief .registryRead)

/-- The steps of `handle_request`. -/
def requestActions (client : Nat) (op : RequestOp) (view : RequestView) : Program :=
  match op with
  | .getHardware => brief .registryRead ++ respond client
  | .getSensorInfo _ => if view.accepted then catalogue ++ respond client else respond client
  | .setNickname _ _ =>
      if !view.accepted then respond client
      else if !view.found then brief .registryWrite ++ respond client
      else if !view.saved then
        brief .registryWrite ++ brief .registryRead ++ respond client
      else
        brief .registryWrite ++ brief .registryRead ++ respond client ++ catalogue ++
          brief .clients
  | .setPumpIntervalMs _ => respond client
  | .getHistory _ _ _ _ =>
      -- the guard in the scrutinee lives until the end of the match
      locked .scheduler
        ((if view.historyEnabled then blocking .historyQuery else []) ++ respond client)
  | .listAlerts =>
      locked .scheduler (if view.alertsLoaded then brief .engine else []) ++ respond client
  | .upsertAlert _ _ _ _ _ _ =>
      locked .scheduler
        ((if view.alertsLoaded && view.alertsConfigured && view.accepted then
          brief .engine ++ brief .engine else []) ++ respond client)
  | .deleteAlert _ =>
      locked .scheduler
        ((if view.alertsLoaded && view.alertsConfigured then
          brief .engine ++ if view.found then brief .engine else [] else []) ++ respond client)
  | .testAlertExpr expr =>
      locked .scheduler (view.sensors.flatMap fun _ => blocking .pluginSample) ++
        (if Alerts.maxExprLen < (Alerts.rewriteDots expr).utf8ByteSize then []
          else blocking .evalWait) ++ respond client
  | .listAlertEvents _ =>
      locked .scheduler (if view.alertsLoaded then brief .engine else []) ++ respond client
  | .getDaemonSettings => brief .scheduler ++ respond client
  | .setDaemonSettings _ _ _ _ =>
      locked .scheduler ((List.range view.toggles).flatMap fun _ => brief .engine) ++
        brief .scheduler ++ respond client

def actions : Activity → Program
  | .samplerTick planned observed produced sinks disconnected =>
      brief .scheduler ++ (if planned then blocking .pluginSample else []) ++
        locked .scheduler (observed.flatMap fun pair => onSample pair.1 pair.2) ++
        if produced then
          brief .clients ++ (sinks.flatMap fun client => brief (.subscriptions client)) ++
            if disconnected then brief .clients else []
        else []
  | .sampleJob _ => blocking .pluginSample
  | .handshake client accepted =>
      if accepted then brief .scheduler ++ respond client ++ brief .clients else respond client
  | .listSensors client => catalogue ++ respond client
  | .subscribe client degraded =>
      locked .scheduler (brief (.subscriptions client)) ++
        (List.range degraded).flatMap fun _ => respond client
  | .unsubscribe client removed =>
      brief (.subscriptions client) ++ if removed then brief .scheduler else []
  | .duplicateHello client => respond client
  | .request client op view => requestActions client op view
  | .disconnect client removed =>
      brief .clients ++ brief (.subscriptions client) ++ if removed then brief .scheduler else []
  | .pumpDrain client count => (List.range count).flatMap fun _ => respond client
  | .scrape _ targets =>
      brief .scheduler ++ brief .scheduler ++
        ((List.range targets).flatMap fun _ => blocking .pluginSample) ++
        brief .registryRead ++ blocking .socketWrite
  | .scrapeRefused _ => blocking .socketWrite

/-- Requests whose handlers let go of the scheduler before they block. -/
def QuickRequest (view : RequestView) : RequestOp → Prop
  | .getHistory _ _ _ _ => False
  | .upsertAlert _ _ _ _ _ _ => False
  | .deleteAlert _ => False
  | .testAlertExpr _ => view.sensors = []
  | _ => True

/-- A tick finds no rule to evaluate, a request is a quick one. -/
def Quick : Activity → Prop
  | .samplerTick _ observed _ _ _ => ∀ pair ∈ observed, (pair.1.observe pair.2).2 = []
  | .request _ op view => QuickRequest view op
  | _ => True

end Activity

section Programs

open Activity

variable {holds : Bool} {client : Nat}

theorem neutral_brief {lock : DaemonLock} (other : lock ≠ .scheduler) :
    Neutral DaemonLock.scheduler holds (brief lock) := neutral_locked other neutral_nil

theorem neutral_scheduler : Neutral DaemonLock.scheduler false (brief .scheduler) :=
  neutral_locked_self neutral_nil

theorem neutral_respond : Neutral DaemonLock.scheduler false (respond client) :=
  neutral_locked (by simp) (neutral_blocking _)

theorem neutral_catalogue : Neutral DaemonLock.scheduler false catalogue :=
  neutral_locked_self (neutral_brief (by simp))

theorem neutral_ite {chosen : Bool} {first second : Program}
    (neutral : Neutral DaemonLock.scheduler holds first)
    (neutral' : Neutral DaemonLock.scheduler holds second) :
    Neutral DaemonLock.scheduler holds (if chosen = true then first else second) := by
  cases chosen with
  | false => exact neutral'
  | true => exact neutral

theorem neutral_onSample {engine : Alerts.AlertEngine} {sample : Sample}
    (quiet : (engine.observe sample).2 = []) :
    Neutral DaemonLock.scheduler true (onSample engine sample) := by
  unfold onSample
  rw [quiet, List.flatMap_nil, List.append_nil]
  exact neutral_brief (by simp)

theorem neutral_request {op : RequestOp} {view : RequestView} (quick : QuickRequest view op) :
    Neutral DaemonLock.scheduler false (requestActions client op view) := by
  have engine : Neutral DaemonLock.scheduler true
      (if view.alertsLoaded = true then brief .engine else []) :=
    neutral_ite (neutral_brief (by simp)) neutral_nil
  cases op with
  | getHardware => exact (neutral_brief (by simp)).append neutral_respond
  | getSensorInfo sensor => exact neutral_ite (neutral_catalogue.append neutral_respond) neutral_respond
  | setNickname deviceKey value =>
    have write : Neutral DaemonLock.scheduler false (brief .registryWrite) :=
      neutral_brief (by simp)
    have read : Neutral DaemonLock.scheduler false (brief .registryRead) :=
      neutral_brief (by simp)
    have clients : Neutral DaemonLock.scheduler false (brief .clients) := neutral_brief (by simp)
    apply neutral_ite neutral_respond
    apply neutral_ite (write.append neutral_respond)
    apply neutral_ite ((write.append read).append neutral_respond)
    exact (((write.append read).append neutral_respond).append neutral_catalogue).append clients
  | setPumpIntervalMs ms => exact neutral_respond
  | getHistory sensor sinceMicros untilMicros maxPoints => exact quick.elim
  | listAlerts => exact (neutral_locked_self engine).append neutral_respond
  | upsertAlert name expr forDuration cooldown notify enabled => exact quick.elim
  | deleteAlert name => exact quick.elim
  | testAlertExpr expr =>
    have none : view.sensors = [] := quick
    unfold requestActions
    rw [none, List.flatMap_nil]
    apply Neutral.append _ neutral_respond
    apply neutral_scheduler.append
    split
    · exact neutral_nil
    · exact neutral_blocking _
  | listAlertEvents limit => exact (neutral_locked_self engine).append neutral_respond
  | getDaemonSettings => exact neutral_scheduler.append neutral_respond
  | setDaemonSettings history alerts prom promBind =>
    have toggles : Neutral DaemonLock.scheduler true
        ((List.range view.toggles).flatMap fun _ => brief .engine) :=
      neutral_flatMap fun _ _ => neutral_brief (by simp)
    exact ((neutral_locked_self toggles).append neutral_scheduler).append neutral_respond

/-- A quick activity never blocks while it holds the scheduler. -/
theorem Activity.Quick.clean {activity : Activity} (quick : activity.Quick) :
    clean DaemonLock.scheduler false activity.actions = true := by
  apply Neutral.clean
  cases activity with
  | samplerTick planned observed produced sinks disconnected =>
    have commit : Neutral DaemonLock.scheduler true
        (observed.flatMap fun pair => onSample pair.1 pair.2) :=
      neutral_flatMap fun pair member => neutral_onSample (quick pair member)
    have clients : Neutral DaemonLock.scheduler false (brief .clients) := neutral_brief (by simp)
    have fanOut : Neutral DaemonLock.scheduler false
        (sinks.flatMap fun client => brief (.subscriptions client)) :=
      neutral_flatMap fun _ _ => neutral_brief (by simp)
    have sampling : Neutral DaemonLock.scheduler false
        (if planned = true then blocking Blocking.pluginSample else []) :=
      neutral_ite (neutral_blocking _) neutral_nil
    apply ((neutral_scheduler.append sampling).append (neutral_locked_self commit)).append
    exact neutral_ite ((clients.append fanOut).append (neutral_ite clients neutral_nil)) neutral_nil
  | sampleJob worker => exact neutral_blocking _
  | handshake client accepted =>
    exact neutral_ite ((neutral_scheduler.append neutral_respond).append (neutral_brief (by simp)))
      neutral_respond
  | listSensors client => exact neutral_catalogue.append neutral_respond
  | subscribe client degraded =>
    exact (neutral_locked_self (neutral_brief (by simp))).append
      (neutral_flatMap fun _ _ => neutral_respond)
  | unsubscribe client removed =>
    exact (neutral_brief (by simp)).append (neutral_ite neutral_scheduler neutral_nil)
  | duplicateHello client => exact neutral_respond
  | request client op view => exact neutral_request quick
  | disconnect client removed =>
    exact ((neutral_brief (by simp)).append (neutral_brief (by simp))).append
      (neutral_ite neutral_scheduler neutral_nil)
  | pumpDrain client count => exact neutral_flatMap fun _ _ => neutral_respond
  | scrape connection targets =>
    exact (((neutral_scheduler.append neutral_scheduler).append
      (neutral_flatMap fun _ _ => neutral_blocking _)).append (neutral_brief (by simp))).append
      (neutral_blocking _)
  | scrapeRefused connection => exact neutral_blocking _

end Programs

section Runs

inductive DaemonStep where
  | start (activity : Activity)
  | advance (thread : DaemonThread)
  /-- A panic, or a write that fails. -/
  | abandon (thread : DaemonThread)

abbrev DaemonThreads := Locks.State DaemonThread DaemonLock Blocking

def DaemonStep.label : DaemonStep → Locks.Label DaemonThread DaemonLock Blocking
  | .start activity => .start activity.thread activity.actions
  | .advance thread => .advance thread
  | .abandon thread => .abandon thread

def DaemonThreads.step (state : DaemonThreads) (taken : DaemonStep) : Option DaemonThreads :=
  Locks.step DaemonLock.conflicts state taken.label

/-- No thread that is inside a blocking step holds the scheduler mutex. -/
def DaemonThreads.SchedulerFree (state : DaemonThreads) : Prop :=
  ∀ thread blocking, state.Inside thread blocking → (thread, .scheduler) ∉ state.held

theorem orderly_run {labels : List DaemonStep} {start state : DaemonThreads}
    (ran : Run.exec DaemonThreads.step start labels = some state)
    (quick : ∀ activity, .start activity ∈ labels → activity.Quick)
    (orderly : Orderly DaemonLock.scheduler start) : Orderly DaemonLock.scheduler state := by
  induction labels generalizing start with
  | nil =>
    cases ran
    exact orderly
  | cons label rest ih =>
    obtain ⟨next, taken, remaining⟩ := Run.exec_cons.mp ran
    have later : ∀ activity, .start activity ∈ rest → activity.Quick :=
      fun activity member => quick activity (List.mem_cons_of_mem label member)
    apply ih remaining later
    cases label with
    | start activity => exact orderly.start (quick activity List.mem_cons_self).clean taken
    | advance thread => exact orderly.advance rfl taken
    | abandon thread => exact orderly.abandon taken

/-- The activity comes to block while it holds the scheduler. -/
def Activity.Stalls (activity : Activity) : Prop :=
  Locks.Stalls DaemonLock.conflicts .scheduler [] activity.actions

theorem stalls_respond (client : Nat) :
    Locks.Stalls DaemonLock.conflicts .scheduler [.scheduler] (Activity.respond client) :=
  Stalls.locked rfl (stalls_blocking _ (by simp))

theorem walk_engine : walk DaemonLock.conflicts [.scheduler] (Activity.brief .engine) =
    some [.scheduler] := walk_locked rfl rfl

/-- The first sample with a rule to evaluate stalls the commit. -/
theorem stalls_commit {observed : List (Alerts.AlertEngine × Sample)}
    (noisy : ∃ pair ∈ observed, (pair.1.observe pair.2).2 ≠ []) :
    Locks.Stalls DaemonLock.conflicts .scheduler [.scheduler]
      (observed.flatMap fun pair => Activity.onSample pair.1 pair.2) := by
  induction observed with
  | nil =>
    obtain ⟨pair, member, _⟩ := noisy
    cases member
  | cons first rest ih =>
    rw [List.flatMap_cons]
    cases jobs : (first.1.observe first.2).2 with
    | nil =>
      have later : ∃ pair ∈ rest, (pair.1.observe pair.2).2 ≠ [] := by
        obtain ⟨pair, member, some_jobs⟩ := noisy
        rcases List.mem_cons.mp member with rfl | later
        · exact absurd jobs some_jobs
        · exact ⟨pair, later, some_jobs⟩
      apply Stalls.append_right _ (ih later)
      rw [Activity.onSample, jobs, List.flatMap_nil, List.append_nil]
      exact walk_engine
    | cons job others =>
      apply Stalls.append_left
      rw [Activity.onSample, jobs, List.flatMap_cons]
      apply Stalls.append_right walk_engine
      exact ((stalls_blocking _ (by simp)).append_left).append_left

theorem stalls_request {client : Nat} {op : RequestOp} {view : RequestView}
    (slow : ¬ Activity.QuickRequest view op) :
    Locks.Stalls DaemonLock.conflicts .scheduler [] (Activity.requestActions client op view) := by
  cases op with
  | getHistory sensor sinceMicros untilMicros maxPoints =>
    apply Stalls.locked rfl
    cases view.historyEnabled with
    | true => exact (stalls_blocking _ (by simp)).append_left
    | false => exact Stalls.append_right rfl (stalls_respond client)
  | upsertAlert name expr forDuration cooldown notify enabled =>
    apply Stalls.locked rfl
    apply Stalls.append_right _ (stalls_respond client)
    split
    · rw [walk_append walk_engine, walk_engine]
    · rfl
  | deleteAlert name =>
    apply Stalls.locked rfl
    apply Stalls.append_right _ (stalls_respond client)
    split
    · rw [walk_append walk_engine]
      split
      · exact walk_engine
      · rfl
    · rfl
  | testAlertExpr expr =>
    cases sensors : view.sensors with
    | nil => exact absurd sensors slow
    | cons first rest =>
      unfold Activity.requestActions
      rw [sensors, List.flatMap_cons]
      exact ((Stalls.locked rfl ((stalls_blocking _ (by simp)).append_left)).append_left).append_left
  | getHardware => exact absurd trivial slow
  | getSensorInfo sensor => exact absurd trivial slow
  | setNickname deviceKey value => exact absurd trivial slow
  | setPumpIntervalMs ms => exact absurd trivial slow
  | listAlerts => exact absurd trivial slow
  | listAlertEvents limit => exact absurd trivial slow
  | getDaemonSettings => exact absurd trivial slow
  | setDaemonSettings history alerts prom promBind => exact absurd trivial slow

theorem Activity.stalls {activity : Activity} (slow : ¬ activity.Quick) : activity.Stalls := by
  cases activity with
  | samplerTick planned observed produced sinks disconnected =>
    have noisy : ∃ pair ∈ observed, (pair.1.observe pair.2).2 ≠ [] := by
      by_contra quiet
      apply slow
      intro pair member
      by_contra some_jobs
      exact quiet ⟨pair, member, some_jobs⟩
    apply Stalls.append_left
    apply Stalls.append_right _ (Stalls.locked rfl (stalls_commit noisy))
    cases planned <;> rfl
  | request client op view => exact stalls_request slow
  | sampleJob worker => exact absurd trivial slow
  | handshake client accepted => exact absurd trivial slow
  | listSensors client => exact absurd trivial slow
  | subscribe client degraded => exact absurd trivial slow
  | unsubscribe client removed => exact absurd trivial slow
  | duplicateHello client => exact absurd trivial slow
  | disconnect client removed => exact absurd trivial slow
  | pumpDrain client count => exact absurd trivial slow
  | scrape connection targets => exact absurd trivial slow
  | scrapeRefused connection => exact absurd trivial slow

/-- The steps of one activity on its own. -/
def soloLabels (activity : Activity) (count : Nat) : List DaemonStep :=
  .start activity :: List.replicate count (.advance activity.thread)

theorem exec_label (labels : List DaemonStep) (start : DaemonThreads) :
    Run.exec DaemonThreads.step start labels =
      Run.exec (Locks.step DaemonLock.conflicts) start (labels.map DaemonStep.label) := by
  induction labels generalizing start with
  | nil => rfl
  | cons label rest ih =>
    simp only [Run.exec, List.map_cons, ih]
    rfl

/-- Whatever activities the daemon performs, it stays free of slow steps under the scheduler
mutex in every interleaving exactly when each of them is quick. -/
theorem scheduler_free_iff (allowed : Activity → Prop) :
    (∀ labels state, Run.exec DaemonThreads.step idle labels = some state →
        (∀ activity, .start activity ∈ labels → allowed activity) → state.SchedulerFree) ↔
      ∀ activity, allowed activity → activity.Quick := by
  constructor
  · intro free activity permitted
    by_contra slow
    obtain ⟨count, state, ran, b, inside, held⟩ :=
      (Activity.stalls slow).reached (t := activity.thread)
    have labels : (soloLabels activity count).map DaemonStep.label =
        .start activity.thread activity.actions ::
          List.replicate count (.advance activity.thread) := by
      rw [soloLabels, List.map_cons, List.map_replicate]
      rfl
    have solo := exec_label (soloLabels activity count) idle
    rw [labels, ran] at solo
    refine free _ state solo ?_ activity.thread b inside held
    intro other member
    rcases List.mem_cons.mp member with same | later
    · cases same
      exact permitted
    · have differs := List.eq_of_mem_replicate later
      cases differs
  · intro quick labels state ran permitted thread b inside
    have orderly := orderly_run ran (fun activity member => quick activity (permitted activity member))
      orderly_idle
    exact orderly.not_held inside

/-- Who waits for the scheduler mutex waits for its holder. -/
theorem scheduler_waits {state : DaemonThreads} {thread waiting : DaemonThread} {rest : Program}
    (held : (thread, DaemonLock.scheduler) ∈ state.held)
    (todo : state.todo waiting = .lock .scheduler :: rest) :
    state.step (.advance waiting) = none := by
  have taken : ¬ ((state.held.all fun hold => !DaemonLock.conflicts .scheduler hold.2) = true) := by
    intro free
    have apart := List.all_eq_true.mp free _ held
    cases apart
  show Locks.step DaemonLock.conflicts state (.advance waiting) = none
  simp only [Locks.step, todo, if_neg taken]

def oneSensor : RequestView where
  sensors := [⟨"cpu.load"⟩]
  historyEnabled := false
  alertsLoaded := false
  alertsConfigured := false
  accepted := true
  found := false
  saved := false
  toggles := 0

/-- One client tests an expression, another one subscribes. -/
def hungPlugin : List DaemonStep :=
  [.start (.request 0 (.testAlertExpr "cpu.load > 90") oneSensor), .start (.subscribe 1 0),
    .advance (.session 0), .advance (.session 0)]

/-- While the plugin hangs, the scheduler stays locked and the subscription waits. -/
theorem hung_plugin_holds_scheduler : ∃ state,
    Run.exec DaemonThreads.step idle hungPlugin = some state ∧
      state.Inside (.session 0) .pluginSample ∧
      (.session 0, .scheduler) ∈ state.held ∧ ¬ state.SchedulerFree ∧
      state.step (.advance (.session 1)) = none := by
  have ran : (Run.exec DaemonThreads.step idle hungPlugin).map (fun state =>
      ((state.todo (.session 0)).head?, state.held, (state.todo (.session 1)).head?)) =
      some (some (.leave .pluginSample), [(.session 0, .scheduler)],
        some (.lock .scheduler)) := by
    decide +kernel
  obtain ⟨state, final, view⟩ := Option.map_eq_some_iff.mp ran
  simp only [Prod.mk.injEq] at view
  obtain ⟨first, held, second⟩ := view
  have holds : (DaemonThread.session 0, DaemonLock.scheduler) ∈ state.held := by
    rw [held]
    exact List.mem_cons_self
  have inside : state.Inside (.session 0) .pluginSample := by
    obtain ⟨rest, todo⟩ := List.head?_eq_some_iff.mp first
    exact ⟨rest, todo⟩
  refine ⟨state, final, inside, holds, ?_, ?_⟩
  · intro free
    exact free _ _ inside holds
  · obtain ⟨rest, todo⟩ := List.head?_eq_some_iff.mp second
    exact scheduler_waits holds todo

end Runs

end LinSight
