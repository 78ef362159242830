import LinSight.Alerts.Engine
import LinSight.Daemon.History
import LinSight.Daemon.Subsystems

set_option autoImplicit false

/-! The history writers from the start of the daemon to the return of `run`, beside the sampler,
the sessions and their toggles. -/

namespace LinSight

open Alerts (AlertEvent)

def maxBatch : Nat := 4096

def queueCapacity : Nat := 16384

inductive HistoryRecord where
  | sample (s : HistoricSample)
  | alertEvent (event : AlertEvent)
deriving DecidableEq

def HistoryRecord.sample? : HistoryRecord → Option HistoricSample
  | .sample s => some s
  | .alertEvent _ => none

def HistoryRecord.alertEvent? : HistoryRecord → Option AlertEvent
  | .sample _ => none
  | .alertEvent event => some event

/-- A writer's channel and the locals of its `run_writer`. `accepted` lists what `try_send` has put
into the queue, and the two last fields what was passed to a flush; no step reads them. -/
structure WriterThread where
  queue : List HistoryRecord
  dropped : Nat
  pendingSamples : List HistoricSample
  pendingEvents : List AlertEvent
  accepted : List HistoryRecord
  flushedSamples : List HistoricSample
  flushedEvents : List AlertEvent
deriving DecidableEq

namespace WriterThread

def idle : WriterThread := ⟨[], 0, [], [], [], [], []⟩

def send (thread : WriterThread) (record : HistoryRecord) : WriterThread :=
  if thread.queue.length < queueCapacity then
    { thread with
      queue := thread.queue ++ [record]
      accepted := thread.accepted ++ [record] }
  else { thread with dropped := thread.dropped + 1 }

def flushSamples (thread : WriterThread) : WriterThread :=
  { thread with
    dropped := 0
    pendingSamples := []
    flushedSamples := thread.flushedSamples ++ thread.pendingSamples }

def flushEvents (thread : WriterThread) : WriterThread :=
  { thread with
    pendingEvents := []
    flushedEvents := thread.flushedEvents ++ thread.pendingEvents }

/-- The flushes of one turn of the loop. `elapsed` is whether the last flush of samples is
`FLUSH_INTERVAL` ago. -/
def flush (thread : WriterThread) (elapsed : Bool) : WriterThread :=
  let thread :=
    if maxBatch ≤ thread.pendingSamples.length ∨ thread.pendingSamples ≠ [] ∧ elapsed then
      thread.flushSamples
    else thread
  if thread.pendingEvents ≠ [] then thread.flushEvents else thread

def push (thread : WriterThread) : HistoryRecord → WriterThread
  | .sample s => { thread with pendingSamples := thread.pendingSamples ++ [s] }
  | .alertEvent event => { thread with pendingEvents := thread.pendingEvents ++ [event] }

/-- A turn of the loop in which `recv_timeout` returns a record. -/
def recv (thread : WriterThread) (elapsed : Bool) : Option WriterThread :=
  match thread.queue with
  | [] => none
  | record :: rest => some (({ thread with queue := rest }.push record).flush elapsed)

/-- A turn in which nothing came. -/
def timeout (thread : WriterThread) (elapsed : Bool) : Option WriterThread :=
  Run.enabled (thread.queue = []) (thread.flush elapsed)

/-- The last turn, with every clone of the writer gone. -/
def finish (thread : WriterThread) : Option WriterThread :=
  Run.enabled (thread.queue = []) thread.flushSamples.flushEvents

/-- All that was accepted has been passed to a flush. -/
def Written (thread : WriterThread) : Prop :=
  thread.flushedSamples = thread.accepted.filterMap HistoryRecord.sample? ∧
    thread.flushedEvents = thread.accepted.filterMap HistoryRecord.alertEvent?

/-- Nothing waits in the queue, and no batch of samples is open. -/
def Drained (thread : WriterThread) : Prop := thread.queue = [] ∧ thread.pendingSamples = []

/-- The flushes of a turn leave no sample pending. -/
def Flushes (thread : WriterThread) (elapsed : Bool) : Prop :=
  thread.pendingSamples = [] ∨ maxBatch ≤ thread.pendingSamples.length ∨ elapsed = true

/-- What is accepted is flushed, pending or queued, in this order. Events do not stay pending
over a turn. -/
structure Accounted (thread : WriterThread) : Prop where
  samples : thread.accepted.filterMap HistoryRecord.sample? = thread.flushedSamples ++
    thread.pendingSamples ++ thread.queue.filterMap HistoryRecord.sample?
  events : thread.accepted.filterMap HistoryRecord.alertEvent? = thread.flushedEvents ++
    thread.queue.filterMap HistoryRecord.alertEvent?
  pending : thread.pendingEvents = []

section Threads

variable {thread next : WriterThread}

theorem idle_accounted : idle.Accounted := ⟨rfl, rfl, rfl⟩

theorem Accounted.send (accounted : thread.Accounted) (record : HistoryRecord) :
    (thread.send record).Accounted := by
  unfold WriterThread.send
  split
  · refine ⟨?_, ?_, accounted.pending⟩
    · simp only [List.filterMap_append, accounted.samples, List.append_assoc]
    · simp only [List.filterMap_append, accounted.events, List.append_assoc]
  · exact ⟨accounted.samples, accounted.events, accounted.pending⟩

/-- In the middle of a turn events may be pending. -/
structure InTurn (thread : WriterThread) : Prop where
  samples : thread.accepted.filterMap HistoryRecord.sample? = thread.flushedSamples ++
    thread.pendingSamples ++ thread.queue.filterMap HistoryRecord.sample?
  events : thread.accepted.filterMap HistoryRecord.alertEvent? = thread.flushedEvents ++
    thread.pendingEvents ++ thread.queue.filterMap HistoryRecord.alertEvent?

theorem Accounted.inTurn (accounted : thread.Accounted) : thread.InTurn where
  samples := accounted.samples
  events := by rw [accounted.pending, List.append_nil, accounted.events]

theorem InTurn.push {record : HistoryRecord} {rest : List HistoryRecord}
    (inTurn : thread.InTurn) (queue : thread.queue = record :: rest) :
    ({ thread with queue := rest }.push record).InTurn := by
  obtain ⟨samples, events⟩ := inTurn
  rw [queue] at samples events
  cases record with
  | sample s =>
      refine ⟨samples.trans ?_, events⟩
      simp only [WriterThread.push, List.filterMap_cons, HistoryRecord.sample?, List.append_assoc,
        List.cons_append, List.nil_append]
  | alertEvent event =>
      refine ⟨samples, events.trans ?_⟩
      simp only [WriterThread.push, List.filterMap_cons, HistoryRecord.alertEvent?,
        List.append_assoc, List.cons_append, List.nil_append]

theorem InTurn.flushSamples (inTurn : thread.InTurn) : thread.flushSamples.InTurn where
  samples := by
    rw [WriterThread.flushSamples]
    simp only [inTurn.samples, List.append_nil]
  events := inTurn.events

theorem InTurn.flushEvents (inTurn : thread.InTurn) : thread.flushEvents.Accounted where
  samples := inTurn.samples
  events := inTurn.events
  pending := rfl

theorem InTurn.flush (inTurn : thread.InTurn) (elapsed : Bool) :
    (thread.flush elapsed).Accounted := by
  have flushed (thread : WriterThread) (inTurn : thread.InTurn) :
      (if thread.pendingEvents ≠ [] then thread.flushEvents else thread).Accounted := by
    split
    · exact inTurn.flushEvents
    · rename_i none
      have pending : thread.pendingEvents = [] := not_not.mp none
      refine ⟨inTurn.samples, ?_, pending⟩
      rw [inTurn.events, pending, List.append_nil]
  unfold WriterThread.flush
  dsimp only
  split
  · exact flushed _ inTurn.flushSamples
  · exact flushed _ inTurn

theorem Accounted.recv (accounted : thread.Accounted) {elapsed : Bool}
    (taken : thread.recv elapsed = some next) : next.Accounted := by
  unfold WriterThread.recv at taken
  split at taken
  · cases taken
  · rename_i record rest queue
    cases taken
    exact (accounted.inTurn.push queue).flush elapsed

theorem Accounted.timeout (accounted : thread.Accounted) {elapsed : Bool}
    (taken : thread.timeout elapsed = some next) : next.Accounted := by
  obtain ⟨_, rfl⟩ := Run.enabled_eq_some.mp taken
  exact accounted.inTurn.flush elapsed

theorem Accounted.finish (accounted : thread.Accounted) (taken : thread.finish = some next) :
    next.Accounted := by
  obtain ⟨_, rfl⟩ := Run.enabled_eq_some.mp taken
  exact accounted.inTurn.flushSamples.flushEvents

/-- A record is a sample or an event, so a queue without either is empty. -/
theorem queue_eq_nil {queue : List HistoryRecord}
    (samples : queue.filterMap HistoryRecord.sample? = [])
    (events : queue.filterMap HistoryRecord.alertEvent? = []) : queue = [] := by
  cases queue with
  | nil => rfl
  | cons record rest => cases record with
    | sample s => cases samples
    | alertEvent event => cases events

/-- A writer has written what it accepted when it is drained, and only then. -/
theorem Accounted.written_iff (accounted : thread.Accounted) :
    thread.Written ↔ thread.Drained := by
  constructor
  · rintro ⟨samples, events⟩
    rw [accounted.samples, List.append_assoc, List.self_eq_append_right,
      List.append_eq_nil_iff] at samples
    rw [accounted.events, List.self_eq_append_right] at events
    exact ⟨queue_eq_nil samples.2 events, samples.1⟩
  · rintro ⟨queue, pending⟩
    refine ⟨?_, ?_⟩
    · rw [accounted.samples, pending, queue, List.append_nil, List.filterMap_nil, List.append_nil]
    · rw [accounted.events, queue, List.filterMap_nil, List.append_nil]

theorem flush_drained (elapsed : Bool) :
    (thread.flush elapsed).Drained ↔ thread.queue = [] ∧ thread.Flushes elapsed := by
  have events (thread : WriterThread) :
      (if thread.pendingEvents ≠ [] then thread.flushEvents else thread).Drained ↔
        thread.Drained := by
    split <;> exact Iff.rfl
  rw [WriterThread.flush, events]
  split
  · rename_i flushed
    refine and_congr_right fun _ => iff_of_true rfl ?_
    exact flushed.elim (fun full => .inr (.inl full)) fun due => .inr (.inr due.2)
  · rename_i kept
    obtain ⟨open_batch, waits⟩ := not_or.mp kept
    refine and_congr_right fun _ => ⟨.inl, ?_⟩
    rintro (none | full | elapsed)
    · exact none
    · exact absurd full open_batch
    · exact not_not.mp fun some => waits ⟨some, elapsed⟩

/-- The turn that takes the last record from the queue, and flushes, drains the writer. -/
theorem recv_drained {elapsed : Bool} (taken : thread.recv elapsed = some next) :
    next.Drained ↔ ∃ record, thread.queue = [record] ∧
      ({ thread with queue := [] }.push record).Flushes elapsed := by
  unfold WriterThread.recv at taken
  split at taken
  · cases taken
  · rename_i record rest queue
    cases taken
    rw [flush_drained, queue]
    have left : ({ thread with queue := rest }.push record).queue = rest := by cases record <;> rfl
    rw [left]
    constructor
    · rintro ⟨rfl, flushes⟩
      exact ⟨record, rfl, flushes⟩
    · rintro ⟨last, same, flushes⟩
      obtain ⟨rfl, rfl⟩ := List.cons.inj same
      exact ⟨rfl, flushes⟩

theorem send_not_drained {record : HistoryRecord} (room : thread.queue.length < queueCapacity) :
    ¬ (thread.send record).Drained := by
  rw [WriterThread.send, if_pos room]
  exact fun drained => List.append_ne_nil_of_right_ne_nil _ (List.cons_ne_nil _ _) drained.1

theorem send_full {record : HistoryRecord} (full : ¬ thread.queue.length < queueCapacity) :
    (thread.send record).Drained ↔ thread.Drained := by
  rw [WriterThread.send, if_neg full]
  exact Iff.rfl

end Threads

end WriterThread

/-- The scheduler goes with its last clone. -/
def Subsystems.dropScheduler (s : Subsystems) : Subsystems :=
  { s with history := none, historyDbPath := none, alerts := none, alertsConfigPath := none }

/-- Where `run` stands, from its accept loop on. -/
inductive RunPhase where
  | accepting
  /-- The accept loop waits for the sampler. -/
  | joining
  | joined
  /-- `run` has dropped its clone of the scheduler. -/
  | released
  /-- And its clone of the writer. -/
  | dropped
  | returned
deriving DecidableEq

inductive TickPhase where
  | idle
  /-- `tick_commit`, under the scheduler's lock. -/
  | committing
  | exited
deriving DecidableEq

/-- The threads of the process. The exporter has a clone of the scheduler and never exits. -/
structure Runtime where
  subsystems : Subsystems
  threads : Nat → WriterThread
  phase : RunPhase
  shutdown : Bool
  sampler : TickPhase
  sessions : Nat
  exporter : Bool

namespace Runtime

inductive Step where
  | signal
  | connect
  | leave
  /-- A request of a session. -/
  | call (label : Subsystems.Step)
  | lock
  | record (sample : Sample)
  | recordAlertEvent (event : AlertEvent)
  | unlock
  | samplerExit
  | recv (writer : Nat) (elapsed : Bool)
  | timeout (writer : Nat) (elapsed : Bool)
  | finish (writer : Nat)
  | leaveLoop
  | join
  | release
  | dropClone
  | ret

def setThread (r : Runtime) (writer : Nat) (thread : WriterThread) : Runtime :=
  { r with threads := Function.update r.threads writer thread }

/-- `try_send` on the channel of a clone. The receiver is gone with the writer's thread. -/
def send (r : Runtime) (writer : Option Nat) (record : HistoryRecord) : Runtime :=
  match writer with
  | none => r
  | some writer =>
      if writer ∈ r.subsystems.threads then
        r.setThread writer ((r.threads writer).send record)
      else r

/-- A turn of a writer's loop. -/
def turn (r : Runtime) (writer : Nat) (next : Option WriterThread) : Option Runtime :=
  if writer ∈ r.subsystems.threads then next.map (r.setThread writer) else none

/-- A session's call, which waits for the scheduler's lock. -/
def call (r : Runtime) : Subsystems.Step → Option Runtime
  | .exit _ => none
  | label =>
      if r.phase = .returned ∨ r.sessions = 0 ∨ r.sampler = .committing then none
      else (r.subsystems.step label).map fun subsystems => { r with subsystems }

/-- The process is gone when `run` has returned. -/
def step (r : Runtime) : Step → Option Runtime
  | .signal => Run.enabled (r.phase ≠ .returned) { r with shutdown := true }
  | .connect => Run.enabled (r.phase = .accepting) { r with sessions := r.sessions + 1 }
  | .leave =>
      -- not the session whose handler is at work
      if r.phase = .returned ∨ r.sessions = 0 ∨
          r.sessions = 1 ∧ r.subsystems.handler = true then none
      else
        let last := r.sessions = 1 ∧ r.exporter = false ∧
          (r.phase = .released ∨ r.phase = .dropped)
        some { r with
          sessions := r.sessions - 1
          subsystems := if last then r.subsystems.dropScheduler else r.subsystems }
  | .call label => r.call label
  | .lock =>
      Run.enabled (r.phase ≠ .returned ∧ r.sampler = .idle ∧ r.subsystems.handler = false)
        { r with sampler := .committing }
  | .record sample =>
      Run.enabled (r.phase ≠ .returned ∧ r.sampler = .committing)
        (match HistoricSample.ofSample sample with
        | none => r
        | some s => r.send r.subsystems.history (.sample s))
  | .recordAlertEvent event =>
      Run.enabled (r.phase ≠ .returned ∧ r.sampler = .committing)
        (r.send (r.subsystems.alerts.bind EventSink.eventWriter) (.alertEvent event))
  | .unlock =>
      Run.enabled (r.phase ≠ .returned ∧ r.sampler = .committing) { r with sampler := .idle }
  | .samplerExit =>
      Run.enabled (r.phase ≠ .returned ∧ r.sampler = .idle ∧ r.shutdown = true)
        { r with sampler := .exited }
  | .recv writer elapsed =>
      if r.phase = .returned then none else r.turn writer ((r.threads writer).recv elapsed)
  | .timeout writer elapsed =>
      if r.phase = .returned then none else r.turn writer ((r.threads writer).timeout elapsed)
  | .finish writer =>
      if r.phase = .returned then none
      else
        (r.subsystems.step (.exit writer)).bind fun subsystems =>
          (r.turn writer (r.threads writer).finish).map fun r => { r with subsystems }
  | .leaveLoop =>
      Run.enabled (r.phase = .accepting ∧ r.shutdown = true) { r with phase := .joining }
  | .join => Run.enabled (r.phase = .joining ∧ r.sampler = .exited) { r with phase := .joined }
  | .release =>
      Run.enabled (r.phase = .joined) { r with
        phase := .released
        subsystems :=
          if r.sessions = 0 ∧ r.exporter = false then r.subsystems.dropScheduler
          else r.subsystems }
  | .dropClone =>
      Run.enabled (r.phase = .released)
        { r with phase := .dropped, subsystems := { r.subsystems with runClone := none } }
  | .ret => Run.enabled (r.phase = .dropped) { r with phase := .returned }

def start (history alerts : Option (Except String String)) (exporter : Bool) : Runtime where
  subsystems := Subsystems.setUp history alerts
  threads _ := .idle
  phase := .accepting
  shutdown := false
  sampler := .idle
  sessions := 0
  exporter := exporter

/-- Every writer's accounts are right. -/
def Accounted (r : Runtime) : Prop := ∀ writer, (r.threads writer).Accounted

/-- The clone puts a record into the writer's queue. -/
def Sends (r : Runtime) (writer : Nat) (clone : Option Nat) : Prop :=
  clone = some writer ∧ writer ∈ r.subsystems.threads ∧
    (r.threads writer).queue.length < queueCapacity

/-- The writer accepts a record. -/
def Accepts (r : Runtime) (writer : Nat) : Step → Prop
  | .record sample =>
      HistoricSample.ofSample sample ≠ none ∧ r.Sends writer r.subsystems.history
  | .recordAlertEvent _ => r.Sends writer (r.subsystems.alerts.bind EventSink.eventWriter)
  | _ => False

/-- The step is a turn of the writer behind which it has nothing left to do: it takes the last
record from the queue or finds it empty, and either leaves no sample pending or is the last turn
of all. -/
def Settles (r : Runtime) (writer : Nat) : Step → Prop
  | .recv thread elapsed => thread = writer ∧ ∃ record, (r.threads writer).queue = [record] ∧
      ({ r.threads writer with queue := [] }.push record).Flushes elapsed
  | .timeout thread elapsed => thread = writer ∧ (r.threads writer).Flushes elapsed
  | .finish thread => thread = writer
  | _ => False

/-- Behind the last record that the writer accepts in the run, if there is any, comes a turn that
leaves it nothing to do. -/
def WindsDown (writer : Nat) (r : Runtime) (labels : List Step) : Prop :=
  Run.Always step (fun r label => ¬ r.Accepts writer label) r labels ∨
    Run.Since step (fun r label => r.Settles writer label)
      (fun r label => ¬ r.Accepts writer label) r labels

section Runs

variable {r next : Runtime}

theorem Accounted.setThread (accounted : r.Accounted) {writer : Nat} {thread : WriterThread}
    (kept : thread.Accounted) : (r.setThread writer thread).Accounted := by
  intro other
  simp only [Runtime.setThread, Function.update_apply]
  split
  · exact kept
  · exact accounted other

theorem Accounted.send (accounted : r.Accounted) (writer : Option Nat) (record : HistoryRecord) :
    (r.send writer record).Accounted := by
  unfold Runtime.send
  split
  · exact accounted
  · split
    · exact accounted.setThread ((accounted _).send record)
    · exact accounted

theorem Accounted.turn (accounted : r.Accounted) {writer : Nat} {thread : Option WriterThread}
    (kept : ∀ after, thread = some after → after.Accounted)
    (taken : r.turn writer thread = some next) : next.Accounted := by
  unfold Runtime.turn at taken
  split at taken
  · obtain ⟨after, ran, rfl⟩ := Option.map_eq_some_iff.mp taken
    exact accounted.setThread (kept after ran)
  · cases taken

theorem send_phase (writer : Option Nat) (record : HistoryRecord) :
    (r.send writer record).phase = r.phase := by
  unfold send
  split
  · rfl
  · split <;> rfl

theorem turn_phase {writer : Nat} {thread : Option WriterThread}
    (taken : r.turn writer thread = some next) : next.phase = r.phase := by
  unfold turn at taken
  split at taken
  · obtain ⟨_, _, rfl⟩ := Option.map_eq_some_iff.mp taken
    rfl
  · cases taken

theorem call_cases {label : Subsystems.Step} (taken : r.call label = some next) :
    r.phase ≠ .returned ∧ ∃ subsystems, next = { r with subsystems } := by
  unfold call at taken
  split at taken
  · cases taken
  · split at taken
    · cases taken
    · rename_i going
      obtain ⟨subsystems, _, rfl⟩ := Option.map_eq_some_iff.mp taken
      exact ⟨fun ended => going (.inl ended), subsystems, rfl⟩

/-- A step keeps the accounts, and only the return of `run` brings it to its end. -/
theorem step_accounted {label : Step} (taken : r.step label = some next)
    (accounted : r.Accounted) :
    next.Accounted ∧ (next.phase = .returned → label = .ret) := by
  cases label <;> simp only [step, Run.enabled_eq_some] at taken
  case leave =>
    split at taken
    · cases taken
    · rename_i going
      cases taken
      exact ⟨accounted, fun ended => absurd (.inl ended) going⟩
  case call label =>
    obtain ⟨going, subsystems, rfl⟩ := call_cases taken
    exact ⟨accounted, fun ended => absurd ended going⟩
  case record sample =>
    obtain ⟨⟨going, _⟩, rfl⟩ := taken
    split
    · exact ⟨accounted, fun ended => absurd ended going⟩
    · refine ⟨accounted.send _ _, fun ended => ?_⟩
      rw [send_phase] at ended
      exact absurd ended going
  case recordAlertEvent event =>
    obtain ⟨⟨going, _⟩, rfl⟩ := taken
    refine ⟨accounted.send _ _, fun ended => ?_⟩
    rw [send_phase] at ended
    exact absurd ended going
  case recv writer elapsed =>
    split at taken
    · cases taken
    · rename_i going
      refine ⟨accounted.turn (fun _ ran => (accounted writer).recv ran) taken, fun ended => ?_⟩
      rw [turn_phase taken] at ended
      exact absurd ended going
  case timeout writer elapsed =>
    split at taken
    · cases taken
    · rename_i going
      refine ⟨accounted.turn (fun _ ran => (accounted writer).timeout ran) taken, fun ended => ?_⟩
      rw [turn_phase taken] at ended
      exact absurd ended going
  case finish writer =>
    split at taken
    · cases taken
    · rename_i going
      obtain ⟨subsystems, _, rest⟩ := Option.bind_eq_some_iff.mp taken
      obtain ⟨after, ran, rfl⟩ := Option.map_eq_some_iff.mp rest
      have kept : after.Accounted := accounted.turn (fun _ ran => (accounted writer).finish ran) ran
      exact ⟨kept, fun ended => absurd (turn_phase ran ▸ ended) going⟩
  case ret =>
    obtain ⟨_, rfl⟩ := taken
    exact ⟨accounted, fun _ => rfl⟩
  case signal =>
    obtain ⟨going, rfl⟩ := taken
    exact ⟨accounted, fun ended => absurd ended going⟩
  case lock | unlock | samplerExit =>
    obtain ⟨⟨going, _⟩, rfl⟩ := taken
    exact ⟨accounted, fun ended => absurd ended going⟩
  case connect =>
    obtain ⟨accepting, rfl⟩ := taken
    exact ⟨accounted, fun ended => by cases accepting.symm.trans ended⟩
  case leaveLoop | join | release | dropClone =>
    obtain ⟨_, rfl⟩ := taken
    exact ⟨accounted, fun ended => by cases ended⟩

theorem Accounted.exec {labels : List Step} (accounted : r.Accounted)
    (run : Run.exec step r labels = some next) : next.Accounted := by
  have preserved (r : Runtime) (label : Step) (next : Runtime) (taken : r.step label = some next)
      (accounted : r.Accounted) : next.Accounted := (step_accounted taken accounted).1
  exact Run.exec_invariant preserved run accounted

theorem send_drained (writer : Nat) (clone : Option Nat) (record : HistoryRecord) :
    ((r.send clone record).threads writer).Drained ↔
      (r.threads writer).Drained ∧ ¬ r.Sends writer clone := by
  cases clone with
  | none => exact ⟨fun drained => ⟨drained, fun sends => by cases sends.1⟩, And.left⟩
  | some other =>
      by_cases here : other = writer
      · subst here
        by_cases running : other ∈ r.subsystems.threads
        · simp only [send, running, ↓reduceIte, setThread, Function.update_self, Sends, true_and]
          by_cases room : (r.threads other).queue.length < queueCapacity
          · exact iff_of_false (WriterThread.send_not_drained room) fun both => both.2 room
          · rw [WriterThread.send_full room]
            exact ⟨fun drained => ⟨drained, room⟩, And.left⟩
        · simp [send, running, Sends]
      · have apart : ¬ r.Sends writer (some other) := fun sends => here (Option.some.inj sends.1)
        have same : (r.send (some other) record).threads writer = r.threads writer := by
          simp only [send]
          split
          · exact Function.update_of_ne (Ne.symm here) _ _
          · rfl
        rw [same]
        exact ⟨fun drained => ⟨drained, apart⟩, And.left⟩

/-- A turn of one writer drains it or not, and is nothing to the others. -/
theorem turn_drained {writer thread : Nat} {after : Option WriterThread} {settles : Prop}
    (taken : r.turn thread after = some next)
    (own : ∀ next, after = some next → thread = writer →
      (next.Drained ↔ (r.threads thread).Drained ∨ settles)) :
    (next.threads writer).Drained ↔
      (r.threads writer).Drained ∨ thread = writer ∧ settles := by
  unfold turn at taken
  split at taken
  · obtain ⟨turned, ran, rfl⟩ := Option.map_eq_some_iff.mp taken
    by_cases here : thread = writer
    · subst here
      simp only [setThread, Function.update_self, own turned ran rfl, true_and]
    · simp only [setThread, Function.update_of_ne (Ne.symm here)]
      exact ⟨.inl, fun either => either.elim id fun other => absurd other.1 here⟩
  · cases taken

/-- One step: what a writer accepts ends its rest, and a turn that settles it brings it back. -/
theorem step_drained {label : Step} (writer : Nat) (taken : r.step label = some next) :
    (next.threads writer).Drained ↔
      (r.threads writer).Drained ∧ ¬ r.Accepts writer label ∨ r.Settles writer label := by
  have untouched {r next : Runtime} (same : next.threads = r.threads) :
      (next.threads writer).Drained ↔ (r.threads writer).Drained ∧ ¬ False ∨ False := by
    rw [same]
    simp only [not_false_eq_true, and_true, or_false]
  cases label <;> simp only [step, Run.enabled_eq_some] at taken
  case leave =>
    split at taken
    · cases taken
    · cases taken
      exact untouched rfl
  case call label =>
    obtain ⟨_, subsystems, rfl⟩ := call_cases taken
    exact untouched rfl
  case record sample =>
    obtain ⟨_, rfl⟩ := taken
    simp only [Accepts, Settles, or_false]
    cases kept : HistoricSample.ofSample sample with
    | none => simp only [ne_eq, not_true_eq_false, false_and, not_false_eq_true, and_true]
    | some s =>
        simp only [ne_eq, reduceCtorEq, not_false_eq_true, true_and]
        exact send_drained writer _ _
  case recordAlertEvent event =>
    obtain ⟨_, rfl⟩ := taken
    simp only [Accepts, Settles, or_false]
    exact send_drained writer _ _
  case recv thread elapsed =>
    split at taken
    · cases taken
    · simp only [Accepts, Settles, not_false_eq_true, and_true]
      refine turn_drained taken fun turned ran here => ?_
      subst here
      rw [WriterThread.recv_drained ran]
      refine ⟨.inr, fun either => either.elim (fun drained => ?_) id⟩
      simp only [WriterThread.recv, drained.1] at ran
      cases ran
  case timeout thread elapsed =>
    split at taken
    · cases taken
    · simp only [Accepts, Settles, not_false_eq_true, and_true]
      refine turn_drained taken fun turned ran here => ?_
      subst here
      obtain ⟨empty, rfl⟩ := Run.enabled_eq_some.mp ran
      rw [WriterThread.flush_drained]
      exact ⟨fun both => .inr both.2, fun either =>
        ⟨empty, either.elim (fun drained => .inl drained.2) id⟩⟩
  case finish thread =>
    split at taken
    · cases taken
    · obtain ⟨subsystems, _, rest⟩ := Option.bind_eq_some_iff.mp taken
      obtain ⟨after, ran, rfl⟩ := Option.map_eq_some_iff.mp rest
      have turned : (after.threads writer).Drained ↔
          (r.threads writer).Drained ∨ thread = writer ∧ True := by
        refine turn_drained ran fun turned finished _ => iff_of_true ?_ (.inr trivial)
        obtain ⟨empty, rfl⟩ := Run.enabled_eq_some.mp finished
        exact ⟨empty, rfl⟩
      simpa only [Accepts, Settles, not_false_eq_true, and_true] using turned
  all_goals
    obtain ⟨_, rfl⟩ := taken
    exact untouched rfl

/-- At the end of a run the writers that wind down are drained, and no others. -/
theorem exec_drained {labels : List Step} (writer : Nat) (run : Run.exec step r labels = some next)
    (idle : (r.threads writer).Drained) :
    (next.threads writer).Drained ↔ WindsDown writer r labels := by
  have exact_run := Run.exec_iff_since (fun r => (r.threads writer).Drained)
    (fun _ _ _ taken => step_drained writer taken) run
  rw [exact_run, WindsDown]
  exact or_congr_left (and_iff_right idle)

/-- The run that has brought `run` to its end has `ret` as its last step. -/
theorem exec_returned {labels : List Step} (going : r.phase ≠ .returned)
    (run : Run.exec step r labels = some next) (returned : next.phase = .returned)
    (accounted : r.Accounted) :
    ∃ front last, labels = front ++ [.ret] ∧ Run.exec step r front = some last ∧
      next.threads = last.threads := by
  rcases List.eq_nil_or_concat' labels with rfl | ⟨front, label, rfl⟩
  · cases Option.some.inj run
    exact absurd returned going
  · obtain ⟨last, ran, rest⟩ := Run.exec_append.mp run
    obtain ⟨final, taken, done⟩ := Run.exec_cons.mp rest
    cases Option.some.inj done
    obtain rfl := (step_accounted taken (accounted.exec ran)).2 returned
    obtain ⟨_, rfl⟩ := Run.enabled_eq_some.mp taken
    exact ⟨front, last, rfl, ran, rfl⟩

end Runs

end Runtime

/-- When `run` has returned, every record that was accepted has been passed to a flush, in exactly
the runs in which every writer winds down before the return: behind the last record it accepts it
takes a turn that leaves its queue empty and its batch of samples flushed. -/
theorem shutdown_keeps_history_iff (history alerts : Option (Except String String))
    (exporter : Bool) (labels : List Runtime.Step) :
    (∀ r, Run.Visits Runtime.step (Runtime.start history alerts exporter) labels r →
      r.phase = .returned → ∀ writer, (r.threads writer).Written) ↔
      ∀ front, front ++ [.ret] <+: labels →
        (Run.exec Runtime.step (Runtime.start history alerts exporter)
          (front ++ [.ret])).isSome = true →
        ∀ writer, Runtime.WindsDown writer (Runtime.start history alerts exporter) front := by
  have initial : (Runtime.start history alerts exporter).Accounted :=
    fun _ => WriterThread.idle_accounted
  constructor
  · intro all front before ran writer
    obtain ⟨r, run⟩ := Option.isSome_iff_exists.mp ran
    obtain ⟨last, reached, rest⟩ := Run.exec_append.mp run
    obtain ⟨final, taken, done⟩ := Run.exec_cons.mp rest
    cases Option.some.inj done
    obtain ⟨_, rfl⟩ := Run.enabled_eq_some.mp taken
    have written := all _ ⟨_, before, run⟩ rfl writer
    rw [(initial.exec run writer).written_iff] at written
    exact (Runtime.exec_drained writer reached ⟨rfl, rfl⟩).mp written
  · intro winds r ⟨labels, before, run⟩ returned writer
    obtain ⟨front, last, rfl, reached, same⟩ :=
      Runtime.exec_returned (fun started => by cases started) run returned initial
    rw [(initial.exec run writer).written_iff, same, Runtime.exec_drained writer reached ⟨rfl, rfl⟩]
    exact winds front before (Option.isSome_iff_exists.mpr ⟨r, run⟩) writer

/-- A sample of the daemon's, and what is kept of it. -/
def Runtime.cpuSample : Sample := ⟨⟨"cpu.util"⟩, 1000, .scalar (.finite 12)⟩

def Runtime.cpuRecord : HistoricSample := ⟨⟨"cpu.util"⟩, 1000, some (.finite 12), none, none⟩

/-- A sample waits in its batch for the next flush when the signal comes, and nobody waits for the
writer's thread. -/
theorem shutdown_loses_batch : ∃ r,
    Run.exec Runtime.step (Runtime.start (some (.ok "history.db")) none false)
      [.lock, .record Runtime.cpuSample, .unlock, .recv 0 false, .signal, .samplerExit, .leaveLoop,
        .join, .release, .dropClone, .ret] = some r ∧
    r.phase = .returned ∧ (r.threads 0).accepted = [.sample Runtime.cpuRecord] ∧
    (r.threads 0).flushedSamples = [] := by
  have ran : (Run.exec Runtime.step (Runtime.start (some (.ok "history.db")) none false)
      [.lock, .record Runtime.cpuSample, .unlock, .recv 0 false, .signal, .samplerExit, .leaveLoop,
        .join, .release, .dropClone, .ret]).map
        (fun r => (r.phase, (r.threads 0).accepted, (r.threads 0).flushedSamples)) =
      some (.returned, [.sample Runtime.cpuRecord], []) := by
    decide +kernel
  obtain ⟨r, run, shown⟩ := Option.map_eq_some_iff.mp ran
  simp only [Prod.mk.injEq] at shown
  exact ⟨r, run, shown⟩

end LinSight
