import LinSight.Daemon.Pruning
import LinSight.Daemon.Shutdown

set_option autoImplicit false

/-! The loop of `run_writer`: what it receives, passes to its flushes and prunes. -/

namespace LinSight

open Alerts (AlertEvent AlertEventKind)

def flushInterval : Nat := fromSecs 1

def alertKindStr : AlertEventKind → String
  | .fired => "fired"
  | .cleared => "cleared"

/-- One transaction of `INSERT OR REPLACE`. -/
def flushAlertEvents (table : AlertEventTable) (batch : List AlertEvent) : AlertEventTable :=
  batch.foldl (fun table e => table.insert (e.rule, asI64 e.tsMicros) (alertKindStr e.kind)) table

/-- The locals of `run_writer` and its database. The two last fields list the batches passed to
the flushes; no step reads them. -/
structure WriterLoop where
  db : HistoryDb
  pendingSamples : List HistoricSample
  pendingEvents : List AlertEvent
  lastFlush : Nat
  lastPrune : Nat
  sampleBatches : List (List HistoricSample)
  eventBatches : List (List AlertEvent)

/-- What a turn of the loop gets from outside: a record or, at a timeout, none, the clocks it
reads in this order, and whether the transactions of its flushes commit. -/
structure WriterTurn where
  received : Option HistoryRecord
  now : Nat
  samplesCommit : Bool
  flushed : Nat
  eventsCommit : Bool
  checked : Nat
  clock : Int

namespace WriterLoop

/-- At the start of the thread; `primed` is where `last_prune` starts. -/
def opened (db : HistoryDb) (now primed : Nat) : WriterLoop := ⟨db, [], [], now, primed, [], []⟩

def push (w : WriterLoop) : Option HistoryRecord → WriterLoop
  | none => w
  | some (.sample s) => { w with pendingSamples := w.pendingSamples ++ [s] }
  | some (.alertEvent e) => { w with pendingEvents := w.pendingEvents ++ [e] }

/-- `flush_samples` with the pending batch, which is gone afterwards also where it fails. -/
def passSamples (w : WriterLoop) (commits : Bool) : WriterLoop :=
  { w with
    db := if commits then
        { w.db with samples := flushSamples w.db.samples w.pendingSamples }
      else w.db
    pendingSamples := []
    sampleBatches := w.sampleBatches ++ [w.pendingSamples] }

def passEvents (w : WriterLoop) (commits : Bool) : WriterLoop :=
  { w with
    db := if commits then
        { w.db with alertEvents := flushAlertEvents w.db.alertEvents w.pendingEvents }
      else w.db
    pendingEvents := []
    eventBatches := w.eventBatches ++ [w.pendingEvents] }

def samplesStage (w : WriterLoop) (now : Nat) (commits : Bool) (flushed : Nat) : WriterLoop :=
  if maxBatch ≤ w.pendingSamples.length ∨
      w.pendingSamples ≠ [] ∧ flushInterval ≤ now - w.lastFlush then
    { w.passSamples commits with lastFlush := flushed }
  else w

def eventsStage (w : WriterLoop) (commits : Bool) : WriterLoop :=
  if w.pendingEvents ≠ [] then w.passEvents commits else w

def pruneStage (w : WriterLoop) (retention : Option Nat) (now : Nat) (clock : Int) : WriterLoop :=
  let pruned := maybePrune w.db retention w.lastPrune now clock
  { w with db := pruned.1, lastPrune := pruned.2 }

/-- One turn of the loop. -/
def turn (retention : Option Nat) (w : WriterLoop) (t : WriterTurn) : WriterLoop :=
  let w := w.push t.received
  let w := w.samplesStage t.now t.samplesCommit t.flushed
  let w := w.eventsStage t.eventsCommit
  w.pruneStage retention t.checked t.clock

/-- The turn in which all producers are gone. -/
def finish (w : WriterLoop) (samplesCommit eventsCommit : Bool) : WriterLoop :=
  let w := if w.pendingSamples ≠ [] then w.passSamples samplesCommit else w
  w.eventsStage eventsCommit

/-- `run_writer` up to where the producers are gone. -/
def run (retention : Option Nat) (w : WriterLoop) (turns : List WriterTurn) : WriterLoop :=
  turns.foldl (turn retention) w

/-- What was received has been passed to the flushes or is pending, in this order, and a batch is
no longer than it may be. -/
structure Accounted (received : List HistoryRecord) (w : WriterLoop) : Prop where
  samples : w.sampleBatches.flatten ++ w.pendingSamples =
    received.filterMap HistoryRecord.sample?
  events : w.eventBatches.flatten ++ w.pendingEvents = received.filterMap HistoryRecord.alertEvent?
  sampleBatches : ∀ batch ∈ w.sampleBatches, batch.length ≤ maxBatch
  eventBatches : ∀ batch ∈ w.eventBatches, batch.length ≤ maxBatch
  samplesFit : w.pendingSamples.length ≤ maxBatch
  eventsFit : w.pendingEvents.length ≤ maxBatch

/-- Between two turns no event is pending and there is room for a sample. -/
structure Settled (received : List HistoryRecord) (w : WriterLoop) : Prop
    extends Accounted received w where
  room : w.pendingSamples.length < maxBatch
  noEvents : w.pendingEvents = []

section Turns

theorem maxBatch_pos : 0 < maxBatch := by decide

variable {received : List HistoryRecord} {w : WriterLoop}

theorem opened_settled (db : HistoryDb) (now primed : Nat) :
    Settled [] (opened db now primed) := by
  refine ⟨⟨rfl, rfl, ?_, ?_, Nat.zero_le _, Nat.zero_le _⟩, maxBatch_pos, rfl⟩
  · exact fun batch member => absurd member List.not_mem_nil
  · exact fun batch member => absurd member List.not_mem_nil

theorem Settled.push (settled : Settled received w) (record : Option HistoryRecord) :
    Accounted (received ++ record.toList) (w.push record) := by
  have room := settled.room
  cases record with
  | none =>
      rw [Option.toList_none, List.append_nil]
      exact settled.toAccounted
  | some record => cases record with
    | sample s =>
        refine { settled.toAccounted with samples := ?_, events := ?_, samplesFit := ?_ }
        · rw [List.filterMap_append, ← settled.samples, List.append_assoc]
          rfl
        · rw [List.filterMap_append, ← settled.events]
          exact (List.append_nil _).symm
        · rw [WriterLoop.push, List.length_append]
          exact room
    | alertEvent e =>
        refine { settled.toAccounted with samples := ?_, events := ?_, eventsFit := ?_ }
        · rw [List.filterMap_append, ← settled.samples]
          exact (List.append_nil _).symm
        · rw [List.filterMap_append, ← settled.events, List.append_assoc]
          rfl
        · rw [WriterLoop.push, settled.noEvents]
          exact maxBatch_pos

theorem Accounted.passSamples (accounted : Accounted received w) (commits : Bool) :
    Accounted received (w.passSamples commits) where
  samples := by
    rw [← accounted.samples]
    simp only [WriterLoop.passSamples, List.flatten_append, List.flatten_singleton,
      List.append_nil]
  events := accounted.events
  sampleBatches := by
    intro batch member
    rcases List.mem_append.mp member with earlier | last
    · exact accounted.sampleBatches batch earlier
    · rw [List.mem_singleton.mp last]
      exact accounted.samplesFit
  eventBatches := accounted.eventBatches
  samplesFit := Nat.zero_le _
  eventsFit := accounted.eventsFit

theorem Accounted.passEvents (accounted : Accounted received w) (commits : Bool) :
    Accounted received (w.passEvents commits) where
  samples := accounted.samples
  events := by
    rw [← accounted.events]
    simp only [WriterLoop.passEvents, List.flatten_append, List.flatten_singleton, List.append_nil]
  sampleBatches := accounted.sampleBatches
  eventBatches := by
    intro batch member
    rcases List.mem_append.mp member with earlier | last
    · exact accounted.eventBatches batch earlier
    · rw [List.mem_singleton.mp last]
      exact accounted.eventsFit
  samplesFit := accounted.samplesFit
  eventsFit := Nat.zero_le _

/-- After the first stage a batch of samples has room for one more. -/
theorem Accounted.samplesStage (accounted : Accounted received w) (now : Nat) (commits : Bool)
    (flushed : Nat) : Accounted received (w.samplesStage now commits flushed) ∧
      (w.samplesStage now commits flushed).pendingSamples.length < maxBatch := by
  unfold WriterLoop.samplesStage
  split
  · exact ⟨{ accounted.passSamples commits with }, maxBatch_pos⟩
  · rename_i later
    have room : ¬ maxBatch ≤ w.pendingSamples.length := fun full => later (Or.inl full)
    exact ⟨accounted, Nat.lt_of_not_le room⟩

/-- After the second one no event is pending. -/
theorem Accounted.eventsStage (accounted : Accounted received w) (commits : Bool) :
    Accounted received (w.eventsStage commits) ∧ (w.eventsStage commits).pendingEvents = [] ∧
      (w.eventsStage commits).pendingSamples = w.pendingSamples := by
  unfold WriterLoop.eventsStage
  split
  · exact ⟨accounted.passEvents commits, rfl, rfl⟩
  · rename_i none
    exact ⟨accounted, not_not.mp none, rfl⟩

theorem Settled.turn (settled : Settled received w) (retention : Option Nat) (t : WriterTurn) :
    Settled (received ++ t.received.toList) (w.turn retention t) := by
  obtain ⟨sampled, room⟩ :=
    (settled.push t.received).samplesStage t.now t.samplesCommit t.flushed
  obtain ⟨evented, noEvents, same⟩ := sampled.eventsStage t.eventsCommit
  rw [← same] at room
  exact { evented with room, noEvents }

/-- Between any two turns what was received is flushed or pending. -/
theorem Settled.run (retention : Option Nat) (turns : List WriterTurn)
    (settled : Settled received w) :
    Settled (received ++ turns.filterMap WriterTurn.received) (w.run retention turns) := by
  induction turns generalizing received w with
  | nil =>
      rw [List.filterMap_nil, List.append_nil]
      exact settled
  | cons t rest ih =>
      have next := ih (settled.turn retention t)
      rw [List.append_assoc] at next
      cases record : t.received with
      | none =>
          rw [List.filterMap_cons_none record]
          rw [record] at next
          exact next
      | some r =>
          rw [List.filterMap_cons_some record]
          rw [record] at next
          exact next

theorem Settled.finish (settled : Settled received w) (samplesCommit eventsCommit : Bool) :
    Accounted received (w.finish samplesCommit eventsCommit) ∧
      (w.finish samplesCommit eventsCommit).pendingSamples = [] ∧
      (w.finish samplesCommit eventsCommit).pendingEvents = [] := by
  have passed : Accounted received
      (if w.pendingSamples ≠ [] then w.passSamples samplesCommit else w) ∧
      (if w.pendingSamples ≠ [] then w.passSamples samplesCommit else w).pendingSamples = [] := by
    split
    · exact ⟨settled.toAccounted.passSamples samplesCommit, rfl⟩
    · rename_i none
      exact ⟨settled.toAccounted, not_not.mp none⟩
  obtain ⟨accounted, noEvents, same⟩ := passed.1.eventsStage eventsCommit
  exact ⟨accounted, same.trans passed.2, noEvents⟩

end Turns

/-- The batches of a whole run are the records that were received, wherever the clock stands, and
nothing is pending between the events of a turn or at the end. -/
theorem run_writer_loses_nothing (db : HistoryDb) (now primed : Nat) (retention : Option Nat)
    (turns : List WriterTurn) (samplesCommit eventsCommit : Bool) :
    let received := turns.filterMap WriterTurn.received
    let w := ((opened db now primed).run retention turns).finish samplesCommit eventsCommit
    w.sampleBatches.flatten = received.filterMap HistoryRecord.sample? ∧
      w.eventBatches.flatten = received.filterMap HistoryRecord.alertEvent? ∧
      (∀ batch ∈ w.sampleBatches, batch.length ≤ maxBatch) ∧
      (∀ batch ∈ w.eventBatches, batch.length ≤ maxBatch) ∧
      w.pendingSamples = [] ∧ w.pendingEvents = [] := by
  intro received w
  have settled : Settled received ((opened db now primed).run retention turns) :=
    (opened_settled db now primed).run retention turns
  obtain ⟨accounted, samples, events⟩ := settled.finish samplesCommit eventsCommit
  refine ⟨?_, ?_, accounted.sampleBatches, accounted.eventBatches, samples, events⟩
  · rw [← accounted.samples, samples, List.append_nil]
  · rw [← accounted.events, events, List.append_nil]

/-- The thread of the daemon's model has the same records pending and flushed. -/
structure Follows (w : WriterLoop) (thread : WriterThread) : Prop where
  pendingSamples : thread.pendingSamples = w.pendingSamples
  pendingEvents : thread.pendingEvents = w.pendingEvents
  flushedSamples : thread.flushedSamples = w.sampleBatches.flatten
  flushedEvents : thread.flushedEvents = w.eventBatches.flatten

section Follows

variable {w : WriterLoop} {thread : WriterThread}

theorem Follows.passSamples (follows : Follows w thread) (commits : Bool) :
    Follows (w.passSamples commits) thread.flushSamples where
  pendingSamples := rfl
  pendingEvents := follows.pendingEvents
  flushedSamples := by
    simp only [WriterThread.flushSamples, WriterLoop.passSamples, List.flatten_append,
      List.flatten_singleton, follows.flushedSamples, follows.pendingSamples]
  flushedEvents := follows.flushedEvents

theorem Follows.passEvents (follows : Follows w thread) (commits : Bool) :
    Follows (w.passEvents commits) thread.flushEvents where
  pendingSamples := follows.pendingSamples
  pendingEvents := rfl
  flushedSamples := follows.flushedSamples
  flushedEvents := by
    simp only [WriterThread.flushEvents, WriterLoop.passEvents, List.flatten_append,
      List.flatten_singleton, follows.flushedEvents, follows.pendingEvents]

/-- A flush of nothing changes nothing. -/
theorem Follows.flushNoSamples (follows : Follows w thread) (none : w.pendingSamples = []) :
    Follows w thread.flushSamples where
  pendingSamples := none.symm
  pendingEvents := follows.pendingEvents
  flushedSamples := by
    rw [WriterThread.flushSamples, follows.flushedSamples, follows.pendingSamples, none,
      List.append_nil]
  flushedEvents := follows.flushedEvents

theorem Follows.flushNoEvents (follows : Follows w thread) (none : w.pendingEvents = []) :
    Follows w thread.flushEvents where
  pendingSamples := follows.pendingSamples
  pendingEvents := none.symm
  flushedSamples := follows.flushedSamples
  flushedEvents := by
    rw [WriterThread.flushEvents, follows.flushedEvents, follows.pendingEvents, none,
      List.append_nil]

theorem Follows.lastEvents (follows : Follows w thread) (commits : Bool) :
    Follows (w.eventsStage commits) thread.flushEvents := by
  unfold WriterLoop.eventsStage
  split
  · exact follows.passEvents commits
  · rename_i none
    exact follows.flushNoEvents (not_not.mp none)

theorem Follows.eventsStage (follows : Follows w thread) (commits : Bool) :
    Follows (w.eventsStage commits)
      (if thread.pendingEvents ≠ [] then thread.flushEvents else thread) := by
  unfold WriterLoop.eventsStage
  rw [follows.pendingEvents]
  split
  · exact follows.passEvents commits
  · exact follows

/-- The stages of a turn are the flushes of the thread. -/
theorem Follows.flush (follows : Follows w thread) (retention : Option Nat) (t : WriterTurn) :
    Follows (((w.samplesStage t.now t.samplesCommit t.flushed).eventsStage
        t.eventsCommit).pruneStage retention t.checked t.clock)
      (thread.flush (decide (flushInterval ≤ t.now - w.lastFlush))) := by
  have sampled : Follows (w.samplesStage t.now t.samplesCommit t.flushed)
      (if maxBatch ≤ thread.pendingSamples.length ∨ thread.pendingSamples ≠ [] ∧
          decide (flushInterval ≤ t.now - w.lastFlush) = true then thread.flushSamples
        else thread) := by
    unfold WriterLoop.samplesStage
    simp only [follows.pendingSamples, decide_eq_true_eq]
    split
    · have passed := follows.passSamples t.samplesCommit
      exact ⟨passed.1, passed.2, passed.3, passed.4⟩
    · exact follows
  have staged := sampled.eventsStage t.eventsCommit
  exact ⟨staged.1, staged.2, staged.3, staged.4⟩

theorem flush_queue (thread : WriterThread) (elapsed : Bool) :
    (thread.flush elapsed).queue = thread.queue := by
  unfold WriterThread.flush
  dsimp only
  split <;> split <;> rfl

/-- A turn that receives a record is one of the thread. -/
theorem Follows.recv (follows : Follows w thread) {t : WriterTurn} {record : HistoryRecord}
    {rest : List HistoryRecord} (queue : thread.queue = record :: rest)
    (received : t.received = some record) (retention : Option Nat) :
    ∃ next, thread.recv (decide (flushInterval ≤ t.now - w.lastFlush)) = some next ∧
      next.queue = rest ∧ Follows (w.turn retention t) next := by
  have pushed : Follows (w.push t.received) ({ thread with queue := rest }.push record) := by
    rw [received]
    cases record with
    | sample s =>
        have same := follows.pendingSamples
        exact ⟨by rw [WriterThread.push, WriterLoop.push, same], follows.2, follows.3, follows.4⟩
    | alertEvent e =>
        have same := follows.pendingEvents
        exact ⟨follows.1, by rw [WriterThread.push, WriterLoop.push, same], follows.3, follows.4⟩
  have clock : (w.push t.received).lastFlush = w.lastFlush := by
    rcases t.received with _ | (s | e) <;> rfl
  have flushed := pushed.flush retention t
  rw [clock] at flushed
  refine ⟨_, ?_, ?_, flushed⟩
  · rw [WriterThread.recv, queue]
  · rw [flush_queue]
    cases record <;> rfl

/-- A turn at a timeout is one of the thread. -/
theorem Follows.timeout (follows : Follows w thread) {t : WriterTurn} (queue : thread.queue = [])
    (received : t.received = none) (retention : Option Nat) :
    ∃ next, thread.timeout (decide (flushInterval ≤ t.now - w.lastFlush)) = some next ∧
      Follows (w.turn retention t) next := by
  refine ⟨_, Run.enabled_eq_some.mpr ⟨queue, rfl⟩, ?_⟩
  have flushed := follows.flush retention t
  unfold WriterLoop.turn
  rw [received]
  exact flushed

/-- The last turn is the thread's. -/
theorem Follows.finish (follows : Follows w thread) (queue : thread.queue = [])
    (samplesCommit eventsCommit : Bool) :
    ∃ next, thread.finish = some next ∧ Follows (w.finish samplesCommit eventsCommit) next := by
  refine ⟨_, Run.enabled_eq_some.mpr ⟨queue, rfl⟩, ?_⟩
  have sampled : Follows (if w.pendingSamples ≠ [] then w.passSamples samplesCommit else w)
      thread.flushSamples := by
    split
    · exact follows.passSamples samplesCommit
    · rename_i none
      exact follows.flushNoSamples (not_not.mp none)
  exact sampled.lastEvents eventsCommit

end Follows

end WriterLoop

end LinSight
