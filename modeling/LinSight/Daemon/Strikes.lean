import LinSight.Daemon.Balance

set_option autoImplicit false

/-! The failures of a sensor in a row, counted along a run, against the counters of its entry. -/

namespace LinSight

open Scheduler (TickItem SampleResult)

/-- The failures that back a sensor off. -/
inductive FailureKind where
  | timeout
  | unsupported
deriving DecidableEq

def PluginError.failureKind : PluginError → Option FailureKind
  | .timeout _ => some .timeout
  | .unsupported _ => some .unsupported
  | _ => none

/-- The counter of the failures of a kind. -/
def Entry.strikes (entry : Entry) : FailureKind → Nat
  | .timeout => entry.timeoutStrikes
  | .unsupported => entry.unsupportedStrikes

/-- A failure is on record since the last success. -/
def Entry.failing (entry : Entry) : Prop :=
  entry.timeoutStrikes ≠ 0 ∨ entry.unsupportedStrikes ≠ 0

/-- The failures of a kind in a row after one more result; only a success ends the row. -/
def inRow (kind : FailureKind) (count : Nat) : SampleResult → Nat
  | .ok _ => 0
  | .error error => if error.failureKind = some kind then count + 1 else count

namespace Scheduler

/-- The counter in the entry of the sensor, 0 where it has none. -/
def strikes (scheduler : Scheduler) (id : SensorId) (kind : FailureKind) : Nat :=
  match scheduler.entries.lookup id with
  | some entry => entry.strikes kind
  | none => 0

variable {scheduler next : Scheduler} {id : SensorId} {kind : FailureKind}

theorem strikes_of_lookup {entry : Entry} (found : scheduler.entries.lookup id = some entry) :
    scheduler.strikes id kind = entry.strikes kind := by
  simp only [strikes, found]

theorem strikes_of_none (absent : scheduler.entries.lookup id = none) :
    scheduler.strikes id kind = 0 := by
  simp only [strikes, absent]

theorem strikes_congr (same : next.entries.lookup id = scheduler.entries.lookup id) :
    next.strikes id kind = scheduler.strikes id kind := by
  simp only [strikes, same]

/-- One result moves the counter as it moves the row, up to the top of the counter. -/
theorem settleEntry_strikes (now : Nat) (entry : Entry) (result : SampleResult) {count : Nat}
    (counted : entry.strikes kind = min count u32Max) :
    (settleEntry now entry result).strikes kind = min (inRow kind count result) u32Max := by
  have saturates : min (min count u32Max + 1) u32Max = min (count + 1) u32Max := by omega
  cases result with
  | ok sample => cases kind <;> rfl
  | error error =>
      cases error with
      | timeout message =>
          cases kind with
          | timeout =>
              change min (entry.strikes .timeout + 1) u32Max = min (count + 1) u32Max
              rw [counted, saturates]
          | unsupported => exact counted
      | unsupported message =>
          cases kind with
          | timeout => exact counted
          | unsupported =>
              change min (entry.strikes .unsupported + 1) u32Max = min (count + 1) u32Max
              rw [counted, saturates]
      | _ => cases kind <;> exact counted

theorem foldl_settleEntry_strikes (now : Nat) (results : List SampleResult) {entry : Entry}
    {count : Nat} (counted : entry.strikes kind = min count u32Max) :
    (results.foldl (settleEntry now) entry).strikes kind =
      min (results.foldl (inRow kind) count) u32Max := by
  induction results generalizing entry count with
  | nil => exact counted
  | cons result rest ih => exact ih (settleEntry_strikes now entry result counted)

theorem strikes_tickPlan (now : Nat) :
    (scheduler.tickPlan now).1.strikes id kind = scheduler.strikes id kind := by
  unfold strikes
  rw [lookup_tickPlan]
  cases scheduler.entries.lookup id with
  | none => rfl
  | some entry =>
      simp only [Option.map_some, advanceEntry]
      split <;> rfl

theorem strikes_subscribe {sensor : SensorId} {rate : Option Ieee.Value}
    {subscription : Subscription}
    (granted : scheduler.subscribe sensor rate = some (.ok (next, subscription))) :
    next.strikes id kind = scheduler.strikes id kind := by
  obtain ⟨descriptor, _, _, _, rfl⟩ := subscribe_ok granted
  by_cases same : id = sensor
  · subst same
    simp only [strikes, AList.lookup_insert]
    cases scheduler.entries.lookup id with
    | none => cases kind <;> rfl
    | some entry => cases kind <;> rfl
  · exact strikes_congr (AList.lookup_insert_ne same)

/-- What stays of an entry keeps its counters. -/
theorem strikes_unsubscribe {subscription : Subscription} {after : Entry}
    (found : (scheduler.unsubscribe subscription).entries.lookup id = some after) :
    (scheduler.unsubscribe subscription).strikes id kind = scheduler.strikes id kind := by
  by_cases same : id = subscription.sensor
  · subst same
    have left := found
    rw [scheduler.lookup_unsubscribe subscription, Option.bind_eq_some_iff] at left
    obtain ⟨before, held, rest⟩ := left
    dsimp only at rest
    split at rest
    · cases rest
    · cases rest
      rw [strikes_of_lookup found, strikes_of_lookup held]
      cases kind <;> rfl
  · exact strikes_congr (scheduler.lookup_unsubscribe_ne subscription same)

theorem strikes_unsubscribeAll {removed : List Subscription} {after : Entry}
    (found : (unsubscribeAll scheduler removed).entries.lookup id = some after) :
    (unsubscribeAll scheduler removed).strikes id kind = scheduler.strikes id kind := by
  by_cases touched : ∃ subscription ∈ removed, subscription.sensor = id
  · obtain ⟨subscription, member, sensor⟩ := touched
    obtain ⟨before, held, resumed⟩ := unsubscribeAll_resumed member sensor found
    rw [strikes_of_lookup found, strikes_of_lookup held]
    cases kind with
    | timeout => exact resumed.timeout
    | unsupported => exact resumed.unsupported
  · apply strikes_congr
    apply lookup_unsubscribeAll_of_notMem
    intro subscription member same
    exact touched ⟨subscription, member, same⟩

/-- A token of the sensor keeps its entry. -/
theorem Represents.exists_lookup {tokens : Multiset Subscription}
    (valid : Represents scheduler tokens) {period : Nat} (held : tokens.count ⟨id, period⟩ ≠ 0) :
    ∃ entry, scheduler.entries.lookup id = some entry ∧
      Counts entry fun period => tokens.count ⟨id, period⟩ := by
  have counts := valid id
  cases found : scheduler.entries.lookup id with
  | none =>
      simp only [found] at counts
      exact absurd (counts period) held
  | some entry =>
      simp only [found] at counts
      exact ⟨entry, rfl, counts⟩

end Scheduler

open Scheduler (Represents)

variable {id : SensorId} {kind : FailureKind}

/-- A turn of `Subscribe` moves no counter: the undo of a duplicate drops no entry. -/
theorem strikes_subscribeEach {rateHz : Option Ieee.Value} {state : Subscribing}
    {others : Multiset Subscription}
    (valid : Represents state.scheduler (state.session.tokens + others)) (sensor : SensorId) :
    (subscribeEach rateHz state sensor).scheduler.strikes id kind =
      state.scheduler.strikes id kind := by
  unfold subscribeEach
  split
  · rfl
  · split
    · rfl
    · rfl
    · rename_i scheduler subscription granted
      have joined := @Scheduler.strikes_subscribe _ _ id kind _ _ _ granted
      split
      · change (scheduler.unsubscribe subscription).strikes id kind = _
        rw [← joined]
        cases left : (scheduler.unsubscribe subscription).entries.lookup id with
        | some after => exact Scheduler.strikes_unsubscribe left
        | none =>
            -- then the sensor had no token before the turn either
            have after := Scheduler.unsubscribe_represents
              (Scheduler.subscribe_represents valid granted) subscription id
            rw [Multiset.erase_cons_head, left] at after
            rw [Scheduler.strikes_of_none left, joined]
            cases held : state.scheduler.entries.lookup id with
            | none => exact (Scheduler.strikes_of_none held).symm
            | some entry =>
                have counts := valid id
                simp only [held] at counts
                exact absurd (after entry.periodMicros) counts.held
      · exact joined

theorem strikes_subscribeAll {scheduler : Scheduler} {session : Session}
    {others : Multiset Subscription} (valid : Represents scheduler (session.tokens + others))
    (sensors : List SensorId) (rateHz : Option Ieee.Value) :
    (subscribeAll scheduler session sensors rateHz).scheduler.strikes id kind =
      scheduler.strikes id kind := by
  unfold subscribeAll
  generalize start : (⟨scheduler, session, [], false⟩ : Subscribing) = state
  have here : Represents state.scheduler (state.session.tokens + others) := by
    rw [← start]
    exact valid
  have same : state.scheduler.strikes id kind = scheduler.strikes id kind := by rw [← start]
  clear start
  induction sensors generalizing state with
  | nil => exact same
  | cons sensor rest ih =>
      exact ih _ (subscribeEach_represents here sensor)
        ((strikes_subscribeEach here sensor).trans same)

namespace Daemon

/-- The results of the sensor that a step stores: those committed while the sensor has an entry. -/
def storedBy (id : SensorId) (daemon : Daemon) : Step → List SampleResult
  | .tickCommit results =>
      if (daemon.scheduler.entries.lookup id).isSome then Scheduler.resultsFor id results else []
  | _ => []

/-- The results of the sensor that a run stores, in order. -/
def stored (id : SensorId) : Daemon → List Step → List SampleResult
  | _, [] => []
  | daemon, label :: rest => daemon.storedBy id label ++
      match daemon.step label with
      | some next => stored id next rest
      | none => []

/-- The failures of the kind that the run ends with, not counting other failures in between. -/
def consecutive (kind : FailureKind) (id : SensorId) (daemon : Daemon) (labels : List Step) : Nat :=
  (stored id daemon labels).foldl (inRow kind) 0

/-- While failures of the kind are on record, the last tokens of the sensor are not given back. -/
def KeepsStrikes (kind : FailureKind) (id : SensorId) (daemon : Daemon) : Step → Prop
  | .unsubscribed client | .release client => ∀ session,
      daemon.sessions.lookup client = some session → daemon.scheduler.strikes id kind ≠ 0 →
      ∃ period, session.phase.removed.count ⟨id, period⟩ < daemon.tokens.count ⟨id, period⟩
  | _ => True

variable {daemon next : Daemon} {count : Nat}

/-- Tokens that are given back move no counter as long as others stay. -/
theorem Balanced.strikes_released (balanced : daemon.Balanced) {client : Nat} {session : Session}
    (found : daemon.sessions.lookup client = some session) {phase : SessionPhase}
    (empty : phase.removed = [])
    (stays : daemon.scheduler.strikes id kind ≠ 0 →
      ∃ period, session.phase.removed.count ⟨id, period⟩ < daemon.tokens.count ⟨id, period⟩) :
    (daemon.released client session phase).scheduler.strikes id kind =
      daemon.scheduler.strikes id kind := by
  change (unsubscribeAll daemon.scheduler session.phase.removed).strikes id kind = _
  cases left : (unsubscribeAll daemon.scheduler session.phase.removed).entries.lookup id with
  | some after => exact Scheduler.strikes_unsubscribeAll left
  | none =>
      rw [Scheduler.strikes_of_none left]
      by_contra struck
      obtain ⟨period, fewer⟩ := stays (Ne.symm struck)
      have refcounts := (balanced.released found empty).refcounts
      have ledger : ({ session with phase } : Session).tokens = session.subscriptions.tokens := by
        simp only [Session.tokens, empty, Multiset.coe_nil, add_zero]
      have tokens_after : (daemon.released client session phase).tokens =
          session.subscriptions.tokens + daemon.otherTokens client := by
        rw [← ledger]
        exact tokens_of_insert rfl
      rw [tokens_of_lookup found, Session.tokens, Multiset.count_add, Multiset.count_add,
        Multiset.coe_count] at fewer
      have remains : (daemon.released client session phase).tokens.count ⟨id, period⟩ ≠ 0 := by
        rw [tokens_after, Multiset.count_add]
        omega
      obtain ⟨entry, present, _⟩ := refcounts.exists_lookup remains
      rw [show (daemon.released client session phase).scheduler.entries.lookup id = none from left]
        at present
      cases present

/-- One step keeps the counter at the number of failures in a row. -/
theorem step_strikes {label : Step} (taken : daemon.step label = some next)
    (balanced : daemon.Balanced) (kept : daemon.KeepsStrikes kind id label)
    (counted : daemon.scheduler.strikes id kind = min count Scheduler.u32Max) :
    next.scheduler.strikes id kind =
      min ((daemon.storedBy id label).foldl (inRow kind) count) Scheduler.u32Max := by
  cases label <;>
    simp only [step, Option.bind_eq_some_iff, Run.enabled_eq_some, Option.some.injEq] at taken
  case subscribe client sensors rateHz =>
    obtain ⟨session, found, _, rfl⟩ := taken
    have refcounts := balanced.refcounts
    rw [tokens_of_lookup found] at refcounts
    exact (strikes_subscribeAll refcounts sensors rateHz).trans counted
  case unsubscribed client =>
    obtain ⟨session, found, _, rfl⟩ := taken
    exact (balanced.strikes_released found rfl (kept session found)).trans counted
  case release client =>
    obtain ⟨session, found, _, rfl⟩ := taken
    exact (balanced.strikes_released found rfl (kept session found)).trans counted
  case tickPlan now =>
    obtain ⟨_, rfl⟩ := taken
    exact (Scheduler.strikes_tickPlan now).trans counted
  case tickCommit results =>
    split at taken
    · rename_i now plan sampling
      obtain ⟨_, rfl⟩ := Run.enabled_eq_some.mp taken
      have committed := Scheduler.lookup_tickCommit now results daemon.scheduler id
      simp only [storedBy]
      cases held : daemon.scheduler.entries.lookup id with
      | none =>
          rw [held, Option.map_none] at committed
          rw [Scheduler.strikes_of_none held] at counted
          exact (Scheduler.strikes_of_none committed).trans counted
      | some entry =>
          rw [held, Option.map_some] at committed
          rw [Scheduler.strikes_of_lookup held] at counted
          exact (Scheduler.strikes_of_lookup committed).trans
            (Scheduler.foldl_settleEntry_strikes now _ counted)
    · cases taken
  case snapshotSinks sinks =>
    split at taken
    · obtain ⟨_, rfl⟩ := Run.enabled_eq_some.mp taken
      exact counted
    · cases taken
  case broadcast infos =>
    subst taken
    exact counted
  case fanOut =>
    rw [(fanOut_scheduler taken).1]
    exact counted
  case connect client =>
    obtain ⟨_, rfl⟩ := taken
    exact counted
  all_goals
    obtain ⟨session, _, _, rfl⟩ := taken
    exact counted

/-- In a run that keeps the tokens of failing sensors, the counter is the number of failures in a
row. -/
theorem exec_strikes {descriptors : List SensorDescriptor} {labels : List Step}
    (run : Run.exec step (new descriptors) labels = some daemon)
    (kept : Run.Always step (KeepsStrikes kind id) (new descriptors) labels) :
    daemon.scheduler.strikes id kind =
      min (consecutive kind id (new descriptors) labels) Scheduler.u32Max := by
  suffices general : ∀ (start : Daemon) (count : Nat), start.Balanced →
      start.scheduler.strikes id kind = min count Scheduler.u32Max →
      Run.exec step start labels = some daemon → Run.Always step (KeepsStrikes kind id) start labels →
      daemon.scheduler.strikes id kind =
        min ((stored id start labels).foldl (inRow kind) count) Scheduler.u32Max by
    exact general _ 0 (reachable_balanced ⟨[], rfl⟩) rfl run kept
  clear run kept
  intro start count balanced counted run kept
  induction labels generalizing start count with
  | nil =>
      cases Option.some.inj run
      exact counted
  | cons label rest ih =>
      obtain ⟨next, taken, remaining⟩ := Run.exec_cons.mp run
      simp only [stored, taken, List.foldl_append]
      exact ih next _ (step_balanced start label next taken balanced)
        (step_strikes taken balanced kept.1 counted) remaining (kept.2 next taken)

theorem stored_append {front back : List Step}
    (run : Run.exec step daemon front = some next) :
    stored id daemon (front ++ back) = stored id daemon front ++ stored id next back := by
  induction front generalizing daemon with
  | nil =>
      cases Option.some.inj run
      rfl
  | cons label rest ih =>
      obtain ⟨middle, taken, remaining⟩ := Run.exec_cons.mp run
      simp only [List.cons_append, stored, taken, List.append_assoc, ih remaining]

end Daemon

end LinSight
