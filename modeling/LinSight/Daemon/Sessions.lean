import LinSight.Daemon.Ledger
import LinSight.Library.Run
import LinSight.Protocol.Messages

set_option autoImplicit false

namespace LinSight

open Scheduler (TickItem SampleResult)

inductive OutboundMsg where
  | sample (sample : Sample)
  | sensorListBroadcast (infos : List SensorInfo)

def outboundQueueCap : Nat := 1024

/-- Where the thread of a client session stands. Tokens that have left the
ledger but not the scheduler travel with the phase. -/
inductive SessionPhase where
  | serving
  | unsubscribing (removed : List Subscription)
  | stopped
  | deregistered
  | releasing (removed : List Subscription)
  | ended
  | crashed
deriving DecidableEq

def SessionPhase.removed : SessionPhase → List Subscription
  | .unsubscribing removed | .releasing removed => removed
  | _ => []

/-- The read loop is still running. -/
def SessionPhase.live : SessionPhase → Bool
  | .serving | .unsubscribing _ => true
  | _ => false

/-- One client. `registered` says that its sink is in the client map, and
`awaiting` records the tokens for which no sample was enqueued since they
entered the ledger; no step reads it. -/
structure Session where
  phase : SessionPhase
  subscriptions : ClientSubscriptions
  registered : Bool
  pumpAlive : Bool
  queue : List OutboundMsg
  awaiting : List Subscription

namespace Session

def new : Session where
  phase := .serving
  subscriptions := .new
  registered := true
  pumpAlive := true
  queue := []
  awaiting := []

/-- A token enters the ledger. -/
def hold (session : Session) (subscription : Subscription) : Session :=
  { session with
    subscriptions := session.subscriptions.insert subscription
    awaiting := subscription :: session.awaiting }

/-- Phase 1 of `Unsubscribe`; with nothing removed there is no phase 2. -/
def takeSensors (session : Session) (sensors : List SensorId) : Session :=
  let (kept, removed) := session.subscriptions.takeSensors sensors
  { session with
    phase := if removed.isEmpty then .serving else .unsubscribing removed
    subscriptions := kept
    awaiting := session.awaiting.filter fun subscription => kept.holds subscription }

def drain (session : Session) : Session :=
  let (kept, removed) := session.subscriptions.drain
  { session with
    phase := if removed.isEmpty then .ended else .releasing removed
    subscriptions := kept
    awaiting := [] }

def enqueue (session : Session) (msg : OutboundMsg) : Session :=
  { session with
    queue := session.queue ++ [msg]
    awaiting := match msg with
      | .sample sample => session.awaiting.filter fun subscription =>
          subscription.sensor ≠ sample.sensor
      | .sensorListBroadcast _ => session.awaiting }

/-- Outcome of `SyncSender::try_send`; a dropped receiver is noticed first. -/
inductive TrySend where
  | ok (session : Session)
  | full
  | disconnected

def trySend (session : Session) (msg : OutboundMsg) : TrySend :=
  if !session.pumpAlive then .disconnected
  else if outboundQueueCap ≤ session.queue.length then .full
  else .ok (session.enqueue msg)

/-- One client's share of `broadcast_sensor_list`. -/
def broadcast (infos : List SensorInfo) (session : Session) : Session :=
  if session.registered then
    match session.trySend (.sensorListBroadcast infos) with
    | .ok sent => sent
    | .full => session
    | .disconnected => { session with registered := false }
  else session

/-- Every token of this client: those in the ledger and those on their way out. -/
def tokens (session : Session) : Multiset Subscription :=
  session.subscriptions.tokens + (session.phase.removed : List Subscription)

end Session

/-- Where the sampler thread stands. -/
inductive SamplerPhase where
  | idle
  | sampling (now : Nat) (plan : List TickItem)
  | committed (samples : List Sample)
  | delivering (samples : List Sample) (sinks disconnected : List Nat)
  | sending (samples : List Sample) (client : Nat) (interested : List Sample)
      (sinks disconnected : List Nat)
deriving DecidableEq

/-- The scheduler, the sessions by client id, and the sampler. `poisoned` is
the poison flag of the scheduler mutex. -/
structure Daemon where
  scheduler : Scheduler
  sessions : KeyMap Nat Session
  sampler : SamplerPhase
  poisoned : Bool

/-- What the `Subscribe` arm has done so far, holding both of its locks. -/
structure Subscribing where
  scheduler : Scheduler
  session : Session
  degraded : List (SensorId × String)
  panicked : Bool

/-- One turn of the `Subscribe` loop. After a panic no turn follows. -/
def subscribeEach (rateHz : Option Ieee.Value) (state : Subscribing) (id : SensorId) :
    Subscribing :=
  if state.panicked then state
  else match state.scheduler.subscribe id rateHz with
    | none => { state with panicked := true }
    | some (.error e) => { state with degraded := state.degraded ++ [(id, e.toString)] }
    | some (.ok (scheduler, subscription)) =>
        if state.session.subscriptions.holds subscription then
          -- a duplicate: give back the reference that was just acquired
          { state with scheduler := scheduler.unsubscribe subscription }
        else { state with scheduler, session := state.session.hold subscription }

def subscribeAll (scheduler : Scheduler) (session : Session) (sensors : List SensorId)
    (rateHz : Option Ieee.Value) : Subscribing :=
  sensors.foldl (subscribeEach rateHz) ⟨scheduler, session, [], false⟩

def unsubscribeAll (scheduler : Scheduler) (removed : List Subscription) : Scheduler :=
  removed.foldl Scheduler.unsubscribe scheduler

/-- A sample carries the id and the time it was asked for. -/
def answers (now : Nat) (entry : TickItem × SampleResult) : Bool :=
  match entry.2 with
  | .ok sample => sample.sensor = entry.1.id && sample.tsMicros = now
  | .error _ => true

/-- What the sampling pool may hand back for a plan: at most one result for
each planned sensor. -/
def poolResults (now : Nat) (plan : List TickItem) (results : List (TickItem × SampleResult)) :
    Bool :=
  decide (results.map (·.1)).Nodup && results.all fun entry =>
    decide (entry.1 ∈ plan) && answers now entry

inductive Step where
  | connect (client : Nat)
  | subscribe (client : Nat) (sensors : List SensorId) (rateHz : Option Ieee.Value)
  | unsubscribe (client : Nat) (sensors : List SensorId)
  | unsubscribed (client : Nat)
  | disconnect (client : Nat)
  | pump (client : Nat)
  | pumpExit (client : Nat)
  | deregister (client : Nat)
  | drain (client : Nat)
  | release (client : Nat)
  | broadcast (infos : List SensorInfo)
  | tickPlan (now : Nat)
  | tickCommit (results : List (TickItem × SampleResult))
  | snapshotSinks (sinks : List Nat)
  | fanOut

namespace Daemon

def new (descriptors : List SensorDescriptor) : Daemon where
  scheduler := .new descriptors
  sessions := ∅
  sampler := .idle
  poisoned := false

def withSession (daemon : Daemon) (client : Nat) (session : Session) : Daemon :=
  { daemon with sessions := daemon.sessions.insert client session }

theorem lookup_withSession (daemon : Daemon) (client other : Nat) (session : Session) :
    (daemon.withSession client session).sessions.lookup other =
      if other = client then some session else daemon.sessions.lookup other :=
  KeyMap.lookup_insert_eq daemon.sessions client other session

/-- The end of the `Subscribe` block. A panic in it poisons the scheduler mutex
and takes the thread down without teardown. -/
def subscribed (daemon : Daemon) (client : Nat) (outcome : Subscribing) : Daemon :=
  let session := if outcome.panicked then { outcome.session with phase := .crashed }
    else outcome.session
  { daemon with
    scheduler := outcome.scheduler
    sessions := daemon.sessions.insert client session
    poisoned := outcome.panicked }

/-- Pass the removed tokens to `Scheduler::unsubscribe`. -/
def released (daemon : Daemon) (client : Nat) (session : Session) (phase : SessionPhase) :
    Daemon :=
  { daemon with
    scheduler := unsubscribeAll daemon.scheduler session.phase.removed
    sessions := daemon.sessions.insert client { session with phase } }

/-- The sinks in the client map. The map's iteration order is arbitrary. -/
def registeredSinks (daemon : Daemon) : List Nat :=
  (KeyMap.retain (fun _ session => session.registered) daemon.sessions).keys

def deregistered (disconnected : List Nat) (client : Nat) (session : Session) : Session :=
  if client ∈ disconnected then { session with registered := false } else session

/-- The next atomic action of the fan-out. -/
def fanOut (daemon : Daemon) : Option Daemon :=
  match daemon.sampler with
  | .delivering _ [] disconnected =>
      some { daemon with
        sessions := KeyMap.mapValues (deregistered disconnected) daemon.sessions
        sampler := .idle }
  | .delivering samples (client :: sinks) disconnected =>
      (daemon.sessions.lookup client).bind fun session =>
        let interested := samples.filter fun sample => session.subscriptions.wants sample.sensor
        -- the ledger of a crashed session is poisoned
        Run.enabled (session.phase ≠ .crashed)
          { daemon with sampler := .sending samples client interested sinks disconnected }
  | .sending samples _ [] sinks disconnected =>
      some { daemon with sampler := .delivering samples sinks disconnected }
  | .sending samples client (sample :: interested) sinks disconnected =>
      (daemon.sessions.lookup client).map fun session =>
        match session.trySend (.sample sample) with
        | .ok sent => { daemon.withSession client sent with
            sampler := .sending samples client interested sinks disconnected }
        | .full => { daemon with
            sampler := .sending samples client interested sinks disconnected }
        | .disconnected => { daemon with
            sampler := .delivering samples sinks (client :: disconnected) }
  | _ => none

def step (daemon : Daemon) : Step → Option Daemon
  | .connect client =>
      Run.enabled (daemon.sessions.lookup client = none) (daemon.withSession client .new)
  | .subscribe client sensors rateHz =>
      (daemon.sessions.lookup client).bind fun session =>
        Run.enabled (session.phase = .serving ∧ daemon.poisoned = false)
          (daemon.subscribed client (subscribeAll daemon.scheduler session sensors rateHz))
  | .unsubscribe client sensors =>
      (daemon.sessions.lookup client).bind fun session =>
        Run.enabled (session.phase = .serving)
          (daemon.withSession client (session.takeSensors sensors))
  | .unsubscribed client =>
      (daemon.sessions.lookup client).bind fun session =>
        Run.enabled (session.phase = .unsubscribing session.phase.removed ∧
            daemon.poisoned = false)
          (daemon.released client session .serving)
  | .disconnect client =>
      (daemon.sessions.lookup client).bind fun session =>
        Run.enabled (session.phase = .serving)
          (daemon.withSession client { session with phase := .stopped })
  | .pump client =>
      (daemon.sessions.lookup client).bind fun session =>
        Run.enabled (session.pumpAlive = true ∧ session.queue ≠ [])
          (daemon.withSession client { session with queue := session.queue.tail })
  | .pumpExit client =>
      (daemon.sessions.lookup client).bind fun session =>
        Run.enabled (session.pumpAlive = true)
          (daemon.withSession client { session with pumpAlive := false })
  | .deregister client =>
      (daemon.sessions.lookup client).bind fun session =>
        -- `pump.join()` comes first
        Run.enabled (session.phase = .stopped ∧ session.pumpAlive = false)
          (daemon.withSession client { session with phase := .deregistered, registered := false })
  | .drain client =>
      (daemon.sessions.lookup client).bind fun session =>
        Run.enabled (session.phase = .deregistered) (daemon.withSession client session.drain)
  | .release client =>
      (daemon.sessions.lookup client).bind fun session =>
        Run.enabled (session.phase = .releasing session.phase.removed ∧ daemon.poisoned = false)
          (daemon.released client session .ended)
  | .broadcast infos =>
      some { daemon with
        sessions := KeyMap.mapValues (fun _ => Session.broadcast infos) daemon.sessions }
  | .tickPlan now =>
      let (scheduler, plan) := daemon.scheduler.tickPlan now
      Run.enabled (daemon.sampler = .idle ∧ daemon.poisoned = false)
        { daemon with scheduler, sampler := .sampling now plan }
  | .tickCommit results =>
      match daemon.sampler with
      | .sampling now plan =>
          let (scheduler, samples) := Scheduler.tickCommit now daemon.scheduler results
          Run.enabled (poolResults now plan results = true ∧ daemon.poisoned = false)
            { daemon with
              scheduler
              sampler := if samples.isEmpty then .idle else .committed samples }
      | _ => none
  | .snapshotSinks sinks =>
      match daemon.sampler with
      | .committed samples =>
          Run.enabled (sinks.Perm daemon.registeredSinks)
            { daemon with sampler := .delivering samples sinks [] }
      | _ => none
  | .fanOut => daemon.fanOut

/-- The states some interleaving of the atomic steps leads to. -/
def Reachable (descriptors : List SensorDescriptor) : Daemon → Prop :=
  Run.Reaches step (new descriptors)

theorem fanOut_scheduler {daemon next : Daemon} (taken : daemon.fanOut = some next) :
    next.scheduler = daemon.scheduler ∧ ∀ now plan, next.sampler ≠ .sampling now plan := by
  unfold Daemon.fanOut at taken
  split at taken
  · cases taken
    exact ⟨rfl, fun now plan same => nomatch same⟩
  · obtain ⟨session, _, passed⟩ := Option.bind_eq_some_iff.mp taken
    obtain ⟨_, rfl⟩ := Run.enabled_eq_some.mp passed
    exact ⟨rfl, fun now plan same => nomatch same⟩
  · cases taken
    exact ⟨rfl, fun now plan same => nomatch same⟩
  · obtain ⟨session, found, rfl⟩ := Option.map_eq_some_iff.mp taken
    split <;> exact ⟨rfl, fun now plan same => nomatch same⟩
  · cases taken

end Daemon

/-! The two scheduler loops of a session, seen from the entry of one sensor. -/

section EntryOfOneSensor

variable {id : SensorId}

theorem lookup_unsubscribeAll_of_notMem {scheduler : Scheduler} {removed : List Subscription}
    (absent : ∀ subscription ∈ removed, subscription.sensor ≠ id) :
    (unsubscribeAll scheduler removed).entries.lookup id = scheduler.entries.lookup id := by
  induction removed generalizing scheduler with
  | nil => rfl
  | cons subscription rest ih =>
      have others : ∀ other ∈ rest, other.sensor ≠ id := fun other member =>
        absent other (List.mem_cons_of_mem _ member)
      have differs : id ≠ subscription.sensor := (absent subscription List.mem_cons_self).symm
      exact (ih others).trans (scheduler.lookup_unsubscribe_ne subscription differs)

/-- The due time `Scheduler::unsubscribe` writes for a sensor others still hold. -/
def resumedDue (entry : Entry) (period : Nat) : Nat :=
  if entry.isStatic then entry.nextDueAtMicros
  else match entry.lastSampledAtMicros with
    | some last => saturatingAdd last period
    | none => 0

/-- What is left of an entry some of whose tokens were given back. -/
structure Resumed (before after : Entry) : Prop where
  isStatic : after.isStatic = before.isStatic
  lastSampled : after.lastSampledAtMicros = before.lastSampledAtMicros
  unsupported : after.unsupportedStrikes = before.unsupportedStrikes
  timeout : after.timeoutStrikes = before.timeoutStrikes
  due : after.nextDueAtMicros = resumedDue before after.periodMicros

theorem leaveEntry_resumed (entry : Entry) (counts : KeyMap Nat Nat) :
    Resumed entry (Scheduler.leaveEntry entry counts) :=
  ⟨rfl, rfl, rfl, rfl, rfl⟩

theorem Resumed.trans {first second third : Entry} (before : Resumed first second)
    (after : Resumed second third) : Resumed first third where
  isStatic := after.isStatic.trans before.isStatic
  lastSampled := after.lastSampled.trans before.lastSampled
  unsupported := after.unsupported.trans before.unsupported
  timeout := after.timeout.trans before.timeout
  due := by
    have due := after.due
    unfold resumedDue at due ⊢
    rw [before.isStatic, before.lastSampled] at due
    by_cases static : first.isStatic = true
    · have kept := before.due
      simp only [resumedDue, static, ↓reduceIte] at due kept ⊢
      exact due.trans kept
    · simp only [static, Bool.false_eq_true, ↓reduceIte] at due ⊢
      exact due

theorem unsubscribeAll_resumed {scheduler : Scheduler} {removed : List Subscription}
    {subscription : Subscription} (given : subscription ∈ removed)
    (sensor : subscription.sensor = id) {after : Entry}
    (found : (unsubscribeAll scheduler removed).entries.lookup id = some after) :
    ∃ before, scheduler.entries.lookup id = some before ∧ Resumed before after := by
  induction removed generalizing scheduler subscription with
  | nil => cases given
  | cons first rest ih =>
      change (unsubscribeAll (scheduler.unsubscribe first) rest).entries.lookup id = _ at found
      by_cases others : ∃ other ∈ rest, other.sensor = id
      · obtain ⟨other, member, same⟩ := others
        obtain ⟨middle, present, resumed⟩ := ih member same found
        by_cases here : id = first.sensor
        · subst here
          rw [scheduler.lookup_unsubscribe first, Option.bind_eq_some_iff] at present
          obtain ⟨before, held, left⟩ := present
          dsimp only at left
          split at left
          · cases left
          · cases left
            exact ⟨before, held, (leaveEntry_resumed before _).trans resumed⟩
        · rw [scheduler.lookup_unsubscribe_ne first here] at present
          exact ⟨middle, present, resumed⟩
      · have absent : ∀ other ∈ rest, other.sensor ≠ id := by
          intro other member same
          exact others ⟨other, member, same⟩
        rw [lookup_unsubscribeAll_of_notMem absent] at found
        have here : id = first.sensor := by
          rcases List.mem_cons.mp given with same | member
          · rw [← same, sensor]
          · exact absurd sensor (absent subscription member)
        subst here
        rw [scheduler.lookup_unsubscribe first, Option.bind_eq_some_iff] at found
        obtain ⟨before, held, left⟩ := found
        dsimp only at left
        split at left
        · cases left
        · cases left
          exact ⟨before, held, leaveEntry_resumed before _⟩

theorem unsubscribe_descriptors (scheduler : Scheduler) (subscription : Subscription) :
    (scheduler.unsubscribe subscription).descriptors = scheduler.descriptors := by
  unfold Scheduler.unsubscribe
  split <;> rfl

theorem unsubscribeAll_descriptors (scheduler : Scheduler) (removed : List Subscription) :
    (unsubscribeAll scheduler removed).descriptors = scheduler.descriptors := by
  induction removed generalizing scheduler with
  | nil => rfl
  | cons subscription rest ih =>
      exact (ih (scheduler.unsubscribe subscription)).trans
        (unsubscribe_descriptors scheduler subscription)

/-- The period a `Subscribe` for the sensor is granted. -/
def requestedPeriod (descriptors : List SensorDescriptor) (id : SensorId)
    (rateHz : Option Ieee.Value) : Option Nat :=
  (descriptors.find? (·.id = id)).bind fun descriptor => Scheduler.grantedPeriod descriptor rateHz

theorem subscribeEach_descriptors (rateHz : Option Ieee.Value) (state : Subscribing)
    (sensor : SensorId) :
    (subscribeEach rateHz state sensor).scheduler.descriptors = state.scheduler.descriptors := by
  unfold subscribeEach
  split
  · rfl
  · split
    · rfl
    · rfl
    · rename_i scheduler subscription granted
      have same := Scheduler.subscribe_descriptors granted
      split
      · exact (unsubscribe_descriptors scheduler subscription).trans same
      · exact same

theorem subscribeAll_descriptors (scheduler : Scheduler) (session : Session)
    (sensors : List SensorId) (rateHz : Option Ieee.Value) :
    (subscribeAll scheduler session sensors rateHz).scheduler.descriptors =
      scheduler.descriptors := by
  unfold subscribeAll
  generalize start : (⟨scheduler, session, [], false⟩ : Subscribing) = state
  have descriptors : state.scheduler.descriptors = scheduler.descriptors := by rw [← start]
  clear start
  induction sensors generalizing state with
  | nil => exact descriptors
  | cons sensor rest ih =>
      exact ih _ ((subscribeEach_descriptors rateHz state sensor).trans descriptors)

theorem lookup_subscribeEach_ne (rateHz : Option Ieee.Value) (state : Subscribing)
    {sensor : SensorId}
    (other : sensor = id → requestedPeriod state.scheduler.descriptors id rateHz = none) :
    (subscribeEach rateHz state sensor).scheduler.entries.lookup id =
      state.scheduler.entries.lookup id := by
  unfold subscribeEach
  split
  · rfl
  · split
    · rfl
    · rfl
    · rename_i scheduler subscription granted
      obtain ⟨descriptor, found, period, sensorEq, rfl⟩ := Scheduler.subscribe_ok granted
      have differs : id ≠ sensor := by
        intro same
        have none_granted := other same.symm
        rw [requestedPeriod, same, found, Option.bind_some, period] at none_granted
        cases none_granted
      split
      · rw [Scheduler.lookup_unsubscribe_ne _ _ (sensorEq ▸ differs)]
        exact AList.lookup_insert_ne differs
      · exact AList.lookup_insert_ne differs

/-- A `Subscribe` that acquires nothing on a sensor leaves its entry alone. -/
theorem lookup_subscribeAll_of_none (scheduler : Scheduler) (session : Session)
    {sensors : List SensorId} {rateHz : Option Ieee.Value}
    (none_granted : id ∈ sensors → requestedPeriod scheduler.descriptors id rateHz = none) :
    (subscribeAll scheduler session sensors rateHz).scheduler.entries.lookup id =
      scheduler.entries.lookup id := by
  unfold subscribeAll
  generalize start : (⟨scheduler, session, [], false⟩ : Subscribing) = state
  have descriptors : state.scheduler.descriptors = scheduler.descriptors := by rw [← start]
  have here : state.scheduler.entries.lookup id = scheduler.entries.lookup id := by rw [← start]
  clear start
  induction sensors generalizing state with
  | nil => exact here
  | cons sensor rest ih =>
      have other : sensor = id →
          requestedPeriod state.scheduler.descriptors id rateHz = none := by
        intro same
        rw [descriptors]
        exact none_granted (same ▸ List.mem_cons_self)
      have first := lookup_subscribeEach_ne rateHz state other
      exact ih (fun member => none_granted (List.mem_cons_of_mem _ member)) _
        ((subscribeEach_descriptors rateHz state sensor).trans descriptors) (first.trans here)

end EntryOfOneSensor

end LinSight
