import LinSight.Daemon.Balance

set_option autoImplicit false

namespace LinSight

open Scheduler (TickItem SampleResult)

/-- The catalogue tags the sensor as constant. -/
def isStaticSensor (descriptors : List SensorDescriptor) (id : SensorId) : Bool :=
  (descriptors.find? (·.id = id)).any fun descriptor => descriptor.tags.any (· = staticTag)

namespace Scheduler

/-- No tick will plan the sensor again. -/
def Parked (scheduler : Scheduler) (id : SensorId) : Prop :=
  ∃ entry, scheduler.entries.lookup id = some entry ∧ entry.nextDueAtMicros = u64Max

/-- The sensor is static in the catalogue and in the entry. -/
structure Static (scheduler : Scheduler) (id : SensorId) : Prop where
  catalogue : isStaticSensor scheduler.descriptors id = true
  entry : ∀ entry, scheduler.entries.lookup id = some entry → entry.isStatic = true

/-- What every operation but a commit does to a static sensor: it may take the
sensor out of the park, never put it there. -/
structure NeverParks (before after : Scheduler) (id : SensorId) : Prop where
  static : before.Static id → after.Static id
  unparked : before.Static id → ¬ before.Parked id → ¬ after.Parked id

variable {scheduler : Scheduler} {id : SensorId}

theorem NeverParks.refl (scheduler : Scheduler) (id : SensorId) : NeverParks scheduler scheduler id :=
  ⟨fun static => static, fun _ unparked => unparked⟩

theorem NeverParks.trans {first second third : Scheduler} (before : NeverParks first second id)
    (after : NeverParks second third id) : NeverParks first third id where
  static valid := after.static (before.static valid)
  unparked valid unparked :=
    after.unparked (before.static valid) (before.unparked valid unparked)

theorem NeverParks.of_lookup {next : Scheduler}
    (descriptors : next.descriptors = scheduler.descriptors)
    (same : next.entries.lookup id = scheduler.entries.lookup id) : NeverParks scheduler next id where
  static valid := ⟨descriptors ▸ valid.catalogue, fun entry found => valid.entry entry (same ▸ found)⟩
  unparked _ unparked := by
    intro ⟨entry, found, parked⟩
    exact unparked ⟨entry, same ▸ found, parked⟩

theorem unsubscribeAll_neverParks (scheduler : Scheduler) (removed : List Subscription)
    (id : SensorId) : NeverParks scheduler (unsubscribeAll scheduler removed) id := by
  by_cases touched : ∃ subscription ∈ removed, subscription.sensor = id
  · obtain ⟨subscription, member, sensor⟩ := touched
    refine ⟨fun valid => ⟨?_, ?_⟩, ?_⟩
    · rw [unsubscribeAll_descriptors]
      exact valid.catalogue
    · intro after left
      obtain ⟨before, held, resumed⟩ := unsubscribeAll_resumed member sensor left
      rw [resumed.isStatic]
      exact valid.entry before held
    · intro valid unparked ⟨after, left, parked⟩
      obtain ⟨before, held, resumed⟩ := unsubscribeAll_resumed member sensor left
      have kept := resumed.due
      simp only [resumedDue, valid.entry before held, ↓reduceIte] at kept
      exact unparked ⟨before, held, kept ▸ parked⟩
  · apply NeverParks.of_lookup (unsubscribeAll_descriptors scheduler removed)
    apply lookup_unsubscribeAll_of_notMem
    intro subscription member same
    exact touched ⟨subscription, member, same⟩

/-- A subscription makes its sensor due at once. -/
theorem subscribe_due {next : Scheduler} {rate : Option Ieee.Value} {subscription : Subscription}
    (granted : scheduler.subscribe id rate = some (.ok (next, subscription))) :
    ∃ entry, next.entries.lookup id = some entry ∧ entry.nextDueAtMicros = 0 ∧
      (scheduler.Static id → entry.isStatic = true) := by
  obtain ⟨descriptor, found, _, _, rfl⟩ := subscribe_ok granted
  refine ⟨_, AList.lookup_insert _, ?_, ?_⟩
  · cases scheduler.entries.lookup id <;> rfl
  · intro valid
    cases held : scheduler.entries.lookup id with
    | none =>
        have catalogue := valid.catalogue
        rw [isStaticSensor, found] at catalogue
        exact catalogue
    | some entry => exact valid.entry entry held

theorem subscribe_neverParks {next : Scheduler} {sensor : SensorId} {rate : Option Ieee.Value}
    {subscription : Subscription}
    (granted : scheduler.subscribe sensor rate = some (.ok (next, subscription))) :
    NeverParks scheduler next id := by
  have descriptors := subscribe_descriptors granted
  by_cases same : sensor = id
  · subst same
    obtain ⟨entry, found, due, static⟩ := subscribe_due granted
    refine ⟨fun valid => ⟨descriptors ▸ valid.catalogue, ?_⟩, ?_⟩
    · intro stored present
      rw [found] at present
      cases present
      exact static valid
    · intro _ _ ⟨stored, present, parked⟩
      rw [found] at present
      cases present
      rw [due] at parked
      cases parked
  · apply NeverParks.of_lookup descriptors
    obtain ⟨_, _, _, _, rfl⟩ := subscribe_ok granted
    exact AList.lookup_insert_ne (Ne.symm same)

theorem tickPlan_neverParks {now : Nat}
    (distinct : ∀ entry, scheduler.entries.lookup id = some entry →
      wrappingAdd now entry.periodMicros ≠ u64Max) :
    NeverParks scheduler (scheduler.tickPlan now).1 id := by
  have settled : ∀ entry, (advanceEntry now entry).isStatic = entry.isStatic := by
    intro entry
    unfold advanceEntry
    split <;> rfl
  refine ⟨fun valid => ⟨valid.catalogue, ?_⟩, ?_⟩
  · intro after found
    rw [lookup_tickPlan, Option.map_eq_some_iff] at found
    obtain ⟨before, held, rfl⟩ := found
    rw [settled]
    exact valid.entry before held
  · intro _ unparked ⟨after, found, parked⟩
    rw [lookup_tickPlan, Option.map_eq_some_iff] at found
    obtain ⟨before, held, rfl⟩ := found
    unfold advanceEntry at parked
    split at parked
    · exact unparked ⟨before, held, parked⟩
    · exact distinct before held parked

theorem tickCommit_static {now : Nat} {results : List (TickItem × SampleResult)}
    (valid : scheduler.Static id) : (Scheduler.tickCommit now scheduler results).1.Static id := by
  refine ⟨?_, ?_⟩
  · rw [tickCommit_descriptors]
    exact valid.catalogue
  · intro after found
    rw [lookup_tickCommit, Option.map_eq_some_iff] at found
    obtain ⟨before, held, rfl⟩ := found
    rw [(foldl_settleEntry_keeps now _ before).2.2]
    exact valid.entry before held

/-- Due times after a failure: one period, or a power of two of them. -/
theorem settleEntry_error_due (now : Nat) (entry : Entry) (error : PluginError) :
    ∃ k ≤ 8, (settleEntry now entry (.error error)).nextDueAtMicros =
      wrappingAdd now (saturatingMul entry.periodMicros (2 ^ k)) ∨
    (settleEntry now entry (.error error)).nextDueAtMicros = wrappingAdd now entry.periodMicros := by
  cases error with
  | timeout message =>
      exact ⟨_, Nat.min_le_right _ 8, Or.inl rfl⟩
  | unsupported message =>
      exact ⟨_, Nat.min_le_right _ 8, Or.inl rfl⟩
  | io message => exact ⟨0, by decide, Or.inr rfl⟩
  | parse message => exact ⟨0, by decide, Or.inr rfl⟩
  | transient message => exact ⟨0, by decide, Or.inr rfl⟩
  | manifest message => exact ⟨0, by decide, Or.inr rfl⟩
  | panic message => exact ⟨0, by decide, Or.inr rfl⟩

end Scheduler

open Scheduler (NeverParks)

/-- Tokens recorded as unserved are in the ledger. -/
def Session.Tracked (session : Session) : Prop :=
  ∀ token ∈ session.awaiting, session.subscriptions.holds token = true

/-- The client is live and holds a token of the sensor for which no sample was
enqueued yet. -/
def Session.Awaits (session : Session) (id : SensorId) : Prop :=
  session.phase.live = true ∧ ∃ token ∈ session.awaiting, token.sensor = id

/-- A sample of the sensor is on its way to the client. -/
def SamplerPhase.PendingFor (client : Nat) (id : SensorId) : SamplerPhase → Prop
  | .committed samples => ∃ sample ∈ samples, sample.sensor = id
  | .delivering samples sinks _ => client ∈ sinks ∧ ∃ sample ∈ samples, sample.sensor = id
  | .sending samples current interested sinks _ =>
      (client = current ∧ ∃ sample ∈ interested, sample.sensor = id) ∨
        (client ∈ sinks ∧ ∃ sample ∈ samples, sample.sensor = id)
  | _ => False

namespace ClientSubscriptions

theorem holds_insert (subscriptions : ClientSubscriptions) (added token : Subscription) :
    (subscriptions.insert added).holds token =
      (decide (token = added) || subscriptions.holds token) := by
  unfold holds insert
  rw [KeyMap.lookup_insert_eq]
  by_cases same : token = added
  · subst same
    simp
  · have differs : ¬ (token.sensor, token.periodMicros) = (added.sensor, added.periodMicros) := by
      intro keys
      apply same
      cases token
      cases added
      simp_all
    simp [differs, same]

end ClientSubscriptions

namespace Session

variable {session : Session} {id : SensorId}

theorem hold_tracked (tracked : session.Tracked) (subscription : Subscription) :
    (session.hold subscription).Tracked := by
  intro token member
  rw [hold, ClientSubscriptions.holds_insert]
  rcases List.mem_cons.mp member with same | earlier
  · simp [same]
  · simp [tracked token earlier]

theorem takeSensors_tracked (session : Session) (sensors : List SensorId) :
    (session.takeSensors sensors).Tracked := by
  intro token member
  exact (List.mem_filter.mp member).2

theorem takeSensors_awaits {sensors : List SensorId} (serving : session.phase = .serving)
    (awaits : (session.takeSensors sensors).Awaits id) : session.Awaits id := by
  obtain ⟨_, token, member, sensor⟩ := awaits
  exact ⟨by rw [serving]; rfl, token, (List.mem_filter.mp member).1, sensor⟩

theorem not_awaits_drain (session : Session) : ¬ session.drain.Awaits id := by
  intro ⟨_, token, member, _⟩
  cases member

theorem broadcast_awaiting (infos : List SensorInfo) (session : Session) :
    (session.broadcast infos).awaiting = session.awaiting ∧
      (session.broadcast infos).subscriptions = session.subscriptions ∧
      (session.broadcast infos).phase = session.phase := by
  unfold broadcast trySend
  split
  · split
    · rename_i sent accepted
      split at accepted
      · cases accepted
      · split at accepted <;> cases accepted
        exact ⟨rfl, rfl, rfl⟩
    · exact ⟨rfl, rfl, rfl⟩
    · exact ⟨rfl, rfl, rfl⟩
  · exact ⟨rfl, rfl, rfl⟩

theorem trySend_ok {msg : OutboundMsg} {sent : Session} (accepted : session.trySend msg = .ok sent) :
    sent = session.enqueue msg := by
  unfold trySend at accepted
  split at accepted
  · cases accepted
  · split at accepted <;> cases accepted
    rfl

/-- A sample serves every token of its sensor and no other. -/
theorem enqueue_awaits {sample : Sample}
    (awaits : (session.enqueue (.sample sample)).Awaits id) :
    session.Awaits id ∧ sample.sensor ≠ id := by
  obtain ⟨live, token, member, sensor⟩ := awaits
  obtain ⟨earlier, differs⟩ := List.mem_filter.mp member
  refine ⟨⟨live, token, earlier, sensor⟩, ?_⟩
  intro same
  simp [sensor, same] at differs

theorem enqueue_tracked (tracked : session.Tracked) (msg : OutboundMsg) :
    (session.enqueue msg).Tracked := by
  intro token member
  cases msg with
  | sample sample => exact tracked token (List.mem_filter.mp member).1
  | sensorListBroadcast infos => exact tracked token member

end Session

/-- What the `Subscribe` loop keeps of one static sensor: a token it adds
leaves the sensor due. -/
structure SubscribeServes (scheduler : Scheduler) (session : Session) (state : Subscribing)
    (id : SensorId) : Prop where
  neverParks : NeverParks scheduler state.scheduler id
  tracked : state.session.Tracked
  added : ∀ token ∈ state.session.awaiting, token.sensor = id →
    token ∈ session.awaiting ∨ ¬ state.scheduler.Parked id

theorem subscribeEach_serves {scheduler : Scheduler} {session : Session} {state : Subscribing}
    {id : SensorId} {rateHz : Option Ieee.Value} (static : scheduler.Static id)
    (serves : SubscribeServes scheduler session state id) (sensor : SensorId) :
    SubscribeServes scheduler session (subscribeEach rateHz state sensor) id := by
  unfold subscribeEach
  split
  · exact serves
  · split
    · exact ⟨serves.neverParks, serves.tracked, serves.added⟩
    · exact ⟨serves.neverParks, serves.tracked, serves.added⟩
    · rename_i next subscription granted
      have grants : NeverParks state.scheduler next id := Scheduler.subscribe_neverParks granted
      have still : state.scheduler.Static id := serves.neverParks.static static
      have kept : ∀ after, NeverParks state.scheduler after id →
          ∀ token ∈ state.session.awaiting, token.sensor = id →
            token ∈ session.awaiting ∨ ¬ after.Parked id := by
        intro after never token member same
        rcases serves.added token member same with earlier | unparked
        · exact Or.inl earlier
        · exact Or.inr (never.unparked still unparked)
      split
      · have undone : NeverParks next (next.unsubscribe subscription) id :=
          Scheduler.unsubscribeAll_neverParks next [subscription] id
        have both := grants.trans undone
        exact ⟨serves.neverParks.trans both, serves.tracked, kept _ both⟩
      · refine ⟨serves.neverParks.trans grants, Session.hold_tracked serves.tracked subscription, ?_⟩
        intro token member same
        rcases List.mem_cons.mp member with new | earlier
        · subst new
          obtain ⟨_, _, _, sensorEq, _⟩ := Scheduler.subscribe_ok granted
          rw [same] at sensorEq
          subst sensorEq
          obtain ⟨entry, found, due, _⟩ := Scheduler.subscribe_due granted
          right
          intro ⟨stored, present, parked⟩
          rw [found] at present
          cases present
          rw [due] at parked
          cases parked
        · exact kept next grants token earlier same

theorem subscribeAll_serves {scheduler : Scheduler} {session : Session} {id : SensorId}
    (static : scheduler.Static id) (tracked : session.Tracked) (sensors : List SensorId)
    (rateHz : Option Ieee.Value) :
    SubscribeServes scheduler session (subscribeAll scheduler session sensors rateHz) id := by
  have start : SubscribeServes scheduler session ⟨scheduler, session, [], false⟩ id :=
    ⟨NeverParks.refl scheduler id, tracked, fun _ member _ => Or.inl member⟩
  unfold subscribeAll
  generalize (⟨scheduler, session, [], false⟩ : Subscribing) = state at start
  induction sensors generalizing state with
  | nil => exact start
  | cons sensor rest ih => exact ih _ (subscribeEach_serves static start sensor)

namespace Daemon

/-- Neither `now` plus one period nor `now` plus a back-off is the time that
stands for a parked sensor. -/
def AvoidsPark (now period : Nat) : Prop :=
  wrappingAdd now period ≠ u64Max ∧ ∀ k ≤ 8, wrappingAdd now (saturatingMul period (2 ^ k)) ≠ u64Max

instance (now period : Nat) : Decidable (AvoidsPark now period) :=
  inferInstanceAs (Decidable (_ ∧ _))

/-- The fan-out loses no sample of a parked sensor that a live client still
awaits: the client's sink is in the snapshot, its receiver is there and its
queue has room. And no due time hits `u64::MAX` by chance. -/
def Delivers (daemon : Daemon) (id : SensorId) : Step → Prop
  | .tickPlan now => ∀ entry, daemon.scheduler.entries.lookup id = some entry →
      AvoidsPark now entry.periodMicros
  | .tickCommit _ => ∀ now plan entry, daemon.sampler = .sampling now plan →
      daemon.scheduler.entries.lookup id = some entry → AvoidsPark now entry.periodMicros
  | .snapshotSinks _ => ∀ samples client session, daemon.sampler = .committed samples →
      (∃ sample ∈ samples, sample.sensor = id) → daemon.scheduler.Parked id →
      daemon.sessions.lookup client = some session → session.Awaits id → session.registered = true
  | .fanOut => ∀ samples client sample rest sinks disconnected session,
      daemon.sampler = .sending samples client (sample :: rest) sinks disconnected →
      (∃ other ∈ sample :: rest, other.sensor = id) → daemon.scheduler.Parked id →
      daemon.sessions.lookup client = some session → session.Awaits id →
      session.pumpAlive = true ∧ (sample.sensor = id → session.queue.length < outboundQueueCap)
  | _ => True

/-- A live client that awaits the sensor is served: either a tick will plan the
sensor, or its sample is already on the way. -/
structure Served (daemon : Daemon) (id : SensorId) : Prop where
  static : daemon.scheduler.Static id
  tracked : ∀ client session, daemon.sessions.lookup client = some session → session.Tracked
  waiting : ∀ client session, daemon.sessions.lookup client = some session → session.Awaits id →
    ¬ daemon.scheduler.Parked id ∨ daemon.sampler.PendingFor client id

variable {daemon next : Daemon} {id : SensorId}

/-- Steps that only touch one session, and the scheduler without parking. -/
theorem Served.session (served : daemon.Served id) {client : Nat} {session : Session}
    (sessions : next.sessions = daemon.sessions.insert client session)
    (sampler : next.sampler = daemon.sampler)
    (never : NeverParks daemon.scheduler next.scheduler id) (tracked : session.Tracked)
    (awaits : session.Awaits id → ¬ next.scheduler.Parked id ∨
      ∃ old, daemon.sessions.lookup client = some old ∧ old.Awaits id) : next.Served id := by
  have carried : ∀ other held, daemon.sessions.lookup other = some held → held.Awaits id →
      ¬ next.scheduler.Parked id ∨ next.sampler.PendingFor other id := by
    intro other held found waits
    rcases served.waiting other held found waits with unparked | pending
    · exact Or.inl (never.unparked served.static unparked)
    · exact Or.inr (sampler ▸ pending)
  refine ⟨never.static served.static, ?_, ?_⟩
  · intro other held found
    rw [sessions, KeyMap.lookup_insert_eq] at found
    split at found
    · cases found
      exact tracked
    · exact served.tracked other held found
  · intro other held found waits
    rw [sessions, KeyMap.lookup_insert_eq] at found
    split at found
    · rename_i same
      subst same
      cases found
      rcases awaits waits with unparked | ⟨old, present, before⟩
      · exact Or.inl unparked
      · exact carried other old present before
    · exact carried other held found waits

theorem Served.withSession (served : daemon.Served id) {client : Nat} {old session : Session}
    (found : daemon.sessions.lookup client = some old) (tracked : session.Tracked)
    (awaits : session.Awaits id → old.Awaits id) : (daemon.withSession client session).Served id :=
  served.session rfl rfl (NeverParks.refl _ id) tracked fun waits =>
    Or.inr ⟨old, found, awaits waits⟩

theorem Served.mapSessions (served : daemon.Served id) {f : Nat → Session → Session}
    (same : ∀ client session, (f client session).awaiting = session.awaiting ∧
      (f client session).subscriptions = session.subscriptions ∧
      (f client session).phase = session.phase)
    {sampler : SamplerPhase}
    (pending : ∀ client, daemon.sampler.PendingFor client id → sampler.PendingFor client id) :
    ({ daemon with sessions := KeyMap.mapValues f daemon.sessions, sampler } : Daemon).Served id := by
  refine ⟨served.static, ?_, ?_⟩
  · intro client session found
    rw [KeyMap.lookup_mapValues, Option.map_eq_some_iff] at found
    obtain ⟨old, present, rfl⟩ := found
    obtain ⟨awaiting, subscriptions, _⟩ := same client old
    have tracked := served.tracked client old present
    unfold Session.Tracked
    rw [awaiting, subscriptions]
    exact tracked
  · intro client session found waits
    rw [KeyMap.lookup_mapValues, Option.map_eq_some_iff] at found
    obtain ⟨old, present, rfl⟩ := found
    obtain ⟨awaiting, _, phase⟩ := same client old
    unfold Session.Awaits at waits
    rw [awaiting, phase] at waits
    rcases served.waiting client old present waits with unparked | before
    · exact Or.inl unparked
    · exact Or.inr (pending client before)

theorem Served.released (served : daemon.Served id) {client : Nat} {session : Session}
    {phase : SessionPhase} (found : daemon.sessions.lookup client = some session)
    (live : phase.live = true → session.phase.live = true) :
    (daemon.released client session phase).Served id := by
  refine served.session rfl rfl (Scheduler.unsubscribeAll_neverParks _ _ id)
    (served.tracked client session found) ?_
  intro ⟨phase_live, token, member, sensor⟩
  exact Or.inr ⟨session, found, live phase_live, token, member, sensor⟩

theorem Served.subscribed (served : daemon.Served id) {client : Nat} {session : Session}
    (found : daemon.sessions.lookup client = some session) (serving : session.phase = .serving)
    (sensors : List SensorId) (rateHz : Option Ieee.Value) :
    (daemon.subscribed client
      (subscribeAll daemon.scheduler session sensors rateHz)).Served id := by
  have serves := subscribeAll_serves served.static (served.tracked client session found) sensors
    rateHz
  generalize subscribeAll daemon.scheduler session sensors rateHz = outcome at serves
  have kept : (if outcome.panicked then { outcome.session with phase := .crashed }
        else outcome.session).awaiting = outcome.session.awaiting ∧
      (if outcome.panicked then { outcome.session with phase := .crashed }
        else outcome.session).subscriptions = outcome.session.subscriptions := by
    split <;> exact ⟨rfl, rfl⟩
  refine served.session rfl rfl serves.neverParks ?_ ?_
  · unfold Session.Tracked
    rw [kept.1, kept.2]
    exact serves.tracked
  · intro ⟨_, token, member, sensor⟩
    rw [kept.1] at member
    rcases serves.added token member sensor with earlier | unparked
    · exact Or.inr ⟨session, found, by rw [serving]; rfl, token, earlier, sensor⟩
    · exact Or.inl unparked

/-- Between the ticks nothing is on its way, so an awaited sensor is due. -/
theorem Served.unparked (served : daemon.Served id)
    (nothing : ∀ client, ¬ daemon.sampler.PendingFor client id) {client : Nat} {session : Session}
    (found : daemon.sessions.lookup client = some session) (waits : session.Awaits id) :
    ¬ daemon.scheduler.Parked id := by
  rcases served.waiting client session found waits with unparked | pending
  · exact unparked
  · exact absurd pending (nothing client)

/-- A commit parks the sensor only together with a sample of it. -/
theorem Served.committed (served : daemon.Served id) {now : Nat} {plan : List TickItem}
    {results : List (TickItem × SampleResult)} (sampling : daemon.sampler = .sampling now plan)
    (returned : poolResults now plan results = true)
    (delivers : daemon.Delivers id (.tickCommit results)) :
    ({ daemon with
        scheduler := (Scheduler.tickCommit now daemon.scheduler results).1
        sampler := if (Scheduler.tickCommit now daemon.scheduler results).2.isEmpty then .idle
          else .committed (Scheduler.tickCommit now daemon.scheduler results).2 } : Daemon).Served
      id := by
  refine ⟨Scheduler.tickCommit_static served.static, served.tracked, ?_⟩
  intro client session found waits
  have unparked := served.unparked (by simp [sampling, SamplerPhase.PendingFor]) found waits
  simp only [poolResults, Bool.and_eq_true, decide_eq_true_eq] at returned
  obtain ⟨distinct, all⟩ := returned
  have answered := List.all_eq_true.mp all
  simp only [Bool.and_eq_true, decide_eq_true_eq] at answered
  by_cases success : ∃ sample, ((⟨id⟩ : TickItem), Except.ok sample) ∈ results
  · obtain ⟨sample, member⟩ := success
    by_cases subscribed : id ∈ daemon.scheduler.entries
    · -- the sample goes out with the commit
      right
      have out := Scheduler.mem_tickCommit now member subscribed
      have answer := (answered _ member).2
      simp only [answers, Bool.and_eq_true, decide_eq_true_eq] at answer
      have nonempty : (Scheduler.tickCommit now daemon.scheduler results).2.isEmpty = false := by
        rw [List.isEmpty_eq_false_iff]
        exact List.ne_nil_of_mem out
      simp only [nonempty, Bool.false_eq_true, ↓reduceIte]
      exact ⟨sample, out, answer.1⟩
    · left
      intro ⟨entry, after, _⟩
      rw [Scheduler.lookup_tickCommit, AList.lookup_eq_none.mpr subscribed] at after
      cases after
  · left
    intro ⟨entry, after, parked⟩
    rw [Scheduler.lookup_tickCommit, Option.map_eq_some_iff] at after
    obtain ⟨before, held, rfl⟩ := after
    by_cases sampled : ∃ result, ((⟨id⟩ : TickItem), result) ∈ results
    · obtain ⟨result, member⟩ := sampled
      rw [Scheduler.resultsFor_of_mem distinct member] at parked
      cases result with
      | ok sample => exact success ⟨sample, member⟩
      | error error =>
          have avoids := delivers now plan before sampling held
          obtain ⟨k, bounded, backoff | plain⟩ :=
            Scheduler.settleEntry_error_due now before error
          · exact avoids.2 k bounded (backoff ▸ parked)
          · exact avoids.1 (plain ▸ parked)
    · have absent : (⟨id⟩ : TickItem) ∉ results.map (·.1) := by
        intro member
        obtain ⟨⟨item, result⟩, inside, same⟩ := List.mem_map.mp member
        exact sampled ⟨result, same ▸ inside⟩
      have none_for := Scheduler.resultsFor_of_notMem
        (fun entry inside => List.mem_map_of_mem inside) absent
      rw [none_for] at parked
      exact unparked ⟨before, held, parked⟩

/-- The sampler may move on as long as what is pending for a client that still
waits for the parked sensor stays pending. -/
theorem Served.moveOn (served : daemon.Served id) {sampler : SamplerPhase}
    (pending : ∀ client session, daemon.scheduler.Parked id →
      daemon.sessions.lookup client = some session → session.Awaits id →
      daemon.sampler.PendingFor client id → sampler.PendingFor client id) :
    ({ daemon with sampler } : Daemon).Served id := by
  refine ⟨served.static, served.tracked, ?_⟩
  intro client session found waits
  rcases served.waiting client session found waits with unparked | before
  · exact Or.inl unparked
  · by_cases parked : daemon.scheduler.Parked id
    · exact Or.inr (pending client session parked found waits before)
    · exact Or.inl parked

theorem Served.snapshot (served : daemon.Served id) {samples : List Sample} {sinks : List Nat}
    (committed : daemon.sampler = .committed samples) (all : sinks.Perm daemon.registeredSinks)
    (delivers : daemon.Delivers id (.snapshotSinks sinks)) :
    ({ daemon with sampler := .delivering samples sinks [] } : Daemon).Served id := by
  apply served.moveOn
  intro client session parked found waits pending
  rw [committed] at pending
  have registered := delivers samples client session committed pending parked found waits
  refine ⟨all.mem_iff.mpr ?_, pending⟩
  rw [registeredSinks, ← AList.mem_keys, ← AList.lookup_isSome, KeyMap.lookup_retain, found]
  simp [registered]

/-- The interest filter keeps the sample for a client whose ledger holds a token
of its sensor. -/
theorem Served.filtered (served : daemon.Served id) {samples : List Sample} {client : Nat}
    {sinks disconnected : List Nat} {session : Session}
    (delivering : daemon.sampler = .delivering samples (client :: sinks) disconnected)
    (found : daemon.sessions.lookup client = some session) :
    ({ daemon with
        sampler := .sending samples client
          (samples.filter fun sample => session.subscriptions.wants sample.sensor) sinks
          disconnected } : Daemon).Served id := by
  apply served.moveOn
  intro other held _ present waits pending
  rw [delivering] at pending
  obtain ⟨member, sample, inside, sensor⟩ := pending
  rcases List.mem_cons.mp member with same | later
  · subst same
    rw [found] at present
    cases present
    obtain ⟨_, token, tracked, tokenSensor⟩ := waits
    have ledger := served.tracked other session found token tracked
    have wanted := ClientSubscriptions.wants_of_mem
      ((session.subscriptions.mem_tokens token).mpr ledger)
    refine Or.inl ⟨rfl, sample, List.mem_filter.mpr ⟨inside, ?_⟩, sensor⟩
    rw [sensor, ← tokenSensor]
    exact wanted
  · exact Or.inr ⟨later, sample, inside, sensor⟩

section Sending

variable {samples interested : List Sample} {sample : Sample} {client : Nat}
  {sinks disconnected : List Nat} {session : Session}

/-- A sample that was enqueued serves its sensor; the others are still to come. -/
theorem Served.sent (served : daemon.Served id)
    (sending : daemon.sampler = .sending samples client (sample :: interested) sinks disconnected)
    (found : daemon.sessions.lookup client = some session) :
    ({ daemon.withSession client (session.enqueue (.sample sample)) with
        sampler := .sending samples client interested sinks disconnected } : Daemon).Served id := by
  refine ⟨served.static, ?_, ?_⟩
  · intro other held present
    change (daemon.withSession client _).sessions.lookup other = some held at present
    rw [lookup_withSession] at present
    split at present
    · cases present
      exact Session.enqueue_tracked (served.tracked client session found) (.sample sample)
    · exact served.tracked other held present
  · intro other held present waits
    change (daemon.withSession client _).sessions.lookup other = some held at present
    rw [lookup_withSession] at present
    split at present
    · rename_i same
      subst same
      cases present
      obtain ⟨before, differs⟩ := Session.enqueue_awaits waits
      rcases served.waiting other session found before with unparked | pending
      · exact Or.inl unparked
      · right
        rw [sending] at pending
        rcases pending with ⟨_, wanted, inside, sensor⟩ | rest
        · rcases List.mem_cons.mp inside with first | later
          · exact absurd (first ▸ sensor) differs
          · exact Or.inl ⟨rfl, wanted, later, sensor⟩
        · exact Or.inr rest
    · rename_i differs
      rcases served.waiting other held present waits with unparked | pending
      · exact Or.inl unparked
      · right
        rw [sending] at pending
        rcases pending with ⟨same, _⟩ | rest
        · exact absurd same differs
        · exact Or.inr rest

/-- A full queue drops the sample, which the condition allows only where the
client does not wait for it. -/
theorem Served.dropped (served : daemon.Served id)
    (sending : daemon.sampler = .sending samples client (sample :: interested) sinks disconnected)
    (found : daemon.sessions.lookup client = some session)
    (full : session.trySend (.sample sample) = .full) (delivers : daemon.Delivers id .fanOut) :
    ({ daemon with
        sampler := .sending samples client interested sinks disconnected } : Daemon).Served id := by
  apply served.moveOn
  intro other held parked present waits pending
  rw [sending] at pending
  rcases pending with ⟨same, wanted, inside, sensor⟩ | rest
  · subst same
    rw [found] at present
    cases present
    obtain ⟨alive, space⟩ := delivers samples other sample interested sinks disconnected session
      sending ⟨wanted, inside, sensor⟩ parked found waits
    rcases List.mem_cons.mp inside with first | later
    · have short := space (first ▸ sensor)
      have not_full : ¬ outboundQueueCap ≤ session.queue.length := by omega
      simp [Session.trySend, alive, not_full] at full
    · exact Or.inl ⟨rfl, wanted, later, sensor⟩
  · exact Or.inr rest

theorem Served.gone (served : daemon.Served id)
    (sending : daemon.sampler = .sending samples client (sample :: interested) sinks disconnected)
    (found : daemon.sessions.lookup client = some session)
    (gone : session.trySend (.sample sample) = .disconnected)
    (delivers : daemon.Delivers id .fanOut) :
    ({ daemon with
        sampler := .delivering samples sinks (client :: disconnected) } : Daemon).Served id := by
  apply served.moveOn
  intro other held parked present waits pending
  rw [sending] at pending
  rcases pending with ⟨same, some_sample⟩ | rest
  · subst same
    rw [found] at present
    cases present
    have alive := (delivers samples other sample interested sinks disconnected session
      sending some_sample parked found waits).1
    simp only [Session.trySend, alive, Bool.not_true, Bool.false_eq_true, ↓reduceIte] at gone
    split at gone <;> cases gone
  · exact rest

end Sending

theorem Served.fanOut (served : daemon.Served id) (taken : daemon.fanOut = some next)
    (delivers : daemon.Delivers id .fanOut) : next.Served id := by
  unfold Daemon.fanOut at taken
  split at taken
  · rename_i samples disconnected sampler
    cases taken
    apply served.mapSessions
    · intro client session
      unfold deregistered
      split <;> exact ⟨rfl, rfl, rfl⟩
    · intro client pending
      rw [sampler] at pending
      exact absurd pending.1 List.not_mem_nil
  · rename_i samples client sinks disconnected sampler
    obtain ⟨session, found, passed⟩ := Option.bind_eq_some_iff.mp taken
    obtain ⟨_, rfl⟩ := Run.enabled_eq_some.mp passed
    exact served.filtered sampler found
  · rename_i samples client sinks disconnected sampler
    cases taken
    apply served.moveOn
    intro other held _ _ _ pending
    rw [sampler] at pending
    rcases pending with ⟨_, sample, inside, _⟩ | rest
    · cases inside
    · exact rest
  · rename_i samples client sample interested sinks disconnected sampler
    obtain ⟨session, found, rfl⟩ := Option.map_eq_some_iff.mp taken
    split
    · rename_i sent accepted
      rw [Session.trySend_ok accepted]
      exact served.sent sampler found
    · rename_i full
      exact served.dropped sampler found full delivers
    · rename_i gone
      exact served.gone sampler found gone delivers
  · cases taken

/-- One step of the delivery argument. -/
theorem step_served {label : Step} (taken : daemon.step label = some next)
    (delivers : daemon.Delivers id label) (served : daemon.Served id) : next.Served id := by
  cases label <;>
    simp only [step, Option.bind_eq_some_iff, Run.enabled_eq_some, Option.some.injEq] at taken
  case connect client =>
    obtain ⟨_, rfl⟩ := taken
    refine served.session rfl rfl (NeverParks.refl _ id) (fun _ member => by cases member) ?_
    rintro ⟨_, token, member, _⟩
    cases member
  case subscribe client sensors rateHz =>
    obtain ⟨session, found, ⟨serving, _⟩, rfl⟩ := taken
    exact served.subscribed found serving sensors rateHz
  case unsubscribe client sensors =>
    obtain ⟨session, found, serving, rfl⟩ := taken
    exact served.withSession found (session.takeSensors_tracked sensors)
      (Session.takeSensors_awaits serving)
  case unsubscribed client =>
    obtain ⟨session, found, ⟨unsubscribing, _⟩, rfl⟩ := taken
    refine served.released found fun _ => ?_
    rw [unsubscribing]
    rfl
  case disconnect client =>
    obtain ⟨session, found, _, rfl⟩ := taken
    exact served.withSession found (served.tracked client session found)
      fun waits => by cases waits.1
  case pump client =>
    obtain ⟨session, found, _, rfl⟩ := taken
    exact served.withSession found (served.tracked client session found) fun waits => waits
  case pumpExit client =>
    obtain ⟨session, found, _, rfl⟩ := taken
    exact served.withSession found (served.tracked client session found) fun waits => waits
  case deregister client =>
    obtain ⟨session, found, _, rfl⟩ := taken
    exact served.withSession found (served.tracked client session found)
      fun waits => by cases waits.1
  case drain client =>
    obtain ⟨session, found, _, rfl⟩ := taken
    exact served.withSession found (fun _ member => by cases member)
      fun waits => absurd waits session.not_awaits_drain
  case release client =>
    obtain ⟨session, found, _, rfl⟩ := taken
    exact served.released found fun live => by cases live
  case broadcast infos =>
    subst taken
    exact served.mapSessions (fun _ session => session.broadcast_awaiting infos)
      fun _ pending => pending
  case tickPlan now =>
    obtain ⟨⟨idle, _⟩, rfl⟩ := taken
    have never : NeverParks daemon.scheduler (daemon.scheduler.tickPlan now).1 id :=
      Scheduler.tickPlan_neverParks fun entry found => (delivers entry found).1
    refine ⟨never.static served.static, served.tracked, ?_⟩
    intro client session found waits
    have unparked := served.unparked (by simp [idle, SamplerPhase.PendingFor]) found waits
    exact Or.inl (never.unparked served.static unparked)
  case tickCommit results =>
    split at taken
    · rename_i now plan sampling
      obtain ⟨⟨returned, _⟩, rfl⟩ := Run.enabled_eq_some.mp taken
      exact served.committed sampling returned delivers
    · cases taken
  case snapshotSinks sinks =>
    split at taken
    · rename_i samples committed
      obtain ⟨all, rfl⟩ := Run.enabled_eq_some.mp taken
      exact served.snapshot committed all delivers
    · cases taken
  case fanOut => exact served.fanOut taken delivers

/-- Between two ticks, a live client's token of a static sensor was either
served with a sample since it entered the ledger, or the sensor is not parked. -/
theorem static_reaches_subscribers {descriptors : List SensorDescriptor} {daemon : Daemon}
    {id : SensorId} {labels : List Step} (static : isStaticSensor descriptors id = true)
    (run : Run.exec step (new descriptors) labels = some daemon)
    (delivers : Run.Always step (fun state label => state.Delivers id label) (new descriptors) labels)
    (between : daemon.sampler = .idle) {client : Nat} {session : Session} {token : Subscription}
    (found : daemon.sessions.lookup client = some session) (live : session.phase.live = true)
    (held : session.subscriptions.holds token = true) (sensor : token.sensor = id) :
    token ∉ session.awaiting ∨
      ∃ entry, daemon.scheduler.entries.lookup id = some entry ∧
        entry.nextDueAtMicros ≠ u64Max := by
  have start : (new descriptors).Served id :=
    ⟨⟨static, fun _ absent => nomatch absent⟩, fun _ _ absent => (nomatch absent),
      fun _ _ absent => nomatch absent⟩
  have served : daemon.Served id :=
    Run.exec_invariant_of_always (fun state => state.Served id)
      (fun _ _ _ taken allowed valid => step_served taken allowed valid) run delivers start
  by_cases waits : token ∈ session.awaiting
  · right
    have unparked := served.unparked (by simp [between, SamplerPhase.PendingFor]) found
      ⟨live, token, waits, sensor⟩
    have balanced := reachable_balanced ⟨labels, run⟩
    obtain ⟨entry, present⟩ := KeyMap.exists_lookup (balanced.mem_of_holds found held)
    rw [sensor] at present
    exact ⟨entry, present, fun parked => unparked ⟨entry, present, parked⟩⟩
  · exact Or.inl waits

/-- The condition of a step, evaluated. -/
def delivers (id : SensorId) (daemon : Daemon) : Step → Bool
  | .tickPlan now => (daemon.scheduler.entries.lookup id).all fun entry =>
      decide (AvoidsPark now entry.periodMicros)
  | .tickCommit _ =>
      match daemon.sampler with
      | .sampling now _ => (daemon.scheduler.entries.lookup id).all fun entry =>
          decide (AvoidsPark now entry.periodMicros)
      | _ => true
  | .snapshotSinks _ => daemon.sessions.entries.all fun entry => entry.2.registered
  | .fanOut => daemon.sessions.entries.all fun entry =>
      entry.2.pumpAlive && decide (entry.2.queue.length < outboundQueueCap)
  | _ => true

theorem delivers_sound (id : SensorId) (daemon : Daemon) (label : Step)
    (passed : delivers id daemon label = true) : daemon.Delivers id label := by
  have every {client : Nat} {session : Session} {test : (Sigma fun _ : Nat => Session) → Bool}
      (all : daemon.sessions.entries.all test = true)
      (found : daemon.sessions.lookup client = some session) : test ⟨client, session⟩ = true :=
    List.all_eq_true.mp all _ ((KeyMap.mem_entries_iff _ _ _).mpr found)
  cases label with
  | tickPlan now =>
      intro entry found
      rw [delivers, found] at passed
      exact of_decide_eq_true passed
  | tickCommit results =>
      intro now plan entry sampling found
      rw [delivers, sampling] at passed
      dsimp only at passed
      rw [found] at passed
      exact of_decide_eq_true passed
  | snapshotSinks sinks =>
      intro samples client session _ _ _ found _
      exact every passed found
  | fanOut =>
      intro samples client sample rest sinks disconnected session _ _ _ found _
      obtain ⟨alive, room⟩ := (Bool.and_eq_true _ _).mp (every passed found)
      exact ⟨alive, fun _ => of_decide_eq_true room⟩
  | _ => trivial

/-- Two clients of the installed memory and one tick, whose sample is sent to both. -/
def memTotalTick : List Step :=
  [.connect 0, .connect 1, .subscribe 0 [memTotalBytes.id] none,
    .subscribe 1 [memTotalBytes.id] none, .tickPlan 1000000,
    .tickCommit [(⟨memTotalBytes.id⟩, .ok ⟨memTotalBytes.id, 1000000, .scalar (.finite 1)⟩)],
    .snapshotSinks [1, 0], .fanOut, .fanOut, .fanOut, .fanOut, .fanOut, .fanOut, .fanOut]

/-- Behind the tick the sensor is parked, so the second client has got the sample. -/
theorem static_reaches_both : ∃ daemon session entry,
    Run.exec step (new [memTotalBytes]) memTotalTick = some daemon ∧
    daemon.sessions.lookup 1 = some session ∧
    daemon.scheduler.entries.lookup memTotalBytes.id = some entry ∧
    entry.nextDueAtMicros = u64Max ∧ ⟨memTotalBytes.id, 9999999⟩ ∉ session.awaiting := by
  have ran : ((Run.exec step (new [memTotalBytes]) memTotalTick).bind fun daemon =>
      (daemon.sessions.lookup 1).bind fun session =>
        (daemon.scheduler.entries.lookup memTotalBytes.id).map fun entry =>
          (daemon.sampler, session.phase,
            session.subscriptions.holds ⟨memTotalBytes.id, 9999999⟩, entry.nextDueAtMicros)) =
      some (.idle, .serving, true, u64Max) := by decide +kernel
  simp only [Option.bind_eq_some_iff, Option.map_eq_some_iff, Prod.mk.injEq] at ran
  obtain ⟨daemon, run, session, found, entry, present, idle, serving, held, parked⟩ := ran
  refine ⟨daemon, session, entry, run, found, present, parked, ?_⟩
  have always : Run.Always step (fun state label => state.Delivers memTotalBytes.id label)
      (new [memTotalBytes]) memTotalTick :=
    Run.Always.of_check (delivers_sound memTotalBytes.id) (by decide +kernel)
  rcases static_reaches_subscribers (by decide) run always idle found (by rw [serving]; rfl) held
    rfl with served | ⟨other, stored, unparked⟩
  · exact served
  · rw [present] at stored
    cases stored
    exact absurd parked unparked

/-- A client whose queue is full of catalogue broadcasts misses the one sample
of the installed memory: the sensor is parked and the client still awaits it. -/
theorem static_sample_lost :
    (Run.exec step (new [memTotalBytes])
      (.connect 0 :: (List.replicate outboundQueueCap (.broadcast []) ++
        [.subscribe 0 [memTotalBytes.id] none, .tickPlan 1000000,
          .tickCommit [(⟨memTotalBytes.id⟩, .ok ⟨memTotalBytes.id, 1000000, .scalar (.finite 1)⟩)],
          .snapshotSinks [0], .fanOut, .fanOut, .fanOut, .fanOut]))).map
      (fun daemon => (daemon.sampler,
        (daemon.scheduler.entries.lookup memTotalBytes.id).map (·.nextDueAtMicros),
        (daemon.sessions.lookup 0).map fun session =>
          (session.phase, session.subscriptions.holds ⟨memTotalBytes.id, 9999999⟩,
            decide (⟨memTotalBytes.id, 9999999⟩ ∈ session.awaiting)))) =
    some (.idle, some u64Max, some (.serving, true, true)) := by
  decide +kernel

end Daemon

end LinSight
