import LinSight.Daemon.Balance
import LinSight.Daemon.NicknamePersistence

set_option autoImplicit false

/-! The catalogues that clients are sent after a nickname change. -/

namespace LinSight

namespace Daemon

variable {daemon next : Daemon}

/-- The sink of the client is in the client map. -/
def Registered (daemon : Daemon) (client : Nat) : Prop :=
  ∃ session, daemon.sessions.lookup client = some session ∧ session.registered = true

section Registered

theorem Registered.of_insert {client other : Nat} {old session : Session}
    (found : daemon.sessions.lookup client = some old)
    (sessions : next.sessions = daemon.sessions.insert client session)
    (kept : session.registered = true → old.registered = true)
    (registered : next.Registered other) : daemon.Registered other := by
  obtain ⟨held, present, sink⟩ := registered
  rw [sessions, KeyMap.lookup_insert_eq] at present
  split at present
  · rename_i same
    cases present
    exact ⟨old, same ▸ found, kept sink⟩
  · exact ⟨held, present, sink⟩

theorem Registered.of_map {f : Nat → Session → Session} {client : Nat}
    (sessions : next.sessions = KeyMap.mapValues f daemon.sessions)
    (kept : ∀ client session, (f client session).registered = true → session.registered = true)
    (registered : next.Registered client) : daemon.Registered client := by
  obtain ⟨held, present, sink⟩ := registered
  rw [sessions, KeyMap.lookup_mapValues, Option.map_eq_some_iff] at present
  obtain ⟨session, found, same⟩ := present
  exact ⟨session, found, kept client session (same ▸ sink)⟩

theorem subscribeAll_registered (scheduler : Scheduler) (session : Session)
    (sensors : List SensorId) (rateHz : Option Ieee.Value) :
    (subscribeAll scheduler session sensors rateHz).session.registered = session.registered ∧
      (subscribeAll scheduler session sensors rateHz).scheduler.descriptors =
        scheduler.descriptors := by
  refine ⟨?_, subscribeAll_descriptors scheduler session sensors rateHz⟩
  unfold subscribeAll
  generalize start : (⟨scheduler, session, [], false⟩ : Subscribing) = state
  have registered : state.session.registered = session.registered := by rw [← start]
  clear start
  induction sensors generalizing state with
  | nil => exact registered
  | cons sensor rest ih =>
      have one : (subscribeEach rateHz state sensor).session.registered =
          state.session.registered := by
        unfold subscribeEach
        split
        · rfl
        · split
          · rfl
          · rfl
          · split <;> rfl
      exact ih _ (one.trans registered)

theorem trySend_registered {session sent : Session} {msg : OutboundMsg}
    (accepted : session.trySend msg = .ok sent) : sent.registered = session.registered := by
  unfold Session.trySend at accepted
  split at accepted
  · cases accepted
  · split at accepted
    · cases accepted
    · cases accepted
      rfl

theorem Registered.of_fanOut (taken : daemon.fanOut = some next) {client : Nat}
    (registered : next.Registered client) : daemon.Registered client := by
  unfold Daemon.fanOut at taken
  split at taken
  · rename_i disconnected delivering
    cases taken
    refine registered.of_map rfl ?_
    intro other session sink
    unfold deregistered at sink
    split at sink
    · cases sink
    · exact sink
  · obtain ⟨session, _, passed⟩ := Option.bind_eq_some_iff.mp taken
    obtain ⟨_, rfl⟩ := Run.enabled_eq_some.mp passed
    exact registered
  · cases taken
    exact registered
  · obtain ⟨session, found, rfl⟩ := Option.map_eq_some_iff.mp taken
    split at registered
    · rename_i sent accepted
      exact registered.of_insert found rfl fun sink => trySend_registered accepted ▸ sink
    · exact registered
    · exact registered
  · cases taken

/-- Only a new connection puts a sink into the client map, and no step changes the catalogue
of the plugin host. -/
theorem step_registered {label : Step} (taken : daemon.step label = some next) :
    next.scheduler.descriptors = daemon.scheduler.descriptors ∧
      ∀ client, next.Registered client → daemon.Registered client ∨ label = .connect client := by
  cases label <;>
    simp only [step, Option.bind_eq_some_iff, Run.enabled_eq_some, Option.some.injEq] at taken
  case connect client =>
    obtain ⟨absent, rfl⟩ := taken
    refine ⟨rfl, fun other registered => ?_⟩
    by_cases same : other = client
    · exact .inr (same ▸ rfl)
    · obtain ⟨session, found, sink⟩ := registered
      rw [lookup_withSession, if_neg same] at found
      exact .inl ⟨session, found, sink⟩
  case subscribe client sensors rateHz =>
    obtain ⟨session, found, _, rfl⟩ := taken
    obtain ⟨same, descriptors⟩ :=
      subscribeAll_registered daemon.scheduler session sensors rateHz
    refine ⟨descriptors, fun other registered => .inl (registered.of_insert found rfl ?_)⟩
    intro sink
    rw [← same]
    split at sink <;> exact sink
  case unsubscribe client sensors =>
    obtain ⟨session, found, _, rfl⟩ := taken
    refine ⟨rfl, fun other registered => .inl (registered.of_insert found rfl ?_)⟩
    exact fun sink => sink
  case unsubscribed client =>
    obtain ⟨session, found, _, rfl⟩ := taken
    refine ⟨unsubscribeAll_descriptors _ _,
      fun other registered => .inl (registered.of_insert found rfl ?_)⟩
    exact fun sink => sink
  case disconnect client =>
    obtain ⟨session, found, _, rfl⟩ := taken
    refine ⟨rfl, fun other registered => .inl (registered.of_insert found rfl ?_)⟩
    exact fun sink => sink
  case pump client =>
    obtain ⟨session, found, _, rfl⟩ := taken
    refine ⟨rfl, fun other registered => .inl (registered.of_insert found rfl ?_)⟩
    exact fun sink => sink
  case pumpExit client =>
    obtain ⟨session, found, _, rfl⟩ := taken
    refine ⟨rfl, fun other registered => .inl (registered.of_insert found rfl ?_)⟩
    exact fun sink => sink
  case deregister client =>
    obtain ⟨session, found, _, rfl⟩ := taken
    refine ⟨rfl, fun other registered => .inl (registered.of_insert found rfl ?_)⟩
    exact fun sink => by cases sink
  case drain client =>
    obtain ⟨session, found, _, rfl⟩ := taken
    refine ⟨rfl, fun other registered => .inl (registered.of_insert found rfl ?_)⟩
    exact fun sink => sink
  case release client =>
    obtain ⟨session, found, _, rfl⟩ := taken
    refine ⟨unsubscribeAll_descriptors _ _,
      fun other registered => .inl (registered.of_insert found rfl ?_)⟩
    exact fun sink => sink
  case broadcast infos =>
    cases taken
    refine ⟨rfl, fun other registered => ?_⟩
    left
    apply @Registered.of_map daemon _ (fun _ => Session.broadcast infos) other rfl _ registered
    intro client session sink
    unfold Session.broadcast at sink
    split at sink
    · assumption
    · exact sink
  case tickPlan now =>
    obtain ⟨_, rfl⟩ := taken
    exact ⟨rfl, fun other registered => .inl registered⟩
  case tickCommit results =>
    split at taken
    · obtain ⟨_, rfl⟩ := Run.enabled_eq_some.mp taken
      exact ⟨Scheduler.tickCommit_descriptors _ _ _, fun other registered => .inl registered⟩
    · cases taken
  case snapshotSinks sinks =>
    split at taken
    · obtain ⟨_, rfl⟩ := Run.enabled_eq_some.mp taken
      exact ⟨rfl, fun other registered => .inl registered⟩
    · cases taken
  case fanOut =>
    have same := (fanOut_scheduler taken).1
    exact ⟨by rw [same], fun other registered => .inl (registered.of_fanOut taken)⟩

end Registered

end Daemon

/-- The handler has changed a nickname and will broadcast a catalogue built after the change
to `version`. `built` is the version of the catalogue it has in hand. -/
def HandlerPhase.Catalogues (phase : HandlerPhase) (built version : Nat) : Prop :=
  match phase with
  | .applied | .snapshotted _ _ | .saved | .responded => True
  | .catalogued _ => built = version
  | .received | .finished => False

instance (phase : HandlerPhase) (built version : Nat) :
    Decidable (phase.Catalogues built version) :=
  match phase with
  | .applied | .snapshotted _ _ | .saved | .responded => isTrue trivial
  | .catalogued _ => inferInstanceAs (Decidable (built = version))
  | .received | .finished => isFalse id

/-- The handlers together with the daemon whose clients they broadcast to. The other fields
are read by no step: the version a handler built its catalogue at, the one broadcast last,
the one at which a client connected, and what was last enqueued to a client. -/
structure Catalogues (Text : Type) where
  names : Nicknames Text
  daemon : Daemon
  builtAt : Nat → Nat
  broadcastAt : Option Nat
  connectedAt : Nat → Nat
  lastBroadcast : Nat → Option (List SensorInfo)

namespace Catalogues

inductive Step where
  | names (label : Nicknames.Step)
  | daemon (label : LinSight.Step)

/-- The session's queue takes the broadcast. -/
def takes (session : Session) : Bool :=
  session.registered && session.pumpAlive && decide (session.queue.length < outboundQueueCap)

section Model

variable {Text : Type} (codec : NicknameStore.Codec Text)
  (pluginIdFor : SensorId → Option String)

def start (descriptors : List SensorDescriptor) (manifests : List PluginDevices)
    (file : Option Text) : Catalogues Text where
  names := .start codec manifests file
  daemon := .new descriptors
  builtAt := fun _ => 0
  broadcastAt := none
  connectedAt := fun _ => 0
  lastBroadcast := fun _ => none

/-- What a `SensorListBroadcast` of the current state carries. -/
def catalogue (world : Catalogues Text) : List SensorInfo :=
  buildSensorInfoList pluginIdFor world.daemon.scheduler.descriptors world.names.registry

def stepNames (world : Catalogues Text) (label : Nicknames.Step) : Option (Nicknames Text) :=
  world.names.step codec pluginIdFor world.daemon.scheduler.descriptors label

def broadcast (world : Catalogues Text) (id : Nat) : Option (Catalogues Text) :=
  (world.names.handlers.lookup id).bind fun handler =>
    match handler.phase with
    | .catalogued infos =>
        (world.stepNames codec pluginIdFor (.broadcast id)).bind fun names =>
          (world.daemon.step (.broadcast infos)).map fun daemon =>
            { world with
              names
              daemon
              broadcastAt := some (world.builtAt id)
              lastBroadcast := fun client =>
                if (world.daemon.sessions.lookup client).any takes then some infos
                else world.lastBroadcast client }
    | _ => none

def step (world : Catalogues Text) : Step → Option (Catalogues Text)
  | .names (.broadcast id) => world.broadcast codec pluginIdFor id
  | .names (.catalogue id) =>
      -- the scheduler mutex is taken as well
      if world.daemon.poisoned then none
      else (world.stepNames codec pluginIdFor (.catalogue id)).map fun names =>
        { world with
          names
          builtAt := Function.update world.builtAt id world.names.version }
  | .names label => (world.stepNames codec pluginIdFor label).map fun names => { world with names }
  | .daemon (.broadcast _) => none
  | .daemon (.connect client) =>
      (world.daemon.step (.connect client)).map fun daemon =>
        { world with
          daemon
          connectedAt := Function.update world.connectedAt client world.names.version
          lastBroadcast := Function.update world.lastBroadcast client none }
  | .daemon label => (world.daemon.step label).map fun daemon => { world with daemon }

end Model

section Convergence

variable {Text : Type} {codec : NicknameStore.Codec Text}
  {pluginIdFor : SensorId → Option String} {world next : Catalogues Text}

/-- The handler will broadcast the current catalogue. -/
def Pending (world : Catalogues Text) (id : Nat) : Prop :=
  ∃ handler, world.names.handlers.lookup id = some handler ∧
    handler.phase.Catalogues (world.builtAt id) world.names.version

/-- No broadcast meets a full queue. -/
def QueuesFit (world : Catalogues Text) : Step → Prop
  | .names (.broadcast _) => ∀ client session, world.daemon.sessions.lookup client = some session →
      session.registered = true → session.pumpAlive = true →
      session.queue.length < outboundQueueCap
  | _ => True

/-- Whoever broadcasts an older catalogue or drops out after its change leaves the current
one to another handler; who drops out may also do so after it was broadcast. -/
def InTurn (world : Catalogues Text) : Step → Prop
  | .names (.broadcast id) =>
      world.builtAt id = world.names.version ∨ ∃ other, other ≠ id ∧ world.Pending other
  | .names (.save id (some _)) | .names (.respond id false) =>
      world.broadcastAt = some world.names.version ∨ ∃ other, other ≠ id ∧ world.Pending other
  | _ => True

/-- What a handler in its phase entails. -/
structure HandlerValid (pluginIdFor : SensorId → Option String) (world : Catalogues Text)
    (handler : Handler) (built : Nat) : Prop where
  changed : handler.phase ≠ .received → handler.phase ≠ .finished → 0 < world.names.version
  catalogued : ∀ infos, handler.phase = .catalogued infos → built ≤ world.names.version ∧
    (built = world.names.version → infos = world.catalogue pluginIdFor)

/-- Every client was last sent the last broadcast, which is the current catalogue unless a
handler will still broadcast that. -/
structure Converging (pluginIdFor : SensorId → Option String) (world : Catalogues Text) :
    Prop where
  handlers : ∀ id handler, world.names.handlers.lookup id = some handler →
    world.HandlerValid pluginIdFor handler (world.builtAt id)
  progress : world.names.version = 0 ∨ world.broadcastAt = some world.names.version ∨
    ∃ id, world.Pending id
  sent : ∀ at_, world.broadcastAt = some at_ → at_ ≤ world.names.version ∧
    ∃ infos, world.names.broadcasts.getLast? = some infos ∧
      (at_ = world.names.version → infos = world.catalogue pluginIdFor)
  unsent : world.names.version = 0 ∨ world.broadcastAt = none → world.names.broadcasts = []
  clients : ∀ client, world.daemon.Registered client →
    world.connectedAt client ≤ world.names.version ∧
    (world.lastBroadcast client = none → ∀ at_, world.broadcastAt = some at_ →
      at_ ≤ world.connectedAt client) ∧
    ∀ infos, world.lastBroadcast client = some infos →
      world.names.broadcasts.getLast? = some infos

theorem HandlerValid.done {handler : Handler} {built : Nat} (finished : handler.phase = .finished) :
    world.HandlerValid pluginIdFor handler built where
  changed _ working := absurd finished working
  catalogued _ same := by
    rw [finished] at same
    cases same

/-- A handler in hand of no catalogue. -/
theorem HandlerValid.of_phase {handler : Handler} {built : Nat}
    (changed : handler.phase ≠ .received → 0 < world.names.version)
    (empty : ∀ infos, handler.phase ≠ .catalogued infos) :
    world.HandlerValid pluginIdFor handler built where
  changed started _ := changed started
  catalogued infos same := absurd same (empty infos)

theorem Pending.other {names : Nicknames Text} {builtAt : Nat → Nat} {id other : Nat}
    {handler : Handler} (pending : world.Pending other) (differs : other ≠ id)
    (handlers : names.handlers = world.names.handlers.insert id handler)
    (version : names.version = world.names.version)
    (built : ∀ other, other ≠ id → builtAt other = world.builtAt other) :
    ∃ held, names.handlers.lookup other = some held ∧
      held.phase.Catalogues (builtAt other) names.version := by
  obtain ⟨held, found, owes⟩ := pending
  refine ⟨held, ?_, ?_⟩
  · rw [handlers, KeyMap.lookup_insert_eq, if_neg differs]
    exact found
  · rw [built other differs, version]
    exact owes

/-- Steps that only move one handler. -/
theorem Converging.update (converging : world.Converging pluginIdFor) {names : Nicknames Text}
    {builtAt : Nat → Nat} {id : Nat} {handler : Handler}
    (handlers : names.handlers = world.names.handlers.insert id handler)
    (registry : names.registry = world.names.registry)
    (version : names.version = world.names.version)
    (broadcasts : names.broadcasts = world.names.broadcasts)
    (built : ∀ other, other ≠ id → builtAt other = world.builtAt other)
    (valid : world.HandlerValid pluginIdFor handler (builtAt id))
    (owes : world.Pending id → handler.phase.Catalogues (builtAt id) world.names.version ∨
      world.broadcastAt = some world.names.version ∨ ∃ other, other ≠ id ∧ world.Pending other) :
    ({ world with names, builtAt } : Catalogues Text).Converging pluginIdFor := by
  have same : ({ world with names, builtAt } : Catalogues Text).catalogue pluginIdFor =
      world.catalogue pluginIdFor := by
    unfold catalogue
    rw [registry]
  have here : names.handlers.lookup id = some handler := by
    rw [handlers, KeyMap.lookup_insert_eq, if_pos rfl]
  have moved : ∀ handler built, world.HandlerValid pluginIdFor handler built →
      ({ world with names, builtAt } : Catalogues Text).HandlerValid pluginIdFor handler built := by
    intro handler built valid
    constructor
    · simp only [version]
      exact valid.changed
    · intro infos catalogued
      simp only [version, same]
      exact valid.catalogued infos catalogued
  constructor
  · intro other held found
    apply moved
    by_cases own : other = id
    · subst own
      simp only [here, Option.some.injEq] at found
      exact found ▸ valid
    · simp only [handlers, KeyMap.lookup_insert_eq, if_neg own] at found
      simp only [built other own]
      exact converging.handlers other held found
  · simp only [version]
    have kept : ∀ other, other ≠ id → world.Pending other →
        ({ world with names, builtAt } : Catalogues Text).Pending other :=
      fun other differs pending => pending.other differs handlers version built
    rcases converging.progress with zero | current | ⟨other, pending⟩
    · exact .inl zero
    · exact .inr (.inl current)
    · by_cases own : other = id
      · subst own
        rcases owes pending with still | current | ⟨another, differs, pending⟩
        · exact .inr (.inr ⟨other, handler, here, by simp only [version]; exact still⟩)
        · exact .inr (.inl current)
        · exact .inr (.inr ⟨another, kept another differs pending⟩)
      · exact .inr (.inr ⟨other, kept other own pending⟩)
  · simp only [version, broadcasts, same]
    exact converging.sent
  · simp only [version, broadcasts]
    exact converging.unsent
  · simp only [version, broadcasts]
    exact converging.clients

/-- A change opens a new version, which its handler will broadcast. -/
theorem Converging.changed (converging : world.Converging pluginIdFor) {names : Nicknames Text}
    {id : Nat} {handler : Handler}
    (handlers : names.handlers = world.names.handlers.insert id handler)
    (applied : handler.phase = .applied)
    (version : names.version = world.names.version + 1)
    (broadcasts : names.broadcasts = world.names.broadcasts) :
    ({ world with names } : Catalogues Text).Converging pluginIdFor := by
  have here : names.handlers.lookup id = some handler := by
    rw [handlers, KeyMap.lookup_insert_eq, if_pos rfl]
  constructor
  · intro other held found
    constructor
    · intro _ _
      simp only [version]
      omega
    · intro infos catalogued
      by_cases own : other = id
      · subst own
        simp only [here, Option.some.injEq] at found
        rw [← found, applied] at catalogued
        cases catalogued
      · simp only [handlers, KeyMap.lookup_insert_eq, if_neg own] at found
        have older := ((converging.handlers other held found).catalogued infos catalogued).1
        simp only [version]
        exact ⟨by omega, fun current => by omega⟩
  · have owes : handler.phase.Catalogues (world.builtAt id) names.version := by
      rw [applied]
      trivial
    exact .inr (.inr ⟨id, handler, here, owes⟩)
  · intro at_ stored
    obtain ⟨bounded, infos, last, _⟩ := converging.sent at_ stored
    simp only [version, broadcasts]
    exact ⟨by omega, infos, last, fun current => by omega⟩
  · simp only [version, broadcasts]
    rintro (zero | never)
    · omega
    · exact converging.unsent (.inr never)
  · intro client registered
    obtain ⟨bounded, rest⟩ := converging.clients client registered
    simp only [version, broadcasts]
    exact ⟨by omega, rest⟩

/-- A broadcast reaches every client that stays registered. -/
theorem Converging.broadcast (converging : world.Converging pluginIdFor) {names : Nicknames Text}
    {daemon : Daemon} {id : Nat} {handler finished : Handler} {infos : List SensorInfo}
    (found : world.names.handlers.lookup id = some handler)
    (catalogued : handler.phase = .catalogued infos)
    (handlers : names.handlers = world.names.handlers.insert id finished)
    (done : finished.phase = .finished)
    (registry : names.registry = world.names.registry)
    (version : names.version = world.names.version)
    (broadcasts : names.broadcasts = world.names.broadcasts ++ [infos])
    (sent : world.daemon.step (.broadcast infos) = some daemon)
    (fits : world.QueuesFit (.names (.broadcast id))) (turn : world.InTurn (.names (.broadcast id))) :
    ({ world with
      names
      daemon
      broadcastAt := some (world.builtAt id)
      lastBroadcast := fun client =>
        if (world.daemon.sessions.lookup client).any takes then some infos
        else world.lastBroadcast client } : Catalogues Text).Converging pluginIdFor := by
  have valid := converging.handlers id handler found
  obtain ⟨bounded, current⟩ := valid.catalogued infos catalogued
  have positive : 0 < world.names.version := by
    apply valid.changed <;> rw [catalogued] <;> exact fun same => nomatch same
  have sessions : daemon = { world.daemon with
      sessions := KeyMap.mapValues (fun _ => Session.broadcast infos) world.daemon.sessions } :=
    (Option.some.inj sent).symm
  have same : buildSensorInfoList pluginIdFor daemon.scheduler.descriptors names.registry =
      world.catalogue pluginIdFor := by
    rw [registry, sessions]
    rfl
  constructor
  · intro other held present
    by_cases own : other = id
    · subst own
      simp only [handlers, KeyMap.lookup_insert_eq, if_true, Option.some.injEq] at present
      exact .done (present ▸ done)
    · simp only [handlers, KeyMap.lookup_insert_eq, if_neg own] at present
      have old := converging.handlers other held present
      constructor
      · simp only [version]
        exact old.changed
      · intro infos in_hand
        simp only [version, catalogue, same]
        exact old.catalogued infos in_hand
  · simp only [version]
    rcases turn with up_to_date | ⟨other, differs, pending⟩
    · exact .inr (.inl (congrArg some up_to_date))
    · exact .inr (.inr ⟨other, pending.other differs handlers version fun _ _ => rfl⟩)
  · intro at_ stored
    cases stored
    simp only [version, broadcasts, catalogue, same]
    exact ⟨bounded, infos, List.getLast?_concat, current⟩
  · rintro (zero | never)
    · simp only [version] at zero
      omega
    · cases never
  · intro client registered
    obtain ⟨after, present, sink⟩ := registered
    simp only [sessions, KeyMap.lookup_mapValues, Option.map_eq_some_iff] at present
    obtain ⟨before, held, same_session⟩ := present
    subst same_session
    have taken : takes before = true := by
      unfold Session.broadcast at sink
      split at sink
      · rename_i before_registered
        have alive : before.pumpAlive = true := by
          by_contra dead
          have gone : before.trySend (.sensorListBroadcast infos) = .disconnected := by
            simp [Session.trySend, dead]
          rw [gone] at sink
          cases sink
        have room := fits client before held before_registered alive
        simp [takes, before_registered, alive, room]
      · rename_i unregistered
        exact absurd sink unregistered
    have was : world.daemon.Registered client := by
      refine ⟨before, held, ?_⟩
      simp only [takes, Bool.and_eq_true] at taken
      exact taken.1.1
    simp only [version, broadcasts, held, Option.any_some, taken, if_true]
    refine ⟨(converging.clients client was).1, fun none => (nomatch none), ?_⟩
    intro infos' last
    cases last
    exact List.getLast?_concat

/-- Steps of the daemon that broadcast nothing. -/
theorem Converging.daemon (converging : world.Converging pluginIdFor) {daemon : Daemon}
    {connectedAt : Nat → Nat} {lastBroadcast : Nat → Option (List SensorInfo)}
    (descriptors : daemon.scheduler.descriptors = world.daemon.scheduler.descriptors)
    (clients : ∀ client, daemon.Registered client →
      (world.daemon.Registered client ∧ connectedAt client = world.connectedAt client ∧
        lastBroadcast client = world.lastBroadcast client) ∨
      connectedAt client = world.names.version ∧ lastBroadcast client = none) :
    ({ world with daemon, connectedAt, lastBroadcast } : Catalogues Text).Converging
      pluginIdFor := by
  have same : buildSensorInfoList pluginIdFor daemon.scheduler.descriptors world.names.registry =
      world.catalogue pluginIdFor := by
    rw [descriptors]
    rfl
  constructor
  · intro id handler found
    have old := converging.handlers id handler found
    refine ⟨old.changed, ?_⟩
    simp only [catalogue, same]
    exact old.catalogued
  · exact converging.progress
  · simp only [catalogue, same]
    exact converging.sent
  · exact converging.unsent
  · intro client registered
    rcases clients client registered with ⟨was, connected, last⟩ | ⟨connected, last⟩
    · simp only [connected, last]
      exact converging.clients client was
    · simp only [connected, last]
      refine ⟨Nat.le_refl _, fun _ at_ stored => (converging.sent at_ stored).1, ?_⟩
      exact fun _ none => nomatch none

/-- The request is checked and, where it is accepted, opens a new version. -/
theorem Converging.applyChange (converging : world.Converging pluginIdFor) {id : Nat}
    {handler : Handler} (found : world.names.handlers.lookup id = some handler)
    (received : handler.phase = .received) :
    ({ world with names := world.names.applyChange id handler } : Catalogues Text).Converging
      pluginIdFor := by
  have idle : ¬ world.Pending id := by
    rintro ⟨held, present, owes⟩
    rw [found] at present
    cases present
    rw [received] at owes
    exact owes
  have refused : ∀ code message, ({ world with
      names := world.names.withHandler id (handler.refuse code message) } :
        Catalogues Text).Converging pluginIdFor := fun code message =>
    converging.update rfl rfl rfl rfl (fun _ _ => rfl) (.done rfl) fun owes => absurd owes idle
  unfold Nicknames.applyChange
  split
  · exact refused _ _
  · split
    · exact refused _ _
    · split
      · exact refused _ _
      · exact converging.changed rfl rfl rfl rfl

/-- A handler that moves on keeps what it owes, or leaves it to another one. -/
theorem Converging.move (converging : world.Converging pluginIdFor) {id : Nat}
    {handler next : Handler} (found : world.names.handlers.lookup id = some handler)
    (started : handler.phase ≠ .received) (working : handler.phase ≠ .finished)
    (empty : ∀ infos, next.phase ≠ .catalogued infos) {file : Option Text}
    {savedVersion : Option Nat}
    (owes : next.phase.Catalogues (world.builtAt id) world.names.version ∨
      world.broadcastAt = some world.names.version ∨ ∃ other, other ≠ id ∧ world.Pending other) :
    ({ world with names := { world.names.withHandler id next with file, savedVersion } } :
      Catalogues Text).Converging pluginIdFor := by
  refine converging.update rfl rfl rfl rfl (fun _ _ => rfl) ?_ fun _ => owes
  refine HandlerValid.of_phase ?_ empty
  exact fun _ => (converging.handlers id handler found).changed started working

theorem Converging.daemon_step {label : LinSight.Step}
    (taken : world.step codec pluginIdFor (.daemon label) = some next)
    (converging : world.Converging pluginIdFor) : next.Converging pluginIdFor := by
  cases label
  case broadcast infos => cases taken
  case connect client =>
    obtain ⟨daemon, connected, rfl⟩ := Option.map_eq_some_iff.mp taken
    obtain ⟨descriptors, registered⟩ := Daemon.step_registered connected
    apply converging.daemon descriptors
    intro other sink
    by_cases own : other = client
    · subst own
      exact .inr ⟨Function.update_self _ _ _, Function.update_self _ _ _⟩
    · refine .inl ⟨(registered other sink).resolve_right ?_, Function.update_of_ne own _ _,
        Function.update_of_ne own _ _⟩
      intro same
      cases same
      exact own rfl
  all_goals
    obtain ⟨daemon, moved, rfl⟩ := Option.map_eq_some_iff.mp taken
    obtain ⟨descriptors, registered⟩ := Daemon.step_registered moved
    apply converging.daemon descriptors
    intro other sink
    exact .inl ⟨(registered other sink).resolve_right (fun same => by cases same), rfl, rfl⟩

/-- A catalogue is built of the names as they are. -/
theorem Converging.catalogued {id : Nat}
    (taken : world.step codec pluginIdFor (.names (.catalogue id)) = some next)
    (converging : world.Converging pluginIdFor) : next.Converging pluginIdFor := by
  simp only [step] at taken
  split at taken
  · cases taken
  · obtain ⟨names, moved, rfl⟩ := Option.map_eq_some_iff.mp taken
    simp only [stepNames, Nicknames.step, Option.bind_eq_some_iff] at moved
    obtain ⟨handler, found, moved⟩ := moved
    split at moved <;> cases moved
    rename_i responded
    have positive : 0 < world.names.version := by
      apply (converging.handlers id handler found).changed <;> rw [responded] <;>
        exact fun same => by cases same
    refine converging.update rfl rfl rfl rfl
      (fun other differs => Function.update_of_ne differs _ _) ?_ fun _ => .inl ?_
    · constructor
      · exact fun _ _ => positive
      · intro infos same
        cases same
        rw [Function.update_self]
        exact ⟨Nat.le_refl _, fun _ => rfl⟩
    · exact Function.update_self _ _ _

/-- Every step in turn, with room in the queues, keeps the clients converging. -/
theorem step_converging {label : Step} (taken : world.step codec pluginIdFor label = some next)
    (fits : world.QueuesFit label) (turn : world.InTurn label)
    (converging : world.Converging pluginIdFor) : next.Converging pluginIdFor := by
  cases label with
  | daemon label => exact converging.daemon_step taken
  | names label =>
      cases label
      case broadcast id =>
        obtain ⟨handler, found, taken⟩ := Option.bind_eq_some_iff.mp taken
        split at taken
        · rename_i infos catalogued
          obtain ⟨names, moved, taken⟩ := Option.bind_eq_some_iff.mp taken
          obtain ⟨daemon, sent, rfl⟩ := Option.map_eq_some_iff.mp taken
          simp only [stepNames, Nicknames.step, found, Option.bind_some, catalogued,
            Option.some.injEq] at moved
          subst moved
          exact converging.broadcast found catalogued rfl rfl rfl rfl rfl sent fits turn
        · cases taken
      case catalogue id => exact converging.catalogued taken
      all_goals
        obtain ⟨names, moved, rfl⟩ := Option.map_eq_some_iff.mp taken
        simp only [stepNames, Nicknames.step, Option.bind_eq_some_iff, Run.enabled_eq_some] at moved
      case receive id deviceKey value =>
        obtain ⟨absent, rfl⟩ := moved
        refine converging.update rfl rfl rfl rfl (fun _ _ => rfl) ?_ ?_
        · refine HandlerValid.of_phase (fun started => absurd rfl started) ?_
          exact fun _ same => by cases same
        · rintro ⟨held, present, _⟩
          rw [absent] at present
          cases present
      case setNickname id =>
        obtain ⟨handler, found, moved⟩ := moved
        split at moved <;> cases moved
        rename_i received
        exact converging.applyChange found received
      case snapshot id =>
        obtain ⟨handler, found, moved⟩ := moved
        split at moved <;> cases moved
        rename_i applied
        have started : handler.phase ≠ .received ∧ handler.phase ≠ .finished := by
          rw [applied]
          exact ⟨fun same => (by cases same), fun same => (by cases same)⟩
        refine converging.move found started.1 started.2 ?_ (.inl trivial)
        exact fun _ same => by cases same
      case save id failure =>
        obtain ⟨handler, found, moved⟩ := moved
        have started : ∀ store version, handler.phase = .snapshotted store version →
            handler.phase ≠ .received ∧ handler.phase ≠ .finished := by
          intro store version snapshotted
          rw [snapshotted]
          exact ⟨fun same => (by cases same), fun same => (by cases same)⟩
        split at moved <;> cases moved
        · rename_i snapshotted
          obtain ⟨begun, working⟩ := started _ _ snapshotted
          refine converging.move found begun working ?_ (.inl trivial)
          exact fun _ same => by cases same
        · rename_i snapshotted
          obtain ⟨begun, working⟩ := started _ _ snapshotted
          refine converging.move found begun working ?_ (.inr turn)
          exact fun _ same => by cases same
      case respond id delivered =>
        obtain ⟨handler, found, moved⟩ := moved
        split at moved <;> cases moved
        rename_i saved made
        have started : handler.phase ≠ .received ∧ handler.phase ≠ .finished := by
          rw [saved]
          exact ⟨fun same => (by cases same), fun same => (by cases same)⟩
        cases delivered with
        | true =>
            refine converging.move found started.1 started.2 ?_ (.inl trivial)
            exact fun _ same => by cases same
        | false =>
            refine converging.move found started.1 started.2 ?_ (.inr turn)
            exact fun _ same => by cases same

theorem start_converging (descriptors : List SensorDescriptor) (manifests : List PluginDevices)
    (file : Option Text) : (start codec descriptors manifests file).Converging pluginIdFor where
  handlers _ _ absent := nomatch absent
  progress := .inl rfl
  sent _ none := nomatch none
  unsent _ := rfl
  clients client registered := by
    obtain ⟨_, absent, _⟩ := registered
    cases absent

/-- Once every handler is done, the last catalogue enqueued to a client is the current one;
a client that was sent none has connected after the last change. -/
theorem clients_converge {descriptors : List SensorDescriptor} {manifests : List PluginDevices}
    {file : Option Text} {labels : List Step}
    (run : Run.exec (step codec pluginIdFor) (start codec descriptors manifests file) labels =
      some world)
    (fits : Run.Always (step codec pluginIdFor) QueuesFit
      (start codec descriptors manifests file) labels)
    (turns : Run.Always (step codec pluginIdFor) InTurn
      (start codec descriptors manifests file) labels)
    (done : ∀ id handler, world.names.handlers.lookup id = some handler →
      handler.phase = .finished) (client : Nat) (registered : world.daemon.Registered client) :
    world.lastBroadcast client = some (world.catalogue pluginIdFor) ∨
      world.lastBroadcast client = none ∧ world.connectedAt client = world.names.version := by
  have converging : world.Converging pluginIdFor :=
    Run.exec_invariant_of_always (Converging pluginIdFor)
      (fun _ _ _ taken allowed inv => step_converging taken allowed.1 allowed.2 inv) run
      (fits.and turns) (start_converging descriptors manifests file)
  obtain ⟨bounded, unsent, sent⟩ := converging.clients client registered
  rcases converging.progress with zero | current | ⟨id, handler, found, owes⟩
  · right
    have silent := converging.unsent (.inl zero)
    refine ⟨?_, by omega⟩
    cases last : world.lastBroadcast client with
    | none => rfl
    | some infos =>
        have stored := sent infos last
        rw [silent] at stored
        cases stored
  · obtain ⟨_, infos, newest, content⟩ := converging.sent _ current
    cases last : world.lastBroadcast client with
    | none =>
        right
        have connected := unsent last _ current
        exact ⟨rfl, by omega⟩
    | some other =>
        left
        have stored := sent other last
        rw [newest] at stored
        rw [← Option.some.inj stored, content rfl]
  · have finished := done id handler found
    rw [finished] at owes
    exact owes.elim

end Convergence

/-- A broadcast goes into the queues that take it, and into no other. -/
theorem broadcast_queue (infos : List SensorInfo) (session : Session) :
    (session.broadcast infos).queue =
      if takes session then session.queue ++ [.sensorListBroadcast infos] else session.queue := by
  unfold Session.broadcast Session.trySend takes
  by_cases registered : session.registered = true
  · by_cases alive : session.pumpAlive = true
    · by_cases room : session.queue.length < outboundQueueCap
      · simp [registered, alive, room, Session.enqueue, Nat.not_le.mpr room]
      · simp [registered, alive, room, Nat.not_lt.mp room]
    · simp [registered, alive]
  · simp [registered]

/-- The one sensor of the processor. -/
def cpuLoad : SensorDescriptor :=
  { memUsedBytes with
    id := ⟨"cpu.util"⟩
    displayName := "CPU utilization"
    unit := .percent
    category := .cpu
    deviceKey := some Nicknames.cpuKey }

def cpuStart : Catalogues NicknameStore :=
  start Nicknames.plainCodec [cpuLoad] Nicknames.cpuManifest none

/-- A request of one handler up to its catalogue. -/
def rename (id : Nat) (nickname : String) : List Step :=
  [.names (.receive id "cpu:0" (some nickname)), .names (.setNickname id), .names (.snapshot id),
    .names (.save id none), .names (.respond id true), .names (.catalogue id)]

/-- The names of the devices in a catalogue. -/
def deviceLabels (infos : List SensorInfo) : List (Option String) := infos.map (·.deviceLabel)

/-- Two handlers that overlap, the older broadcast first. -/
def inOrder : List Step :=
  .daemon (.connect 7) :: rename 0 "old" ++ rename 1 "new" ++
    [.names (.broadcast 0), .daemon (.pump 7), .names (.broadcast 1)]

/-- The handler of the older catalogue broadcasts last. -/
def outOfOrder : List Step :=
  .daemon (.connect 7) :: rename 0 "old" ++ rename 1 "new" ++
    [.names (.broadcast 1), .names (.broadcast 0)]

/-- No queue is full. -/
def queuesFit (world : Catalogues NicknameStore) (_ : Step) : Bool :=
  world.daemon.sessions.entries.all fun entry => entry.2.queue.length < outboundQueueCap

theorem queuesFit_sound (world : Catalogues NicknameStore) (label : Step)
    (passed : queuesFit world label = true) : world.QueuesFit label := by
  unfold QueuesFit
  split
  · intro client session found _ _
    have member := (KeyMap.mem_entries_iff _ _ _).mpr found
    simpa using List.all_eq_true.mp passed _ member
  · trivial

/-- No handler drops out, and who broadcasts an older catalogue leaves another. -/
def inTurn (world : Catalogues NicknameStore) : Step → Bool
  | .names (.broadcast id) => world.builtAt id = world.names.version ||
      world.names.handlers.entries.any fun entry =>
        entry.1 ≠ id && entry.2.phase.Catalogues (world.builtAt entry.1) world.names.version
  | .names (.save _ (some _)) | .names (.respond _ false) => false
  | _ => true

theorem inTurn_sound (world : Catalogues NicknameStore) (label : Step)
    (passed : inTurn world label = true) : world.InTurn label := by
  unfold InTurn
  split
  · rename_i id
    simp only [inTurn, Bool.or_eq_true, decide_eq_true_eq, List.any_eq_true,
      Bool.and_eq_true] at passed
    refine passed.imp_right ?_
    rintro ⟨⟨other, held⟩, member, differs, owes⟩
    exact ⟨other, differs, held, (KeyMap.mem_entries_iff _ _ _).mp member, owes⟩
  · cases passed
  · cases passed
  · trivial

/-- What the two runs are asked for at their end. -/
structure Outcome where
  done : Bool
  registered : Option Bool
  last : Option (List (Option String))
  current : List (Option String)
deriving DecidableEq

def outcome (world : Catalogues NicknameStore) : Outcome where
  done := world.names.handlers.entries.all fun entry => entry.2.phase matches .finished
  registered := (world.daemon.sessions.lookup 7).map (·.registered)
  last := (world.lastBroadcast 7).map deviceLabels
  current := deviceLabels (world.catalogue fun _ => none)

theorem clients_converge_in_order : ∃ world,
    Run.exec (step Nicknames.plainCodec fun _ => none) cpuStart inOrder = some world ∧
      (world.lastBroadcast 7).map deviceLabels = some [some "new"] ∧
      (world.lastBroadcast 7 = some (world.catalogue fun _ => none) ∨
        world.lastBroadcast 7 = none ∧ world.connectedAt 7 = world.names.version) := by
  have ran : (Run.exec (step Nicknames.plainCodec fun _ => none) cpuStart inOrder).map outcome =
      some ⟨true, some true, some [some "new"], [some "new"]⟩ := by
    decide +kernel
  obtain ⟨world, run, shown⟩ := Option.map_eq_some_iff.mp ran
  simp only [outcome, Outcome.mk.injEq] at shown
  obtain ⟨all_done, sink, last, _⟩ := shown
  have registered : world.daemon.Registered 7 := Option.map_eq_some_iff.mp sink
  refine ⟨world, run, last, clients_converge run ?_ ?_ ?_ 7 registered⟩
  · exact Run.Always.of_check queuesFit_sound (by decide +kernel)
  · exact Run.Always.of_check inTurn_sound (by decide +kernel)
  · intro id handler found
    have member := (KeyMap.mem_entries_iff _ _ _).mpr found
    have finished := List.all_eq_true.mp all_done _ member
    dsimp only at finished
    split at finished
    · assumption
    · cases finished

/-- Every handler is done, no queue was full, and the client is left with the old name. -/
theorem client_keeps_old_catalogue : ∃ world,
    Run.exec (step Nicknames.plainCodec fun _ => none) cpuStart outOfOrder = some world ∧
      Run.Always (step Nicknames.plainCodec fun _ => none) QueuesFit cpuStart outOfOrder ∧
      (world.names.handlers.entries.all fun entry => entry.2.phase matches .finished) = true ∧
      world.daemon.Registered 7 ∧
      (world.lastBroadcast 7).map deviceLabels = some [some "old"] ∧
      deviceLabels (world.catalogue fun _ => none) = [some "new"] := by
  have ran : (Run.exec (step Nicknames.plainCodec fun _ => none) cpuStart outOfOrder).map
      outcome = some ⟨true, some true, some [some "old"], [some "new"]⟩ := by
    decide +kernel
  obtain ⟨world, run, shown⟩ := Option.map_eq_some_iff.mp ran
  simp only [outcome, Outcome.mk.injEq] at shown
  obtain ⟨all_done, sink, last, current⟩ := shown
  have fits : Run.Always (step Nicknames.plainCodec fun _ => none) QueuesFit cpuStart outOfOrder :=
    Run.Always.of_check queuesFit_sound (by decide +kernel)
  exact ⟨world, run, fits, all_done, Option.map_eq_some_iff.mp sink, last, current⟩

end Catalogues

end LinSight
