import LinSight.Daemon.Answers
import LinSight.Daemon.NicknamePersistence

set_option autoImplicit false

/-! Every request of a session is answered exactly once, in runs of handlers that get
through. -/

namespace LinSight.Requests

open DebugText (Message)

variable {Store Toml : Type}

section Record

/-- The answer is written before the catalogue is broadcast. -/
def Phase.answered : Phase → Bool
  | .nicknameAnswered => true
  | .catalogued _ => true
  | _ => false

/-- How many stretches a handler takes at most from here. -/
def Phase.stretchesLeft : Phase → Nat
  | .received _ => 5
  | .nicknameApplied _ _ => 4
  | .nicknameSnapshotted _ _ _ => 3
  | .nicknameAnswered => 2
  | .catalogued _ => 1
  | .toggled _ _ => 2
  | .promBindSet _ => 1

/-- The request that is still to be answered. -/
def Outcome.owed (reqId : UInt32) : Outcome → List UInt32
  | .goesOn phase => if phase.answered then [] else [reqId]
  | .ended _ => []

/-- What a handler still owes where it stands. -/
def Handler.owed (handler : Handler) : List UInt32 :=
  if handler.phase.answered then [] else [handler.reqId]

/-- What a stretch goes on with is checked, and nearer to the end. -/
def Outcome.Advances (left : Nat) : Outcome → Prop
  | .goesOn phase => phase.Checked ∧ phase.stretchesLeft < left
  | .ended _ => True

/-- A stretch answers what is no longer owed after it, if it goes well, and leaves the rest
of the record alone. -/
structure Keeps (now : Moment Store) (reqId : UInt32) (due : List UInt32) (left : Nat)
    (result : Moment Store × Outcome) : Prop where
  received : result.1.session.received = now.session.received
  ended : result.1.session.ended = now.session.ended
  answers : result.2.Fine →
    result.1.session.answers.map Prod.fst ++ result.2.owed reqId =
      now.session.answers.map Prod.fst ++ due
  advances : result.2.Advances left

variable {s : Surroundings Store Toml} {now : Moment Store} {reqId : UInt32} {io : Io}
  {guarded : Bool} {handler : Handler} {due : List UInt32} {left : Nat}
  {next : Outcome}

theorem panic_keeps : Keeps now reqId due left (now.panic guarded) :=
  ⟨rfl, rfl, fun fine => fine.elim, trivial⟩

theorem respond_keeps (format : WireFormat s.printable s.toSlice)
    {result : Except ProtoError ResponsePayload} (answers : next.owed reqId = [])
    (advances : next.Advances left) :
    Keeps now reqId [reqId] left (respond s now reqId guarded result next) := by
  rcases @respond_cases _ _ s now reqId guarded result next format with
    ⟨poisoned, panicked⟩ | ⟨free, ⟨large, writer, e, failed⟩ | ⟨fits, writer, written⟩⟩
  · rw [panicked]
    exact panic_keeps
  · rw [failed]
    exact ⟨rfl, rfl, fun fine => fine.elim, trivial⟩
  · rw [written]
    exact ⟨rfl, rfl, fun _ => by simp [answers], advances⟩

/-- A stretch that writes nothing. -/
theorem goesOn_keeps {shared : Shared Store} {phase : Phase}
    (same : (Outcome.goesOn phase).owed reqId = due) (checked : phase.Checked)
    (nearer : phase.stretchesLeft < left) :
    Keeps now reqId due left ({ now with shared }, .goesOn phase) :=
  ⟨rfl, rfl, fun _ => by rw [same], checked, nearer⟩

theorem reply_keeps (format : WireFormat s.printable s.toSlice) {payload : ResponsePayload} :
    Keeps now reqId [reqId] left (reply s now reqId guarded payload) :=
  respond_keeps format rfl trivial

theorem refuse_keeps (format : WireFormat s.printable s.toSlice) {code : ProtoErrorCode}
    {message : Message} : Keeps now reqId [reqId] left (refuse s now reqId guarded code message) :=
  respond_keeps format rfl trivial

/-- What keeps the record of a moment with other shared state keeps that of the moment. -/
theorem Keeps.of_shared {shared : Shared Store}
    {result : Moment Store × Outcome} (kept : Keeps { now with shared } reqId due left result) :
    Keeps now reqId due left result :=
  ⟨kept.received, kept.ended, kept.answers, kept.advances⟩

theorem setNickname_keeps (format : WireFormat s.printable s.toSlice) (deviceKey : String)
    (value : Option String) :
    Keeps now reqId [reqId] 5 (setNickname s now reqId deviceKey value) := by
  unfold setNickname
  split
  · exact refuse_keeps format
  · rename_i key parsed
    split
    · exact refuse_keeps format
    · rename_i normalized accepted
      split
      · exact panic_keeps
      · split
        · exact refuse_keeps format
        · have valid : keyError deviceKey = none := by
            rw [← HardwareDeviceKey.asStr_of_tryNew parsed]
            exact key.valid
          exact goesOn_keeps rfl ⟨valid, normalizeValue_normalized accepted⟩
            (by simp [Phase.stretchesLeft])

theorem upsertAlert_keeps (format : WireFormat s.printable s.toSlice) (name expr : String)
    (forDuration cooldown : Option String) (notify : List String) (enabled : Option Bool) :
    Keeps now reqId [reqId] left
      (upsertAlert s io now reqId name expr forDuration cooldown notify enabled) := by
  unfold upsertAlert
  split
  · exact panic_keeps
  · split
    · exact panic_keeps
    · exact respond_keeps format rfl trivial
    · split
      · exact panic_keeps
      · exact (reply_keeps format).of_shared

theorem deleteAlert_keeps (format : WireFormat s.printable s.toSlice) (name : String) :
    Keeps now reqId [reqId] left (deleteAlert s io now reqId name) := by
  unfold deleteAlert
  dsimp only
  split
  · exact panic_keeps
  · split
    · exact panic_keeps
    · exact Keeps.of_shared (respond_keeps format rfl trivial)

theorem toggleSubsystems_keeps (history alerts prom : Option Bool) (promBind : Option String) :
    Keeps now reqId [reqId] 5 (toggleSubsystems s io now history alerts prom promBind) := by
  unfold toggleSubsystems
  split
  · exact panic_keeps
  · split
    · exact panic_keeps
    · split
      · exact panic_keeps.of_shared
      · exact goesOn_keeps rfl trivial (by simp [Phase.stretchesLeft])

theorem receive_keeps (format : WireFormat s.printable s.toSlice) (op : RequestOp) :
    Keeps now reqId [reqId] 5 (receive s io now reqId op) := by
  cases op with
  | getHardware =>
    simp only [receive, getHardware]
    split
    · exact panic_keeps
    · exact reply_keeps format
  | setNickname deviceKey value => exact setNickname_keeps format deviceKey value
  | setPumpIntervalMs ms =>
    have kept : Keeps { now with session := { now.session with
        pumpIntervalMs := min (max ms pumpIntervalMinMs) pumpIntervalMaxMs } } reqId [reqId] 5
        (receive s io now reqId (.setPumpIntervalMs ms)) := reply_keeps format
    exact ⟨kept.received, kept.ended, kept.answers, kept.advances⟩
  | getHistory sensor sinceMicros untilMicros maxPoints =>
    simp only [receive, answerHistory]
    split
    · exact panic_keeps
    · exact respond_keeps format rfl trivial
  | listAlerts =>
    simp only [receive, listAlerts]
    split
    · exact panic_keeps
    · split
      · exact reply_keeps format
      · split
        · exact panic_keeps
        · exact reply_keeps format
  | upsertAlert name expr forDuration cooldown notify enabled =>
    exact upsertAlert_keeps format name expr forDuration cooldown notify enabled
  | deleteAlert name => exact deleteAlert_keeps format name
  | testAlertExpr expr =>
    simp only [receive, testAlertExpr]
    split
    · exact panic_keeps
    · split
      · exact panic_keeps
      · exact reply_keeps format
  | listAlertEvents limit =>
    simp only [receive, listAlertEvents]
    split
    · exact panic_keeps
    · split
      · exact reply_keeps format
      · split
        · exact panic_keeps
        · exact reply_keeps format
  | getDaemonSettings =>
    simp only [receive, getDaemonSettings]
    split
    · exact panic_keeps
    · exact reply_keeps format
  | setDaemonSettings history alerts prom promBind =>
    exact toggleSubsystems_keeps history alerts prom promBind
  | getSensorInfo sensor =>
    simp only [receive, getSensorInfo]
    split
    · exact refuse_keeps format
    · split
      · exact panic_keeps
      · split
        · exact panic_keeps
        · split
          · exact reply_keeps format
          · exact refuse_keeps format

theorem handleRequest_keeps (format : WireFormat s.printable s.toSlice)
    (checked : handler.phase.Checked) :
    Keeps now handler.reqId handler.owed handler.phase.stretchesLeft
      (handleRequest s io now handler) := by
  unfold handleRequest Handler.owed
  cases phase : handler.phase with
  | received op => exact receive_keeps format op
  | nicknameApplied deviceKey value =>
    simp only [snapshotNicknames, Phase.answered, Bool.false_eq_true, ↓reduceIte]
    rw [phase] at checked
    split
    · exact panic_keeps
    · exact goesOn_keeps rfl checked (by simp [Phase.stretchesLeft])
  | nicknameSnapshotted store deviceKey value =>
    simp only [saveNicknames, Phase.answered, Bool.false_eq_true, ↓reduceIte]
    split
    · exact (refuse_keeps format).of_shared
    · exact Keeps.of_shared (respond_keeps format rfl ⟨trivial, by simp [Phase.stretchesLeft]⟩)
  | nicknameAnswered =>
    simp only [catalogue, Phase.answered, ↓reduceIte]
    split
    · exact panic_keeps
    · split
      · exact panic_keeps
      · exact goesOn_keeps rfl trivial (by simp [Phase.stretchesLeft])
  | catalogued infos =>
    simp only [broadcast, Phase.answered, ↓reduceIte]
    split
    · exact panic_keeps
    · exact ⟨rfl, rfl, fun _ => rfl, trivial⟩
  | toggled errors promBind =>
    simp only [setPromBind, Phase.answered, Bool.false_eq_true, ↓reduceIte]
    split
    · exact goesOn_keeps rfl trivial (by simp [Phase.stretchesLeft])
    · split
      · exact goesOn_keeps rfl trivial (by simp [Phase.stretchesLeft])
      · split
        · exact panic_keeps
        · exact goesOn_keeps rfl trivial (by simp [Phase.stretchesLeft])
  | promBindSet errors =>
    simp only [answerSettings, Phase.answered, Bool.false_eq_true, ↓reduceIte]
    split
    · exact panic_keeps
    · split
      · exact reply_keeps format
      · exact refuse_keeps format

end Record

section Sessions

/-- The request of a session that is still to be answered. -/
def Session.owed (session : Session) : List UInt32 :=
  match session.handler with
  | some handler => handler.owed
  | none => []

/-- Every request was answered once and in turn, but for the one that is being handled, and
no handler ended the session. -/
structure Session.Served (session : Session) : Prop where
  goesOn : session.ended = none
  answered : session.answers.map Prod.fst ++ session.owed = session.received

def Daemon.Served (daemon : Daemon Store) : Prop :=
  ∀ peer session, daemon.sessions.lookup peer = some session → session.Served

/-- The handlers carry what they checked. -/
def Daemon.Checked (daemon : Daemon Store) : Prop :=
  ∀ peer session handler, daemon.sessions.lookup peer = some session →
    session.handler = some handler → handler.phase.Checked

def Daemon.stretchesLeft (daemon : Daemon Store) (peer : Nat) : Nat :=
  match (daemon.sessions.lookup peer).bind Session.handler with
  | some handler => handler.phase.stretchesLeft
  | none => 0

theorem Phase.stretchesLeft_pos (phase : Phase) : 0 < phase.stretchesLeft := by
  cases phase <;> simp [Phase.stretchesLeft]

theorem Session.new_served : Session.new.Served := ⟨rfl, rfl⟩

theorem Daemon.new_served (shared : Shared Store) : (Daemon.new shared).Served := by
  intro peer session present
  cases present

theorem Daemon.new_checked (shared : Shared Store) : (Daemon.new shared).Checked := by
  intro peer session handler present
  cases present

variable {s : Surroundings Store Toml} {daemon next : Daemon Store} {peer : Nat}
  {session : Session} {handler : Handler} {io : Io} {event : Event Store}

@[simp] theorem lookup_withSession (daemon : Daemon Store) (peer other : Nat)
    (session : Session) :
    (daemon.withSession peer session).sessions.lookup other =
      if other = peer then some session else daemon.sessions.lookup other :=
  KeyMap.lookup_insert_eq daemon.sessions peer other session

/-- Putting a session in its place leaves the others served. -/
theorem served_withSession (others : daemon.Served) :
    (daemon.withSession peer session).Served ↔ session.Served := by
  constructor
  · intro all
    apply all peer
    rw [lookup_withSession, if_pos rfl]
  · intro one other found present
    rw [lookup_withSession] at present
    split at present
    · cases present
      exact one
    · exact others other found present

theorem checked_withSession (others : daemon.Checked)
    (one : ∀ handler, session.handler = some handler → handler.phase.Checked) :
    (daemon.withSession peer session).Checked := by
  intro other found handler present running
  rw [lookup_withSession] at present
  split at present
  · cases present
    exact one handler running
  · exact others other found handler present running

/-- A served session stays so exactly where the stretch goes well. -/
theorem settle_served_iff {now after : Moment Store} {outcome : Outcome} {left : Nat}
    (kept : Keeps now handler.reqId handler.owed left (after, outcome))
    (running : now.session.handler = some handler) (served : now.session.Served) :
    (after.session.settle handler outcome).Served ↔ outcome.Fine := by
  have record : outcome.Fine → after.session.answers.map Prod.fst ++ outcome.owed handler.reqId =
      after.session.received := by
    intro fine
    have answered := served.answered
    simp only [Session.owed, running] at answered
    rw [kept.answers fine, kept.received, answered]
  have alive : after.session.ended = none := kept.ended.trans served.goesOn
  constructor
  · intro stays
    cases outcome with
    | goesOn phase => trivial
    | ended result =>
      cases result with
      | panicked => cases stays.goesOn
      | returned result =>
        cases result with
        | ok _ => trivial
        | error e => cases stays.goesOn
  · intro fine
    cases outcome with
    | goesOn phase => exact ⟨alive, record fine⟩
    | ended result =>
      cases result with
      | panicked => exact fine.elim
      | returned result =>
        cases result with
        | ok _ => exact ⟨alive, record fine⟩
        | error e => exact fine.elim

theorem settle_handler {after : Session} {outcome : Outcome} {running : Handler}
    (settled : (after.settle handler outcome).handler = some running) :
    outcome = .goesOn running.phase := by
  cases outcome with
  | goesOn phase =>
    cases settled
    rfl
  | ended result =>
    cases result with
    | panicked => cases settled
    | returned result => cases result <;> cases settled

/-- The three things a handler's stretch does to its session. -/
theorem handle_spec (format : WireFormat s.printable s.toSlice)
    (present : daemon.sessions.lookup peer = some session)
    (running : session.handler = some handler) (checked : daemon.Checked) :
    (daemon.handle s io peer session handler).Checked ∧
      (daemon.handle s io peer session handler).stretchesLeft peer <
        daemon.stretchesLeft peer ∧
      (daemon.Served → ((daemon.handle s io peer session handler).Served ↔
        Proceeds s io ⟨daemon.shared, session⟩ handler)) := by
  have carried := checked peer session handler present running
  have kept : Keeps ⟨daemon.shared, session⟩ _ _ _ _ :=
    @handleRequest_keeps _ _ s ⟨daemon.shared, session⟩ io handler format carried
  have fine : (handleRequest s io ⟨daemon.shared, session⟩ handler).2.Fine ↔ _ :=
    handleRequest_fine format carried
  unfold Daemon.handle
  cases ran : handleRequest s io ⟨daemon.shared, session⟩ handler with
  | mk after outcome =>
    rw [ran] at kept fine
    refine ⟨?_, ?_, ?_⟩
    · apply checked_withSession
      · exact checked
      · intro later settled
        have goes := settle_handler settled
        have advances := kept.advances
        rw [goes] at advances
        exact advances.1
    · have before : daemon.stretchesLeft peer = handler.phase.stretchesLeft := by
        simp only [Daemon.stretchesLeft, present, Option.bind_some, running]
      have later : ∀ world : Daemon Store,
          (world.withSession peer (after.session.settle handler outcome)).stretchesLeft peer <
            handler.phase.stretchesLeft := by
        intro world
        simp only [Daemon.stretchesLeft, lookup_withSession, ↓reduceIte, Option.bind_some]
        cases settled : (after.session.settle handler outcome).handler with
        | none => exact handler.phase.stretchesLeft_pos
        | some running =>
          have advances := kept.advances
          rw [settle_handler settled] at advances
          exact advances.2
      rw [before]
      exact later _
    · intro served
      rw [← fine]
      have others : ({ daemon with shared := after.shared } : Daemon Store).Served := served
      rw [served_withSession others]
      exact settle_served_iff kept running (served peer session present)

theorem step_checked (format : WireFormat s.printable s.toSlice)
    (taken : daemon.step s event = some next)
    (checked : daemon.Checked) : next.Checked := by
  cases event with
  | connect peer =>
    obtain ⟨_, rfl⟩ := Run.enabled_eq_some.mp taken
    apply checked_withSession checked
    intro handler running
    cases running
  | request peer reqId op =>
    obtain ⟨session, present, enabled⟩ := Option.bind_eq_some_iff.mp taken
    obtain ⟨_, rfl⟩ := Run.enabled_eq_some.mp enabled
    apply checked_withSession checked
    intro handler running
    cases running
    trivial
  | handle peer io =>
    obtain ⟨session, present, rest⟩ := Option.bind_eq_some_iff.mp taken
    obtain ⟨handler, running, rfl⟩ := Option.map_eq_some_iff.mp rest
    exact (handle_spec format present running checked).1
  | disconnect peer =>
    obtain ⟨session, present, enabled⟩ := Option.bind_eq_some_iff.mp taken
    obtain ⟨_, rfl⟩ := Run.enabled_eq_some.mp enabled
    intro other found handler stays running
    rw [KeyMap.lookup_erase_eq] at stays
    split at stays
    · cases stays
    · exact checked other found handler stays running
  | poisonWriter peer =>
    obtain ⟨session, present, rfl⟩ := Option.map_eq_some_iff.mp taken
    apply checked_withSession checked
    intro handler running
    exact checked peer session handler present running
  | elsewhere shared =>
    cases taken
    exact checked

theorem step_served_iff (format : WireFormat s.printable s.toSlice)
    (taken : daemon.step s event = some next)
    (checked : daemon.Checked) (served : daemon.Served) : next.Served ↔ Meets s daemon event := by
  cases event with
  | connect peer =>
    obtain ⟨_, rfl⟩ := Run.enabled_eq_some.mp taken
    rw [served_withSession served]
    exact iff_of_true Session.new_served trivial
  | request peer reqId op =>
    obtain ⟨session, present, enabled⟩ := Option.bind_eq_some_iff.mp taken
    obtain ⟨⟨idle, alive⟩, rfl⟩ := Run.enabled_eq_some.mp enabled
    rw [served_withSession served]
    have before := served peer session present
    have answered := before.answered
    rw [Option.isNone_iff_eq_none] at idle
    simp only [Session.owed, idle, List.append_nil] at answered
    refine iff_of_true ⟨before.goesOn, ?_⟩ trivial
    simp [Session.owed, Handler.owed, Phase.answered, answered]
  | handle peer io =>
    obtain ⟨session, present, rest⟩ := Option.bind_eq_some_iff.mp taken
    obtain ⟨handler, running, rfl⟩ := Option.map_eq_some_iff.mp rest
    rw [(handle_spec format present running checked).2.2 served]
    constructor
    · intro proceeds found other stands runs
      cases present.symm.trans stands
      cases running.symm.trans runs
      exact proceeds
    · intro meets
      exact meets session handler present running
  | disconnect peer =>
    obtain ⟨session, present, enabled⟩ := Option.bind_eq_some_iff.mp taken
    obtain ⟨_, rfl⟩ := Run.enabled_eq_some.mp enabled
    refine iff_of_true ?_ trivial
    intro other found stays
    rw [KeyMap.lookup_erase_eq] at stays
    split at stays
    · cases stays
    · exact served other found stays
  | poisonWriter peer =>
    obtain ⟨session, present, rfl⟩ := Option.map_eq_some_iff.mp taken
    rw [served_withSession served]
    have before := served peer session present
    exact iff_of_true ⟨before.goesOn, before.answered⟩ trivial
  | elsewhere shared =>
    cases taken
    exact iff_of_true served trivial

theorem step_idle (stuck : daemon.step s event = none) : Meets s daemon event := by
  cases event with
  | handle peer io =>
    intro session handler present running
    simp only [Daemon.step, present, running, Option.bind_some, Option.map_some] at stuck
    cases stuck
  | _ => trivial

/-- In the runs whose handlers find what they need, and in no others, every session is
served in all states. A handler can always go on, and comes nearer to its end. -/
theorem requests_served_iff (format : WireFormat s.printable s.toSlice) (shared : Shared Store)
    (events : List (Event Store)) :
    ((∀ daemon, Run.Visits (Daemon.step s) (.new shared) events daemon → daemon.Served) ↔
        Run.Always (Daemon.step s) (Meets s) (.new shared) events) ∧
      ∀ daemon, Run.Visits (Daemon.step s) (.new shared) events daemon →
        ∀ peer session handler io, daemon.sessions.lookup peer = some session →
          session.handler = some handler → ∃ next,
            daemon.step s (.handle peer io) = some next ∧
              next.stretchesLeft peer < daemon.stretchesLeft peer := by
  constructor
  · apply @Run.visits_iff_always _ _ _ _ _ Daemon.Checked Daemon.Served (Meets s)
    · intro daemon event next taken checked
      exact step_checked format taken checked
    · intro daemon event stuck
      exact step_idle stuck
    · intro daemon event next taken checked served
      exact step_served_iff format taken checked served
    · exact Daemon.new_checked shared
    · exact Daemon.new_served shared
  · intro daemon visited peer session handler io present running
    have checked : daemon.Checked := by
      obtain ⟨front, _, run⟩ := visited
      apply Run.exec_invariant _ run (Daemon.new_checked shared)
      intro state label next taken invariant
      exact step_checked format taken invariant
    refine ⟨daemon.handle s io peer session handler, ?_, ?_⟩
    · simp only [Daemon.step, present, running, Option.bind_some, Option.map_some]
    · exact (handle_spec format present running checked).2.1

end Sessions

section Instances

open Alerts (emptyToml utf8 hotState comparisons)

/-- The runs below show no text outside ASCII. -/
def isPrintable (_ : Char) : Bool := false

/-- The bytes of the two answers that the runs below write, and for the other messages as
many bytes as they have. -/
def encode : ServerMsg → List UInt8
  | .response reqId (.ok (.pumpIntervalSet ms)) =>
      [5] ++ Varint.encode reqId ++ [0, 2] ++ Varint.encode ms
  | .response reqId result =>
      List.replicate (3 + Varint.size reqId + resultSize isPrintable result) 0
  | _ => []

theorem encode_format : WireFormat isPrintable encode := by
  intro reqId result
  unfold encode
  split
  · rename_i message reqId' ms same
    cases same
    simp only [List.length_append, Varint.length_encode, List.length_cons, List.length_nil,
      responseSize, resultSize, payloadSize]
    omega
  · rename_i message reqId' result' other same
    cases same
    simp only [List.length_replicate, responseSize]
  · rename_i message other same
    exact absurd rfl (same reqId.toNat result)

def plain : Surroundings NicknameStore String where
  printable := isPrintable
  toSlice := encode
  storeCodec := Nicknames.plainCodec
  tomlCodec := emptyToml
  asBytes := utf8
  readToString := fun _ => none
  evalexpr := comparisons
  eventsJson := fun _ => .ok "[]"
  pluginIdFor := fun _ => none
  alertsConfigPath := "alerts.toml"

def calm : Io where
  saveError := none
  alertsIo := ⟨none, none, none⟩
  historySpawn := .ok (.ok ∅)
  read := fun _ => .error (.unsupported "no reading")
  nowMicros := 0
  inTime := true
  threadSpawns := true

/-- A daemon with an alert rule and nothing else. -/
def hot : Shared NicknameStore where
  scheduler := .new []
  history := false
  historyDb := none
  alerts := hotState
  promRunning := false
  promBind := none
  registry := .build [] ∅
  nicknameFile := none
  broadcasts := []
  schedulerPoisoned := false
  enginePoisoned := false
  registryPoisoned := false
  clientsPoisoned := false

/-- A request for a faster pump than there is. -/
def pumpEvents : List (Event NicknameStore) :=
  [.connect 1, .request 1 7 (.setPumpIntervalMs 10), .handle 1 calm]

theorem requests_served_pump :
    (∀ daemon, Run.Visits (Daemon.step plain) (.new hot) pumpEvents daemon → daemon.Served) ∧
      (Run.exec (Daemon.step plain) (.new hot) pumpEvents).map (fun daemon =>
        (daemon.sessions.lookup 1).map fun session =>
          session.answers.map fun answer => (answer.1, answer.2.toOption)) =
        some (some [(7, some (.pumpIntervalSet 50))]) := by
  constructor
  · apply (requests_served_iff (s := plain) encode_format hot pumpEvents).1.mpr
    refine ⟨trivial, fun connected taken => ⟨trivial, fun asked requested => ⟨?_, ?_⟩⟩⟩
    · obtain ⟨_, rfl⟩ := Run.enabled_eq_some.mp taken
      simp only [Daemon.step] at requested
      obtain ⟨session, present, enabled⟩ := Option.bind_eq_some_iff.mp requested
      rw [lookup_withSession, if_pos rfl] at present
      cases present
      obtain ⟨_, rfl⟩ := Run.enabled_eq_some.mp enabled
      intro session handler present running
      rw [lookup_withSession, if_pos rfl] at present
      cases present
      cases running
      rfl
    · intro answered handled
      trivial
  · decide +kernel

def Session.crashed (session : Session) : Bool :=
  match session.ended with
  | some .panicked => true
  | _ => false

/-- A hold of more than 2^64 seconds. -/
def overlongEvents : List (Event NicknameStore) :=
  [.connect 1, .connect 2,
    .request 1 7 (.upsertAlert "hot" "cpu.temp > 90" (some "99999999999999999999s") none [] none),
    .handle 1 calm, .request 2 8 .getDaemonSettings, .handle 2 calm]

/-- Neither the session that asks for it nor another one afterwards is answered. -/
theorem overlong_hold_unanswered : ∃ daemon,
    Run.exec (Daemon.step plain) (.new hot) overlongEvents = some daemon ∧
      ¬ daemon.Served ∧
      ([1, 2].map fun peer => (daemon.sessions.lookup peer).map fun session =>
        (session.received, session.answers.map Prod.fst, session.crashed)) =
        [some ([7], [], true), some ([8], [], true)] := by
  have ran : (Run.exec (Daemon.step plain) (.new hot) overlongEvents).map (fun daemon =>
      [1, 2].map fun peer => (daemon.sessions.lookup peer).map fun session =>
        (session.received, session.answers.map Prod.fst, session.crashed)) =
      some [some ([7], [], true), some ([8], [], true)] := by
    decide +kernel
  obtain ⟨daemon, run, ends⟩ := Option.map_eq_some_iff.mp ran
  refine ⟨daemon, run, ?_, ends⟩
  intro served
  have first := (List.cons.inj ends).1
  obtain ⟨session, present, crashed⟩ := Option.map_eq_some_iff.mp first
  have alive := (served 1 session present).goesOn
  simp only [Session.crashed, alive, Prod.mk.injEq, Bool.false_eq_true, and_false] at crashed

end Instances

end LinSight.Requests
