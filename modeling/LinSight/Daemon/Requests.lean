import LinSight.Alerts.SaveConfig
import LinSight.Alerts.TestExpr
import LinSight.Daemon.History
import LinSight.Daemon.SetNickname
import LinSight.Plugin.Host
import LinSight.Protocol.FrameWriter

set_option autoImplicit false

/-! The handlers of correlated requests. A handler is cut where it gives up the locks it
holds and other threads can come in between. -/

namespace LinSight.Requests

open DebugText (Message)
open Alerts (AlertsState AlertEngine AlertEvent CompiledRule Evalexpr SaveIo TomlCodec)

def pumpIntervalMinMs : Nat := 50

def pumpIntervalMaxMs : Nat := 1000

def pumpIntervalDefaultMs : Nat := 150

/-- The encoders, the expression evaluator, the plugins and the paths of the daemon. -/
structure Surroundings (Store Toml : Type) where
  /-- The characters outside ASCII that `{:?}` shows as they are. -/
  printable : Char → Bool
  toSlice : ServerMsg → List UInt8
  storeCodec : NicknameStore.Codec Store
  tomlCodec : TomlCodec Toml
  asBytes : Toml → List UInt8
  readToString : List UInt8 → Option Toml
  evalexpr : Evalexpr
  eventsJson : List AlertEvent → Except String String
  pluginIdFor : SensorId → Option String
  alertsConfigPath : String

/-- How the calls out of the daemon end. `threadSpawns` says that the system starts the
threads it is asked for. -/
structure Io where
  saveError : Option String
  alertsIo : SaveIo
  /-- A history that is started comes with what queries find in its database. -/
  historySpawn : Except String (Except String HistoryTable)
  read : SensorId → Except PluginError Reading
  nowMicros : Nat
  inTime : Bool
  threadSpawns : Bool

/-- What the sessions share, and which of the locks around it are poisoned. -/
structure Shared (Store : Type) where
  scheduler : Scheduler
  history : Bool
  historyDb : Option (Except String HistoryTable)
  alerts : AlertsState
  promRunning : Bool
  promBind : Option String
  registry : HardwareRegistry
  nicknameFile : Option Store
  broadcasts : List (List SensorInfo)
  schedulerPoisoned : Bool
  enginePoisoned : Bool
  registryPoisoned : Bool
  clientsPoisoned : Bool

/-- Where a handler stands between two stretches. -/
inductive Phase where
  | received (op : RequestOp)
  | nicknameApplied (deviceKey : String) (value : Option String)
  | nicknameSnapshotted (store : NicknameStore) (deviceKey : String) (value : Option String)
  | nicknameAnswered
  | catalogued (infos : List SensorInfo)
  | toggled (errors : List String) (promBind : Option String)
  | promBindSet (errors : List String)

structure Handler where
  reqId : UInt32
  phase : Phase

/-- How a read loop ends. -/
abbrev LoopEnd := Ended (Except (FrameError String) PUnit.{1})

/-- One client. `received` and `answers` list the requests it sent and what it was
answered, oldest first; no step reads them. -/
structure Session where
  writer : FrameWriter
  writerPoisoned : Bool
  pumpIntervalMs : Nat
  handler : Option Handler
  ended : Option LoopEnd
  received : List UInt32
  answers : List (UInt32 × Except ProtoError ResponsePayload)

def Session.new : Session where
  writer := .new
  writerPoisoned := false
  pumpIntervalMs := pumpIntervalDefaultMs
  handler := none
  ended := none
  received := []
  answers := []

/-- How a stretch of a handler ends. -/
inductive Outcome where
  | goesOn (phase : Phase)
  | ended (result : LoopEnd)

def Outcome.returned : Outcome := .ended (.returned (.ok ⟨⟩))

/-- What a handler can change. -/
structure Moment (Store : Type) where
  shared : Shared Store
  session : Session

section Handlers

variable {Store Toml : Type}

/-- A panic poisons the scheduler's lock where its guard is held. -/
def Moment.panic (now : Moment Store) (guarded : Bool) : Moment Store × Outcome :=
  ({ now with shared := { now.shared with
      schedulerPoisoned := now.shared.schedulerPoisoned || guarded } }, .ended .panicked)

/-- The rule as it is listed. -/
def ruleJson (r : CompiledRule) : AlertRuleJson where
  name := r.name
  expr := r.expr
  forDuration := Alerts.optFormatDuration r.forDuration
  cooldown := Alerts.optFormatDuration r.cooldown
  notify := r.notify
  enabled := r.enabled

variable (s : Surroundings Store Toml)

/-- Lock the writer, write the response and go on. -/
def respond (now : Moment Store) (reqId : UInt32) (guarded : Bool)
    (result : Except ProtoError ResponsePayload) (next : Outcome) : Moment Store × Outcome :=
  let session := now.session
  if session.writerPoisoned then now.panic guarded
  else
    match session.writer.writeFrame s.toSlice (.response reqId.toNat result) with
    | (.error e, writer) =>
        ({ now with session := { session with writer } }, .ended (.returned (.error e)))
    | (.ok _, writer) =>
        ({ now with session := { session with
            writer, answers := session.answers ++ [(reqId, result)] } }, next)

def refuse (now : Moment Store) (reqId : UInt32) (guarded : Bool) (code : ProtoErrorCode)
    (message : Message) : Moment Store × Outcome :=
  respond s now reqId guarded (.error ⟨code, message⟩) .returned

/-- Answer with a payload and be done. -/
def reply (now : Moment Store) (reqId : UInt32) (guarded : Bool) (payload : ResponsePayload) :
    Moment Store × Outcome :=
  respond s now reqId guarded (.ok payload) .returned

def getHardware (now : Moment Store) (reqId : UInt32) : Moment Store × Outcome :=
  if now.shared.registryPoisoned then now.panic false
  else
    reply s now reqId false
      (.hardware now.shared.registry.snapshot now.shared.registry.nicknamesSnapshot)

def getSensorInfo (now : Moment Store) (reqId : UInt32) (sensor : String) :
    Moment Store × Outcome :=
  match SensorId.tryNew sensor with
  | .error e => refuse s now reqId false .unknownSensor ("bad sensor id: " ++ e.toString)
  | .ok sensorId =>
      if now.shared.schedulerPoisoned then now.panic false
      else if now.shared.registryPoisoned then now.panic true
      else
        match now.shared.scheduler.descriptors.find? (·.id = sensorId) with
        | some d =>
            reply s now reqId false
              (.sensorInfo (buildSensorInfo s.pluginIdFor now.shared.registry d))
        | none =>
            refuse s now reqId false .unknownSensor ("sensor not found: " ++ sensorId.asStr)

def setPumpIntervalMs (now : Moment Store) (reqId : UInt32) (ms : Nat) :
    Moment Store × Outcome :=
  let clamped := min (max ms pumpIntervalMinMs) pumpIntervalMaxMs
  let now := { now with session := { now.session with pumpIntervalMs := clamped } }
  reply s now reqId false (.pumpIntervalSet clamped)

/-- The guard of the scheduler lives as long as the path that is matched on. -/
def answerHistory (now : Moment Store) (reqId : UInt32) (sensor : String)
    (sinceMicros untilMicros : Nat) (maxPoints : Option Nat) : Moment Store × Outcome :=
  if now.shared.schedulerPoisoned then now.panic false
  else
    respond s now reqId true
      (getHistory now.shared.historyDb sensor sinceMicros untilMicros maxPoints) .returned

def listAlerts (now : Moment Store) (reqId : UInt32) : Moment Store × Outcome :=
  if now.shared.schedulerPoisoned then now.panic false
  else
    match now.shared.alerts.engine with
    | none => reply s now reqId false (.alertList [])
    | some engine =>
        if now.shared.enginePoisoned then now.panic true
        else reply s now reqId false (.alertList (engine.rules.map ruleJson))

/-- The durations are parsed before the engine's lock is taken. -/
def upsertAlert (io : Io) (now : Moment Store) (reqId : UInt32) (name expr : String)
    (forDuration cooldown : Option String) (notify : List String) (enabled : Option Bool) :
    Moment Store × Outcome :=
  if now.shared.schedulerPoisoned then now.panic false
  else
    match now.shared.alerts.upsertAlert s.tomlCodec s.asBytes io.alertsIo name expr forDuration
        cooldown notify enabled with
    | none => now.panic true
    | some (.error e, _) => respond s now reqId true (.error e) .returned
    | some (.ok payload, alerts) =>
        if now.shared.enginePoisoned then now.panic true
        else
          reply s { now with shared := { now.shared with alerts } } reqId true payload

def deleteAlert (io : Io) (now : Moment Store) (reqId : UInt32) (name : String) :
    Moment Store × Outcome :=
  let shared := now.shared
  if shared.schedulerPoisoned then now.panic false
  else if shared.alerts.engine.isSome && shared.alerts.configPath.isSome &&
      shared.enginePoisoned then
    now.panic true
  else
    let (result, alerts) := shared.alerts.deleteAlert s.tomlCodec s.asBytes io.alertsIo name
    respond s { now with shared := { shared with alerts } } reqId true result .returned

def testAlertExpr (io : Io) (now : Moment Store) (reqId : UInt32) (expr : String) :
    Moment Store × Outcome :=
  if now.shared.schedulerPoisoned then now.panic false
  else if !io.threadSpawns && (Alerts.rewriteDots expr).utf8ByteSize ≤ Alerts.maxExprLen then
    now.panic false
  else
    reply s now reqId false (Alerts.testResponse
      (s.evalexpr.testOutcome now.shared.scheduler io.read io.nowMicros expr io.inTime))

/-- The events that a limit lets through. -/
def takeEvents (limit : Option Nat) (events : List AlertEvent) : List AlertEvent :=
  match limit with
  | some n => events.take n
  | none => events

def listAlertEvents (now : Moment Store) (reqId : UInt32) (limit : Option Nat) :
    Moment Store × Outcome :=
  if now.shared.schedulerPoisoned then now.panic false
  else
    match now.shared.alerts.engine with
    | none => reply s now reqId false (.alertEventList "[]")
    | some engine =>
        if now.shared.enginePoisoned then now.panic true
        else
          reply s now reqId false (.alertEventList
            ((s.eventsJson (takeEvents limit engine.events)).toOption.getD "[]"))

/-- `daemon_settings`. -/
def Shared.daemonSettings (shared : Shared Store) : Bool × Bool × Bool × Option String :=
  (shared.history, shared.alerts.engine.isSome, shared.promRunning, shared.promBind)

def getDaemonSettings (now : Moment Store) (reqId : UInt32) : Moment Store × Outcome :=
  if now.shared.schedulerPoisoned then now.panic false
  else
    let (history, alerts, _, promBind) := now.shared.daemonSettings
    reply s now reqId false (.daemonSettings history alerts promBind.isSome promBind)

section SetNickname

/-- The checks of the request and `set_nickname` under the write lock. -/
def setNickname (now : Moment Store) (reqId : UInt32) (deviceKey : String)
    (value : Option String) : Moment Store × Outcome :=
  match HardwareDeviceKey.tryNew deviceKey with
  | .error e => refuse s now reqId false .invalidNickname ("bad device key: " ++ e.toString)
  | .ok key =>
      match normalizeValue value with
      | .error e => refuse s now reqId false .invalidNickname e.toString
      | .ok normalized =>
          if now.shared.registryPoisoned then now.panic false
          else
            match now.shared.registry.setNickname key normalized with
            | .error e => refuse s now reqId false .unknownDevice e.toString
            | .ok registry =>
                ({ now with shared := { now.shared with registry } },
                  .goesOn (.nicknameApplied deviceKey normalized))

def snapshotNicknames (now : Moment Store) (deviceKey : String) (value : Option String) :
    Moment Store × Outcome :=
  if now.shared.registryPoisoned then now.panic false
  else
    (now, .goesOn
      (.nicknameSnapshotted ⟨1, now.shared.registry.nicknamesSnapshot⟩ deviceKey value))

def saveNicknames (io : Io) (now : Moment Store) (reqId : UInt32) (store : NicknameStore)
    (deviceKey : String) (value : Option String) : Moment Store × Outcome :=
  let nicknameFile :=
    NicknameStore.save s.storeCodec store io.saveError.isSome now.shared.nicknameFile
  let now := { now with shared := { now.shared with nicknameFile } }
  match io.saveError with
  | some e => refuse s now reqId false .io ("save failed: " ++ e)
  | none =>
      respond s now reqId false (.ok (.nicknameSet deviceKey value)) (.goesOn .nicknameAnswered)

def catalogue (now : Moment Store) : Moment Store × Outcome :=
  let shared := now.shared
  if shared.schedulerPoisoned then now.panic false
  else if shared.registryPoisoned then now.panic true
  else
    (now, .goesOn (.catalogued
      (buildSensorInfoList s.pluginIdFor shared.scheduler.descriptors shared.registry)))

def broadcast (now : Moment Store) (infos : List SensorInfo) : Moment Store × Outcome :=
  if now.shared.clientsPoisoned then now.panic false
  else
    ({ now with shared := { now.shared with broadcasts := now.shared.broadcasts ++ [infos] } },
      .returned)

end SetNickname

section SetDaemonSettings

/-- `none` is a panic, which leaves everything as it was. -/
def Shared.toggleHistory (io : Io) (shared : Shared Store) (enable : Bool) :
    Option (Except String PUnit.{1} × Shared Store) :=
  let engineLocks := shared.alerts.engine.isSome && shared.enginePoisoned
  if enable then
    if shared.history then some (.ok ⟨⟩, shared)
    else
      match io.historySpawn with
      | .ok db =>
          if !io.threadSpawns || engineLocks then none
          else some (.ok ⟨⟩, { shared with history := true, historyDb := some db })
      | .error e => some (.error ("history spawn failed: " ++ e), shared)
  else if engineLocks then none
  else some (.ok ⟨⟩, { shared with history := false, historyDb := none })

/-- `none` is a panic: of a duration in the file, or for want of threads. -/
def Shared.toggleAlerts (io : Io) (shared : Shared Store) (enable : Bool) :
    Option (Except String PUnit.{1} × Shared Store) :=
  let alerts := shared.alerts
  if enable then
    if alerts.engine.isSome then some (.ok ⟨⟩, shared)
    else
      let path := s.alertsConfigPath
      match AlertEngine.load s.tomlCodec path (alerts.file.bind s.readToString) with
      | none => none
      | some (.error e) => some (.error ("alert load failed: " ++ e), shared)
      | some (.ok engine) =>
          if !io.threadSpawns then none
          else
            some (.ok ⟨⟩, { shared with
              alerts := { alerts with engine := some engine, configPath := some path }
              enginePoisoned := false })
  else
    some (.ok ⟨⟩, { shared with alerts := { alerts with engine := none, configPath := none } })

/-- One of the switches, which adds its error to those before. -/
def switched (toggle : Shared Store → Bool → Option (Except String PUnit.{1} × Shared Store))
    (setting : Option Bool) (errors : List String) (shared : Shared Store) :
    Option (List String × Shared Store) :=
  match setting with
  | none => some (errors, shared)
  | some enable =>
      (toggle shared enable).map fun toggled =>
        match toggled.1 with
        | .ok _ => (errors, toggled.2)
        | .error e => (errors ++ [e], toggled.2)

def promErrors : Option Bool → List String
  | some true =>
      ["Prometheus toggle-on is not supported via RPC; set LINSIGHT_PROM_BIND and restart"]
  | some false =>
      ["Prometheus toggle-off is not supported via RPC; unset LINSIGHT_PROM_BIND and restart"]
  | none => []

def toggleSubsystems (io : Io) (now : Moment Store) (history alerts prom : Option Bool)
    (promBind : Option String) : Moment Store × Outcome :=
  if now.shared.schedulerPoisoned then now.panic false
  else
    match switched (Shared.toggleHistory io) history [] now.shared with
    | none => now.panic true
    | some (errors, shared) =>
        match switched (Shared.toggleAlerts s io) alerts errors shared with
        | none => { now with shared }.panic true
        | some (errors, shared) =>
            ({ now with shared }, .goesOn (.toggled (errors ++ promErrors prom) promBind))

/-- `env::set_var` panics on a value with a NUL. -/
def setPromBind (now : Moment Store) (errors : List String) (promBind : Option String) :
    Moment Store × Outcome :=
  match promBind with
  | none => (now, .goesOn (.promBindSet errors))
  | some bind =>
      if (trim bind).toList.isEmpty then
        ({ now with shared := { now.shared with promBind := none } }, .goesOn (.promBindSet errors))
      else if '\x00' ∈ bind.toList then now.panic false
      else
        ({ now with shared := { now.shared with promBind := some bind } },
          .goesOn (.promBindSet errors))

def answerSettings (now : Moment Store) (reqId : UInt32) (errors : List String) :
    Moment Store × Outcome :=
  if now.shared.schedulerPoisoned then now.panic false
  else
    let (history, alerts, _, promBind) := now.shared.daemonSettings
    if errors.isEmpty then
      reply s now reqId false (.daemonSettingsSet history alerts promBind.isSome)
    else refuse s now reqId false .internal ("; ".intercalate errors)

end SetDaemonSettings

/-- The first stretch of a request. -/
def receive (io : Io) (now : Moment Store) (reqId : UInt32) :
    RequestOp → Moment Store × Outcome
  | .getHardware => getHardware s now reqId
  | .getSensorInfo sensor => getSensorInfo s now reqId sensor
  | .setNickname deviceKey value => setNickname s now reqId deviceKey value
  | .setPumpIntervalMs ms => setPumpIntervalMs s now reqId ms
  | .getHistory sensor sinceMicros untilMicros maxPoints =>
      answerHistory s now reqId sensor sinceMicros untilMicros maxPoints
  | .listAlerts => listAlerts s now reqId
  | .upsertAlert name expr forDuration cooldown notify enabled =>
      upsertAlert s io now reqId name expr forDuration cooldown notify enabled
  | .deleteAlert name => deleteAlert s io now reqId name
  | .testAlertExpr expr => testAlertExpr s io now reqId expr
  | .listAlertEvents limit => listAlertEvents s now reqId limit
  | .getDaemonSettings => getDaemonSettings s now reqId
  | .setDaemonSettings history alerts prom promBind =>
      toggleSubsystems s io now history alerts prom promBind

/-- The next stretch of `handle_request`. -/
def handleRequest (io : Io) (now : Moment Store) (handler : Handler) : Moment Store × Outcome :=
  match handler.phase with
  | .received op => receive s io now handler.reqId op
  | .nicknameApplied deviceKey value => snapshotNicknames now deviceKey value
  | .nicknameSnapshotted store deviceKey value =>
      saveNicknames s io now handler.reqId store deviceKey value
  | .nicknameAnswered => catalogue s now
  | .catalogued infos => broadcast now infos
  | .toggled errors promBind => setPromBind now errors promBind
  | .promBindSet errors => answerSettings s now handler.reqId errors

end Handlers

/-- The daemon and the clients that are connected to it. -/
structure Daemon (Store : Type) where
  shared : Shared Store
  sessions : KeyMap Nat Session

inductive Event (Store : Type) where
  | connect (peer : Nat)
  /-- The read loop of the session takes a request from the socket. -/
  | request (peer : Nat) (reqId : UInt32) (op : RequestOp)
  | handle (peer : Nat) (io : Io)
  | disconnect (peer : Nat)
  /-- A panic of the thread that shares the session's writer. -/
  | poisonWriter (peer : Nat)
  /-- What the other threads make of the shared state. -/
  | elsewhere (shared : Shared Store)

/-- What a stretch of its handler leaves of a session. -/
def Session.settle (session : Session) (handler : Handler) : Outcome → Session
  | .goesOn phase => { session with handler := some { handler with phase } }
  | .ended (.returned (.ok _)) => { session with handler := none }
  | .ended result => { session with handler := none, ended := some result }

namespace Daemon

variable {Store Toml : Type}

def new (shared : Shared Store) : Daemon Store := ⟨shared, ∅⟩

def withSession (daemon : Daemon Store) (peer : Nat) (session : Session) : Daemon Store :=
  { daemon with sessions := daemon.sessions.insert peer session }

/-- The handler's next stretch. -/
def handle (s : Surroundings Store Toml) (io : Io) (daemon : Daemon Store) (peer : Nat)
    (session : Session) (handler : Handler) : Daemon Store :=
  let (now, outcome) := handleRequest s io ⟨daemon.shared, session⟩ handler
  { daemon with shared := now.shared }.withSession peer (now.session.settle handler outcome)

def step (s : Surroundings Store Toml) (daemon : Daemon Store) :
    Event Store → Option (Daemon Store)
  | .connect peer =>
      Run.enabled (daemon.sessions.lookup peer = none) (daemon.withSession peer .new)
  | .request peer reqId op =>
      (daemon.sessions.lookup peer).bind fun session =>
        Run.enabled (session.handler.isNone ∧ session.ended.isNone)
          (daemon.withSession peer { session with
            handler := some ⟨reqId, .received op⟩
            received := session.received ++ [reqId] })
  | .handle peer io =>
      (daemon.sessions.lookup peer).bind fun session =>
        session.handler.map fun handler => daemon.handle s io peer session handler
  | .disconnect peer =>
      (daemon.sessions.lookup peer).bind fun session =>
        Run.enabled session.handler.isNone
          { daemon with sessions := daemon.sessions.erase peer }
  | .poisonWriter peer =>
      (daemon.sessions.lookup peer).map fun session =>
        daemon.withSession peer { session with writerPoisoned := true }
  | .elsewhere shared => some { daemon with shared }

end Daemon

end LinSight.Requests
