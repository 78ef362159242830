import LinSight.Alerts.Overlong
import LinSight.Daemon.Requests

set_option autoImplicit false

/-! Which requests are answered, each exactly once, with the session going on. -/

namespace LinSight.Requests

open Alerts (Overlong OverlongFile optParseDuration maxExprLen rewriteDots)
open DebugText (Message debugStr)
open Varint (blobSize optionSize seqSize)

variable {Store Toml : Type}

/-- What follows the variants of an answer fits into its frame. -/
def Fits (reqId : UInt32) (bytes : Nat) : Prop :=
  3 + Varint.size reqId.toNat + bytes ≤ maxFrameBytes

section Conditions

variable (s : Surroundings Store Toml)

/-- A row of the history as a sample of its sensor. -/
def rowSize (sensor : SensorId) (row : Int × HistoryColumns) : Nat :=
  stringSize sensor.asStr + Varint.size (asU64 row.1) + readingSize (decodeReading row.2)

/-- The engine is loaded and its lock is poisoned. -/
def Shared.EnginePoisoned (shared : Shared Store) : Prop :=
  shared.alerts.engine.isSome = true ∧ shared.enginePoisoned = true

/-- The text fits with which a duration is refused that cannot be read. -/
def RefusalFits (reqId : UInt32) (text : Option String) : Prop :=
  ∀ e, optParseDuration text = some (.error e) →
    Fits reqId (stringSize (Message.render s.printable ("upsert failed: " ++ e)))

/-- The history can be switched: the engine is told, and a new writer gets its thread. -/
def HistorySwitches (io : Io) (shared : Shared Store) : Option Bool → Prop
  | none => True
  | some false => ¬ shared.EnginePoisoned
  | some true => shared.history = false → ∀ db, io.historySpawn = .ok db →
      io.threadSpawns = true ∧ ¬ shared.EnginePoisoned

/-- The alerts can be switched: no duration of the file is overlong, and an engine that is
loaded gets its threads. -/
def AlertsSwitch (io : Io) (shared : Shared Store) : Option Bool → Prop
  | some true => shared.alerts.engine = none →
      let file := shared.alerts.file.bind s.readToString
      ¬ OverlongFile s.tomlCodec file ∧
        (io.threadSpawns = false → ∀ engine,
          Alerts.AlertEngine.load s.tomlCodec s.alertsConfigPath file ≠ some (.ok engine))
  | _ => True

/-- What a session has to find when it locks its writer and another lock. -/
structure Unpoisoned (now : Moment Store) : Prop where
  scheduler : now.shared.schedulerPoisoned = false
  writer : now.session.writerPoisoned = false

/-- What the first stretch of a request needs. -/
def Answerable (io : Io) (now : Moment Store) (reqId : UInt32) : RequestOp → Prop
  | .getHardware =>
      now.shared.registryPoisoned = false ∧ now.session.writerPoisoned = false ∧
        Fits reqId (seqSize hardwareDeviceSize now.shared.registry.snapshot +
          seqSize (fun entry => stringSize entry.1 + stringSize entry.2)
            now.shared.registry.nicknamesSnapshot.entries)
  | .getSensorInfo sensor =>
      match SensorId.tryNew sensor with
      | .error e =>
          now.session.writerPoisoned = false ∧
            Fits reqId (stringSize (Message.render s.printable ("bad sensor id: " ++ e.toString)))
      | .ok id =>
          Unpoisoned now ∧ now.shared.registryPoisoned = false ∧
            match now.shared.scheduler.descriptors.find? (·.id = id) with
            | some d =>
                Fits reqId (sensorInfoSize (buildSensorInfo s.pluginIdFor now.shared.registry d))
            | none => Fits reqId (stringSize ("sensor not found: " ++ sensor))
  | .setNickname deviceKey value =>
      match HardwareDeviceKey.tryNew deviceKey, normalizeValue value with
      | .error e, _ =>
          now.session.writerPoisoned = false ∧
            Fits reqId (stringSize (Message.render s.printable ("bad device key: " ++ e.toString)))
      | .ok _, .error e =>
          now.session.writerPoisoned = false ∧ Fits reqId (stringSize (e.toString.render s.printable))
      | .ok key, .ok _ =>
          now.shared.registryPoisoned = false ∧
            (now.shared.registry.devices.lookup key = none → now.session.writerPoisoned = false)
  | .setPumpIntervalMs _ => now.session.writerPoisoned = false
  | .getHistory sensor sinceMicros untilMicros maxPoints =>
      Unpoisoned now ∧
        match now.shared.historyDb, SensorId.tryNew sensor with
        | none, _ => True
        | some _, .error _ =>
            let e : Message := "invalid sensor id for query: " ++ debugStr sensor
            Fits reqId (stringSize (Message.render s.printable ("history query failed: " ++ e)))
        | some (.error e), .ok _ => Fits reqId (stringSize ("history query failed: " ++ e))
        | some (.ok table), .ok id =>
            Fits reqId (stringSize sensor + seqSize (rowSize id)
              (downsample (queryLimit maxPoints)
                (rankedRows table sensor (asI64 sinceMicros) (asI64 untilMicros))))
  | .listAlerts =>
      Unpoisoned now ∧ ∀ engine, now.shared.alerts.engine = some engine →
        now.shared.enginePoisoned = false ∧
          Fits reqId (seqSize (fun r => alertRuleSize (ruleJson r)) engine.rules)
  | .upsertAlert name _ forDuration cooldown _ _ =>
      Unpoisoned now ∧
        (now.shared.alerts.engine.isSome → now.shared.alerts.configPath.isSome →
          ¬ Overlong forDuration ∧ RefusalFits s reqId forDuration ∧
            ∀ held, optParseDuration forDuration = some (.ok held) →
              ¬ Overlong cooldown ∧ RefusalFits s reqId cooldown ∧
                ∀ cooled, optParseDuration cooldown = some (.ok cooled) →
                  now.shared.enginePoisoned = false ∧ Fits reqId (stringSize name))
  | .deleteAlert name =>
      Unpoisoned now ∧ ∀ engine, now.shared.alerts.engine = some engine →
        now.shared.alerts.configPath.isSome →
          now.shared.enginePoisoned = false ∧
            if ∃ r ∈ engine.rules, r.name = name then Fits reqId (stringSize name)
            else Fits reqId (stringSize s!"rule '{name}' not found")
  | .testAlertExpr expr =>
      Unpoisoned now ∧
        (io.threadSpawns = false → maxExprLen < (rewriteDots expr).utf8ByteSize) ∧
        ∀ e, s.evalexpr.testOutcome now.shared.scheduler io.read io.nowMicros expr io.inTime =
          .err e → Fits reqId (2 + stringSize s!"eval failed: {e}")
  | .listAlertEvents limit =>
      Unpoisoned now ∧ ∀ engine, now.shared.alerts.engine = some engine →
        now.shared.enginePoisoned = false ∧
          ∀ text, s.eventsJson (takeEvents limit engine.events) = .ok text →
            Fits reqId (stringSize text)
  | .getDaemonSettings =>
      Unpoisoned now ∧ ∀ bind, now.shared.promBind = some bind → Fits reqId (4 + stringSize bind)
  | .setDaemonSettings history alerts _ _ =>
      now.shared.schedulerPoisoned = false ∧ HistorySwitches io now.shared history ∧
        AlertsSwitch s io now.shared alerts

/-- What the next stretch of a handler needs. -/
def Proceeds (io : Io) (now : Moment Store) (handler : Handler) : Prop :=
  match handler.phase with
  | .received op => Answerable s io now handler.reqId op
  | .nicknameApplied _ _ => now.shared.registryPoisoned = false
  | .nicknameSnapshotted _ _ _ =>
      now.session.writerPoisoned = false ∧ ∀ e, io.saveError = some e →
        Fits handler.reqId (stringSize ("save failed: " ++ e))
  | .nicknameAnswered =>
      now.shared.schedulerPoisoned = false ∧ now.shared.registryPoisoned = false
  | .catalogued _ => now.shared.clientsPoisoned = false
  | .toggled _ promBind => ∀ bind, promBind = some bind → '\x00' ∉ bind.toList
  | .promBindSet errors =>
      Unpoisoned now ∧ (errors ≠ [] → Fits handler.reqId (stringSize ("; ".intercalate errors)))

/-- What a step needs: that a handler's stretch gets through. -/
def Meets (daemon : Daemon Store) : Event Store → Prop
  | .handle peer io => ∀ session handler, daemon.sessions.lookup peer = some session →
      session.handler = some handler → Proceeds s io ⟨daemon.shared, session⟩ handler
  | _ => True

end Conditions

section Stretches

variable {s : Surroundings Store Toml} {now : Moment Store} {reqId : UInt32} {guarded : Bool}
  {result : Except ProtoError ResponsePayload} {next : Outcome}

/-- The handler goes on, or it is done and the read loop goes on. -/
def Outcome.Fine : Outcome → Prop
  | .goesOn _ => True
  | .ended (.returned (.ok _)) => True
  | _ => False

theorem fits_of_le {bytes : Nat} (small : bytes ≤ 1000) : Fits reqId bytes := by
  have numbered : Varint.size reqId.toNat ≤ 5 := by
    apply Varint.size_le _ (by decide)
    have bound := reqId.toNat_lt
    omega
  unfold Fits maxFrameBytes
  omega

@[simp] theorem panic_fine : (now.panic guarded).2.Fine ↔ False := Iff.rfl

/-- A writer that is poisoned, an answer that is too large, and one that is written. -/
theorem respond_cases (format : WireFormat s.printable s.toSlice) :
    (now.session.writerPoisoned = true ∧
        respond s now reqId guarded result next = now.panic guarded) ∨
      now.session.writerPoisoned = false ∧
        ((¬ Fits reqId (resultSize s.printable result) ∧ ∃ writer e,
            respond s now reqId guarded result next =
              ({ now with session := { now.session with writer } },
                .ended (.returned (.error e)))) ∨
          Fits reqId (resultSize s.printable result) ∧ ∃ writer,
            respond s now reqId guarded result next =
              ({ now with session := { now.session with
                  writer, answers := now.session.answers ++ [(reqId, result)] } }, next)) := by
  cases poisoned : now.session.writerPoisoned with
  | true =>
    left
    exact ⟨rfl, by simp [respond, poisoned]⟩
  | false =>
    right
    refine ⟨rfl, ?_⟩
    have written := FrameWriter.writeFrame_fst s.toSlice (.response reqId.toNat result)
      now.session.writer
    rw [format reqId result] at written
    cases frame : now.session.writer.writeFrame s.toSlice (.response reqId.toNat result) with
    | mk outcome writer =>
      rw [frame] at written
      by_cases fits : Fits reqId (resultSize s.printable result)
      · right
        have within : ¬ maxFrameBytes < responseSize s.printable reqId result := not_lt.mpr fits
        rw [if_neg within] at written
        change outcome = _ at written
        exact ⟨fits, writer, by simp [respond, poisoned, frame, written]⟩
      · left
        have large : maxFrameBytes < responseSize s.printable reqId result := not_le.mp fits
        rw [if_pos large] at written
        change outcome = _ at written
        exact ⟨fits, writer, _, by simp [respond, poisoned, frame, written]; rfl⟩

theorem respond_fine (format : WireFormat s.printable s.toSlice) :
    (respond s now reqId guarded result next).2.Fine ↔
      now.session.writerPoisoned = false ∧ Fits reqId (resultSize s.printable result) ∧ next.Fine := by
  rcases @respond_cases _ _ s now reqId guarded result next format with
    ⟨poisoned, panicked⟩ | ⟨free, ⟨large, writer, e, failed⟩ | ⟨fits, writer, written⟩⟩
  · simp [panicked, poisoned]
  · simp [failed, large, Outcome.Fine]
  · simp [written, free, fits]

@[simp] theorem returned_fine : Outcome.returned.Fine := trivial

@[simp] theorem goesOn_fine (phase : Phase) : (Outcome.goesOn phase).Fine := trivial

theorem reply_fine (format : WireFormat s.printable s.toSlice) {payload : ResponsePayload} :
    (reply s now reqId guarded payload).2.Fine ↔
      now.session.writerPoisoned = false ∧ Fits reqId (payloadSize payload) := by
  simp only [reply, respond_fine format, resultSize, returned_fine, and_true]

theorem refuse_fine (format : WireFormat s.printable s.toSlice) {code : ProtoErrorCode}
    {message : Message} :
    (refuse s now reqId guarded code message).2.Fine ↔
      now.session.writerPoisoned = false ∧
        Fits reqId (stringSize (message.render s.printable)) := by
  simp only [refuse, respond_fine format, resultSize, returned_fine, and_true]

theorem stringSize_le {text : String} (short : text.utf8ByteSize < 2 ^ 9) :
    stringSize text ≤ 1000 := by
  have counted := Varint.blobSize_le (short.trans (by decide))
  unfold stringSize
  omega

theorem asStr_of_tryNew {sensor : String} {id : SensorId}
    (parsed : SensorId.tryNew sensor = .ok id) : id.asStr = sensor := by
  unfold SensorId.tryNew at parsed
  split at parsed
  · cases parsed
  · split at parsed
    · cases parsed
    · cases parsed
      rfl

theorem key_utf8ByteSize_le (key : HardwareDeviceKey) : key.asStr.utf8ByteSize ≤ keyMaxLen := by
  have valid := key.valid
  unfold keyError at valid
  split at valid
  · cases valid
  · split at valid
    · cases valid
    · rename_i short
      exact not_lt.mp short

theorem unknownDevice_short (printable : Char → Bool) (key : HardwareDeviceKey) :
    ((RegistryError.unknownDevice key.asStr).toString.render printable).utf8ByteSize < 2 ^ 9 := by
  have short := key_utf8ByteSize_le key
  have label : "unknown hardware device: ".utf8ByteSize = 25 := rfl
  have text : (RegistryError.unknownDevice key.asStr).toString.render printable =
      "unknown hardware device: " ++ key.asStr := by
    simp [RegistryError.toString]
  rw [text, String.utf8ByteSize_append, label]
  unfold keyMaxLen at short
  omega

theorem setNickname_cases {registry : HardwareRegistry} {key : HardwareDeviceKey}
    {value normalized : Option String} (accepted : normalizeValue value = .ok normalized) :
    (registry.devices.lookup key = none ∧
        registry.setNickname key normalized = .error (.unknownDevice key.asStr)) ∨
      registry.devices.lookup key ≠ none ∧
        ∃ next, registry.setNickname key normalized = .ok next := by
  cases known : registry.devices.lookup key with
  | none =>
    left
    exact ⟨rfl, by simp [HardwareRegistry.setNickname, known]⟩
  | some device =>
    right
    refine ⟨Option.some_ne_none device, ?_⟩
    cases normalized with
    | none => exact ⟨_, by simp [HardwareRegistry.setNickname, known]; rfl⟩
    | some nickname =>
      have valid := normalizeValue_normalized accepted nickname rfl
      exact ⟨_, by simp [HardwareRegistry.setNickname, known, valid]; rfl⟩

theorem unpoisoned_iff : Unpoisoned now ↔
    now.shared.schedulerPoisoned = false ∧ now.session.writerPoisoned = false :=
  ⟨fun free => ⟨free.scheduler, free.writer⟩, fun free => ⟨free.1, free.2⟩⟩

theorem utf8ByteSize_le_length (text : String) : text.utf8ByteSize ≤ 4 * text.length := by
  induction text using String.push_induction with
  | empty => simp
  | push text c ih =>
    have one := c.utf8Size_le_four
    simp only [String.utf8ByteSize_push, String.length_push]
    omega

end Stretches

section Receive

attribute [local simp] Answerable

variable {s : Surroundings Store Toml} {now : Moment Store} {reqId : UInt32} {io : Io}
  (format : WireFormat s.printable s.toSlice)

include format

theorem getHardware_fine :
    (getHardware s now reqId).2.Fine ↔ Answerable s io now reqId .getHardware := by
  unfold getHardware Answerable
  split
  · rename_i poisoned
    simp [poisoned]
  · rename_i free
    simp only [reply_fine format, payloadSize]
    simp [free]

theorem getSensorInfo_fine (sensor : String) :
    (getSensorInfo s now reqId sensor).2.Fine ↔
      Answerable s io now reqId (.getSensorInfo sensor) := by
  simp only [getSensorInfo, Answerable]
  cases parsed : SensorId.tryNew sensor with
  | error e => simp only [refuse_fine format]
  | ok id =>
    have name : id.asStr = sensor := asStr_of_tryNew parsed
    rw [unpoisoned_iff]
    cases now.shared.schedulerPoisoned with
    | true => simp
    | false =>
      cases now.shared.registryPoisoned with
      | true => simp
      | false =>
        cases found : now.shared.scheduler.descriptors.find? (·.id = id) with
        | none => simp [refuse_fine format, found, name]
        | some d => simp [reply_fine format, payloadSize, found]

theorem setPumpIntervalMs_fine (ms : Nat) :
    (setPumpIntervalMs s now reqId ms).2.Fine ↔
      Answerable s io now reqId (.setPumpIntervalMs ms) := by
  have fits : Fits reqId (Varint.size (min (max ms pumpIntervalMinMs) pumpIntervalMaxMs)) := by
    apply fits_of_le
    have small := @Varint.size_le (min (max ms pumpIntervalMinMs) pumpIntervalMaxMs) 2
    unfold pumpIntervalMaxMs at small ⊢
    omega
  simp only [setPumpIntervalMs, Answerable, reply_fine format, payloadSize, fits, and_true]

theorem answerHistory_fine (sensor : String) (sinceMicros untilMicros : Nat)
    (maxPoints : Option Nat) :
    (answerHistory s now reqId sensor sinceMicros untilMicros maxPoints).2.Fine ↔
      Answerable s io now reqId (.getHistory sensor sinceMicros untilMicros maxPoints) := by
  simp only [answerHistory, Answerable, unpoisoned_iff]
  cases now.shared.schedulerPoisoned with
  | true => simp
  | false =>
    simp only [Bool.false_eq_true, ↓reduceIte, respond_fine format, returned_fine, true_and,
      and_true]
    apply and_congr_right
    intro free
    cases now.shared.historyDb with
    | none =>
      have fits : Fits reqId (stringSize "history not enabled on daemon") :=
        fits_of_le (stringSize_le (by decide))
      simp [getHistory, resultSize, fits]
    | some db =>
      cases parsed : SensorId.tryNew sensor with
      | error e => simp [getHistory, queryHistory, parsed, resultSize]
      | ok id =>
        have name : id.asStr = sensor := asStr_of_tryNew parsed
        cases db with
        | error e => simp [getHistory, queryHistory, parsed, resultSize]
        | ok table =>
          simp only [getHistory, queryHistory, parsed, resultSize, payloadSize, seqSize,
            List.length_map, List.map_map, name]
          rfl

theorem listAlerts_fine :
    (listAlerts s now reqId).2.Fine ↔ Answerable s io now reqId .listAlerts := by
  simp only [listAlerts, Answerable, unpoisoned_iff]
  cases now.shared.schedulerPoisoned with
  | true => simp
  | false =>
    cases now.shared.alerts.engine with
    | none =>
      have fits : Fits reqId (seqSize alertRuleSize []) := fits_of_le (by decide)
      simp [reply_fine format, payloadSize, fits]
    | some engine =>
      cases now.shared.enginePoisoned with
      | true => simp
      | false => simp [reply_fine format, payloadSize, seqSize, Function.comp_def]

theorem upsertAlert_fine (name expr : String) (forDuration cooldown : Option String)
    (notify : List String) (enabled : Option Bool) :
    (upsertAlert s io now reqId name expr forDuration cooldown notify enabled).2.Fine ↔
      Answerable s io now reqId (.upsertAlert name expr forDuration cooldown notify enabled) := by
  simp only [upsertAlert, Answerable, unpoisoned_iff, Alerts.AlertsState.upsertAlert,
    Alerts.AlertEngine.parseAndUpsert, ← Alerts.optParseDuration_eq_none_iff, RefusalFits]
  cases now.shared.schedulerPoisoned with
  | true => simp
  | false =>
    cases now.shared.alerts.engine with
    | none =>
      have fits : Fits reqId (stringSize "alert engine not loaded") :=
        fits_of_le (stringSize_le (by decide))
      simp [respond_fine format, resultSize, returned_fine, fits]
    | some engine =>
      cases now.shared.alerts.configPath with
      | none =>
        have fits : Fits reqId (stringSize "alerts not configured") :=
          fits_of_le (stringSize_le (by decide))
        simp [respond_fine format, resultSize, returned_fine, fits]
      | some path =>
        cases optParseDuration forDuration with
        | none => simp
        | some first =>
          cases first with
          | error e => simp [respond_fine format, resultSize, returned_fine]
          | ok held =>
            cases optParseDuration cooldown with
            | none => simp
            | some second =>
              cases second with
              | error e => simp [respond_fine format, resultSize, returned_fine]
              | ok cooled =>
                cases now.shared.enginePoisoned with
                | true => simp
                | false => simp [reply_fine format, payloadSize]

theorem deleteAlert_fine (name : String) :
    (deleteAlert s io now reqId name).2.Fine ↔
      Answerable s io now reqId (.deleteAlert name) := by
  simp only [deleteAlert, Answerable, unpoisoned_iff, Alerts.AlertsState.deleteAlert]
  cases now.shared.schedulerPoisoned with
  | true => simp
  | false =>
    cases now.shared.alerts.engine with
    | none =>
      have fits : Fits reqId (stringSize "alert engine not loaded") :=
        fits_of_le (stringSize_le (by decide))
      simp [respond_fine format, resultSize, returned_fine, fits]
    | some engine =>
      cases now.shared.alerts.configPath with
      | none =>
        have fits : Fits reqId (stringSize "alerts not configured") :=
          fits_of_le (stringSize_le (by decide))
        simp [respond_fine format, resultSize, returned_fine, fits]
      | some path =>
        cases now.shared.enginePoisoned with
        | true => simp
        | false =>
          cases found : (engine.deleteRule name).2 with
          | true =>
            have stored := Alerts.deleteRule_found_iff.mp found
            simp [respond_fine format, resultSize, payloadSize, returned_fine, found, stored]
          | false =>
            have missing : ¬ ∃ r ∈ engine.rules, r.name = name := by
              rw [← Alerts.deleteRule_found_iff, found]
              exact Bool.false_ne_true
            simp [respond_fine format, resultSize, returned_fine, found, missing]

theorem testAlertExpr_fine (expr : String) :
    (testAlertExpr s io now reqId expr).2.Fine ↔
      Answerable s io now reqId (.testAlertExpr expr) := by
  simp only [testAlertExpr, Answerable, unpoisoned_iff]
  cases now.shared.schedulerPoisoned with
  | true => simp
  | false =>
    have texts : Fits reqId (payloadSize (Alerts.testResponse
        (s.evalexpr.testOutcome now.shared.scheduler io.read io.nowMicros expr io.inTime))) ↔
        ∀ e, s.evalexpr.testOutcome now.shared.scheduler io.read io.nowMicros expr io.inTime =
          .err e → Fits reqId (2 + stringSize s!"eval failed: {e}") := by
      cases s.evalexpr.testOutcome now.shared.scheduler io.read io.nowMicros expr io.inTime with
      | ok truthy =>
        have fits : Fits reqId (payloadSize (Alerts.testResponse (.ok truthy))) :=
          fits_of_le (by simp [Alerts.testResponse, payloadSize, optionSize])
        simp [fits]
      | err e =>
        have size : payloadSize (Alerts.testResponse (.err e)) =
            2 + stringSize s!"eval failed: {e}" := by
          simp only [Alerts.testResponse, payloadSize, optionSize]
          omega
        simp [size]
      | timeout =>
        have fits : Fits reqId (payloadSize (Alerts.testResponse .timeout)) :=
          fits_of_le (by decide +kernel)
        simp [fits]
      | panic =>
        have fits : Fits reqId (payloadSize (Alerts.testResponse .panic)) :=
          fits_of_le (by decide +kernel)
        simp [fits]
    cases io.threadSpawns with
    | true => simp [reply_fine format, texts]
    | false =>
      by_cases short : (rewriteDots expr).utf8ByteSize ≤ maxExprLen
      · simp [short]
      · simp [reply_fine format, texts, short, not_le.mp short]

theorem listAlertEvents_fine (limit : Option Nat) :
    (listAlertEvents s now reqId limit).2.Fine ↔
      Answerable s io now reqId (.listAlertEvents limit) := by
  simp only [listAlertEvents, Answerable, unpoisoned_iff]
  have fits : Fits reqId (stringSize "[]") := fits_of_le (stringSize_le (by decide))
  cases now.shared.schedulerPoisoned with
  | true => simp
  | false =>
    cases now.shared.alerts.engine with
    | none => simp [reply_fine format, payloadSize, fits]
    | some engine =>
      cases now.shared.enginePoisoned with
      | true => simp
      | false =>
        cases text : s.eventsJson (takeEvents limit engine.events) with
        | error e => simp [reply_fine format, payloadSize, text, Except.toOption, fits]
        | ok text => simp [reply_fine format, payloadSize, text, Except.toOption]

theorem getDaemonSettings_fine :
    (getDaemonSettings s now reqId).2.Fine ↔ Answerable s io now reqId .getDaemonSettings := by
  simp only [getDaemonSettings, Answerable, unpoisoned_iff, Shared.daemonSettings]
  cases now.shared.schedulerPoisoned with
  | true => simp
  | false =>
    cases now.shared.promBind with
    | none =>
      have fits : Fits reqId (3 + optionSize stringSize none) := fits_of_le (by decide)
      simp [reply_fine format, payloadSize, fits]
    | some bind =>
      have size : 4 + stringSize bind = 3 + optionSize stringSize (some bind) := by
        simp only [optionSize]
        omega
      simp [reply_fine format, payloadSize, size]

theorem setNickname_fine (deviceKey : String) (value : Option String) :
    (setNickname s now reqId deviceKey value).2.Fine ↔
      Answerable s io now reqId (.setNickname deviceKey value) := by
  simp only [setNickname, Answerable]
  cases HardwareDeviceKey.tryNew deviceKey with
  | error e => simp only [refuse_fine format]
  | ok key =>
    cases accepted : normalizeValue value with
    | error e => simp only [refuse_fine format]
    | ok normalized =>
      cases now.shared.registryPoisoned with
      | true => simp
      | false =>
        rcases @setNickname_cases now.shared.registry key _ _ accepted with
          ⟨unknown, refused⟩ | ⟨known, registry, changed⟩
        · have fits : Fits reqId
              (stringSize ((RegistryError.unknownDevice key.asStr).toString.render s.printable)) := by
            exact fits_of_le (stringSize_le (unknownDevice_short s.printable key))
          simp [refused, refuse_fine format, fits, unknown]
        · simp [changed, known]

omit format in
theorem toggleHistory_none_iff (shared : Shared Store) (enable : Bool) :
    Shared.toggleHistory io shared enable = none ↔
      ¬ HistorySwitches io shared (some enable) := by
  simp only [Shared.toggleHistory, HistorySwitches, Shared.EnginePoisoned]
  cases enable with
  | false =>
    simp
  | true =>
    cases shared.history with
    | true => simp
    | false =>
      cases io.historySpawn with
      | error e => simp
      | ok db =>
        cases io.threadSpawns <;> simp

omit format in
theorem toggleHistory_alerts {shared next : Shared Store} {enable : Bool}
    {answer : Except String PUnit.{1}}
    (toggled : Shared.toggleHistory io shared enable = some (answer, next)) :
    next.alerts = shared.alerts := by
  unfold Shared.toggleHistory at toggled
  dsimp only at toggled
  cases enable with
  | false =>
    rw [if_neg Bool.false_ne_true] at toggled
    split at toggled
    · cases toggled
    · cases toggled
      rfl
  | true =>
    rw [if_pos rfl] at toggled
    split at toggled
    · cases toggled
      rfl
    · split at toggled
      · split at toggled
        · cases toggled
        · cases toggled
          rfl
      · cases toggled
        rfl

omit format in
theorem toggleAlerts_none_iff (shared : Shared Store) (enable : Bool) :
    Shared.toggleAlerts s io shared enable = none ↔
      ¬ AlertsSwitch s io shared (some enable) := by
  simp only [Shared.toggleAlerts, AlertsSwitch,
    ← Alerts.load_eq_none_iff s.tomlCodec s.alertsConfigPath]
  cases enable with
  | false => simp
  | true =>
    cases shared.alerts.engine with
    | some engine => simp
    | none =>
      cases loaded : Alerts.AlertEngine.load s.tomlCodec s.alertsConfigPath
          (shared.alerts.file.bind s.readToString) with
      | none => simp
      | some result =>
        cases result with
        | error e => simp
        | ok engine => cases io.threadSpawns <;> simp

omit format in
theorem switched_none_iff
    {toggle : Shared Store → Bool → Option (Except String PUnit.{1} × Shared Store)}
    {setting : Option Bool} {errors : List String} {shared : Shared Store} :
    switched toggle setting errors shared = none ↔
      ∃ enable, setting = some enable ∧ toggle shared enable = none := by
  cases setting <;> simp [switched]

omit format in
theorem toggleSubsystems_fine (history alerts prom : Option Bool) (promBind : Option String) :
    (toggleSubsystems s io now history alerts prom promBind).2.Fine ↔
      Answerable s io now reqId (.setDaemonSettings history alerts prom promBind) := by
  have history_iff : switched (Shared.toggleHistory io) history [] now.shared = none ↔
      ¬ HistorySwitches io now.shared history := by
    cases history with
    | none => simp [switched, HistorySwitches]
    | some enable =>
      simp [switched_none_iff, toggleHistory_none_iff]
  have alerts_iff : ∀ errors (shared : Shared Store), shared.alerts = now.shared.alerts →
      (switched (Shared.toggleAlerts s io) alerts errors shared = none ↔
        ¬ AlertsSwitch s io now.shared alerts) := by
    intro errors shared same
    cases alerts with
    | none => simp [switched, AlertsSwitch]
    | some enable =>
      rw [switched_none_iff]
      simp [toggleAlerts_none_iff, AlertsSwitch, same]
  simp only [toggleSubsystems, Answerable]
  cases now.shared.schedulerPoisoned with
  | true => simp
  | false =>
    cases first : switched (Shared.toggleHistory io) history [] now.shared with
    | none =>
      have stuck := history_iff.mp first
      simp [stuck]
    | some after =>
      obtain ⟨errors, shared⟩ := after
      have switches : HistorySwitches io now.shared history := by
        by_contra stuck
        rw [history_iff.mpr stuck] at first
        cases first
      have same : shared.alerts = now.shared.alerts := by
        cases history with
        | none =>
          cases first
          rfl
        | some enable =>
          obtain ⟨toggled, taken, outcome⟩ := Option.map_eq_some_iff.mp first
          have kept := toggleHistory_alerts taken
          split at outcome
          · cases outcome
            exact kept
          · cases outcome
            exact kept
      have alerts_iff' := alerts_iff errors shared same
      cases second : switched (Shared.toggleAlerts s io) alerts errors shared with
      | none =>
        have stuck := alerts_iff'.mp second
        simp [second, stuck]
      | some later =>
        have switches' : AlertsSwitch s io now.shared alerts := by
          by_contra stuck
          rw [alerts_iff'.mpr stuck] at second
          cases second
        simp [second, switches, switches']

theorem receive_fine (op : RequestOp) :
    (receive s io now reqId op).2.Fine ↔ Answerable s io now reqId op := by
  cases op with
  | getHardware => exact getHardware_fine format
  | setNickname deviceKey value => exact setNickname_fine format deviceKey value
  | setPumpIntervalMs ms => exact setPumpIntervalMs_fine format ms
  | getHistory sensor sinceMicros untilMicros maxPoints =>
    exact answerHistory_fine format sensor sinceMicros untilMicros maxPoints
  | listAlerts => exact listAlerts_fine format
  | upsertAlert name expr forDuration cooldown notify enabled =>
    exact upsertAlert_fine format name expr forDuration cooldown notify enabled
  | deleteAlert name => exact deleteAlert_fine format name
  | testAlertExpr expr => exact testAlertExpr_fine format expr
  | listAlertEvents limit => exact listAlertEvents_fine format limit
  | getDaemonSettings => exact getDaemonSettings_fine format
  | setDaemonSettings history alerts prom promBind =>
    exact toggleSubsystems_fine history alerts prom promBind
  | getSensorInfo sensor => exact getSensorInfo_fine format sensor

end Receive

section Handle

variable {s : Surroundings Store Toml} {now : Moment Store} {reqId : UInt32} {io : Io}
  {handler : Handler}

/-- The device key and the nickname that a handler carries have passed their checks. -/
def Phase.Checked : Phase → Prop
  | .nicknameApplied deviceKey value => keyError deviceKey = none ∧
      ∀ nickname, value = some nickname → validateNickname nickname = .ok (some nickname)
  | .nicknameSnapshotted _ deviceKey value => keyError deviceKey = none ∧
      ∀ nickname, value = some nickname → validateNickname nickname = .ok (some nickname)
  | _ => True

theorem length_le_of_validated {input nickname : String}
    (valid : validateNickname input = .ok (some nickname)) :
    nickname.length ≤ nicknameMaxChars := by
  unfold validateNickname at valid
  dsimp only at valid
  split at valid
  · cases valid
  · split at valid
    · cases valid
    · rename_i short
      split at valid
      · cases valid
      · cases valid
        rw [← String.length_toList]
        exact not_lt.mp short

theorem nicknameSet_fits {deviceKey : String} {value : Option String}
    (valid : keyError deviceKey = none) (normalized : ∀ nickname, value = some nickname →
      validateNickname nickname = .ok (some nickname)) :
    Fits reqId (payloadSize (.nicknameSet deviceKey value)) := by
  have key_short : deviceKey.utf8ByteSize ≤ 140 := key_utf8ByteSize_le ⟨deviceKey, valid⟩
  have key_size : stringSize deviceKey ≤ deviceKey.utf8ByteSize + 2 :=
    Varint.blobSize_le (by omega)
  apply fits_of_le
  cases value with
  | none =>
    simp only [payloadSize, optionSize]
    omega
  | some nickname =>
    have chars : nickname.length ≤ 64 := length_le_of_validated (normalized nickname rfl)
    have bytes := utf8ByteSize_le_length nickname
    have size : stringSize nickname ≤ nickname.utf8ByteSize + 2 :=
      Varint.blobSize_le (by omega)
    simp only [payloadSize, optionSize]
    omega

theorem saveNicknames_fine (format : WireFormat s.printable s.toSlice) {store : NicknameStore}
    {deviceKey : String} {value : Option String} (valid : keyError deviceKey = none)
    (normalized : ∀ nickname, value = some nickname →
      validateNickname nickname = .ok (some nickname)) :
    (saveNicknames s io now reqId store deviceKey value).2.Fine ↔
      now.session.writerPoisoned = false ∧ ∀ e, io.saveError = some e →
        Fits reqId (stringSize ("save failed: " ++ e)) := by
  unfold saveNicknames
  cases io.saveError with
  | none =>
    have fits : Fits reqId (payloadSize (.nicknameSet deviceKey value)) :=
      nicknameSet_fits valid normalized
    simp [respond_fine format, resultSize, fits]
  | some e => simp [refuse_fine format]

theorem null_notMem_of_blank {bind : String} (blank : (trim bind).toList.isEmpty = true) :
    '\x00' ∉ bind.toList := by
  have empty : (bind.toList.dropWhile isWhitespace).rdropWhile isWhitespace = [] := by
    simpa [trim] using blank
  rw [List.rdropWhile_eq_nil_iff] at empty
  intro member
  rw [← List.takeWhile_append_dropWhile (p := isWhitespace) (l := bind.toList)] at member
  have space : isWhitespace '\x00' = true := by
    rcases List.mem_append.mp member with front | back
    · exact List.mem_takeWhile_imp front
    · exact empty _ back
  revert space
  decide

theorem setPromBind_fine {errors : List String} {promBind : Option String} :
    (setPromBind now errors promBind).2.Fine ↔
      ∀ bind, promBind = some bind → '\x00' ∉ bind.toList := by
  unfold setPromBind
  cases promBind with
  | none => simp
  | some bind =>
    simp only [Option.some.injEq, forall_eq']
    split
    · rename_i blank
      simp [null_notMem_of_blank blank]
    · split
      · rename_i null
        simp [null]
      · rename_i clean
        simp [clean]

theorem answerSettings_fine (format : WireFormat s.printable s.toSlice) {errors : List String} :
    (answerSettings s now reqId errors).2.Fine ↔
      Unpoisoned now ∧ (errors ≠ [] → Fits reqId (stringSize ("; ".intercalate errors))) := by
  simp only [answerSettings, unpoisoned_iff, Shared.daemonSettings]
  cases now.shared.schedulerPoisoned with
  | true => simp
  | false =>
    cases errors with
    | nil =>
      have fits : Fits reqId 3 := fits_of_le (by decide)
      simp [reply_fine format, payloadSize, fits]
    | cons first rest => simp [refuse_fine format]

/-- A stretch goes well exactly when what it needs is there. -/
theorem handleRequest_fine (format : WireFormat s.printable s.toSlice)
    (checked : handler.phase.Checked) :
    (handleRequest s io now handler).2.Fine ↔ Proceeds s io now handler := by
  unfold handleRequest Proceeds
  cases phase : handler.phase with
  | received op => exact receive_fine format op
  | nicknameApplied deviceKey value =>
    simp only [snapshotNicknames]
    cases now.shared.registryPoisoned <;> simp
  | nicknameSnapshotted store deviceKey value =>
    rw [phase] at checked
    exact saveNicknames_fine format checked.1 checked.2
  | nicknameAnswered =>
    simp only [catalogue]
    cases now.shared.schedulerPoisoned <;> cases now.shared.registryPoisoned <;>
      simp
  | catalogued infos =>
    simp only [broadcast]
    cases now.shared.clientsPoisoned <;> simp [returned_fine]
  | toggled errors promBind => exact setPromBind_fine
  | promBindSet errors => exact answerSettings_fine format

end Handle

end LinSight.Requests
