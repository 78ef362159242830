import LinSight.Daemon.AnsweredRuns
import LinSight.Gui.Rpc

set_option autoImplicit false

/-! The daemon's settings as the settings page reads and sets them. -/

namespace LinSight.Gui

open Requests (Surroundings Io Shared Moment Outcome Fits switched promErrors)

variable {Store Toml : Type}

/-- The two requests of the settings page. -/
inductive SettingsOp where
  | get
  | set (history alerts prom : Option Bool) (promBind : Option String)

def SettingsOp.op : SettingsOp → RequestOp
  | .get => .getDaemonSettings
  | .set history alerts prom promBind => .setDaemonSettings history alerts prom promBind

/-- What a handler leaves: no answer where it panics. -/
abbrev Answered (Store : Type) := Option (Except ProtoError ResponsePayload) × Shared Store

section Daemon

variable (s : Surroundings Store Toml) (io : Io)

/-- A panic under the scheduler's lock. -/
def poisoned (shared : Shared Store) : Answered Store :=
  (none, { shared with schedulerPoisoned := true })

def bindProm (shared : Shared Store) : Option String → Option (Shared Store)
  | none => some shared
  | some bind =>
      if (trim bind).toList.isEmpty then some { shared with promBind := none }
      else if '\x00' ∈ bind.toList then none
      else some { shared with promBind := some bind }

/-- The errors of the switches decide, after everything was done. -/
def settingsSet (errors : List String) (shared : Shared Store) :
    Except ProtoError ResponsePayload :=
  let (history, alerts, _, promBind) := shared.daemonSettings
  if errors.isEmpty then .ok (.daemonSettingsSet history alerts promBind.isSome)
  else .error ⟨.internal, "; ".intercalate errors⟩

/-- The handlers of the two requests between their locks and the writer. -/
def answerSetting (shared : Shared Store) : SettingsOp → Answered Store
  | .get =>
      if shared.schedulerPoisoned then (none, shared)
      else
        let (history, alerts, _, promBind) := shared.daemonSettings
        (some (.ok (.daemonSettings history alerts promBind.isSome promBind)), shared)
  | .set history alerts prom promBind =>
      if shared.schedulerPoisoned then (none, shared)
      else
        match switched (Shared.toggleHistory io) history [] shared with
        | none => poisoned shared
        | some (errors, shared) =>
            match switched (Shared.toggleAlerts s io) alerts errors shared with
            | none => poisoned shared
            | some (errors, shared) =>
                match bindProm shared promBind with
                | none => (none, shared)
                | some shared => (some (settingsSet (errors ++ promErrors prom) shared), shared)

/-- The stretches of a handler with no other thread in between. -/
def serve : List Io → Moment Store → Requests.Handler → Moment Store × Outcome
  | [], now, handler => (now, .goesOn handler.phase)
  | io :: rest, now, handler =>
      match Requests.handleRequest s io now handler with
      | (now, .goesOn phase) => serve rest now { handler with phase }
      | (now, .ended result) => (now, .ended result)

end Daemon

@[ext] structure DaemonSettings where
  history : Bool
  alerts : Bool
  prom : Bool
  promBind : Option String
deriving DecidableEq

/-- What the daemon's two answers are made of. -/
def settingsOf (shared : Shared Store) : DaemonSettings :=
  ⟨shared.history, shared.alerts.engine.isSome, shared.promBind.isSome, shared.promBind⟩

/-- The switches of `set_daemon_setting`. -/
inductive Toggle where
  | history
  | alerts
  | prom
deriving DecidableEq

def Toggle.ofName (subsystem : String) : Option Toggle :=
  if subsystem = "history" then some .history
  else if subsystem = "alerts" then some .alerts
  else if subsystem = "prom" then some .prom
  else none

def Toggle.op (enabled : Bool) : Toggle → SettingsOp
  | .history => .set (some enabled) none none none
  | .alerts => .set none (some enabled) none none
  | .prom => .set none none (some enabled) none

def Toggle.of (settings : DaemonSettings) : Toggle → Bool
  | .history => settings.history
  | .alerts => settings.alerts
  | .prom => settings.prom

def Toggle.update (settings : DaemonSettings) (enabled : Bool) : Toggle → DaemonSettings
  | .history => { settings with history := enabled }
  | .alerts => { settings with alerts := enabled }
  | .prom => { settings with prom := enabled }

/-- A call of the settings page; no value has a NUL. -/
inductive SettingCall where
  | setting (subsystem : String) (enabled : Bool)
  | settingStr (subsystem value : String) (clean : '\x00' ∉ value.toList)

/-- Each is returned as a text behind `error: `. -/
inductive SettingError where
  | unknownSubsystem (subsystem : String)
  | unknownStringSubsystem (subsystem : String)
  | rpc (e : RpcError)

structure SettingReply where
  history : Bool
  alerts : Bool
  prom : Bool
  message : Option String

/-- A call with what the daemon meets, and whether its answer comes after the timeout. -/
structure SettingEvent where
  call : SettingCall
  io : Io
  late : Bool

section Calls

variable (s : Surroundings Store Toml)

/-- `request_rpc` where every frame goes through. The panic of a handler closes the connection. -/
def settingRpc (io : Io) (late : Bool) (shared : Shared Store) (op : SettingsOp) :
    Except RpcError ResponsePayload × Shared Store :=
  match answerSetting s io shared op with
  | (none, shared) => (.error .timeout, shared)
  | (some result, shared) =>
      (if late then .error .timeout else rpcResult op.op result, shared)

/-- `fetch_daemon_settings`; `none` is the empty object. -/
def fetchDaemonSettings (io : Io) (shared : Shared Store) : Option DaemonSettings :=
  match (settingRpc s io false shared .get).1 with
  | .ok (.daemonSettings history alerts prom promBind) => some ⟨history, alerts, prom, promBind⟩
  | _ => none

def settingReply (message : Option String) :
    Except RpcError ResponsePayload → Except SettingError SettingReply
  | .ok (.daemonSettingsSet history alerts prom) => .ok ⟨history, alerts, prom, message⟩
  | .ok payload => .error (.rpc (.unexpectedPayload payload))
  | .error e => .error (.rpc e)

/-- `set_daemon_setting` and `set_daemon_setting_str`. A blank bind is sent as none at all. -/
def callSetting (event : SettingEvent) (shared : Shared Store) :
    Except SettingError SettingReply × Shared Store :=
  match event.call with
  | .setting subsystem enabled =>
      match Toggle.ofName subsystem with
      | none => (.error (.unknownSubsystem subsystem), shared)
      | some toggle =>
          let (result, shared) := settingRpc s event.io event.late shared (toggle.op enabled)
          (settingReply none result, shared)
  | .settingStr subsystem value _ =>
      if subsystem = "promBind" then
        let bind := trim value
        let promBind := if bind.toList.isEmpty then none else some bind
        let message := if promBind.isSome then "Prometheus bind set; restart daemon to apply"
          else "Prometheus bind cleared"
        let (result, shared) :=
          settingRpc s event.io event.late shared (.set none none none promBind)
        (settingReply message result, shared)
      else (.error (.unknownStringSubsystem subsystem), shared)

def settingStep (shared : Shared Store) (event : SettingEvent) : Option (Shared Store) :=
  some (callSetting s event shared).2

/-- The settings with the one that is set. -/
def SettingCall.wanted (settings : DaemonSettings) : SettingCall → DaemonSettings
  | .setting subsystem enabled =>
      ((Toggle.ofName subsystem).map (Toggle.update settings enabled)).getD settings
  | .settingStr _ value _ =>
      { settings with
        promBind := if (trim value).toList.isEmpty then none else some (trim value) }

/-- The call did what it says, and nothing else. -/
def SettingLands (shared : Shared Store) (event : SettingEvent) : Prop :=
  ∀ before, fetchDaemonSettings s event.io shared = some before →
    fetchDaemonSettings s event.io (callSetting s event shared).2 =
      some (match (callSetting s event shared).1 with
        | .ok _ => event.call.wanted before
        | .error _ => before)

/-- The switch of the daemon, without its lock. -/
def Toggle.run (io : Io) (shared : Shared Store) (enabled : Bool) :
    Toggle → Option (Except String PUnit.{1} × Shared Store)
  | .history => shared.toggleHistory io enabled
  | .alerts => shared.toggleAlerts s io enabled
  | .prom => some (.error ("; ".intercalate (promErrors (some enabled))), shared)

/-- When a call lands: a switch does not panic, and one that is answered too late changes nothing;
a bind is cleared only where there is none, and set only where there is one. -/
def SettingKept (shared : Shared Store) (event : SettingEvent) : Prop :=
  ∀ before, fetchDaemonSettings s event.io shared = some before →
    match event.call with
    | .setting subsystem enabled =>
        match Toggle.ofName subsystem with
        | none => True
        | some toggle =>
            match toggle.run s event.io shared enabled with
            | none => False
            | some (.error _, _) => True
            | some (.ok _, _) => event.late = true → toggle.of before = enabled
    | .settingStr subsystem value _ =>
        subsystem = "promBind" →
          if (trim value).toList.isEmpty then event.late = true ∨ before.promBind = none
          else if event.late then before.promBind = some (trim value)
          else before.promBind.isSome = true

end Calls

section Toggles

variable {s : Surroundings Store Toml} {io : Io} {shared next : Shared Store} {enable : Bool}
  {result : Except String PUnit.{1}}

/-- The settings after a switch: it is set, or it has failed and all is as before. -/
def Toggle.settled (toggle : Toggle) (before : DaemonSettings) (enable : Bool) :
    Except String PUnit.{1} → DaemonSettings
  | .ok _ => toggle.update before enable
  | .error _ => before

theorem toggleHistory_spec (toggled : shared.toggleHistory io enable = some (result, next)) :
    next.schedulerPoisoned = shared.schedulerPoisoned ∧
      settingsOf next = Toggle.history.settled (settingsOf shared) enable result := by
  unfold Shared.toggleHistory at toggled
  dsimp only at toggled
  cases enable with
  | false =>
    rw [if_neg Bool.false_ne_true] at toggled
    split at toggled
    · cases toggled
    · cases toggled
      exact ⟨rfl, rfl⟩
  | true =>
    rw [if_pos rfl] at toggled
    split at toggled
    · rename_i on
      cases toggled
      refine ⟨rfl, ?_⟩
      simp only [settingsOf, Toggle.settled, Toggle.update, on]
    · split at toggled
      · split at toggled
        · cases toggled
        · cases toggled
          exact ⟨rfl, rfl⟩
      · cases toggled
        exact ⟨rfl, rfl⟩

theorem toggleAlerts_spec (toggled : shared.toggleAlerts s io enable = some (result, next)) :
    next.schedulerPoisoned = shared.schedulerPoisoned ∧
      settingsOf next = Toggle.alerts.settled (settingsOf shared) enable result := by
  unfold Shared.toggleAlerts at toggled
  dsimp only at toggled
  cases enable with
  | false =>
    rw [if_neg Bool.false_ne_true] at toggled
    cases toggled
    exact ⟨rfl, rfl⟩
  | true =>
    rw [if_pos rfl] at toggled
    split at toggled
    · rename_i loaded
      cases toggled
      refine ⟨rfl, ?_⟩
      simp only [settingsOf, Toggle.settled, Toggle.update, loaded]
    · split at toggled
      · cases toggled
      · cases toggled
        exact ⟨rfl, rfl⟩
      · split at toggled
        · cases toggled
        · cases toggled
          exact ⟨rfl, rfl⟩

theorem Toggle.run_spec {toggle : Toggle} (ran : toggle.run s io shared enable = some (result, next)) :
    next.schedulerPoisoned = shared.schedulerPoisoned ∧
      settingsOf next = toggle.settled (settingsOf shared) enable result := by
  cases toggle with
  | history => exact toggleHistory_spec ran
  | alerts => exact toggleAlerts_spec ran
  | prom =>
      cases ran
      exact ⟨rfl, rfl⟩

theorem switched_spec {toggle : Shared Store → Bool → Option (Except String PUnit.{1} × Shared Store)}
    (keeps : ∀ {enable result next}, toggle shared enable = some (result, next) →
      next.schedulerPoisoned = shared.schedulerPoisoned)
    {setting : Option Bool} {errors later : List String}
    (ran : switched toggle setting errors shared = some (later, next)) :
    next.schedulerPoisoned = shared.schedulerPoisoned := by
  cases setting with
  | none =>
      cases ran
      rfl
  | some enable =>
      obtain ⟨⟨result, toggled⟩, taken, outcome⟩ := Option.map_eq_some_iff.mp ran
      have same := keeps taken
      cases result <;> cases outcome <;> exact same

theorem bindProm_spec {promBind : Option String} (bound : bindProm shared promBind = some next) :
    next.schedulerPoisoned = shared.schedulerPoisoned := by
  unfold bindProm at bound
  split at bound
  · cases bound
    rfl
  · split at bound
    · cases bound
      rfl
    · split at bound
      · cases bound
      · cases bound
        rfl

/-- The answer to a single switch. -/
theorem answerSetting_toggle (free : shared.schedulerPoisoned = false) (toggle : Toggle) :
    answerSetting s io shared (toggle.op enable) =
      match toggle.run s io shared enable with
      | none => poisoned shared
      | some (.ok _, next) =>
          (some (.ok (.daemonSettingsSet (settingsOf next).history (settingsOf next).alerts
            (settingsOf next).prom)), next)
      | some (.error e, next) => (some (.error ⟨.internal, e⟩), next) := by
  have lone (e : String) : "; ".intercalate [e] = e := String.intercalate_singleton
  cases toggle with
  | history =>
      simp only [Toggle.op, answerSetting, free, Bool.false_eq_true, ↓reduceIte, switched,
        Toggle.run]
      rcases shared.toggleHistory io enable with _ | ⟨_ | _, next⟩
      · rfl
      · simp only [Option.map_some, bindProm, promErrors, settingsSet, List.nil_append,
          List.append_nil, lone]
        rfl
      · rfl
  | alerts =>
      simp only [Toggle.op, answerSetting, free, Bool.false_eq_true, ↓reduceIte, switched,
        Toggle.run]
      rcases shared.toggleAlerts s io enable with _ | ⟨_ | _, next⟩
      · rfl
      · simp only [Option.map_some, bindProm, promErrors, settingsSet, List.nil_append,
          List.append_nil, lone]
        rfl
      · rfl
  | prom =>
      simp only [Toggle.op, answerSetting, free, Bool.false_eq_true, ↓reduceIte, switched,
        Toggle.run, bindProm, settingsSet, List.nil_append]
      cases enable <;> rfl

theorem fetchDaemonSettings_eq (io : Io) (shared : Shared Store) :
    fetchDaemonSettings s io shared =
      if shared.schedulerPoisoned then none else some (settingsOf shared) := by
  unfold fetchDaemonSettings settingRpc answerSetting
  cases shared.schedulerPoisoned <;> rfl

end Toggles

section Serve

variable {s : Surroundings Store Toml} {io : Io} {now : Moment Store} {reqId : UInt32}

/-- The answer is on the stream and in the session's record. -/
theorem respond_written (format : WireFormat s.printable s.toSlice)
    {result : Except ProtoError ResponsePayload} {guarded : Bool} {next : Outcome}
    (healthy : now.session.writerPoisoned = false) (fits : Fits reqId (resultSize s.printable result)) :
    ∃ writer, Requests.respond s now reqId guarded result next =
      (⟨now.shared, { now.session with
        writer, answers := now.session.answers ++ [(reqId, result)] }⟩, next) := by
  rcases @Requests.respond_cases _ _ s now reqId guarded result next format with
    ⟨sick, _⟩ | ⟨_, ⟨large, _⟩ | ⟨_, writer, written⟩⟩
  · rw [healthy] at sick
    cases sick
  · exact absurd fits large
  · exact ⟨writer, written⟩

theorem setPromBind_bound {mid shared : Shared Store} {promBind : Option String}
    (bound : bindProm mid promBind = some shared) (errors : List String) :
    Requests.setPromBind { now with shared := mid } errors promBind =
      ({ now with shared := shared }, .goesOn (.promBindSet errors)) := by
  unfold bindProm at bound
  unfold Requests.setPromBind
  cases promBind with
  | none =>
      cases bound
      rfl
  | some bind =>
      dsimp only at bound ⊢
      split at bound
      · rename_i blank
        cases bound
        rw [if_pos blank]
      · rename_i filled
        split at bound
        · cases bound
        · rename_i clean
          cases bound
          rw [if_neg filled, if_neg clean]

theorem answerSettings_written (format : WireFormat s.printable s.toSlice) {errors : List String}
    (healthy : now.session.writerPoisoned = false)
    (free : now.shared.schedulerPoisoned = false)
    (fits : Fits reqId (resultSize s.printable (settingsSet errors now.shared))) :
    ∃ writer, Requests.answerSettings s now reqId errors =
      (⟨now.shared, { now.session with writer, answers :=
        now.session.answers ++ [(reqId, settingsSet errors now.shared)] }⟩, .returned) := by
  unfold Requests.answerSettings
  rw [free, if_neg Bool.false_ne_true]
  dsimp only
  unfold settingsSet at fits ⊢
  dsimp only at fits ⊢
  split
  · rename_i calm
    rw [if_pos calm] at fits
    exact respond_written format healthy fits
  · rename_i failed
    rw [if_neg failed] at fits
    exact respond_written format healthy fits

/-- The stretches of the handler come to this answer. -/
theorem serve_answerSetting (format : WireFormat s.printable s.toSlice) {op : SettingsOp}
    {result : Except ProtoError ResponsePayload} {shared : Shared Store}
    (healthy : now.session.writerPoisoned = false)
    (answered : answerSetting s io now.shared op = (some result, shared))
    (fits : Fits reqId (resultSize s.printable result)) :
    ∃ writer, (serve s [io, io, io] now ⟨reqId, .received op.op⟩).1 =
      ⟨shared, { now.session with
        writer, answers := now.session.answers ++ [(reqId, result)] }⟩ := by
  have free : now.shared.schedulerPoisoned = false := by
    rw [← Bool.not_eq_true]
    intro sick
    cases op <;> simp only [answerSetting, sick, ↓reduceIte] at answered <;> cases answered
  cases op with
  | get =>
      simp only [answerSetting, free, Bool.false_eq_true, ↓reduceIte, Prod.mk.injEq,
        Option.some.injEq] at answered
      obtain ⟨rfl, rfl⟩ := answered
      obtain ⟨writer, written⟩ :=
        @respond_written _ _ s now reqId format _ false .returned healthy fits
      refine ⟨writer, ?_⟩
      have first : Requests.handleRequest s io now ⟨reqId, .received SettingsOp.get.op⟩ =
          Requests.getDaemonSettings s now reqId := rfl
      simp only [serve, first, Requests.getDaemonSettings, free, Bool.false_eq_true, ↓reduceIte,
        Requests.reply, written]
      rfl
  | set history alerts prom promBind =>
      simp only [answerSetting, free, Bool.false_eq_true, ↓reduceIte] at answered
      cases first : switched (Shared.toggleHistory io) history [] now.shared with
      | none =>
          rw [first] at answered
          cases answered
      | some stage =>
          obtain ⟨errors, mid⟩ := stage
          rw [first] at answered
          dsimp only at answered
          cases second : switched (Shared.toggleAlerts s io) alerts errors mid with
          | none =>
              rw [second] at answered
              cases answered
          | some stage =>
              obtain ⟨errors', mid'⟩ := stage
              rw [second] at answered
              dsimp only at answered
              cases third : bindProm mid' promBind with
              | none =>
                  rw [third] at answered
                  cases answered
              | some bound =>
                  rw [third] at answered
                  cases answered
                  have later : shared.schedulerPoisoned = false := by
                    rw [bindProm_spec third, switched_spec (fun ran => (toggleAlerts_spec ran).1) second,
                      switched_spec (fun ran => (toggleHistory_spec ran).1) first, free]
                  have one : Requests.receive s io now reqId
                      (SettingsOp.set history alerts prom promBind).op =
                      ({ now with shared := mid' },
                        .goesOn (.toggled (errors' ++ promErrors prom) promBind)) := by
                    simp only [SettingsOp.op, Requests.receive,
                      Requests.toggleSubsystems, free, Bool.false_eq_true, ↓reduceIte, first,
                      second]
                  obtain ⟨writer, three⟩ := @answerSettings_written _ _ s
                    { now with shared := shared } reqId format _ healthy later fits
                  refine ⟨writer, ?_⟩
                  simp only [serve, Requests.handleRequest, one, setPromBind_bound third, three]
                  rfl

end Serve

section Lands

variable (s : Surroundings Store Toml)

/-- A switch lands, unless it panics or changes something too late. -/
theorem setting_lands_iff {shared : Shared Store} (free : shared.schedulerPoisoned = false)
    (io : Io) (late : Bool) (toggle : Toggle) (enabled : Bool) :
    (fetchDaemonSettings s io (settingRpc s io late shared (toggle.op enabled)).2 =
        some (match settingReply none (settingRpc s io late shared (toggle.op enabled)).1 with
          | .ok _ => toggle.update (settingsOf shared) enabled
          | .error _ => settingsOf shared)) ↔
      match toggle.run s io shared enabled with
      | none => False
      | some (.error _, _) => True
      | some (.ok _, _) => late = true → toggle.of (settingsOf shared) = enabled := by
  have update : toggle.update (settingsOf shared) enabled = settingsOf shared ↔
      toggle.of (settingsOf shared) = enabled := by
    cases toggle <;> simp [Toggle.update, Toggle.of, DaemonSettings.ext_iff, eq_comm]
  unfold settingRpc
  rw [answerSetting_toggle free]
  cases ran : toggle.run s io shared enabled with
  | none =>
      simp only [poisoned, fetchDaemonSettings_eq, ↓reduceIte, reduceCtorEq]
  | some outcome =>
      obtain ⟨result, next⟩ := outcome
      obtain ⟨still, settled⟩ := Toggle.run_spec ran
      cases result with
      | error e =>
          have refused : settingReply none (if late then .error .timeout
              else rpcResult (toggle.op enabled).op (.error ⟨.internal, e⟩)) =
              .error (.rpc (if late then .timeout else .server e)) := by
            cases late <;> rfl
          dsimp only
          rw [fetchDaemonSettings_eq, still, free, refused, settled]
          exact iff_of_true rfl trivial
      | ok done =>
          dsimp only
          rw [fetchDaemonSettings_eq, still, free, settled]
          cases late with
          | true =>
              simp only [Toggle.settled, settingReply, Bool.false_eq_true, ↓reduceIte,
                Option.some.injEq, forall_const]
              exact update
          | false =>
              refine iff_of_true ?_ fun wrong => by cases wrong
              cases toggle <;> rfl

/-- Only a bind goes to the daemon: a blank value leaves the old one there. -/
theorem answerSetting_promBind {shared : Shared Store} (free : shared.schedulerPoisoned = false)
    (io : Io) {value : String} (clean : '\x00' ∉ value.toList) :
    ∃ next, answerSetting s io shared (.set none none none
        (if (trim value).toList.isEmpty then none else some (trim value))) =
          (some (settingsSet [] next), next) ∧
      next.schedulerPoisoned = false ∧
      settingsOf next = if (trim value).toList.isEmpty then settingsOf shared
        else { settingsOf shared with prom := true, promBind := some (trim value) } := by
  by_cases blank : (trim value).toList.isEmpty = true
  · simp only [blank, ↓reduceIte]
    refine ⟨shared, ?_, free, rfl⟩
    simp only [answerSetting, free, Bool.false_eq_true, ↓reduceIte, switched, bindProm, promErrors,
      List.append_nil]
  · have kept : '\x00' ∉ (trim value).toList := by
      intro null
      apply clean
      unfold trim at null
      rw [String.toList_ofList] at null
      exact ((List.rdropWhile_prefix _ _).sublist.trans
        (List.dropWhile_suffix _).sublist).subset null
    simp only [Bool.not_eq_true] at blank
    simp only [blank, Bool.false_eq_true, ↓reduceIte]
    refine ⟨{ shared with promBind := some (trim value) }, ?_, free, rfl⟩
    simp only [answerSetting, free, Bool.false_eq_true, ↓reduceIte, switched, bindProm,
      trim_idempotent, blank, if_neg kept, promErrors, List.append_nil]

theorem settingLands_iff (shared : Shared Store) (event : SettingEvent) :
    SettingLands s shared event ↔ SettingKept s shared event := by
  unfold SettingLands SettingKept
  rw [fetchDaemonSettings_eq]
  cases free : shared.schedulerPoisoned with
  | true => simp only [↓reduceIte, reduceCtorEq, false_implies, implies_true]
  | false =>
      simp only [Bool.false_eq_true, ↓reduceIte, Option.some.injEq, forall_eq']
      obtain ⟨call, io, late⟩ := event
      cases call with
      | setting subsystem enabled =>
          dsimp only [callSetting, SettingCall.wanted]
          cases named : Toggle.ofName subsystem with
          | none =>
              dsimp only
              rw [fetchDaemonSettings_eq, free]
              exact iff_of_true rfl trivial
          | some toggle => exact setting_lands_iff s free io late toggle enabled
      | settingStr subsystem value clean =>
          dsimp only [callSetting, SettingCall.wanted]
          by_cases bind : subsystem = "promBind"
          · obtain ⟨next, answered, still, settled⟩ := answerSetting_promBind s free io clean
            rw [if_pos bind]
            simp only [bind, forall_const, settingRpc, answered]
            rw [fetchDaemonSettings_eq, still, settled]
            have reported : (settingsOf shared).prom = (settingsOf shared).promBind.isSome := rfl
            cases late with
            | true =>
                simp only [settingReply, Bool.false_eq_true, ↓reduceIte, Option.some.injEq, true_or]
                by_cases blank : (trim value).toList.isEmpty = true
                · simp only [blank, ↓reduceIte]
                · simp only [if_neg blank, DaemonSettings.ext_iff, true_and]
                  constructor
                  · exact fun same => same.2.symm
                  · exact fun same => ⟨by rw [reported, same]; rfl, same.symm⟩
            | false =>
                simp only [rpcResult, SettingsOp.op, extracts, settingsSet, List.isEmpty_nil,
                  ↓reduceIte, settingReply, Bool.false_eq_true, Option.some.injEq, false_or]
                by_cases blank : (trim value).toList.isEmpty = true
                · simp only [blank, ↓reduceIte, DaemonSettings.ext_iff, true_and]
                · simp only [if_neg blank, DaemonSettings.ext_iff, true_and, and_true, reported]
                  exact eq_comm
          · rw [if_neg bind]
            dsimp only
            rw [fetchDaemonSettings_eq, free]
            exact iff_of_true rfl fun same => absurd same bind

end Lands

/-- In every sequence of calls, each lands exactly where each is kept. -/
theorem settings_land_iff (s : Surroundings Store Toml) (shared : Shared Store)
    (events : List SettingEvent) :
    Run.Always (settingStep s) (SettingLands s) shared events ↔
      Run.Always (settingStep s) (SettingKept s) shared events :=
  Run.always_iff_of_invariant (fun _ _ _ _ _ => trivial)
    (fun shared event _ => settingLands_iff s shared event) trivial

/-- A daemon that was started with an exporter. -/
def exporting : Shared NicknameStore :=
  { Requests.hot with promRunning := true, promBind := some "127.0.0.1:9777" }

/-- The field of the bind emptied and sent. -/
def blankBind : SettingEvent := ⟨.settingStr "promBind" "" (by decide), Requests.calm, false⟩

/-- The bind is still there, although the page says that it was cleared. -/
theorem settings_land_blank :
    ¬ Run.Always (settingStep Requests.plain) (SettingLands Requests.plain) exporting
      [blankBind] := by
  intro always
  have landed := always.1 ⟨false, true, true, some "127.0.0.1:9777"⟩ (by decide +kernel)
  revert landed
  decide +kernel

end LinSight.Gui
