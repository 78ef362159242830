import LinSight.Core.Types
import LinSight.Hardware.Labels
import LinSight.Library.LastRequest
import LinSight.Library.Run

set_option autoImplicit false

/-! The history dialog and the hardware page. Both fetch from worker threads and drop what comes
back for an older request. -/

namespace LinSight.Gui

open LastRequest (Desk Follows Pane)

/-- One point of the chart; `Table` and `State` readings have none. -/
structure Point where
  t : Nat
  v : Ieee.Value
deriving DecidableEq

def samplesToPoints (samples : List Sample) : List Point :=
  samples.filterMap fun s => match s.reading with
    | .scalar v => some ⟨s.tsMicros, v⟩
    | .counter c => some ⟨s.tsMicros, Ieee.binary64.round c⟩
    | .table _ | .state _ => none

/-- A rolling window that ends now; microseconds. -/
def rangeToWindow (nowMicros rangeMinutes : Nat) : Nat × Nat :=
  (nowMicros - rangeMinutes * 60 * 1000000, nowMicros)

structure HistoryQuery where
  sensor : String
  since : Nat
  until' : Nat
deriving DecidableEq

/-- What QML sees of a fetch. -/
structure HistoryView where
  points : List Point
  isLoading : Bool
  lastError : String
deriving DecidableEq

def historyPane : Pane HistoryQuery (Except String (List Point)) HistoryView where
  begin _ _ := ⟨[], true, ""⟩
  apply _ result view :=
    match result with
    | .ok points => { view with points, isLoading := false }
    | .error e => { view with lastError := e, isLoading := false }

abbrev HistoryRequest := LastRequest.Event HistoryQuery (Except String (List Point))

structure HistoryModel where
  sensorId : String
  rangeMinutes : Nat
  desk : Desk HistoryQuery (Except String (List Point)) HistoryView

inductive HistoryEvent where
  | setSensorId (sensor : String)
  | setRangeMinutes (minutes : Nat)
  | reload (nowMicros : Nat)
  /-- A worker has its answer. -/
  | fetched (worker : Nat) (answer : Except String (List Sample))
  | lost (worker : Nat)
  | deliver

namespace HistoryModel

def default : HistoryModel := ⟨"", 60, .start ⟨[], false, ""⟩⟩

def onDesk (model : HistoryModel) (event : HistoryRequest) : Option HistoryModel :=
  (model.desk.step historyPane event).map fun desk => { model with desk }

/-- `reload` does nothing without a sensor. -/
def query (model : HistoryModel) (nowMicros : Nat) : Option HistoryQuery :=
  if model.sensorId.isEmpty then none
  else
    let (since, until') := rangeToWindow nowMicros model.rangeMinutes
    some ⟨model.sensorId, since, until'⟩

def step (model : HistoryModel) : HistoryEvent → Option HistoryModel
  | .setSensorId sensor => some { model with sensorId := sensor }
  | .setRangeMinutes minutes => some { model with rangeMinutes := minutes }
  | .reload nowMicros =>
      match model.query nowMicros with
      | none => some model
      | some query => model.onDesk (.issue query)
  | .fetched worker answer => model.onDesk (.land worker (answer.map samplesToPoints))
  | .lost worker => model.onDesk (.lose worker)
  | .deliver => model.onDesk .deliver

/-- What an event is to the desk. -/
def toDesk (model : HistoryModel) : HistoryEvent → List HistoryRequest
  | .setSensorId _ | .setRangeMinutes _ => []
  | .reload nowMicros => (model.query nowMicros).toList.map .issue
  | .fetched worker answer => [.land worker (answer.map samplesToPoints)]
  | .lost worker => [.lose worker]
  | .deliver => [.deliver]

/-- The fields that QML sets. -/
def write (model : HistoryModel) : HistoryEvent → HistoryModel
  | .setSensorId sensor => { model with sensorId := sensor }
  | .setRangeMinutes minutes => { model with rangeMinutes := minutes }
  | _ => model

/-- A run as the desk sees it; what it sees does not depend on the desk. -/
def requests (model : HistoryModel) : List HistoryEvent → List HistoryRequest
  | [] => []
  | event :: rest => model.toDesk event ++ requests (model.write event) rest

/-- The queries that `reload` makes, with the fields as they are then. -/
def queries (model : HistoryModel) (events : List HistoryEvent) : List HistoryQuery :=
  (model.requests events).filterMap LastRequest.Event.issued

/-- What is shown of the last query: nothing while it is under way, and then its own answer. -/
def shown : Option (HistoryQuery × Option (Except String (List Point))) → HistoryView
  | none => ⟨[], false, ""⟩
  | some (_, none) => ⟨[], true, ""⟩
  | some (_, some (.ok points)) => ⟨points, false, ""⟩
  | some (_, some (.error e)) => ⟨[], false, e⟩

variable {model next final : HistoryModel}

theorem requests_desk (desk : Desk HistoryQuery (Except String (List Point)) HistoryView)
    (events : List HistoryEvent) :
    ({ model with desk } : HistoryModel).requests events = model.requests events := by
  induction events generalizing model with
  | nil => rfl
  | cons event rest ih =>
      have seen : ({ model with desk } : HistoryModel).toDesk event = model.toDesk event := by
        cases event <;> rfl
      have written : ({ model with desk } : HistoryModel).write event =
          { model.write event with desk } := by
        cases event <;> rfl
      rw [requests, requests, seen, written, ih]

theorem onDesk_eq_some {event : HistoryRequest} (taken : model.onDesk event = some next) :
    ∃ desk, model.desk.step historyPane event = some desk ∧ next = { model with desk } := by
  obtain ⟨desk, moved, same⟩ := Option.map_eq_some_iff.mp taken
  exact ⟨desk, moved, same.symm⟩

/-- One event is some steps of the desk, and sets the fields. -/
theorem step_desk {event : HistoryEvent} (taken : model.step event = some next) :
    Run.exec (Desk.step historyPane) model.desk (model.toDesk event) = some next.desk ∧
      next = { model.write event with desk := next.desk } := by
  have moves : ∀ {request : HistoryRequest}, model.onDesk request = some next →
      Run.exec (Desk.step historyPane) model.desk [request] = some next.desk ∧
        next = { model with desk := next.desk } := by
    intro request moved
    obtain ⟨desk, stepped, rfl⟩ := onDesk_eq_some moved
    exact ⟨Run.exec_cons.mpr ⟨desk, stepped, rfl⟩, rfl⟩
  cases event with
  | setSensorId sensor =>
      cases taken
      exact ⟨rfl, rfl⟩
  | setRangeMinutes minutes =>
      cases taken
      exact ⟨rfl, rfl⟩
  | reload nowMicros =>
      unfold step at taken
      unfold toDesk write
      dsimp only at taken ⊢
      cases asked : model.query nowMicros with
      | none =>
          rw [asked] at taken
          cases taken
          exact ⟨rfl, rfl⟩
      | some query =>
          rw [asked] at taken
          exact moves taken
  | fetched worker answer => exact moves taken
  | lost worker => exact moves taken
  | deliver => exact moves taken

theorem exec_desk {events : List HistoryEvent} (run : Run.exec step model events = some final) :
    Run.exec (Desk.step historyPane) model.desk (model.requests events) = some final.desk := by
  induction events generalizing model with
  | nil =>
      cases Option.some.inj run
      rfl
  | cons event rest ih =>
      obtain ⟨next, taken, remaining⟩ := Run.exec_cons.mp run
      obtain ⟨moved, written⟩ := step_desk taken
      have later := ih remaining
      rw [written, requests_desk] at later
      exact Run.exec_append.mpr ⟨next.desk, moved, by rw [written]; exact later⟩

/-- Every query clears the chart, so only the last one is seen. -/
theorem sequential_shown (entries : LastRequest.Entries HistoryQuery (Except String (List Point))) :
    LastRequest.sequential historyPane ⟨[], false, ""⟩ entries = shown entries.getLast? := by
  cases entries using List.reverseRecOn with
  | nil => rfl
  | append_singleton front last =>
      rw [LastRequest.sequential_concat, List.getLast?_concat]
      obtain ⟨query, answer⟩ := last
      cases answer with
      | none => rfl
      | some result => cases result <;> rfl

/-- What the workers of a run have sent to the dialog so far. -/
def traffic (events : List HistoryEvent) : LastRequest.Traffic (Except String (List Point)) :=
  .of (requests .default events)

/-- In whatever order the workers come back, or not at all, the dialog shows the answer of the last
query that was made and of no other one, and it is loading exactly while that answer is missing. -/
theorem history_shows_last {events : List HistoryEvent}
    (run : Run.exec step .default events = some final) :
    final.desk.view = shown ((queries .default events).getLast?.map fun query =>
      (query, (traffic events).answer (queries .default events).length)) := by
  have follows := (Follows.start historyPane (⟨[], false, ""⟩ : HistoryView)).run (exec_desk run)
  have last := follows.last_entry
  rw [follows.shown, sequential_shown]
  exact congrArg shown last

/-- Two queries, the first of which comes back last. -/
def overtaken : List HistoryEvent :=
  [.setSensorId "cpu.total", .reload 3600000000, .setRangeMinutes 10, .reload 3600000001,
    .fetched 1 (.error "late"), .deliver, .fetched 0 (.ok []), .deliver]

theorem history_shows_last_overtaken : ∃ final : HistoryModel,
    Run.exec step .default overtaken = some final ∧
      queries .default overtaken =
        [⟨"cpu.total", 0, 3600000000⟩, ⟨"cpu.total", 3000000001, 3600000001⟩] ∧
      final.desk.view = ⟨[], false, "late"⟩ := by
  have run : Run.exec step .default overtaken =
      some ((Run.exec step .default overtaken).get (by decide +kernel)) := (Option.some_get _).symm
  exact ⟨_, run, by decide +kernel, (history_shows_last run).trans (by decide +kernel)⟩

end HistoryModel

/-! The hardware page keeps its devices while it loads. -/

structure DeviceWithNickname where
  inner : HardwareDevice
  nickname : Option String
  label : String
deriving DecidableEq

def devicesJson (devices : List HardwareDevice) (nicknames : KeyMap String String) :
    List DeviceWithNickname :=
  devices.map fun d =>
    ⟨d, nicknames.lookup d.key.asStr, computeDeviceLabel d devices nicknames⟩

inductive HardwareRequest where
  | reload
  | setNickname (key : String) (value : Option String)
deriving DecidableEq

/-- `devices` is `none` for the empty text that the property begins with. -/
structure HardwareView where
  devices : Option (List DeviceWithNickname)
  isLoading : Bool
  lastError : String
deriving DecidableEq

abbrev HardwareAnswer := Except String (List DeviceWithNickname)

def hardwarePane : Pane HardwareRequest HardwareAnswer HardwareView where
  begin _ view := { view with isLoading := true, lastError := "" }
  apply _ result view :=
    match result with
    | .ok devices => { view with devices := some devices, isLoading := false }
    | .error e => { view with lastError := e, isLoading := false }

/-- `apply_nickname`: a blank value takes the nickname away. -/
def nicknameRequest (key value : String) : HardwareRequest :=
  .setNickname key (if (trim value).toList.isEmpty then none else some value)

inductive HardwareEvent where
  | reload
  | applyNickname (key value : String)
  | fetched (worker : Nat) (answer : Except String (List HardwareDevice × KeyMap String String))
  | lost (worker : Nat)
  | deliver

def HardwareEvent.toDesk : HardwareEvent → LastRequest.Event HardwareRequest HardwareAnswer
  | .reload => .issue .reload
  | .applyNickname key value => .issue (nicknameRequest key value)
  | .fetched worker answer => .land worker (answer.map fun found => devicesJson found.1 found.2)
  | .lost worker => .lose worker
  | .deliver => .deliver

abbrev HardwareModel := Desk HardwareRequest HardwareAnswer HardwareView

namespace HardwareModel

def default : HardwareModel := .start ⟨none, false, ""⟩

def step (model : HardwareModel) (event : HardwareEvent) : Option HardwareModel :=
  Desk.step hardwarePane model event.toDesk

/-- The devices of the last request whose answer was taken and is no error. -/
def lastDevices (entries : LastRequest.Entries HardwareRequest HardwareAnswer) :
    Option (List DeviceWithNickname) :=
  (entries.filterMap fun entry => entry.2.bind Except.toOption).getLast?

/-- Loading and the error are those of the last request. -/
def status : Option (HardwareRequest × Option HardwareAnswer) → Bool × String
  | none => (false, "")
  | some (_, none) => (true, "")
  | some (_, some (.ok _)) => (false, "")
  | some (_, some (.error e)) => (false, e)

theorem lastDevices_concat (front : LastRequest.Entries HardwareRequest HardwareAnswer)
    (request : HardwareRequest) (answer : Option HardwareAnswer) :
    lastDevices (front ++ [(request, answer)]) =
      (answer.bind Except.toOption).or (lastDevices front) := by
  unfold lastDevices
  rw [List.filterMap_append]
  cases taken : answer.bind Except.toOption with
  | none => simp [taken]
  | some devices => simp [taken]

theorem sequential_shown (entries : LastRequest.Entries HardwareRequest HardwareAnswer) :
    LastRequest.sequential hardwarePane ⟨none, false, ""⟩ entries =
      ⟨lastDevices entries, (status entries.getLast?).1, (status entries.getLast?).2⟩ := by
  induction entries using List.reverseRecOn with
  | nil => rfl
  | append_singleton front last ih =>
      obtain ⟨request, answer⟩ := last
      rw [LastRequest.sequential_concat, ih, List.getLast?_concat, lastDevices_concat]
      cases answer with
      | none => rfl
      | some result => cases result <;> rfl

theorem exec_desk {events : List HardwareEvent} {model final : HardwareModel}
    (run : Run.exec step model events = some final) :
    Run.exec (Desk.step hardwarePane) model (events.map HardwareEvent.toDesk) = some final := by
  induction events generalizing model with
  | nil => exact run
  | cons event rest ih =>
      obtain ⟨next, taken, remaining⟩ := Run.exec_cons.mp run
      exact Run.exec_cons.mpr ⟨next, taken, ih remaining⟩

/-- The requests of a run, each with the answer that came before the next one was made. -/
def timely (events : List HardwareEvent) : LastRequest.Entries HardwareRequest HardwareAnswer :=
  (LastRequest.Log.of (events.map HardwareEvent.toDesk)).entries

/-- The requests of a run. -/
def requests (events : List HardwareEvent) : List HardwareRequest :=
  (events.map HardwareEvent.toDesk).filterMap LastRequest.Event.issued

/-- What the workers of a run have sent to the page so far. -/
def traffic (events : List HardwareEvent) : LastRequest.Traffic HardwareAnswer :=
  .of (events.map HardwareEvent.toDesk)

/-- In whatever order the workers come back, the page shows the devices of the last answer that was
not too late, and loading and the error are those of the last request. -/
theorem hardware_shows_last {events : List HardwareEvent} {final : HardwareModel}
    (run : Run.exec step default events = some final) :
    final.view.devices = lastDevices (timely events) ∧
      (final.view.isLoading, final.view.lastError) = status ((requests events).getLast?.map
        fun request => (request, (traffic events).answer (requests events).length)) := by
  have follows := (Follows.start hardwarePane (⟨none, false, ""⟩ : HardwareView)).run
    (exec_desk run)
  have last := follows.last_entry
  have view := follows.shown.trans (sequential_shown _)
  constructor
  · exact congrArg HardwareView.devices view
  · rw [view]
    exact congrArg status last

/-- A reload is answered, and a second one is overtaken by a change of a nickname, which fails. -/
def renamed : List HardwareEvent :=
  [.reload, .fetched 0 (.ok ([], ∅)), .deliver, .reload, .applyNickname "pci:0000:01:00.0" " ",
    .fetched 1 (.error "unknown device"), .deliver, .fetched 0 (.error "late"), .deliver]

theorem hardware_shows_last_renamed : ∃ final : HardwareModel,
    Run.exec step default renamed = some final ∧
      requests renamed = [.reload, .reload, .setNickname "pci:0000:01:00.0" none] ∧
      final.view.devices = some [] ∧
      (final.view.isLoading, final.view.lastError) = (false, "unknown device") := by
  have run : Run.exec step default renamed =
      some ((Run.exec step default renamed).get (by decide +kernel)) := (Option.some_get _).symm
  have shows := hardware_shows_last run
  exact ⟨_, run, by decide +kernel, shows.1.trans (by decide +kernel),
    shows.2.trans (by decide +kernel)⟩

end HardwareModel

/-! The labels of the page are those of the daemon. -/

section Labels

open HardwareRegistry

variable {registry : HardwareRegistry}

/-- A label does not depend on the order of the devices. -/
theorem computeDeviceLabel_perm {devices others : List HardwareDevice} (perm : devices.Perm others)
    (target : HardwareDevice) (nicknames : KeyMap String String) :
    computeDeviceLabel target devices nicknames = computeDeviceLabel target others nicknames := by
  unfold computeDeviceLabel
  rw [perm.any_eq]

theorem snapshot_perm (registry : HardwareRegistry) :
    registry.snapshot.Perm registry.allDevices := List.perm_insertionSort _ _

/-- After any calls of `set_nickname`, the page made of the daemon's answer has each device once,
with the nickname and the label that the daemon has for it. -/
theorem hardware_page_agrees (manifests : List PluginDevices) (nicknames : KeyMap String String)
    (reached : Run.Reaches nicknameStep (build manifests nicknames) registry) :
    let page := devicesJson registry.snapshot registry.nicknamesSnapshot
    (page.map DeviceWithNickname.inner).Perm registry.allDevices ∧
      ∀ row ∈ page, row.nickname = registry.nicknames.lookup row.inner.key ∧
        row.label = registry.deviceLabelFor row.inner.key := by
  have current : registry.LabelsCurrent :=
    reached.invariant (fun _ _ _ taken current => nicknameStep_current taken current)
      (rebuildLabels_current _)
  have keyed : Keyed registry.devices := by
    have preserved : ∀ state call next, nicknameStep state call = some next →
        Keyed state.devices → Keyed next.devices :=
      fun _ _ _ taken keyed => (nicknameStep_devices taken).1 ▸ keyed
    exact @Run.Reaches.invariant _ _ _ (fun state => Keyed state.devices) preserved _ _ reached
      (build_keyed manifests nicknames)
  intro page
  constructor
  · have inner : page.map DeviceWithNickname.inner = registry.snapshot := by
      show (registry.snapshot.map _).map _ = _
      rw [List.map_map]
      exact List.map_id _
    rw [inner]
    exact snapshot_perm registry
  · intro row member
    obtain ⟨dev, inside, rfl⟩ := List.mem_map.mp member
    have known := (mem_allDevices keyed).mp ((snapshot_perm registry).mem_iff.mp inside)
    constructor
    · exact KeyMap.lookup_rekey _ _ _ _
    · rw [current dev.key dev known]
      exact computeDeviceLabel_perm (snapshot_perm registry) dev _

/-- Two drives of one model. -/
def twoDrives : List PluginDevices :=
  [("com.visorcraft.linsight.nvme", [drive nvmeKey "SSD", drive secondNvmeKey "SSD"], [])]

/-- The first one has got a nickname. -/
theorem hardware_page_agrees_twoDrives : ∃ registry,
    Run.exec nicknameStep (build twoDrives ∅) [(nvmeKey, some " OS drive ")] = some registry ∧
      let page := devicesJson registry.snapshot registry.nicknamesSnapshot
      (page.map fun row => (row.nickname, row.label)) =
          [(some "OS drive", "OS drive"), (none, "SSD")] ∧
        ∀ row ∈ page, row.nickname = registry.nicknames.lookup row.inner.key ∧
          row.label = registry.deviceLabelFor row.inner.key := by
  have ran : (Run.exec nicknameStep (build twoDrives ∅)
      [(nvmeKey, some " OS drive ")]).isSome = true := by decide +kernel
  have agrees := hardware_page_agrees twoDrives ∅ (Run.Reaches.of_isSome ran)
  exact ⟨_, (Option.some_get ran).symm, by decide +kernel +revert, agrees.2⟩

end Labels

end LinSight.Gui
