import LinSight.Plugin.Host
import Mathlib

set_option autoImplicit false

/-! The readings that cross the plugin boundary, and what a round trip over it keeps. -/

namespace LinSight

inductive RCellKind where
  | text
  | number
  | bytes
deriving DecidableEq

/-- A plugin can fill the payloads of the other kinds, and leave out the text. -/
structure RCell where
  kind : RCellKind
  text : Option String
  number : Ieee.Value
  bytes : Nat
deriving DecidableEq

def RCell.of : Cell → RCell
  | .text s => ⟨.text, some s, .finite 0, 0⟩
  | .number n => ⟨.number, none, n, 0⟩
  | .bytes b => ⟨.bytes, none, .finite 0, b⟩

def RCell.into (r : RCell) : Cell :=
  match r.kind with
  | .text => .text (r.text.getD "")
  | .number => .number r.number
  | .bytes => .bytes r.bytes

structure RTableRow where
  cells : List RCell
deriving DecidableEq

def RTableRow.of (row : TableRow) : RTableRow := ⟨row.cells.map .of⟩

def RTableRow.into (r : RTableRow) : Option TableRow :=
  (svecIntoStd (fun cell => some (RCell.into cell)) r.cells).map TableRow.mk

inductive RReadingKind where
  | scalar
  | counter
  | table
  | state
deriving DecidableEq

structure RReading where
  kind : RReadingKind
  scalar : Ieee.Value
  counter : Nat
  state : Option String
  table : List RTableRow
deriving DecidableEq

def RReading.of : Reading → RReading
  | .scalar v => ⟨.scalar, v, 0, none, []⟩
  | .counter v => ⟨.counter, .finite 0, v, none, []⟩
  | .state s => ⟨.state, .finite 0, 0, some s, []⟩
  | .table rows => ⟨.table, .finite 0, 0, none, rows.map .of⟩

def RReading.into (r : RReading) : Option Reading :=
  match r.kind with
  | .scalar => some (.scalar r.scalar)
  | .counter => some (.counter r.counter)
  | .state => some (.state (r.state.getD ""))
  | .table => (svecIntoStd RTableRow.into r.table).map .table

/-- The same kind and the same payload of that kind. -/
def RCell.Agrees (r r' : RCell) : Prop :=
  r.kind = r'.kind ∧ (r.kind = .text → r.text = r'.text) ∧
    (r.kind = .number → r.number = r'.number) ∧ (r.kind = .bytes → r.bytes = r'.bytes)

def RTableRow.Agrees (r r' : RTableRow) : Prop := List.Forall₂ RCell.Agrees r.cells r'.cells

/-- The same kind and the same payload of that kind, down to the cells of a table. -/
def RReading.Agrees (r r' : RReading) : Prop :=
  r.kind = r'.kind ∧ (r.kind = .scalar → r.scalar = r'.scalar) ∧
    (r.kind = .counter → r.counter = r'.counter) ∧ (r.kind = .state → r.state = r'.state) ∧
    (r.kind = .table → List.Forall₂ RTableRow.Agrees r.table r'.table)

/-- `SensorId::new` of a build with or without debug assertions. -/
def SensorId.newIn (debugAssertions : Bool) (s : String) : Option SensorId :=
  if debugAssertions then SensorId.new s else some ⟨s⟩

/-- The conversion in either build. -/
def RSensorDescriptor.intoIn (debugAssertions : Bool) (r : RSensorDescriptor) :
    Option SensorDescriptor := do
  let deviceKey ← r.deviceKey.mapM fun key => (HardwareDeviceKey.tryNew key).toOption
  let id ← SensorId.newIn debugAssertions r.id.value
  let tags ← svecIntoStd some r.tags
  some {
    id
    displayName := r.displayName
    unit := r.unit.into
    kind := r.kind.into
    category := r.category.into
    nativeRateHz := r.nativeRateHz
    min := r.min
    max := r.max
    deviceId := r.deviceId
    deviceKey
    tags }

def RPluginManifest.intoIn (debugAssertions : Bool) (r : RPluginManifest) :
    Option PluginManifest := do
  let sensors ← svecIntoStd (RSensorDescriptor.intoIn debugAssertions) r.sensors
  let devices ← svecIntoStd RHardwareDevice.into r.devices
  some {
    pluginId := r.pluginId
    displayName := r.displayName
    version := r.version
    sensors
    devices }

theorem RPluginManifest.into_eq_intoIn : RPluginManifest.into = RPluginManifest.intoIn true := rfl

/-- The device without what is not on the wire. -/
def HardwareDevice.unowned (d : HardwareDevice) : HardwareDevice :=
  { d with pluginId := "", sensorIds := [] }

def PluginManifest.unowned (m : PluginManifest) : PluginManifest :=
  { m with devices := m.devices.map .unowned }

/-- The invariant that the type of the ids promises. -/
def PluginManifest.IdsValid (m : PluginManifest) : Prop :=
  ∀ d ∈ m.sensors, SensorId.tryNew d.id.asStr = .ok d.id

section RoundTrip

/-- A vector of mirrored items comes back whole and in its order. -/
theorem svecIntoStd_map {R T : Type} {convert : R → Option T} {mirror : T → R} {items : List T}
    {after : T → T} (each : ∀ item ∈ items, convert (mirror item) = some (after item)) :
    svecIntoStd convert (items.map mirror) = some (items.map after) := by
  rw [svecIntoStd_eq_some, Fallible.mapM_eq_some, List.forall₂_map_left_iff,
    List.forall₂_map_right_iff, List.forall₂_same]
  exact each

@[simp] theorem RCell.into_of (cell : Cell) : (RCell.of cell).into = cell := by
  cases cell <;> rfl

@[simp] theorem RTableRow.into_of (row : TableRow) : (RTableRow.of row).into = some row := by
  have cells := @svecIntoStd_map _ _ (fun cell => some (RCell.into cell)) RCell.of row.cells id
    fun cell _ => congrArg some (RCell.into_of cell)
  rw [RTableRow.into, RTableRow.of, cells, List.map_id]
  rfl

theorem RReading.into_of (reading : Reading) : (RReading.of reading).into = some reading := by
  cases reading with
  | scalar v => rfl
  | counter v => rfl
  | state s => rfl
  | table rows =>
      have converted := @svecIntoStd_map _ _ RTableRow.into RTableRow.of rows id
        fun row _ => RTableRow.into_of row
      rw [List.map_id] at converted
      exact congrArg (Option.map Reading.table) converted

/-- A vector of items that convert alike converts alike, and the conversion does not panic. -/
theorem svecIntoStd_congr {R T : Type} {convert : R → Option T} {alike : R → R → Prop}
    (each : ∀ r r', alike r r' → ∃ item, convert r = some item ∧ convert r' = some item)
    {v v' : List R} (same : List.Forall₂ alike v v') :
    ∃ items, svecIntoStd convert v = some items ∧ svecIntoStd convert v' = some items := by
  induction same with
  | nil => exact ⟨[], rfl, rfl⟩
  | cons here _ ih =>
      obtain ⟨item, first, first'⟩ := each _ _ here
      obtain ⟨items, rest, rest'⟩ := ih
      simp only [svecIntoStd_eq_some, Fallible.mapM_eq_some] at rest rest' ⊢
      exact ⟨item :: items, .cons first rest, .cons first' rest'⟩

theorem RCell.into_congr {r r' : RCell} (same : r.Agrees r') : r.into = r'.into := by
  obtain ⟨kind, text, number, bytes⟩ := same
  unfold RCell.into
  rw [← kind]
  cases active : r.kind with
  | text => rw [text active]
  | number => rw [number active]
  | bytes => rw [bytes active]

theorem RTableRow.into_congr {r r' : RTableRow} (same : r.Agrees r') :
    ∃ row, r.into = some row ∧ r'.into = some row := by
  obtain ⟨cells, first, second⟩ := svecIntoStd_congr
    (fun c c' (alike : RCell.Agrees c c') =>
      ⟨c.into, rfl, congrArg some (RCell.into_congr alike).symm⟩) same
  exact ⟨⟨cells⟩, congrArg (Option.map TableRow.mk) first, congrArg (Option.map TableRow.mk) second⟩

/-- What a mirror reading means is in its kinds and their payloads. -/
theorem RReading.into_congr {r r' : RReading} (same : r.Agrees r') :
    ∃ reading, r.into = some reading ∧ r'.into = some reading := by
  obtain ⟨kind, scalar, counter, state, table⟩ := same
  unfold RReading.into
  rw [← kind]
  cases active : r.kind with
  | scalar => exact ⟨_, rfl, by rw [scalar active]⟩
  | counter => exact ⟨_, rfl, by rw [counter active]⟩
  | state => exact ⟨_, rfl, by rw [state active]⟩
  | table =>
      obtain ⟨rows, first, second⟩ :=
        svecIntoStd_congr (fun _ _ alike => RTableRow.into_congr alike) (table active)
      exact ⟨.table rows, congrArg (Option.map Reading.table) first,
        congrArg (Option.map Reading.table) second⟩

theorem SensorId.newIn_of_tryNew {debugAssertions : Bool} {id : SensorId}
    (valid : debugAssertions = true → SensorId.tryNew id.asStr = .ok id) :
    SensorId.newIn debugAssertions id.asStr = some id := by
  cases debugAssertions with
  | false => rfl
  | true => exact SensorId.new_of_tryNew (valid rfl)

@[simp] theorem RSensorKind.into_of (kind : SensorKind) : (RSensorKind.of kind).into = kind := by
  cases kind <;> rfl

@[simp] theorem RCategory.into_of (category : Category) :
    (RCategory.of category).into = category := by
  cases category <;> rfl

@[simp] theorem RHardwareCategoryKind.into_of (category : HardwareCategory) :
    (RHardwareCategoryKind.of category).into = category := by
  cases category <;> rfl

theorem RSensorDescriptor.intoIn_of {debugAssertions : Bool} {d : SensorDescriptor}
    (valid : debugAssertions = true → SensorId.tryNew d.id.asStr = .ok d.id) :
    (RSensorDescriptor.of d).intoIn debugAssertions = some d := by
  have id_eq := SensorId.newIn_of_tryNew valid
  have key_eq : (d.deviceKey.map (·.asStr)).mapM
      (fun key => (HardwareDeviceKey.tryNew key).toOption) = some d.deviceKey := by
    cases d.deviceKey with
    | none => rfl
    | some key =>
        rw [Option.map_some, Option.mapM_some, HardwareDeviceKey.tryNew_asStr]
        rfl
  refine Option.bind_eq_some_iff.mpr ⟨d.deviceKey, key_eq, ?_⟩
  refine Option.bind_eq_some_iff.mpr ⟨d.id, id_eq, ?_⟩
  refine Option.bind_eq_some_iff.mpr ⟨d.tags, svecIntoStd_some d.tags, ?_⟩
  simp only [RSensorDescriptor.of, RUnit.into_of, RSensorKind.into_of, RCategory.into_of]

theorem RHardwareDevice.into_of (d : HardwareDevice) :
    (RHardwareDevice.of d).into = some d.unowned := by
  have key_eq : (HardwareDeviceKey.tryNew d.key.asStr).toOption = some d.key := by
    rw [HardwareDeviceKey.tryNew_asStr]
    rfl
  refine Option.bind_eq_some_iff.mpr ⟨d.key, key_eq, ?_⟩
  simp only [RHardwareDevice.of, RHardwareCategoryKind.into_of, HardwareDevice.unowned]

theorem RPluginManifest.intoIn_of {debugAssertions : Bool} {m : PluginManifest}
    (valid : debugAssertions = true → m.IdsValid) :
    (RPluginManifest.of m).intoIn debugAssertions = some m.unowned := by
  have sensors : svecIntoStd (RSensorDescriptor.intoIn debugAssertions)
      (m.sensors.map RSensorDescriptor.of) = some (m.sensors.map id) :=
    svecIntoStd_map fun d member =>
      RSensorDescriptor.intoIn_of fun debug => valid debug d member
  have devices : svecIntoStd RHardwareDevice.into (m.devices.map RHardwareDevice.of) =
      some (m.devices.map HardwareDevice.unowned) :=
    svecIntoStd_map fun d _ => RHardwareDevice.into_of d
  rw [List.map_id] at sensors
  exact Option.bind_eq_some_iff.mpr ⟨_, sensors, Option.bind_eq_some_iff.mpr ⟨_, devices, rfl⟩⟩

/-- A manifest with valid ids and distinct keys, all of them declared, is accepted as it is. -/
theorem hostInit_of {m : PluginManifest} (ids : m.IdsValid)
    (keys : KeysValid m.devices m.sensors) :
    hostInit (.ok (.of m)) = .ok (some m.unowned) := by
  have checked : (RPluginManifest.of m).sensors.forM
      (checkSensorId (RPluginManifest.of m).pluginId) = .ok ⟨⟩ := by
    refine Fallible.forM_eq_ok.mpr fun s member => ?_
    obtain ⟨d, inside, rfl⟩ := List.mem_map.mp member
    unfold checkSensorId
    rw [RSensorDescriptor.of, RSensorId.of, ids d inside]
  have devices : ∀ (rest : List HardwareDevice) (before : List String),
      (before ++ rest.map fun d => d.key.asStr).Nodup →
      (rest.map RHardwareDevice.of).foldlM checkDevice before =
        .ok (before ++ rest.map fun d => d.key.asStr) := by
    intro rest
    induction rest with
    | nil => exact fun before _ => congrArg Except.ok (List.append_nil before).symm
    | cons d rest ih =>
        intro before distinct
        have fresh : d.key.asStr ∉ before := by
          rw [List.map_cons] at distinct
          exact fun met => List.disjoint_of_nodup_append distinct met List.mem_cons_self
        have here : checkDevice before (.of d) = .ok (before ++ [d.key.asStr]) :=
          checkDevice_eq_ok.mpr ⟨⟨d.key, HardwareDeviceKey.tryNew_asStr d.key⟩, fresh, rfl⟩
        have later := ih (before ++ [d.key.asStr]) (by
          rw [List.append_assoc]
          exact distinct)
        rw [List.append_assoc] at later
        exact Fallible.bind_eq_ok.mpr ⟨_, here, later⟩
  have distinct : (m.devices.map fun d => d.key.asStr).Nodup := by
    have whole := keys.distinct.map fun _ _ => HardwareDeviceKey.asStr_injective
    rwa [List.map_map] at whole
  have declared : (RPluginManifest.of m).sensors.forM
      (checkSensor (m.devices.map fun d => d.key.asStr)) = .ok ⟨⟩ := by
    refine Fallible.forM_eq_ok.mpr fun s member => ?_
    obtain ⟨d, inside, rfl⟩ := List.mem_map.mp member
    unfold checkSensor
    rw [RSensorDescriptor.of]
    cases bound : d.deviceKey with
    | none => rfl
    | some key =>
        obtain ⟨device, registered, same⟩ := List.mem_map.mp (keys.declared d inside key bound)
        dsimp only [Option.map_some]
        rw [if_pos (List.mem_map.mpr
          ⟨device, registered, congrArg HardwareDeviceKey.asStr same⟩)]
  have validated : validateManifest (.of m) = .ok ⟨⟩ :=
    Fallible.bind_eq_ok.mpr ⟨_, devices m.devices [] distinct, declared⟩
  have converted : (RPluginManifest.of m).into = some m.unowned := by
    rw [RPluginManifest.into_eq_intoIn]
    exact RPluginManifest.intoIn_of fun _ => ids
  exact Fallible.bind_eq_ok.mpr ⟨_, rfl, Fallible.bind_eq_ok.mpr ⟨_, checked,
    Fallible.bind_eq_ok.mpr ⟨_, validated, congrArg Except.ok converted⟩⟩⟩

end RoundTrip

/-- Readings and manifests come back as they were, and what a plugin sends beside the active
payloads is not read. -/
theorem mirror_lossless (reading : Reading) {debugAssertions : Bool} {m : PluginManifest}
    (valid : debugAssertions = true → m.IdsValid) {r r' : RReading} (same : r.Agrees r') :
    (RReading.of reading).into = some reading ∧
      (RPluginManifest.of m).intoIn debugAssertions = some m.unowned ∧
      ∃ back, r.into = some back ∧ r'.into = some back :=
  ⟨RReading.into_of reading, RPluginManifest.intoIn_of valid, RReading.into_congr same⟩

/-- A fan with a unit of its own on a device, and two tables that differ in what is not read. -/
theorem mirror_lossless_fan :
    let key : HardwareDeviceKey := ⟨"pci:0000:06:00.0", by decide⟩
    let fan : SensorDescriptor := ⟨⟨"fan.1"⟩, "Fan", .custom "duty", .scalar, .custom, .finite 1,
      none, some (.finite 100), none, some key, ["cooling"]⟩
    let card : HardwareDevice := ⟨key, .gpu, "Battlemage", some "Intel", none, "fans", "0",
      [⟨"fan.1"⟩]⟩
    let m : PluginManifest := ⟨"fans", "Fans", "1.0", [fan], [card]⟩
    let row : RTableRow := ⟨[⟨.text, none, .finite 3, 7⟩, ⟨.number, some "rpm", .finite 1200, 9⟩]⟩
    let row' : RTableRow := ⟨[⟨.text, none, .finite 0, 0⟩, ⟨.number, none, .finite 1200, 0⟩]⟩
    let r : RReading := ⟨.table, .nan, 5, some "idle", [row, row']⟩
    let r' : RReading := ⟨.table, .finite 0, 0, none, [row', row]⟩
    (RReading.of (.table [⟨[.text "a,b", .number (.finite 2), .bytes 3]⟩, ⟨[]⟩])).into =
        some (.table [⟨[.text "a,b", .number (.finite 2), .bytes 3]⟩, ⟨[]⟩]) ∧
      (RPluginManifest.of m).intoIn true = some m.unowned ∧
      ∃ back, r.into = some back ∧ r'.into = some back := by
  intro key fan card m row row' r r'
  have valid : m.IdsValid := by
    intro d member
    obtain rfl := List.mem_singleton.mp member
    decide
  have texts (one two : RCell) (first : one.kind = .text) (second : two.kind = .text)
      (same : one.text = two.text) : one.Agrees two := by
    refine ⟨first.trans second.symm, fun _ => same, fun other => ?_, fun other => ?_⟩ <;>
      cases first.symm.trans other
  have numbers (one two : RCell) (first : one.kind = .number) (second : two.kind = .number)
      (same : one.number = two.number) : one.Agrees two := by
    refine ⟨first.trans second.symm, fun other => ?_, fun _ => same, fun other => ?_⟩ <;>
      cases first.symm.trans other
  have there : row.Agrees row' :=
    .cons (texts _ _ rfl rfl rfl) (.cons (numbers _ _ rfl rfl rfl) .nil)
  have back : row'.Agrees row :=
    .cons (texts _ _ rfl rfl rfl) (.cons (numbers _ _ rfl rfl rfl) .nil)
  have same : r.Agrees r' := ⟨rfl, fun other => (by cases other), fun other => (by cases other),
    fun other => (by cases other), fun _ => .cons there (.cons back .nil)⟩
  exact mirror_lossless _ (fun _ => valid) same

end LinSight
