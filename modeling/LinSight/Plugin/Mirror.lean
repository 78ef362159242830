import LinSight.Library.Fallible
import LinSight.Plugin.Manifest

set_option autoImplicit false

/-! The types that cross the plugin boundary, and the conversions in both directions.
`of` is the conversion that a plugin makes, `into` that of the host. -/

namespace LinSight

open DebugText (Message)

inductive RUnitKind where
  | percent
  | celsius
  | bytes
  | bytesPerSec
  | hertz
  | watts
  | volts
  | rpm
  | count
  | custom
deriving DecidableEq

/-- A plugin can return any payload with any kind. -/
structure RUnit where
  kind : RUnitKind
  custom : Option String
deriving DecidableEq

def RUnit.of : LinSight.Unit → RUnit
  | .percent => ⟨.percent, none⟩
  | .celsius => ⟨.celsius, none⟩
  | .bytes => ⟨.bytes, none⟩
  | .bytesPerSec => ⟨.bytesPerSec, none⟩
  | .hertz => ⟨.hertz, none⟩
  | .watts => ⟨.watts, none⟩
  | .volts => ⟨.volts, none⟩
  | .rpm => ⟨.rpm, none⟩
  | .count => ⟨.count, none⟩
  | .custom s => ⟨.custom, some s⟩

def RUnit.into (r : RUnit) : LinSight.Unit :=
  match r.kind with
  | .percent => .percent
  | .celsius => .celsius
  | .bytes => .bytes
  | .bytesPerSec => .bytesPerSec
  | .hertz => .hertz
  | .watts => .watts
  | .volts => .volts
  | .rpm => .rpm
  | .count => .count
  | .custom => .custom (r.custom.getD "")

/-- The payload is there exactly for the kind that has one. -/
def RUnit.WellFormed (r : RUnit) : Prop := r.custom.isSome ↔ r.kind = .custom

/-- What the unit means: a payload of another kind is not read, and one that is missing
is the empty label. -/
def RUnit.normalized (r : RUnit) : RUnit :=
  if r.kind = .custom then ⟨.custom, some (r.custom.getD "")⟩ else ⟨r.kind, none⟩

inductive RSensorKind where
  | scalar
  | counter
  | table
  | state
deriving DecidableEq

def RSensorKind.of : SensorKind → RSensorKind
  | .scalar => .scalar
  | .counter => .counter
  | .table => .table
  | .state => .state

def RSensorKind.into : RSensorKind → SensorKind
  | .scalar => .scalar
  | .counter => .counter
  | .table => .table
  | .state => .state

inductive RCategory where
  | cpu
  | gpu
  | memory
  | storage
  | network
  | custom
deriving DecidableEq

def RCategory.of : Category → RCategory
  | .cpu => .cpu
  | .gpu => .gpu
  | .memory => .memory
  | .storage => .storage
  | .network => .network
  | .custom => .custom

def RCategory.into : RCategory → Category
  | .cpu => .cpu
  | .gpu => .gpu
  | .memory => .memory
  | .storage => .storage
  | .network => .network
  | .custom => .custom

inductive RHardwareCategoryKind where
  | gpu
  | storage
  | network
  | cpu
  | other
deriving DecidableEq

def RHardwareCategoryKind.of : HardwareCategory → RHardwareCategoryKind
  | .gpu => .gpu
  | .storage => .storage
  | .network => .network
  | .cpu => .cpu
  | .other => .other

def RHardwareCategoryKind.into : RHardwareCategoryKind → HardwareCategory
  | .gpu => .gpu
  | .storage => .storage
  | .network => .network
  | .cpu => .cpu
  | .other => .other

structure RSensorId where
  value : String
deriving DecidableEq

/-- `SensorId::new`; `none` is the panic of its debug assertion, which release builds
leave out. -/
def SensorId.new (s : String) : Option SensorId :=
  if s.toList.isEmpty ∨ s.toList.any isWhitespace then none else some ⟨s⟩

def RSensorId.of (id : SensorId) : RSensorId := ⟨id.asStr⟩

def RSensorId.into (r : RSensorId) : Option SensorId := SensorId.new r.value

structure RSensorDescriptor where
  id : RSensorId
  displayName : String
  unit : RUnit
  kind : RSensorKind
  category : RCategory
  nativeRateHz : Ieee.Value
  min : Option Ieee.Value
  max : Option Ieee.Value
  deviceId : Option String
  deviceKey : Option String
  tags : List String

structure RHardwareDevice where
  key : String
  categoryKind : RHardwareCategoryKind
  model : String
  vendor : Option String
  location : Option String
  pluginDeviceId : String

structure RPluginManifest where
  pluginId : String
  displayName : String
  version : String
  sensors : List RSensorDescriptor
  devices : List RHardwareDevice

structure PluginManifest where
  pluginId : String
  displayName : String
  version : String
  sensors : List SensorDescriptor
  devices : List HardwareDevice

/-- `svec_into_std`: the items are popped from the end, and the result is reversed. A
conversion that panics stops it. -/
def svecIntoStd {R T : Type} (convert : R → Option T) (v : List R) : Option (List T) :=
  (v.reverse.mapM convert).map List.reverse

/-- A key that does not parse stops the conversion with a panic. -/
def RSensorDescriptor.into (r : RSensorDescriptor) : Option SensorDescriptor := do
  let deviceKey ← r.deviceKey.mapM fun key => (HardwareDeviceKey.tryNew key).toOption
  let id ← r.id.into
  let tags ← svecIntoStd some r.tags
  some {
    id
    displayName := r.displayName
    unit := r.unit.into
    kind := r.kind.into
    category := r.category.into
    nativeRateHz := r.nativeRateHz
    min := r.min
    max := r.max
    deviceId := r.deviceId
    deviceKey
    tags }

def RSensorDescriptor.of (d : SensorDescriptor) : RSensorDescriptor where
  id := .of d.id
  displayName := d.displayName
  unit := .of d.unit
  kind := .of d.kind
  category := .of d.category
  nativeRateHz := d.nativeRateHz
  min := d.min
  max := d.max
  deviceId := d.deviceId
  deviceKey := d.deviceKey.map (·.asStr)
  tags := d.tags

def RHardwareDevice.into (r : RHardwareDevice) : Option HardwareDevice := do
  let key ← (HardwareDeviceKey.tryNew r.key).toOption
  some {
    key
    category := r.categoryKind.into
    model := r.model
    vendor := r.vendor
    location := r.location
    pluginId := ""
    pluginDeviceId := r.pluginDeviceId
    sensorIds := [] }

def RHardwareDevice.of (d : HardwareDevice) : RHardwareDevice where
  key := d.key.asStr
  categoryKind := .of d.category
  model := d.model
  vendor := d.vendor
  location := d.location
  pluginDeviceId := d.pluginDeviceId

def RPluginManifest.into (r : RPluginManifest) : Option PluginManifest := do
  let sensors ← svecIntoStd RSensorDescriptor.into r.sensors
  let devices ← svecIntoStd RHardwareDevice.into r.devices
  some {
    pluginId := r.pluginId
    displayName := r.displayName
    version := r.version
    sensors
    devices }

def RPluginManifest.of (m : PluginManifest) : RPluginManifest where
  pluginId := m.pluginId
  displayName := m.displayName
  version := m.version
  sensors := m.sensors.map .of
  devices := m.devices.map .of

/-- The descriptor as the host reads it. -/
def RSensorDescriptor.normalized (r : RSensorDescriptor) : RSensorDescriptor :=
  { r with unit := r.unit.normalized }

def RPluginManifest.normalized (r : RPluginManifest) : RPluginManifest :=
  { r with sensors := r.sensors.map .normalized }

inductive RPluginErrorKind where
  | io
  | parse
  | unsupported
  | transient
deriving DecidableEq

structure RPluginError where
  kind : RPluginErrorKind
  message : Message

def RPluginError.into (r : RPluginError) : PluginError :=
  match r.kind with
  | .io => .io r.message
  | .parse => .parse r.message
  | .unsupported => .unsupported r.message
  | .transient => .transient r.message

section Conversions

@[simp] theorem RUnit.into_of (u : LinSight.Unit) : (RUnit.of u).into = u := by
  cases u <;> rfl

theorem RUnit.of_into (r : RUnit) : RUnit.of r.into = r.normalized := by
  obtain ⟨kind, custom⟩ := r
  cases kind <;> rfl

@[simp] theorem RSensorKind.of_into (r : RSensorKind) : RSensorKind.of r.into = r := by
  cases r <;> rfl

@[simp] theorem RCategory.of_into (r : RCategory) : RCategory.of r.into = r := by
  cases r <;> rfl

@[simp] theorem RHardwareCategoryKind.of_into (r : RHardwareCategoryKind) :
    RHardwareCategoryKind.of r.into = r := by
  cases r <;> rfl

/-- A string that `try_new` accepts passes the debug assertion. -/
theorem SensorId.new_of_tryNew {s : String} {id : SensorId} (valid : SensorId.tryNew s = .ok id) :
    SensorId.new s = some id := by
  unfold SensorId.tryNew at valid
  split at valid
  · cases valid
  · rename_i filled
    split at valid
    · cases valid
    · rename_i solid
      cases valid
      exact if_neg (not_or.mpr ⟨filled, solid⟩)

theorem SensorId.asStr_of_new {s : String} {id : SensorId} (made : SensorId.new s = some id) :
    id.asStr = s ∧ SensorId.tryNew s = .ok id := by
  unfold SensorId.new at made
  split at made
  · cases made
  · rename_i valid
    cases made
    obtain ⟨filled, solid⟩ := not_or.mp valid
    exact ⟨rfl, by rw [SensorId.tryNew, if_neg filled, if_neg solid]⟩

/-- Popping and reversing keeps the order. -/
theorem svecIntoStd_eq_some {R T : Type} {convert : R → Option T} {v : List R} {out : List T} :
    svecIntoStd convert v = some out ↔ v.mapM convert = some out := by
  rw [svecIntoStd, Option.map_eq_some_iff, Fallible.mapM_eq_some]
  constructor
  · rintro ⟨popped, done, rfl⟩
    rw [← List.forall₂_reverse_iff, List.reverse_reverse]
    exact Fallible.mapM_eq_some.mp done
  · intro done
    refine ⟨out.reverse, Fallible.mapM_eq_some.mpr ?_, List.reverse_reverse out⟩
    exact List.forall₂_reverse_iff.mpr done

theorem svecIntoStd_some {T : Type} (v : List T) : svecIntoStd some v = some v := by
  rw [svecIntoStd_eq_some, Fallible.mapM_eq_some]
  exact List.forall₂_same.mpr fun _ _ => rfl

/-- What every conversion keeps, the conversion of a vector keeps. -/
theorem map_eq_of_svecIntoStd {R T U : Type} {convert : R → Option T} {before : R → U}
    {after : T → U}
    (kept : ∀ item result, convert item = some result → after result = before item)
    {v : List R} {out : List T} (done : svecIntoStd convert v = some out) :
    out.map after = v.map before :=
  Fallible.map_eq_of_mapM kept (svecIntoStd_eq_some.mp done)

/-- A sensor that the host has converted has the plugin's fields, and a valid id. -/
theorem RSensorDescriptor.of_into {r : RSensorDescriptor} {d : SensorDescriptor}
    (converted : r.into = some d) :
    RSensorDescriptor.of d = r.normalized ∧ SensorId.tryNew d.id.asStr = .ok d.id := by
  obtain ⟨deviceKey, parsed, rest⟩ := Option.bind_eq_some_iff.mp converted
  obtain ⟨id, made, rest⟩ := Option.bind_eq_some_iff.mp rest
  rw [svecIntoStd_some] at rest
  cases rest
  obtain ⟨text, valid⟩ := SensorId.asStr_of_new made
  have key : deviceKey.map (·.asStr) = r.deviceKey := by
    cases raw : r.deviceKey with
    | none =>
        rw [raw] at parsed
        cases parsed
        rfl
    | some text =>
        rw [raw] at parsed
        cases found : HardwareDeviceKey.tryNew text with
        | error e => simp [found, Except.toOption] at parsed
        | ok key =>
            simp [found, Except.toOption] at parsed
            subst parsed
            exact congrArg some (HardwareDeviceKey.asStr_of_tryNew found)
  constructor
  · simp only [RSensorDescriptor.of, RSensorDescriptor.normalized, RSensorId.of, text,
      RUnit.of_into, RSensorKind.of_into, RCategory.of_into, key]
  · exact text ▸ valid

/-- A device that the host has converted has the plugin's fields; who owns it is not on
the wire. -/
theorem RHardwareDevice.of_into {r : RHardwareDevice} {d : HardwareDevice}
    (converted : r.into = some d) :
    RHardwareDevice.of d = r ∧ d.pluginId = "" ∧ d.sensorIds = [] := by
  obtain ⟨key, parsed, built⟩ := Option.bind_eq_some_iff.mp converted
  cases built
  cases found : HardwareDeviceKey.tryNew r.key with
  | error e =>
      rw [found] at parsed
      cases parsed
  | ok parsedKey =>
      rw [found] at parsed
      cases parsed
      have text := HardwareDeviceKey.asStr_of_tryNew found
      simp only [RHardwareDevice.of, text, RHardwareCategoryKind.of_into, and_self]

/-- A converted manifest has the plugin's sensors and devices, in the plugin's order. -/
theorem RPluginManifest.of_into {r : RPluginManifest} {m : PluginManifest}
    (converted : r.into = some m) :
    RPluginManifest.of m = r.normalized ∧
      (∀ d ∈ m.sensors, SensorId.tryNew d.id.asStr = .ok d.id) ∧
      ∀ d ∈ m.devices, d.pluginId = "" ∧ d.sensorIds = [] := by
  obtain ⟨sensors, sensors_done, rest⟩ := Option.bind_eq_some_iff.mp converted
  obtain ⟨devices, devices_done, rest⟩ := Option.bind_eq_some_iff.mp rest
  cases rest
  refine ⟨?_, ?_, ?_⟩
  · have same_sensors := map_eq_of_svecIntoStd
      (fun _ _ one => (RSensorDescriptor.of_into one).1) sensors_done
    have same_devices : devices.map RHardwareDevice.of = r.devices.map id :=
      map_eq_of_svecIntoStd (fun _ _ one => (RHardwareDevice.of_into one).1) devices_done
    simp only [RPluginManifest.of, RPluginManifest.normalized, same_sensors, same_devices,
      List.map_id]
  · intro d member
    obtain ⟨raw, _, one⟩ :=
      Fallible.exists_of_mem_mapM (svecIntoStd_eq_some.mp sensors_done) member
    exact (RSensorDescriptor.of_into one).2
  · intro d member
    obtain ⟨raw, _, one⟩ :=
      Fallible.exists_of_mem_mapM (svecIntoStd_eq_some.mp devices_done) member
    exact (RHardwareDevice.of_into one).2

end Conversions

end LinSight
