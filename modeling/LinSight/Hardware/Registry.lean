import LinSight.Plugin.Manifest
import LinSight.Protocol.Messages

set_option autoImplicit false

namespace LinSight

open DebugText (Message)

inductive RegistryError where
  | unknownDevice (key : String)
  | invalidNickname (error : NicknameError)
deriving DecidableEq

def RegistryError.toString : RegistryError → Message
  | .unknownDevice key => "unknown hardware device: " ++ key
  | .invalidNickname error => "invalid nickname: " ++ error.toString

structure HardwareRegistry where
  devices : KeyMap HardwareDeviceKey HardwareDevice
  byPlugin : KeyMap String (KeyMap String HardwareDeviceKey)
  nicknames : KeyMap HardwareDeviceKey String
  labels : KeyMap HardwareDeviceKey String

/-- What one plugin contributes: its id, its devices and its sensors. -/
abbrev PluginDevices := String × List HardwareDevice × List SensorDescriptor

namespace HardwareRegistry

/-- Both maps `build` fills in its first loop. -/
abbrev Indices :=
  KeyMap HardwareDeviceKey HardwareDevice × KeyMap String (KeyMap String HardwareDeviceKey)

/-- One device of a plugin; of a key met twice the first registration stays. -/
def registerDevice (pluginId : String) (indices : Indices) (dev : HardwareDevice) : Indices :=
  let (devices, byPlugin) := indices
  if (devices.lookup dev.key).isSome then indices
  else
    let device := { dev with pluginId := pluginId, sensorIds := [] }
    let ids := (byPlugin.lookup pluginId).getD ∅
    (devices.insert device.key device,
      byPlugin.insert pluginId (ids.insert device.pluginDeviceId device.key))

/-- One sensor of a plugin; without a device of its key it is dropped. -/
def linkSensor (devices : KeyMap HardwareDeviceKey HardwareDevice) (sensor : SensorDescriptor) :
    KeyMap HardwareDeviceKey HardwareDevice :=
  match sensor.deviceKey with
  | none => devices
  | some key =>
      match devices.lookup key with
      | none => devices
      | some dev => devices.insert key { dev with sensorIds := dev.sensorIds ++ [sensor.id] }

def registerPlugin (indices : Indices) (manifest : PluginDevices) : Indices :=
  let (pluginId, pluginDevices, sensors) := manifest
  let (devices, byPlugin) := pluginDevices.foldl (registerDevice pluginId) indices
  (sensors.foldl linkSensor devices, byPlugin)

/-- One entry of the nickname file; a key that does not parse is dropped. -/
def typeNickname (typed : KeyMap HardwareDeviceKey String) (entry : Sigma fun _ : String => String) :
    KeyMap HardwareDeviceKey String :=
  match HardwareDeviceKey.tryNew entry.1 with
  | .ok k => typed.insert k entry.2
  | .error _ => typed

def typedNicknames (nicknames : KeyMap String String) : KeyMap HardwareDeviceKey String :=
  nicknames.entries.foldl typeNickname ∅

/-- Flat view of the nicknames, in the shape of the nickname file. -/
def nicknamesSnapshot (registry : HardwareRegistry) : KeyMap String String :=
  KeyMap.rekey HardwareDeviceKey.asStr (fun _ _ => HardwareDeviceKey.asStr_injective)
    registry.nicknames

def rebuildLabels (registry : HardwareRegistry) : HardwareRegistry :=
  let allDevices := registry.devices.entries.map (·.2)
  { registry with
    labels := KeyMap.mapValues
      (fun _ dev => computeDeviceLabel dev allDevices registry.nicknamesSnapshot)
      registry.devices }

def build (manifests : List PluginDevices) (nicknames : KeyMap String String) :
    HardwareRegistry :=
  let (devices, byPlugin) := manifests.foldl registerPlugin (∅, ∅)
  rebuildLabels { devices, byPlugin, nicknames := typedNicknames nicknames, labels := ∅ }

/-- The order of the sections of the hardware page. -/
def categoryRank : HardwareCategory → Nat
  | .cpu => 0
  | .gpu => 1
  | .storage => 2
  | .network => 3
  | .other => 4

/-- All devices by category and key. -/
def snapshot (registry : HardwareRegistry) : List HardwareDevice :=
  (registry.devices.entries.map (·.2)).insertionSort fun a b =>
    categoryRank a.category < categoryRank b.category ∨
      categoryRank a.category = categoryRank b.category ∧ a.key.asStr ≤ b.key.asStr

def deviceLabelFor (registry : HardwareRegistry) (key : HardwareDeviceKey) : String :=
  (registry.labels.lookup key).getD key.asStr

def keyFor (registry : HardwareRegistry) (pluginId pluginDeviceId : String) :
    Option HardwareDeviceKey :=
  (registry.byPlugin.lookup pluginId).bind fun ids => ids.lookup pluginDeviceId

def setNickname (registry : HardwareRegistry) (key : HardwareDeviceKey) (value : Option String) :
    Except RegistryError HardwareRegistry :=
  if (registry.devices.lookup key).isNone then .error (.unknownDevice key.asStr)
  else
    match value with
    | none => .ok (rebuildLabels { registry with nicknames := registry.nicknames.erase key })
    | some raw =>
        match validateNickname raw with
        | .error e => .error (.invalidNickname e)
        | .ok (some n) =>
            .ok (rebuildLabels { registry with nicknames := registry.nicknames.insert key n })
        | .ok none =>
            .ok (rebuildLabels { registry with nicknames := registry.nicknames.erase key })

@[simp] theorem rebuildLabels_nicknames (registry : HardwareRegistry) :
    registry.rebuildLabels.nicknames = registry.nicknames := rfl

@[simp] theorem rebuildLabels_devices (registry : HardwareRegistry) :
    registry.rebuildLabels.devices = registry.devices := rfl

@[simp] theorem build_nicknames (manifests : List PluginDevices) (nicknames : KeyMap String String) :
    (build manifests nicknames).nicknames = typedNicknames nicknames := rfl

theorem lookup_nicknamesSnapshot (registry : HardwareRegistry) (key : HardwareDeviceKey) :
    registry.nicknamesSnapshot.lookup key.asStr = registry.nicknames.lookup key :=
  KeyMap.lookup_rekey _ _ registry.nicknames key

/-- An accepted nickname is the one looked up afterwards, and no other changes. -/
theorem lookup_setNickname {registry next : HardwareRegistry} {key : HardwareDeviceKey}
    {value : Option String} (accepted : registry.setNickname key value = .ok next)
    (normalized : ∀ nickname, value = some nickname →
      validateNickname nickname = .ok (some nickname)) (other : HardwareDeviceKey) :
    next.nicknames.lookup other = if other = key then value else registry.nicknames.lookup other := by
  unfold setNickname at accepted
  split at accepted
  · cases accepted
  · split at accepted
    · cases accepted
      exact KeyMap.lookup_erase_eq registry.nicknames key other
    · rename_i raw
      rw [normalized raw rfl] at accepted
      cases accepted
      exact KeyMap.lookup_insert_eq registry.nicknames key other raw

/-- The typed map answers a key with what the raw map holds under its name. -/
theorem lookup_foldl_typeNickname (entries : List (Sigma fun _ : String => String))
    (distinct : entries.NodupKeys) (typed : KeyMap HardwareDeviceKey String)
    (key : HardwareDeviceKey) :
    (entries.foldl typeNickname typed).lookup key =
      (entries.dlookup key.asStr).or (typed.lookup key) := by
  induction entries generalizing typed with
  | nil => rfl
  | cons entry rest ih =>
      obtain ⟨name, value⟩ := entry
      obtain ⟨fresh, others⟩ := List.nodupKeys_cons.mp distinct
      rw [List.foldl_cons, ih others]
      by_cases same : key.asStr = name
      · subst same
        have later : rest.dlookup key.asStr = none := List.dlookup_eq_none.mpr fresh
        rw [later, List.dlookup_cons_eq, Option.none_or, Option.some_or]
        simp only [typeNickname, HardwareDeviceKey.tryNew_asStr]
        exact AList.lookup_insert typed
      · have kept : (typeNickname typed ⟨name, value⟩).lookup key = typed.lookup key := by
          unfold typeNickname
          split
          · rename_i k parsed
            have differs : key ≠ k := by
              intro keys
              rw [keys, HardwareDeviceKey.asStr_of_tryNew parsed] at same
              exact same rfl
            exact AList.lookup_insert_ne differs
          · rfl
        rw [kept, List.dlookup_cons_ne _ ⟨_, _⟩ same]

theorem lookup_typedNicknames (nicknames : KeyMap String String) (key : HardwareDeviceKey) :
    (typedNicknames nicknames).lookup key = nicknames.lookup key.asStr := by
  have folded := lookup_foldl_typeNickname nicknames.entries nicknames.nodupKeys ∅ key
  rw [AList.lookup_empty, Option.or_none] at folded
  exact folded

end HardwareRegistry

end LinSight
