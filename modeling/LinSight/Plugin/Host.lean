import LinSight.Hardware.Registry
import LinSight.Plugin.Mirror

set_option autoImplicit false

/-! What the host makes of the manifests that its plugins return. -/

namespace LinSight

open DebugText (Message debugStr)

def CoreError.toString : CoreError → Message
  | .invalidSensorId message => "invalid sensor id: " ++ message

/-- One device of `validate_manifest`, with the keys met before it. -/
def checkDevice (keys : List String) (dev : RHardwareDevice) : Except PluginError (List String) :=
  match HardwareDeviceKey.tryNew dev.key with
  | .error e =>
      .error (.manifest ("invalid device key " ++ debugStr dev.key ++ ": " ++ e.toString))
  | .ok _ =>
      if dev.key ∈ keys then
        .error (.manifest ("duplicate device key in manifest: " ++ debugStr dev.key))
      else .ok (keys ++ [dev.key])

def checkSensor (keys : List String) (s : RSensorDescriptor) : Except PluginError PUnit.{1} :=
  match s.deviceKey with
  | none => .ok ⟨⟩
  | some k =>
      if k ∈ keys then .ok ⟨⟩
      else .error (.manifest
        ("sensor " ++ s.id.value ++ " references device_key " ++ debugStr k ++
          " not in manifest.devices"))

def validateManifest (m : RPluginManifest) : Except PluginError PUnit.{1} := do
  let keys ← m.devices.foldlM checkDevice []
  m.sensors.forM (checkSensor keys)

def checkSensorId (pluginId : String) (s : RSensorDescriptor) : Except PluginError PUnit.{1} :=
  match SensorId.tryNew s.id.value with
  | .ok _ => .ok ⟨⟩
  | .error e =>
      .error (.parse
        ("plugin `" ++ pluginId ++ "` returned invalid sensor id `" ++ s.id.value ++
          "`: " ++ e.toString))

/-- `init` is what the plugin returned, a caught panic included; `ok none` is a panic
of the conversion. -/
def hostInit (init : Except PluginError RPluginManifest) :
    Except PluginError (Option PluginManifest) := do
  let rManifest ← init
  rManifest.sensors.forM (checkSensorId rManifest.pluginId)
  validateManifest rManifest
  .ok rManifest.into

structure PluginMeta where
  pluginId : String
  displayName : String
  version : String

structure PluginEntry where
  metadata : PluginMeta
  sensorCount : Nat
  devices : List HardwareDevice
  sensors : List SensorDescriptor

structure PluginHost where
  plugins : List PluginEntry
  registry : KeyMap SensorId (Nat × SensorDescriptor)

namespace PluginHost

/-- One sensor of plugin `idx`; of an id met twice the first registration stays. -/
def acceptSensor (idx : Nat) (accepted : KeyMap SensorId (Nat × SensorDescriptor) ×
    List SensorDescriptor) (desc : SensorDescriptor) :
    KeyMap SensorId (Nat × SensorDescriptor) × List SensorDescriptor :=
  let (registry, sensors) := accepted
  if (registry.lookup desc.id).isSome then accepted
  else (registry.insert desc.id (idx, desc), sensors ++ [desc])

def finishRegister (host : PluginHost) (manifest : PluginManifest) : PluginHost :=
  if host.plugins.any fun e => e.metadata.pluginId = manifest.pluginId then host
  else
    let idx := host.plugins.length
    let (registry, sensors) := manifest.sensors.foldl (acceptSensor idx) (host.registry, [])
    { plugins := host.plugins ++ [{
        metadata := ⟨manifest.pluginId, manifest.displayName, manifest.version⟩
        sensorCount := sensors.length
        devices := manifest.devices
        sensors }]
      registry }

/-- `none` is a panic. -/
def registerWithConfigChecked (host : PluginHost) (init : Except PluginError RPluginManifest)
    (expectedPluginId : Option String) : Option PluginHost :=
  match hostInit init with
  | .error _ => some host
  | .ok none => none
  | .ok (some manifest) =>
      if expectedPluginId.any (· ≠ manifest.pluginId) then some host
      else some (host.finishRegister manifest)

/-- All plugins of the daemon, one after another. -/
def load (inits : List (Except PluginError RPluginManifest × Option String)) :
    Option PluginHost :=
  inits.foldlM (fun host init => host.registerWithConfigChecked init.1 init.2) ⟨[], ∅⟩

def descriptors (host : PluginHost) : List SensorDescriptor :=
  host.registry.entries.map (·.2.2)

def pluginIdFor (host : PluginHost) (id : SensorId) : Option String := do
  let (idx, _) ← host.registry.lookup id
  let entry ← host.plugins[idx]?
  some entry.metadata.pluginId

def devicesByPlugin (host : PluginHost) : List PluginDevices :=
  host.plugins.map fun e => (e.metadata.pluginId, e.devices, e.sensors)

end PluginHost

/-- What `validate_manifest` accepts. -/
structure RPluginManifest.Valid (m : RPluginManifest) : Prop where
  keysParse : ∀ dev ∈ m.devices, ∃ key, HardwareDeviceKey.tryNew dev.key = .ok key
  keysDistinct : (m.devices.map (·.key)).Nodup
  keysDeclared : ∀ s ∈ m.sensors, ∀ key, s.deviceKey = some key → key ∈ m.devices.map (·.key)

/-- What the hardware registry relies on. -/
structure KeysValid (devices : List HardwareDevice) (sensors : List SensorDescriptor) : Prop where
  distinct : (devices.map (·.key)).Nodup
  declared : ∀ s ∈ sensors, ∀ key, s.deviceKey = some key → key ∈ devices.map (·.key)

section HostInit

theorem checkDevice_eq_ok {keys keys' : List String} {dev : RHardwareDevice} :
    checkDevice keys dev = .ok keys' ↔
      (∃ key, HardwareDeviceKey.tryNew dev.key = .ok key) ∧ dev.key ∉ keys ∧
        keys' = keys ++ [dev.key] := by
  unfold checkDevice
  cases HardwareDeviceKey.tryNew dev.key with
  | error e => simp
  | ok key =>
      by_cases met : dev.key ∈ keys
      · simp [met]
      · simp [met, eq_comm]

theorem foldlM_checkDevice {devices : List RHardwareDevice} {keys keys' : List String}
    (distinct : keys.Nodup) (checked : devices.foldlM checkDevice keys = .ok keys') :
    (∀ dev ∈ devices, ∃ key, HardwareDeviceKey.tryNew dev.key = .ok key) ∧
      keys' = keys ++ devices.map (·.key) ∧ keys'.Nodup := by
  induction devices generalizing keys with
  | nil =>
      have same : keys = keys' := Except.ok.inj checked
      subst same
      simp [distinct]
  | cons dev rest ih =>
      obtain ⟨next, here, later⟩ := Fallible.bind_eq_ok.mp checked
      obtain ⟨parses, fresh, extended⟩ := checkDevice_eq_ok.mp here
      subst extended
      have longer : (keys ++ [dev.key]).Nodup := by
        rw [List.nodup_append_comm, List.singleton_append, List.nodup_cons]
        exact ⟨fresh, distinct⟩
      obtain ⟨others, keys_eq, keys_distinct⟩ := ih longer later
      refine ⟨List.forall_mem_cons.mpr ⟨parses, others⟩, ?_, keys_distinct⟩
      rw [keys_eq, List.append_assoc]
      rfl

theorem validateManifest_valid {m : RPluginManifest} (accepted : validateManifest m = .ok ⟨⟩) :
    m.Valid := by
  obtain ⟨keys, devices_checked, sensors_checked⟩ := Fallible.bind_eq_ok.mp accepted
  obtain ⟨parse, keys_eq, distinct⟩ := foldlM_checkDevice List.nodup_nil devices_checked
  rw [List.nil_append] at keys_eq
  subst keys_eq
  refine ⟨parse, distinct, ?_⟩
  intro s member key bound
  have checked := Fallible.forM_eq_ok.mp sensors_checked s member
  unfold checkSensor at checked
  rw [bound] at checked
  by_contra undeclared
  simp [undeclared] at checked

/-- A validated manifest with valid sensor ids is converted without a panic. -/
theorem RPluginManifest.Valid.into {m : RPluginManifest} (valid : m.Valid)
    (ids : ∀ s ∈ m.sensors, ∃ id, SensorId.tryNew s.id.value = .ok id) :
    ∃ manifest, m.into = some manifest := by
  have parses : ∀ text ∈ m.devices.map (·.key),
      ∃ key, HardwareDeviceKey.tryNew text = .ok key := by
    intro text member
    obtain ⟨dev, registered, same⟩ := List.mem_map.mp member
    exact same ▸ valid.keysParse dev registered
  obtain ⟨sensors, sensors_done⟩ : ∃ sensors, m.sensors.mapM RSensorDescriptor.into =
      some sensors := by
    apply Fallible.mapM_exists
    intro s member
    obtain ⟨id, valid_id⟩ := ids s member
    have made : s.id.into = some id := SensorId.new_of_tryNew valid_id
    unfold RSensorDescriptor.into
    rw [made, svecIntoStd_some]
    cases bound : s.deviceKey with
    | none => exact ⟨_, rfl⟩
    | some text =>
        obtain ⟨key, parsed⟩ := parses text (valid.keysDeclared s member text bound)
        simp only [Option.mapM_some, parsed]
        exact ⟨_, rfl⟩
  obtain ⟨devices, devices_done⟩ : ∃ devices, m.devices.mapM RHardwareDevice.into =
      some devices := by
    apply Fallible.mapM_exists
    intro dev member
    obtain ⟨key, parsed⟩ := valid.keysParse dev member
    unfold RHardwareDevice.into
    rw [parsed]
    exact ⟨_, rfl⟩
  refine ⟨⟨m.pluginId, m.displayName, m.version, sensors, devices⟩, ?_⟩
  unfold RPluginManifest.into
  rw [svecIntoStd_eq_some.mpr sensors_done, svecIntoStd_eq_some.mpr devices_done]
  rfl

/-- The conversion of a validated manifest keeps its keys distinct and declared. -/
theorem RPluginManifest.Valid.keysValid {m : RPluginManifest} (valid : m.Valid)
    {manifest : PluginManifest} (converted : m.into = some manifest) :
    KeysValid manifest.devices manifest.sensors := by
  have mirrored := (RPluginManifest.of_into converted).1
  have texts : manifest.devices.map (·.key.asStr) = m.devices.map (·.key) := by
    have devices := congrArg (fun r => r.devices.map (·.key)) mirrored
    simp only [RPluginManifest.of, List.map_map] at devices
    exact devices
  have bindings : manifest.sensors.map (fun s => s.deviceKey.map (·.asStr)) =
      m.sensors.map (·.deviceKey) := by
    have sensors := congrArg (fun r => r.sensors.map (·.deviceKey)) mirrored
    simp only [RPluginManifest.of, RPluginManifest.normalized, List.map_map] at sensors
    exact sensors
  constructor
  · apply List.Nodup.of_map HardwareDeviceKey.asStr
    rw [List.map_map]
    exact texts ▸ valid.keysDistinct
  · intro s member key bound
    have text : some key.asStr ∈ m.sensors.map (·.deviceKey) := by
      rw [← bindings]
      exact List.mem_map.mpr ⟨s, member, by rw [bound]; rfl⟩
    obtain ⟨raw, inside, raw_key⟩ := List.mem_map.mp text
    have declared := valid.keysDeclared raw inside key.asStr raw_key
    rw [← texts] at declared
    obtain ⟨dev, registered, same⟩ := List.mem_map.mp declared
    exact List.mem_map.mpr ⟨dev, registered, HardwareDeviceKey.asStr_injective same⟩

theorem checkSensorId_eq_ok {pluginId : String} {s : RSensorDescriptor}
    (checked : checkSensorId pluginId s = .ok ⟨⟩) :
    ∃ id, SensorId.tryNew s.id.value = .ok id := by
  unfold checkSensorId at checked
  split at checked
  · rename_i id valid
    exact ⟨id, valid⟩
  · cases checked

/-- What `host_init` accepts passes its checks, and its conversion does not panic. -/
theorem hostInit_eq_ok {init : Except PluginError RPluginManifest}
    {converted : Option PluginManifest} (accepted : hostInit init = .ok converted) :
    ∃ m manifest, init = .ok m ∧ converted = some manifest ∧ m.Valid ∧
      m.into = some manifest := by
  obtain ⟨rManifest, returned, accepted⟩ := Fallible.bind_eq_ok.mp accepted
  obtain ⟨⟨⟩, ids, accepted⟩ := Fallible.bind_eq_ok.mp accepted
  obtain ⟨⟨⟩, validated, accepted⟩ := Fallible.bind_eq_ok.mp accepted
  have valid := validateManifest_valid validated
  obtain ⟨manifest, into⟩ := valid.into fun s member =>
    checkSensorId_eq_ok (Fallible.forM_eq_ok.mp ids s member)
  refine ⟨rManifest, manifest, returned, ?_, valid, into⟩
  rw [← into]
  exact (Except.ok.inj accepted).symm

/-- What `host_init` accepts is valid, and its conversion does not panic. -/
theorem hostInit_valid {init : Except PluginError RPluginManifest}
    {converted : Option PluginManifest} (accepted : hostInit init = .ok converted) :
    ∃ manifest, converted = some manifest ∧
      KeysValid manifest.devices manifest.sensors := by
  obtain ⟨m, manifest, _, same, valid, into⟩ := hostInit_eq_ok accepted
  exact ⟨manifest, same, valid.keysValid into⟩

/-- A manifest of the host that says what the plugin's says, and is well formed. -/
structure PluginManifest.Faithful (manifest : PluginManifest) (r : RPluginManifest) : Prop where
  mirrored : RPluginManifest.of manifest = r.normalized
  unowned : ∀ dev ∈ manifest.devices, dev.pluginId = "" ∧ dev.sensorIds = []
  idsValid : ∀ s ∈ manifest.sensors, SensorId.tryNew s.id.asStr = .ok s.id
  keysValid : ∀ dev ∈ manifest.devices, HardwareDeviceKey.tryNew dev.key.asStr = .ok dev.key
  bindingsValid : ∀ s ∈ manifest.sensors, ∀ key, s.deviceKey = some key →
    HardwareDeviceKey.tryNew key.asStr = .ok key
  keysDistinct : (manifest.devices.map (·.key)).Nodup
  keysDeclared : ∀ s ∈ manifest.sensors, ∀ key, s.deviceKey = some key →
    key ∈ manifest.devices.map (·.key)

/-- Whatever a plugin's `init` returns, `host_init` returns an error, or a manifest that
is the plugin's own. -/
theorem hostInit_faithful (returned : Except RPluginError RPluginManifest) :
    (∃ error, hostInit (returned.mapError RPluginError.into) = .error error) ∨
    ∃ r manifest, returned = .ok r ∧
      hostInit (returned.mapError RPluginError.into) = .ok (some manifest) ∧
      manifest.Faithful r := by
  cases result : hostInit (returned.mapError RPluginError.into) with
  | error error => exact .inl ⟨error, rfl⟩
  | ok converted =>
      obtain ⟨m, manifest, given, rfl, valid, into⟩ := hostInit_eq_ok result
      have own : returned = .ok m := by
        cases returned with
        | error error => cases given
        | ok r =>
            cases given
            rfl
      obtain ⟨mirrored, ids, unowned⟩ := RPluginManifest.of_into into
      obtain ⟨distinct, declared⟩ := valid.keysValid into
      exact .inr ⟨m, manifest, own, rfl, mirrored, unowned, ids,
        fun dev _ => dev.key.tryNew_asStr, fun _ _ key _ => key.tryNew_asStr, distinct, declared⟩

end HostInit

namespace PluginHost

/-- The map of the sensors holds those of each plugin under its number, and no others. -/
def Owned (registry : KeyMap SensorId (Nat × SensorDescriptor))
    (sensors : List (List SensorDescriptor)) : Prop :=
  ∀ id idx d, registry.lookup id = some (idx, d) ↔
    ∃ own, sensors[idx]? = some own ∧ d ∈ own ∧ d.id = id

structure WellFormed (host : PluginHost) : Prop where
  idsDistinct : (host.plugins.map (·.metadata.pluginId)).Nodup
  owned : Owned host.registry (host.plugins.map (·.sensors))
  keysValid : ∀ entry ∈ host.plugins, KeysValid entry.devices entry.sensors

section Load

theorem Owned.concat_nil {registry : KeyMap SensorId (Nat × SensorDescriptor)}
    {sensors : List (List SensorDescriptor)} (owned : Owned registry sensors) :
    Owned registry (sensors ++ [[]]) := by
  intro id idx d
  rw [owned id idx d]
  constructor
  · rintro ⟨own, found, member⟩
    have inside : idx < sensors.length := (List.getElem?_eq_some_iff.mp found).1
    exact ⟨own, by rw [List.getElem?_append_left inside, found], member⟩
  · rintro ⟨own, found, member, same⟩
    by_cases inside : idx < sensors.length
    · rw [List.getElem?_append_left inside] at found
      exact ⟨own, found, member, same⟩
    · rw [List.getElem?_append_right (by omega)] at found
      have empty : own = [] := by
        have last := List.mem_of_getElem? found
        exact List.mem_singleton.mp last
      rw [empty] at member
      exact absurd member List.not_mem_nil

/-- A sensor of a new id goes to the last plugin. -/
theorem Owned.accept {registry : KeyMap SensorId (Nat × SensorDescriptor)}
    {sensors : List (List SensorDescriptor)} {own : List SensorDescriptor}
    (owned : Owned registry (sensors ++ [own])) {desc : SensorDescriptor}
    (fresh : registry.lookup desc.id = none) :
    Owned (registry.insert desc.id (sensors.length, desc)) (sensors ++ [own ++ [desc]]) := by
  have unheld : ∀ (idx : Nat) (held : List SensorDescriptor),
      (sensors ++ [own])[idx]? = some held → ∀ d ∈ held, d.id ≠ desc.id := by
    intro idx held found d member same
    have stored := (owned desc.id idx d).mpr ⟨held, found, member, same⟩
    rw [fresh] at stored
    cases stored
  have same_front : ∀ idx : Nat, idx ≠ sensors.length →
      (sensors ++ [own ++ [desc]])[idx]? = (sensors ++ [own])[idx]? := by
    intro idx differs
    by_cases inside : idx < sensors.length
    · rw [List.getElem?_append_left inside, List.getElem?_append_left inside]
    · rw [List.getElem?_eq_none (by simp; omega), List.getElem?_eq_none (by simp; omega)]
  have at_last : ∀ last : List SensorDescriptor,
      (sensors ++ [last])[sensors.length]? = some last := fun last => by simp
  intro id idx d
  rw [KeyMap.lookup_insert_eq]
  by_cases same_id : id = desc.id
  · subst same_id
    rw [if_pos rfl]
    constructor
    · intro stored
      cases stored
      exact ⟨own ++ [desc], at_last _, by simp, rfl⟩
    · rintro ⟨held, found, member, same⟩
      by_cases last : idx = sensors.length
      · subst last
        rw [at_last] at found
        cases found
        rcases List.mem_append.mp member with earlier | new
        · exact absurd same (unheld _ own (at_last own) d earlier)
        · rw [List.mem_singleton.mp new]
      · rw [same_front idx last] at found
        exact absurd same (unheld idx held found d member)
  · rw [if_neg same_id, owned id idx d]
    by_cases last : idx = sensors.length
    · subst last
      rw [at_last, at_last]
      constructor
      · rintro ⟨held, found, member, same⟩
        cases found
        exact ⟨_, rfl, List.mem_append_left _ member, same⟩
      · rintro ⟨held, found, member, same⟩
        cases found
        rcases List.mem_append.mp member with earlier | new
        · exact ⟨own, rfl, earlier, same⟩
        · exact absurd ((List.mem_singleton.mp new ▸ same).symm) same_id
    · rw [same_front idx last]

theorem foldl_acceptSensor {sensors : List (List SensorDescriptor)}
    (descs : List SensorDescriptor) {registry : KeyMap SensorId (Nat × SensorDescriptor)}
    {own : List SensorDescriptor} (owned : Owned registry (sensors ++ [own])) :
    let accepted := descs.foldl (acceptSensor sensors.length) (registry, own)
    Owned accepted.1 (sensors ++ [accepted.2]) ∧ ∀ d ∈ accepted.2, d ∈ own ∨ d ∈ descs := by
  induction descs generalizing registry own with
  | nil => exact ⟨owned, fun d member => .inl member⟩
  | cons desc rest ih =>
      rw [List.foldl_cons]
      by_cases known : (registry.lookup desc.id).isSome
      · have skipped : acceptSensor sensors.length (registry, own) desc = (registry, own) := by
          simp [acceptSensor, known]
        rw [skipped]
        refine ⟨(ih owned).1, fun d member => ?_⟩
        exact ((ih owned).2 d member).imp_right (List.mem_cons_of_mem _)
      · have taken : acceptSensor sensors.length (registry, own) desc =
            (registry.insert desc.id (sensors.length, desc), own ++ [desc]) := by
          simp [acceptSensor, known]
        rw [taken]
        have next := owned.accept (Option.not_isSome_iff_eq_none.mp known)
        refine ⟨(ih next).1, fun d member => ?_⟩
        rcases (ih next).2 d member with held | later
        · rcases List.mem_append.mp held with earlier | new
          · exact .inl earlier
          · exact .inr (List.mem_singleton.mp new ▸ List.mem_cons_self)
        · exact .inr (List.mem_cons_of_mem _ later)

theorem WellFormed.finishRegister {host : PluginHost} (formed : host.WellFormed)
    {manifest : PluginManifest} (valid : KeysValid manifest.devices manifest.sensors) :
    (host.finishRegister manifest).WellFormed := by
  unfold PluginHost.finishRegister
  split
  · exact formed
  · rename_i unknown
    have start := formed.owned.concat_nil
    have length : (host.plugins.map (·.sensors)).length = host.plugins.length := List.length_map _
    have folded := foldl_acceptSensor manifest.sensors start
    rw [length] at folded
    have only_own : ∀ d ∈ (manifest.sensors.foldl (acceptSensor host.plugins.length)
        (host.registry, [])).2, d ∈ manifest.sensors :=
      fun d member => (folded.2 d member).resolve_left List.not_mem_nil
    constructor
    · have fresh : manifest.pluginId ∉ host.plugins.map (·.metadata.pluginId) := by
        simpa using unknown
      have distinct := List.nodup_cons.mpr ⟨fresh, formed.idsDistinct⟩
      simpa using (List.perm_append_singleton _ _).nodup_iff.mpr distinct
    · simpa using folded.1
    · intro entry member
      rcases List.mem_append.mp member with earlier | new
      · exact formed.keysValid entry earlier
      · rw [List.mem_singleton.mp new]
        exact ⟨valid.distinct, fun s inside => valid.declared s (only_own s inside)⟩

/-- The host never panics while loading, and what it has loaded is well formed. -/
theorem load_wellFormed (inits : List (Except PluginError RPluginManifest × Option String)) :
    ∃ host, load inits = some host ∧ host.WellFormed := by
  apply Fallible.foldlM_invariant
  · rintro host ⟨init, expected⟩ formed
    unfold registerWithConfigChecked
    cases accepted : hostInit init with
    | error e => exact ⟨host, rfl, formed⟩
    | ok converted =>
        obtain ⟨manifest, same, valid⟩ := hostInit_valid accepted
        subst same
        dsimp only
        split
        · exact ⟨host, rfl, formed⟩
        · exact ⟨_, rfl, formed.finishRegister valid⟩
  · refine ⟨List.nodup_nil, ?_, fun entry member => absurd member List.not_mem_nil⟩
    intro id idx d
    simp

end Load

end PluginHost

end LinSight
