import LinSight.Daemon.SetNickname
import LinSight.Hardware.Labels
import LinSight.Plugin.Host

set_option autoImplicit false

/-! The hardware inventory of the registry against the sensor catalogue. -/

namespace LinSight

namespace HardwareRegistry

/-- A device of these plugins has the key. -/
def Declared (manifests : List PluginDevices) (key : HardwareDeviceKey) : Prop :=
  ∃ manifest ∈ manifests, key ∈ manifest.2.1.map (·.key)

/-- The inventory lists the sensor under the device of the key. -/
def ListedIn (devices : KeyMap HardwareDeviceKey HardwareDevice) (key : HardwareDeviceKey)
    (id : SensorId) : Prop :=
  ∃ dev, devices.lookup key = some dev ∧ id ∈ dev.sensorIds

def Lists (registry : HardwareRegistry) (key : HardwareDeviceKey) (id : SensorId) : Prop :=
  ListedIn registry.devices key id

/-- The table by plugin and device id has an entry. -/
def Bound (byPlugin : KeyMap String (KeyMap String HardwareDeviceKey))
    (pluginId deviceId : String) : Prop :=
  ∃ ids key, byPlugin.lookup pluginId = some ids ∧ ids.lookup deviceId = some key

section Build

variable {devices : KeyMap HardwareDeviceKey HardwareDevice} {indices : Indices}

theorem registerDevice_of_known {pluginId : String} {dev : HardwareDevice}
    (known : (indices.1.lookup dev.key).isSome) : registerDevice pluginId indices dev = indices := by
  unfold registerDevice
  exact if_pos known

/-- What one new device adds to both maps. -/
theorem registerDevice_of_fresh {pluginId : String} {dev : HardwareDevice}
    (fresh : indices.1.lookup dev.key = none) :
    (∀ key, ((registerDevice pluginId indices dev).1.lookup key).isSome ↔
      (indices.1.lookup key).isSome ∨ key = dev.key) ∧
    (∀ key id, ListedIn (registerDevice pluginId indices dev).1 key id ↔
      ListedIn indices.1 key id) ∧
    ∀ other deviceId, Bound (registerDevice pluginId indices dev).2 other deviceId ↔
      Bound indices.2 other deviceId ∨ other = pluginId ∧ deviceId = dev.pluginDeviceId := by
  obtain ⟨devices, byPlugin⟩ := indices
  have taken : registerDevice pluginId (devices, byPlugin) dev =
      (devices.insert dev.key { dev with pluginId := pluginId, sensorIds := [] },
        byPlugin.insert pluginId (((byPlugin.lookup pluginId).getD ∅).insert
          dev.pluginDeviceId dev.key)) := by
    simp [registerDevice, fresh]
  rw [taken]
  refine ⟨fun key => ?_, fun key id => ?_, fun other deviceId => ?_⟩
  · rw [KeyMap.lookup_insert_eq]
    by_cases same : key = dev.key <;> simp [same]
  · unfold ListedIn
    rw [KeyMap.lookup_insert_eq]
    by_cases same : key = dev.key
    · subst same
      simp [fresh]
    · rw [if_neg same]
  · unfold Bound
    rw [KeyMap.lookup_insert_eq]
    by_cases same : other = pluginId
    · subst same
      simp only [if_true, Option.some.injEq, exists_eq_left', true_and, exists_and_left,
        KeyMap.lookup_insert_eq]
      cases byPlugin.lookup other with
      | none => by_cases named : deviceId = dev.pluginDeviceId <;> simp [named]
      | some ids => by_cases named : deviceId = dev.pluginDeviceId <;> simp [named]
    · simp [same]

/-- What the devices of one plugin add. -/
theorem foldl_registerDevice (pluginId : String) (devs : List HardwareDevice)
    (distinct : (devs.map (·.key)).Nodup) (indices : Indices) :
    (∀ key, ((devs.foldl (registerDevice pluginId) indices).1.lookup key).isSome ↔
      (indices.1.lookup key).isSome ∨ key ∈ devs.map (·.key)) ∧
    (∀ key id, ListedIn (devs.foldl (registerDevice pluginId) indices).1 key id ↔
      ListedIn indices.1 key id) ∧
    ∀ other deviceId, Bound (devs.foldl (registerDevice pluginId) indices).2 other deviceId ↔
      Bound indices.2 other deviceId ∨ other = pluginId ∧
        ∃ dev ∈ devs, deviceId = dev.pluginDeviceId ∧ indices.1.lookup dev.key = none := by
  induction devs generalizing indices with
  | nil => simp
  | cons dev rest ih =>
      obtain ⟨apart, distinct⟩ := List.nodup_cons.mp distinct
      rw [List.foldl_cons]
      obtain ⟨keys, listed, bound⟩ := ih distinct (registerDevice pluginId indices dev)
      by_cases known : (indices.1.lookup dev.key).isSome
      · rw [registerDevice_of_known known] at keys listed bound ⊢
        refine ⟨fun key => ?_, listed, fun other deviceId => ?_⟩
        · rw [keys key, List.map_cons, List.mem_cons]
          constructor
          · rintro (held | later)
            · exact .inl held
            · exact .inr (.inr later)
          · rintro (held | rfl | later)
            · exact .inl held
            · exact .inl known
            · exact .inr later
        · rw [bound other deviceId]
          have stored : indices.1.lookup dev.key ≠ none := Option.isSome_iff_ne_none.mp known
          simp [stored]
      · have fresh := Option.not_isSome_iff_eq_none.mp known
        obtain ⟨keys_one, listed_one, bound_one⟩ :=
          @registerDevice_of_fresh indices pluginId dev fresh
        refine ⟨fun key => ?_, fun key id => ?_, fun other deviceId => ?_⟩
        · rw [keys key, keys_one key, List.map_cons, List.mem_cons, or_assoc]
        · rw [listed key id, listed_one key id]
        · have same_fresh : ∀ later ∈ rest,
              (registerDevice pluginId indices dev).1.lookup later.key = none ↔
                indices.1.lookup later.key = none := by
            intro later member
            have differs : later.key ≠ dev.key :=
              fun same => apart (List.mem_map.mpr ⟨later, member, same⟩)
            rw [← Option.not_isSome_iff_eq_none, ← Option.not_isSome_iff_eq_none, keys_one]
            simp [differs]
          rw [bound other deviceId, bound_one other deviceId]
          constructor
          · rintro ((held | ⟨same, named⟩) | ⟨same, later, member, named, new⟩)
            · exact .inl held
            · exact .inr ⟨same, dev, List.mem_cons_self, named, fresh⟩
            · exact .inr ⟨same, later, List.mem_cons_of_mem _ member, named,
                (same_fresh later member).mp new⟩
          · rintro (held | ⟨same, later, member, named, new⟩)
            · exact .inl (.inl held)
            · rcases List.mem_cons.mp member with rfl | member
              · exact .inl (.inr ⟨same, named⟩)
              · exact .inr ⟨same, later, member, named, (same_fresh later member).mpr new⟩

/-- What one sensor of a plugin adds. -/
theorem linkSensor_spec (devices : KeyMap HardwareDeviceKey HardwareDevice)
    (sensor : SensorDescriptor) :
    (∀ key, ((linkSensor devices sensor).lookup key).isSome ↔ (devices.lookup key).isSome) ∧
    ∀ key id, ListedIn (linkSensor devices sensor) key id ↔
      ListedIn devices key id ∨
        (devices.lookup key).isSome ∧ sensor.deviceKey = some key ∧ sensor.id = id := by
  cases bound : sensor.deviceKey with
  | none =>
      have skipped : linkSensor devices sensor = devices := by simp only [linkSensor, bound]
      simp [skipped]
  | some own =>
      cases found : devices.lookup own with
      | none =>
          have skipped : linkSensor devices sensor = devices := by
            simp only [linkSensor, bound, found]
          rw [skipped]
          refine ⟨fun key => Iff.rfl, fun key id => ⟨.inl, ?_⟩⟩
          rintro (held | ⟨known, same, _⟩)
          · exact held
          · cases same
            rw [found] at known
            cases known
      | some dev =>
          have taken : linkSensor devices sensor =
              devices.insert own { dev with sensorIds := dev.sensorIds ++ [sensor.id] } := by
            simp only [linkSensor, bound, found]
          rw [taken]
          refine ⟨fun key => ?_, fun key id => ?_⟩
          · rw [KeyMap.lookup_insert_eq]
            by_cases same : key = own
            · subst same
              simp [found]
            · rw [if_neg same]
          · unfold ListedIn
            rw [KeyMap.lookup_insert_eq]
            by_cases same : key = own
            · subst same
              simp [found, eq_comm]
            · simp [same, Ne.symm same]

theorem foldl_linkSensor (sensors : List SensorDescriptor)
    (devices : KeyMap HardwareDeviceKey HardwareDevice) :
    (∀ key, ((sensors.foldl linkSensor devices).lookup key).isSome ↔
      (devices.lookup key).isSome) ∧
    ∀ key id, ListedIn (sensors.foldl linkSensor devices) key id ↔
      ListedIn devices key id ∨
        (devices.lookup key).isSome ∧ ∃ s ∈ sensors, s.deviceKey = some key ∧ s.id = id := by
  induction sensors generalizing devices with
  | nil => simp
  | cons sensor rest ih =>
      obtain ⟨keys, listed⟩ := ih (linkSensor devices sensor)
      obtain ⟨keys_one, listed_one⟩ := linkSensor_spec devices sensor
      rw [List.foldl_cons]
      refine ⟨fun key => (keys key).trans (keys_one key), fun key id => ?_⟩
      simp only [listed key id, listed_one key id, keys_one key, List.mem_cons, exists_eq_or_imp,
        or_assoc, and_or_left]

/-- What one plugin adds to both maps. -/
theorem registerPlugin_spec (indices : Indices) (manifest : PluginDevices)
    (valid : KeysValid manifest.2.1 manifest.2.2) :
    (∀ key, ((registerPlugin indices manifest).1.lookup key).isSome ↔
      (indices.1.lookup key).isSome ∨ key ∈ manifest.2.1.map (·.key)) ∧
    (∀ key id, ListedIn (registerPlugin indices manifest).1 key id ↔
      ListedIn indices.1 key id ∨ ∃ s ∈ manifest.2.2, s.deviceKey = some key ∧ s.id = id) ∧
    ∀ other deviceId, Bound (registerPlugin indices manifest).2 other deviceId ↔
      Bound indices.2 other deviceId ∨ manifest.1 = other ∧
        ∃ dev ∈ manifest.2.1, dev.pluginDeviceId = deviceId ∧
          indices.1.lookup dev.key = none := by
  obtain ⟨pluginId, devs, sensors⟩ := manifest
  obtain ⟨keys, listed, bound⟩ := foldl_registerDevice pluginId devs valid.distinct indices
  obtain ⟨keys_linked, listed_linked⟩ :=
    foldl_linkSensor sensors (devs.foldl (registerDevice pluginId) indices).1
  refine ⟨fun key => (keys_linked key).trans (keys key), fun key id => ?_,
    fun other deviceId => ?_⟩
  · refine (listed_linked key id).trans ?_
    rw [listed key id]
    constructor
    · rintro (held | ⟨_, linked⟩)
      · exact .inl held
      · exact .inr linked
    · rintro (held | ⟨s, member, own, same⟩)
      · exact .inl held
      · have declared := valid.declared s member key own
        exact .inr ⟨(keys key).mpr (.inr declared), s, member, own, same⟩
  · refine (bound other deviceId).trans ?_
    simp only [eq_comm]

/-- What both maps hold in the end, in terms of the manifests. -/
theorem foldl_registerPlugin (manifests : List PluginDevices)
    (valid : ∀ manifest ∈ manifests, KeysValid manifest.2.1 manifest.2.2) :
    (∀ key, ((manifests.foldl registerPlugin (∅, ∅)).1.lookup key).isSome ↔
      Declared manifests key) ∧
    (∀ key id, ListedIn (manifests.foldl registerPlugin (∅, ∅)).1 key id ↔
      ∃ manifest ∈ manifests, ∃ s ∈ manifest.2.2, s.deviceKey = some key ∧ s.id = id) ∧
    ∀ pluginId deviceId, Bound (manifests.foldl registerPlugin (∅, ∅)).2 pluginId deviceId ↔
      ∃ front manifest, front ++ [manifest] <+: manifests ∧ manifest.1 = pluginId ∧
        ∃ dev ∈ manifest.2.1, dev.pluginDeviceId = deviceId ∧ ¬ Declared front dev.key := by
  induction manifests using List.reverseRecOn with
  | nil => simp [Declared, ListedIn, Bound]
  | append_singleton earlier manifest ih =>
      obtain ⟨keys, listed, bound⟩ :=
        ih fun other member => valid other (List.mem_append_left _ member)
      obtain ⟨keys_one, listed_one, bound_one⟩ := registerPlugin_spec
        (earlier.foldl registerPlugin (∅, ∅)) manifest (valid manifest (by simp))
      rw [List.foldl_append, List.foldl_cons, List.foldl_nil]
      refine ⟨fun key => ?_, fun key id => ?_, fun pluginId deviceId => ?_⟩
      · rw [keys_one key, keys key]
        simp [Declared, or_and_right, exists_or]
      · rw [listed_one key id, listed key id]
        simp [or_and_right, exists_or]
      · rw [bound_one pluginId deviceId, bound pluginId deviceId]
        have fresh : ∀ key, (earlier.foldl registerPlugin (∅, ∅)).1.lookup key = none ↔
            ¬ Declared earlier key := by
          intro key
          rw [← Option.not_isSome_iff_eq_none, keys key]
        simp only [fresh]
        constructor
        · rintro (⟨front, held, inside, rest⟩ | here)
          · exact ⟨front, held, inside.trans (List.prefix_append _ _), rest⟩
          · exact ⟨earlier, manifest, List.prefix_rfl, here⟩
        · rintro ⟨front, held, inside, rest⟩
          rcases List.prefix_concat_iff.mp inside with whole | shorter
          · obtain ⟨same_front, same⟩ := List.append_inj' whole rfl
            cases List.singleton_inj.mp same
            subst same_front
            exact .inr rest
          · exact .inl ⟨front, held, shorter, rest⟩

end Build

end HardwareRegistry

open HardwareRegistry

/-- What the inventory and the catalogue say about one another. -/
structure CatalogueAgrees (host : PluginHost) (registry : HardwareRegistry) : Prop where
  keys : ∀ d ∈ host.descriptors, ∀ key : HardwareDeviceKey,
    (buildSensorInfo host.pluginIdFor registry d).deviceKey = some key.asStr ↔
      registry.Lists key d.id
  labels : ∀ d ∈ host.descriptors, ∀ key : HardwareDeviceKey, registry.Lists key d.id →
    (buildSensorInfo host.pluginIdFor registry d).deviceLabel = some (registry.deviceLabelFor key)
  once : ∀ id first second, registry.Lists first id → registry.Lists second id → first = second
  known : ∀ id key, registry.Lists key id → ∃ d ∈ host.descriptors, d.id = id

/-- A sensor without a key names by its device id no device that its plugin is the
first to declare. -/
def PluginHost.BindsByKey (host : PluginHost) : Prop :=
  ∀ front manifest, front ++ [manifest] <+: host.devicesByPlugin →
    ∀ s ∈ manifest.2.2, s.deviceKey = none → ∀ dev ∈ manifest.2.1,
      s.deviceId = some dev.pluginDeviceId → Declared front dev.key

/-- What a registry built from the host keeps under every nickname. -/
structure Inventory (host : PluginHost) (registry : HardwareRegistry) : Prop where
  listed : ∀ key id, registry.Lists key id ↔
    ∃ d ∈ host.descriptors, d.deviceKey = some key ∧ d.id = id
  unique : ∀ d ∈ host.descriptors, ∀ other ∈ host.descriptors, d.id = other.id → d = other
  owned : ∀ manifest ∈ host.devicesByPlugin, ∀ s ∈ manifest.2.2, s ∈ host.descriptors
  bound : ∀ d ∈ host.descriptors, ∀ deviceId,
    (registry.keyFor ((host.pluginIdFor d.id).getD "unknown") deviceId).isSome ↔
      ∃ front manifest, front ++ [manifest] <+: host.devicesByPlugin ∧ d ∈ manifest.2.2 ∧
        ∃ dev ∈ manifest.2.1, dev.pluginDeviceId = deviceId ∧ ¬ Declared front dev.key

section Agreement

variable {host : PluginHost} {registry : HardwareRegistry}

theorem PluginHost.WellFormed.mem_descriptors (formed : host.WellFormed) {d : SensorDescriptor} :
    d ∈ host.descriptors ↔ ∃ idx, ∃ entry, host.plugins[idx]? = some entry ∧ d ∈ entry.sensors ∧
      host.registry.lookup d.id = some (idx, d) := by
  unfold PluginHost.descriptors
  rw [List.mem_map]
  constructor
  · rintro ⟨⟨id, idx, held⟩, member, rfl⟩
    have found := (KeyMap.mem_entries_iff _ _ _).mp member
    obtain ⟨own, stored, inside, same⟩ := (formed.owned id idx held).mp found
    rw [List.getElem?_map, Option.map_eq_some_iff] at stored
    obtain ⟨entry, at_idx, same_own⟩ := stored
    subst same_own same
    exact ⟨idx, entry, at_idx, inside, found⟩
  · rintro ⟨idx, entry, _, _, found⟩
    exact ⟨⟨d.id, idx, d⟩, (KeyMap.mem_entries_iff _ _ _).mpr found, rfl⟩

/-- Every sensor of a plugin is found under its id. -/
theorem PluginHost.WellFormed.lookup_sensor (formed : host.WellFormed) {idx : Nat}
    {entry : PluginEntry} (at_idx : host.plugins[idx]? = some entry) {d : SensorDescriptor}
    (member : d ∈ entry.sensors) : host.registry.lookup d.id = some (idx, d) := by
  apply (formed.owned d.id idx d).mpr
  refine ⟨entry.sensors, ?_, member, rfl⟩
  rw [List.getElem?_map, at_idx]
  rfl

theorem keyFor_isSome (registry : HardwareRegistry) (pluginId deviceId : String) :
    (registry.keyFor pluginId deviceId).isSome ↔ Bound registry.byPlugin pluginId deviceId := by
  unfold HardwareRegistry.keyFor Bound
  rw [Option.isSome_iff_exists]
  simp only [Option.bind_eq_some_iff]
  constructor
  · rintro ⟨key, ids, plugin, device⟩
    exact ⟨ids, key, plugin, device⟩
  · rintro ⟨ids, key, plugin, device⟩
    exact ⟨key, ids, plugin, device⟩

theorem build_inventory (formed : host.WellFormed) (nicknames : KeyMap String String) :
    Inventory host (build host.devicesByPlugin nicknames) := by
  have from_entry : ∀ manifest ∈ host.devicesByPlugin, ∃ (idx : Nat) (entry : PluginEntry),
      host.plugins[idx]? = some entry ∧
        manifest = (entry.metadata.pluginId, entry.devices, entry.sensors) := by
    intro manifest member
    obtain ⟨entry, inside, same⟩ := List.mem_map.mp member
    obtain ⟨idx, at_idx⟩ := List.getElem?_of_mem inside
    exact ⟨idx, entry, at_idx, same.symm⟩
  have valid : ∀ manifest ∈ host.devicesByPlugin, KeysValid manifest.2.1 manifest.2.2 := by
    intro manifest member
    obtain ⟨idx, entry, at_idx, same⟩ := from_entry manifest member
    subst same
    exact formed.keysValid entry (List.mem_of_getElem? at_idx)
  have owned : ∀ manifest ∈ host.devicesByPlugin, ∀ s ∈ manifest.2.2, s ∈ host.descriptors := by
    intro manifest member s inside
    obtain ⟨idx, entry, at_idx, same⟩ := from_entry manifest member
    subst same
    exact formed.mem_descriptors.mpr
      ⟨idx, entry, at_idx, inside, formed.lookup_sensor at_idx inside⟩
  obtain ⟨_, listed, bound⟩ := foldl_registerPlugin host.devicesByPlugin valid
  constructor
  · intro key id
    refine (listed key id).trans ?_
    constructor
    · rintro ⟨manifest, member, s, inside, rest⟩
      exact ⟨s, owned manifest member s inside, rest⟩
    · rintro ⟨d, member, rest⟩
      obtain ⟨idx, entry, at_idx, inside, _⟩ := formed.mem_descriptors.mp member
      exact ⟨_, List.mem_map_of_mem (List.mem_of_getElem? at_idx), d, inside, rest⟩
  · intro d member other member' same
    obtain ⟨idx, entry, _, _, found⟩ := formed.mem_descriptors.mp member
    obtain ⟨idx', entry', _, _, found'⟩ := formed.mem_descriptors.mp member'
    rw [same, found'] at found
    cases found
    rfl
  · exact owned
  · intro d member deviceId
    obtain ⟨idx, entry, at_idx, inside, found⟩ := formed.mem_descriptors.mp member
    have owner : host.pluginIdFor d.id = some entry.metadata.pluginId := by
      simp [PluginHost.pluginIdFor, found, at_idx]
    rw [owner, Option.getD_some, keyFor_isSome]
    refine (bound entry.metadata.pluginId deviceId).trans ?_
    have same_plugin : ∀ front manifest, front ++ [manifest] <+: host.devicesByPlugin →
        (manifest.1 = entry.metadata.pluginId ↔ d ∈ manifest.2.2) := by
      intro front manifest before
      obtain ⟨idx', entry', at_idx', same⟩ :=
        from_entry manifest (before.subset (by simp))
      subst same
      constructor
      · intro ids
        have one := List.inj_on_of_nodup_map formed.idsDistinct
          (List.mem_of_getElem? at_idx') (List.mem_of_getElem? at_idx) ids
        exact one ▸ inside
      · intro inside'
        have again := formed.lookup_sensor at_idx' inside'
        rw [found] at again
        cases again
        rw [at_idx] at at_idx'
        cases at_idx'
        rfl
    constructor
    · rintro ⟨front, manifest, before, ids, rest⟩
      exact ⟨front, manifest, before, (same_plugin front manifest before).mp ids, rest⟩
    · rintro ⟨front, manifest, before, inside, rest⟩
      exact ⟨front, manifest, before, (same_plugin front manifest before).mpr inside, rest⟩

theorem Inventory.nicknameStep (inventory : Inventory host registry) {next : HardwareRegistry}
    {call : HardwareDeviceKey × Option String}
    (taken : registry.nicknameStep call = some next) : Inventory host next := by
  obtain ⟨devices, byPlugin⟩ := nicknameStep_devices taken
  constructor
  · intro key id
    rw [← inventory.listed key id]
    unfold HardwareRegistry.Lists
    rw [devices]
  · exact inventory.unique
  · exact inventory.owned
  · intro d member deviceId
    rw [← inventory.bound d member deviceId, keyFor_isSome, keyFor_isSome, byPlugin]

theorem buildSensorInfo_deviceKey {pluginIdFor : SensorId → Option String}
    {d : SensorDescriptor} {key : HardwareDeviceKey} :
    (buildSensorInfo pluginIdFor registry d).deviceKey = some key.asStr ↔
      d.deviceKey = some key ∨ d.deviceKey = none ∧ ∃ deviceId, d.deviceId = some deviceId ∧
        registry.keyFor ((pluginIdFor d.id).getD "unknown") deviceId = some key := by
  have named : ∀ found : Option HardwareDeviceKey,
      found.map (·.asStr) = some key.asStr ↔ found = some key := by
    intro found
    cases found with
    | none => simp
    | some other =>
        simp only [Option.map_some, Option.some.injEq]
        exact ⟨HardwareDeviceKey.asStr_injective, fun same => same ▸ rfl⟩
  unfold buildSensorInfo
  dsimp only
  rw [named, Option.or_eq_some_iff, Option.bind_eq_some_iff]

/-- The two ways to bind a sensor to a device agree where `BindsByKey` holds. -/
theorem Inventory.agrees_iff (inventory : Inventory host registry) :
    CatalogueAgrees host registry ↔ host.BindsByKey := by
  constructor
  · intro agrees front manifest before s inside keyless dev registered named
    have member := inventory.owned manifest (before.subset (by simp)) s inside
    by_contra fresh
    have some_key := (inventory.bound s member dev.pluginDeviceId).mpr
      ⟨front, manifest, before, inside, dev, registered, rfl, fresh⟩
    obtain ⟨key, found⟩ := Option.isSome_iff_exists.mp some_key
    have shown := buildSensorInfo_deviceKey.mpr (.inr ⟨keyless, _, named, found⟩)
    have listed := (agrees.keys s member key).mp shown
    obtain ⟨d, member', own, same⟩ := (inventory.listed key s.id).mp listed
    rw [inventory.unique d member' s member same, keyless] at own
    cases own
  · intro binds
    have keys : ∀ d ∈ host.descriptors, ∀ key : HardwareDeviceKey,
        (buildSensorInfo host.pluginIdFor registry d).deviceKey = some key.asStr ↔
          registry.Lists key d.id := by
      intro d member key
      rw [buildSensorInfo_deviceKey, inventory.listed key d.id]
      constructor
      · rintro (own | ⟨keyless, deviceId, named, found⟩)
        · exact ⟨d, member, own, rfl⟩
        · obtain ⟨front, manifest, before, inside, dev, registered, same, fresh⟩ :=
            (inventory.bound d member deviceId).mp (found ▸ rfl)
          subst same
          exact absurd (binds front manifest before d inside keyless dev registered named) fresh
      · rintro ⟨other, member', own, same⟩
        rw [inventory.unique other member' d member same] at own
        exact .inl own
    constructor
    · exact keys
    · intro d member key listed
      obtain ⟨other, member', own, same⟩ := (inventory.listed key d.id).mp listed
      rw [inventory.unique other member' d member same] at own
      unfold buildSensorInfo
      simp only [own, Option.some_or, Option.map_some]
    · intro id first second listed listed'
      obtain ⟨d, member, own, same⟩ := (inventory.listed first id).mp listed
      obtain ⟨other, member', own', same'⟩ := (inventory.listed second id).mp listed'
      rw [inventory.unique d member other member' (same.trans same'.symm), own'] at own
      exact (Option.some.inj own).symm
    · intro id key listed
      obtain ⟨d, member, _, same⟩ := (inventory.listed key id).mp listed
      exact ⟨d, member, same⟩

/-- For what the daemon has loaded, and after any calls of `set_nickname`. -/
theorem catalogue_agrees_iff (inits : List (Except PluginError RPluginManifest × Option String))
    (nicknames : KeyMap String String) (loaded : PluginHost.load inits = some host)
    (reached : Run.Reaches nicknameStep (build host.devicesByPlugin nicknames) registry) :
    CatalogueAgrees host registry ↔ host.BindsByKey := by
  obtain ⟨same, found, formed⟩ := PluginHost.load_wellFormed inits
  rw [loaded] at found
  cases found
  have inventory : Inventory host registry :=
    reached.invariant (fun _ _ _ taken inventory => inventory.nicknameStep taken)
      (build_inventory formed nicknames)
  exact inventory.agrees_iff

end Agreement

/-- The manifest of a graphics plugin with one sensor. -/
def gpuManifest (deviceId deviceKey : Option String) : RPluginManifest where
  pluginId := "xe"
  displayName := "Graphics"
  version := "1"
  sensors := [{
    id := ⟨"xe.gpu0.util"⟩
    displayName := "Utilization"
    unit := ⟨.percent, none⟩
    kind := .scalar
    category := .gpu
    nativeRateHz := .finite 1
    min := none
    max := none
    deviceId
    deviceKey
    tags := [] }]
  devices := [{
    key := "pci:0000:06:00.0"
    categoryKind := .gpu
    model := "Arc"
    vendor := none
    location := none
    pluginDeviceId := "gpu0" }]

def gpuKey : HardwareDeviceKey := ⟨"pci:0000:06:00.0", by decide +kernel⟩

def boundByKey : List (Except PluginError RPluginManifest × Option String) :=
  [(.ok (gpuManifest (some "gpu0") (some "pci:0000:06:00.0")), none)]

def boundByDeviceId : List (Except PluginError RPluginManifest × Option String) :=
  [(.ok (gpuManifest (some "gpu0") none), none)]

/-- A sensor with its key, after its device got a nickname. -/
theorem catalogue_agrees_named :
    ∃ host registry, PluginHost.load boundByKey = some host ∧
      Run.exec nicknameStep (build host.devicesByPlugin ∅) [(gpuKey, some "Battlemage")] =
        some registry ∧
      host.descriptors.map (fun d => (buildSensorInfo host.pluginIdFor registry d).deviceLabel) =
        [some "Battlemage"] ∧
      (CatalogueAgrees host registry ↔ host.BindsByKey) := by
  have loaded : (PluginHost.load boundByKey).isSome = true := by decide +kernel
  have ran : (Run.exec nicknameStep (build (Option.get _ loaded).devicesByPlugin ∅)
      [(gpuKey, some "Battlemage")]).isSome = true := by
    decide +kernel +revert
  have shown : (Option.get _ loaded).descriptors.map (fun d => (buildSensorInfo
      (Option.get _ loaded).pluginIdFor (Option.get _ ran) d).deviceLabel) =
        [some "Battlemage"] := by
    decide +kernel +revert
  exact ⟨_, _, (Option.some_get loaded).symm, (Option.some_get ran).symm, shown,
    catalogue_agrees_iff boundByKey ∅ (Option.some_get loaded).symm (Run.Reaches.of_isSome ran)⟩

/-- A sensor that names its device by the device id only. -/
theorem catalogue_disagrees :
    ∃ host, PluginHost.load boundByDeviceId = some host ∧
      (let registry := build host.devicesByPlugin ∅
      host.descriptors.map (fun d =>
          (buildSensorInfo host.pluginIdFor registry d).deviceKey) = [some gpuKey.asStr] ∧
        registry.allDevices.map (·.sensorIds) = [[]] ∧ ¬ CatalogueAgrees host registry) := by
  have loaded : (PluginHost.load boundByDeviceId).isSome = true := by decide +kernel
  have shown : (Option.get _ loaded).descriptors.map (fun d => (buildSensorInfo
      (Option.get _ loaded).pluginIdFor (build (Option.get _ loaded).devicesByPlugin ∅)
        d).deviceKey) = [some gpuKey.asStr] ∧
      (build (Option.get _ loaded).devicesByPlugin ∅).allDevices.map (·.sensorIds) = [[]] := by
    decide +kernel +revert
  refine ⟨_, (Option.some_get loaded).symm, shown.1, shown.2, ?_⟩
  intro agrees
  obtain ⟨d, member, key⟩ := List.mem_map.mp (shown.1 ▸ List.mem_singleton_self _)
  obtain ⟨dev, found, listed⟩ := (agrees.keys d member gpuKey).mp key
  have stored : dev.sensorIds ∈ [[]] := by
    rw [← shown.2]
    apply List.mem_map_of_mem
    exact List.mem_map.mpr ⟨⟨gpuKey, dev⟩, (KeyMap.mem_entries_iff _ _ _).mpr found, rfl⟩
  rw [List.mem_singleton.mp stored] at listed
  exact absurd listed List.not_mem_nil

end LinSight
