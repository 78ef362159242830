import LinSight.Sensors.FsMounts

set_option autoImplicit false

/-! The keys of the mounts, and the mount that a sensor reads. -/

namespace LinSight.Fs

open Ieee (binary64)
open Words (stripPrefix rsplitOnce)

/-- The text that an accepted mount is named by, and the number of its line among them. -/
def baseKey (item : MtabEntry × Nat) : String := mountSafekey item.1.mountpoint

def lineNumber (item : MtabEntry × Nat) : Nat := item.2 + 1

/-- A path that makes a valid key by itself. -/
def Convertible (m : MtabEntry) : Bool := (keyError ("fs:" ++ mountSafekey m.mountpoint)).isNone

/-- The sensor reads the mount point: its value is the one of its metric there, and no other
file system matters. -/
def Reads (mounts : List (String × String)) (sensor : SensorId) (mountpoint : String) : Prop :=
  ∃ safe metric value, sensor.asStr = "fs." ++ safe ++ "." ++ metric ∧
    metricValue metric = some value ∧ ∀ stats : FsStats,
      sampleInner mounts (.ok stats) sensor =
        match stats.lookup mountpoint with
        | some stat => .ok (.scalar (binary64.round (value stat)))
        | none => .error (.unsupported ("fs " ++ safe ++ " not in snapshot"))

/-- Mounts, devices and sensors stand for each other. -/
structure OneToOne (tables : MountTables) (manifest : PluginManifest)
    (mounts : List (String × String)) : Prop where
  keys : (manifest.devices.map (·.key)).Nodup
  keysValid : ∀ device ∈ manifest.devices,
    HardwareDeviceKey.tryNew device.key.asStr = .ok device.key
  ids : (manifest.sensors.map (·.id)).Nodup
  idsValid : ∀ sensor ∈ manifest.sensors, SensorId.tryNew sensor.id.asStr = .ok sensor.id
  /-- A mount may be left out only where its path makes no key. -/
  kept : ∃ kept : List MtabEntry, manifest.devices.map (·.location) =
      kept.map (fun m => some m.mountpoint) ∧
    ((readMtab tables).filter Convertible).Sublist kept ∧ kept.Sublist (readMtab tables)
  owned : ∀ sensor ∈ manifest.sensors, ∃ device ∈ manifest.devices,
    sensor.deviceKey = some device.key
  shown : ∀ device ∈ manifest.devices, ∃ sensor ∈ manifest.sensors,
    sensor.deviceKey = some device.key
  reads : ∀ sensor ∈ manifest.sensors, ∀ device ∈ manifest.devices,
    sensor.deviceKey = some device.key → ∀ mountpoint, device.location = some mountpoint →
      Reads mounts sensor.id mountpoint

/-- Every path makes a valid key, with its number where an earlier one made the same, and no key
with a number is the one of another path. -/
structure Flattens (items : List (MtabEntry × Nat)) : Prop where
  bare : ∀ item, Suffixes.First baseKey items item → keyError ("fs:" ++ baseKey item) = none
  numbered : ∀ item, Suffixes.Repeats baseKey items item →
    keyError ("fs:" ++ Suffixes.suffixed (baseKey item) (lineNumber item)) = none
  apart : Suffixes.Apart baseKey lineNumber items fun _ => True

/-- A mount that got its key. -/
structure Keyed where
  item : MtabEntry × Nat
  safe : String
  key : HardwareDeviceKey
  made : key.asStr = "fs:" ++ safe

section Loop

variable (host : Host)

def Keyed.sensors (k : Keyed) : List SensorDescriptor :=
  fsSensors k.safe k.key
    ((resolveParentDevice host.sysBlock k.item.1.source).map fun p => "parent:" ++ p).toList
    (host.reportsInodes k.item.1.mountpoint)

def Built.add (b : Built) (ks : List Keyed) (taken : List String) : Built where
  taken := taken
  mounts := b.mounts ++ ks.map fun k => (k.item.1.mountpoint, k.safe)
  sensors := b.sensors ++ ks.flatMap (Keyed.sensors host)
  devices := b.devices ++ ks.map fun k => fsDevice k.item.1 k.safe k.key

variable {host} {items : List (MtabEntry × Nat)} {b b' : Built}

/-- The loop ends with a key for each mount. -/
theorem initMounts_ok (done : initMounts host items b = .ok b') :
    ∃ ks : List Keyed, ks.map (fun k => (k.item, k.safe)) =
      Suffixes.named baseKey lineNumber b.taken items ∧ b' = b.add host ks b'.taken := by
  induction items generalizing b with
  | nil =>
      cases done
      refine ⟨[], rfl, ?_⟩
      simp only [Built.add, List.map_nil, List.flatMap_nil, List.append_nil]
  | cons item rest ih =>
      unfold initMounts at done
      cases first : initMount host b item.2 item.1 with
      | error e =>
          rw [first] at done
          cases done
      | ok next =>
          rw [first] at done
          unfold initMount at first
          dsimp only at first
          cases parsed : HardwareDeviceKey.tryNew ("fs:" ++
              (Suffixes.claim b.taken (mountSafekey item.1.mountpoint) (item.2 + 1)).1) with
          | error e =>
              rw [parsed] at first
              cases first
          | ok key =>
              rw [parsed] at first
              cases first
              obtain ⟨ks, names, whole⟩ := ih done
              refine ⟨⟨item, _, key, HardwareDeviceKey.asStr_of_tryNew parsed⟩ :: ks, ?_, ?_⟩
              · rw [List.map_cons, names]
                rfl
              · rw [whole]
                simp only [Built.add, List.map_cons, List.flatMap_cons, List.append_assoc,
                  List.cons_append, List.nil_append, Keyed.sensors]

/-- The loop ends where every key is valid. -/
theorem initMounts_total
    (valid : ∀ p ∈ Suffixes.named baseKey lineNumber b.taken items,
      keyError ("fs:" ++ p.2) = none) :
    ∃ b', initMounts host items b = .ok b' := by
  induction items generalizing b with
  | nil => exact ⟨b, rfl⟩
  | cons item rest ih =>
      rw [Suffixes.named, List.forall_mem_cons] at valid
      have parsed := HardwareDeviceKey.tryNew_asStr ⟨_, valid.1⟩
      obtain ⟨b', done⟩ := @ih ⟨_, _, _, _⟩ valid.2
      refine ⟨b', ?_⟩
      unfold initMounts initMount
      dsimp only at parsed ⊢
      rw [show mountSafekey item.1.mountpoint = baseKey item from rfl,
        show item.2 + 1 = lineNumber item from rfl, parsed]
      exact done

end Loop

section Sensors

/-- The names of the metrics. -/
def metrics : List String :=
  ["total_bytes", "used_bytes", "avail_bytes", "inodes_total", "inodes_used"]

theorem metrics_plain : ∀ metric ∈ metrics, '.' ∉ metric.toList ∧
    metric.toList.any isWhitespace = false ∧ ∃ value, metricValue metric = some value := by
  intro metric member
  simp only [metrics, List.mem_cons, List.not_mem_nil, or_false] at member
  rcases member with rfl | rfl | rfl | rfl | rfl <;>
    exact ⟨by decide +kernel, by decide +kernel, _, rfl⟩

theorem sensorId_inj {safe safe' metric metric' : String} (known : metric ∈ metrics)
    (known' : metric' ∈ metrics)
    (same : "fs." ++ safe ++ "." ++ metric = "fs." ++ safe' ++ "." ++ metric') :
    safe = safe' ∧ metric = metric' := by
  have chars := congrArg String.toList same
  simp only [String.toList_append, List.append_assoc] at chars
  have rest := List.append_cancel_left chars
  have cut := Words.cut_last_inj (metrics_plain metric known).1
    (metrics_plain metric' known').1 rest
  exact ⟨String.toList_injective cut.1, String.toList_injective cut.2⟩

variable {host : Host} {k : Keyed} {ks : List Keyed}

/-- The ids of the sensors of one mount. -/
theorem mem_sensors {sensor : SensorDescriptor} (member : sensor ∈ k.sensors host) :
    sensor.deviceKey = some k.key ∧ ∃ metric ∈ metrics,
      sensor.id = ⟨"fs." ++ k.safe ++ "." ++ metric⟩ := by
  unfold Keyed.sensors fsSensors at member
  rcases List.mem_append.mp member with sizes | inodes
  · simp only [List.mem_cons, List.not_mem_nil, or_false] at sizes
    rcases sizes with rfl | rfl | rfl <;> exact ⟨rfl, _, by decide, rfl⟩
  · split at inodes
    · simp only [List.mem_cons, List.not_mem_nil, or_false] at inodes
      rcases inodes with rfl | rfl <;> exact ⟨rfl, _, by decide, rfl⟩
    · cases inodes

theorem sensors_nodup : ((k.sensors host).map (·.id)).Nodup := by
  have ids : ∃ some_metrics : List String, some_metrics.Sublist metrics ∧
      (k.sensors host).map (·.id) =
        some_metrics.map fun metric => ⟨"fs." ++ k.safe ++ "." ++ metric⟩ := by
    unfold Keyed.sensors fsSensors
    split
    · exact ⟨metrics, List.Sublist.refl _, rfl⟩
    · exact ⟨["total_bytes", "used_bytes", "avail_bytes"], by decide, rfl⟩
  obtain ⟨some_metrics, sublist, same⟩ := ids
  have distinct : metrics.Nodup := by decide
  rw [same]
  refine (distinct.sublist sublist).map_on fun metric inside metric' inside' equal => ?_
  exact (sensorId_inj (sublist.subset inside) (sublist.subset inside')
    (congrArg SensorId.asStr equal)).2

theorem safe_inj {k k' : Keyed} : k.key = k'.key ↔ k.safe = k'.safe := by
  constructor
  · intro same
    have texts := congrArg HardwareDeviceKey.asStr same
    rw [k.made, k'.made] at texts
    exact String.toList_injective (List.append_cancel_left
      (by simpa only [String.toList_append] using congrArg String.toList texts))
  · intro same
    apply HardwareDeviceKey.asStr_injective
    rw [k.made, k'.made, same]

/-- Every character of a key's text may stand in a sensor id. -/
theorem safe_plain (k : Keyed) : ∀ c ∈ k.safe.toList, isWhitespace c = false := by
  have payload : k.key.payload = k.safe := by
    have text : ("fs:" ++ k.safe).toList = 'f' :: 's' :: ':' :: k.safe.toList := by
      rw [String.toList_append]
      rfl
    have parts : splitOnce ':' k.key.asStr = some ("fs", k.safe) := by
      rw [k.made]
      unfold splitOnce
      rw [text]
      simp
    rw [HardwareDeviceKey.payload, parts]
    rfl
  intro c member
  exact isWhitespace_of_isKeyChar (k.key.payload_chars c (payload.symm ▸ member))

theorem sensorId_valid (k : Keyed) {metric : String} (known : metric ∈ metrics) :
    SensorId.tryNew ("fs." ++ k.safe ++ "." ++ metric) =
      .ok ⟨"fs." ++ k.safe ++ "." ++ metric⟩ := by
  have text : ("fs." ++ k.safe ++ "." ++ metric).toList =
      'f' :: 's' :: '.' :: (k.safe.toList ++ '.' :: metric.toList) := by
    simp only [String.toList_append, List.append_assoc]
    rfl
  have safe : k.safe.toList.any isWhitespace = false := by
    rw [List.any_eq_false]
    exact fun c member => by simp [safe_plain k c member]
  rw [SensorId.tryNew_iff, text]
  refine ⟨List.cons_ne_nil _ _, ?_⟩
  simp only [List.any_cons, List.any_append, safe, (metrics_plain metric known).2.1]
  decide

theorem sampleInner_eq {mounts : List (String × String)} {safe metric : String}
    {mount : String × String} {value : FsStat → Nat} (known : metric ∈ metrics)
    (found : mounts.find? (fun m => m.2 = safe) = some mount)
    (valued : metricValue metric = some value) (stats : FsStats) :
    sampleInner mounts (.ok stats) ⟨"fs." ++ safe ++ "." ++ metric⟩ =
      match stats.lookup mount.1 with
      | some stat => .ok (.scalar (binary64.round (value stat)))
      | none => .error (.unsupported ("fs " ++ safe ++ " not in snapshot")) := by
  have text : ("fs." ++ safe ++ "." ++ metric).toList =
      "fs.".toList ++ (safe.toList ++ '.' :: metric.toList) := by
    simp only [String.toList_append, List.append_assoc]
    rfl
  unfold sampleInner
  dsimp only
  rw [text, Words.stripPrefix_append, Option.bind_some,
    Words.rsplitOnce_append _ (metrics_plain metric known).1]
  dsimp only
  rw [String.ofList_toList, String.ofList_toList, found, valued]
  dsimp only
  cases stats.lookup mount.1 <;> rfl

end Sensors

section Mounts

variable {host : Host} {tables : MountTables} {ks : List Keyed} {manifest : PluginManifest}
  {mounts : List (String × String)}

theorem initInner_ok (done : initInner host tables = .ok (manifest, mounts)) :
    ∃ ks : List Keyed, ks.map (fun k => (k.item, k.safe)) =
      Suffixes.named baseKey lineNumber [] (readMtab tables).zipIdx ∧
      manifest.devices = ks.map (fun k => fsDevice k.item.1 k.safe k.key) ∧
      manifest.sensors = ks.flatMap (Keyed.sensors host) ∧
      mounts = ks.map fun k => (k.item.1.mountpoint, k.safe) := by
  unfold initInner at done
  cases loop : initMounts host (readMtab tables).zipIdx ⟨[], [], [], []⟩ with
  | error e =>
      rw [loop] at done
      cases done
  | ok b =>
      rw [loop] at done
      cases done
      obtain ⟨ks, names, whole⟩ := initMounts_ok loop
      refine ⟨ks, names, ?_, ?_, ?_⟩ <;> rw [whole] <;> rfl

/-- The keys are pairwise different where the names are. -/
theorem keys_nodup_iff (names : ks.map (fun k => (k.item, k.safe)) =
      Suffixes.named baseKey lineNumber [] (readMtab tables).zipIdx) :
    (ks.map Keyed.key).Nodup ↔
      Suffixes.Apart baseKey lineNumber (readMtab tables).zipIdx fun _ => True := by
  have numbers : ((readMtab tables).zipIdx.map lineNumber).Nodup := by
    have indexes : ((readMtab tables).zipIdx.map Prod.snd).Nodup := by
      rw [List.zipIdx_map_snd]
      exact List.nodup_range'
    have later := indexes.map (f := (· + 1)) fun _ _ same => Nat.succ_injective same
    rwa [List.map_map] at later
  rw [← Suffixes.named_distinct_iff numbers, ← names, List.pairwise_map]
  unfold List.Nodup
  rw [List.pairwise_map]
  simp only [true_implies, ne_eq, safe_inj]

theorem oneToOne_of_apart (names : ks.map (fun k => (k.item, k.safe)) =
      Suffixes.named baseKey lineNumber [] (readMtab tables).zipIdx)
    (devices : manifest.devices = ks.map (fun k => fsDevice k.item.1 k.safe k.key))
    (sensors : manifest.sensors = ks.flatMap (Keyed.sensors host))
    (distinct : (ks.map Keyed.key).Nodup) :
    OneToOne tables manifest (ks.map fun k => (k.item.1.mountpoint, k.safe)) := by
  have apart : ∀ k ∈ ks, ∀ k' ∈ ks, k.key = k'.key → k = k' :=
    fun _ inside _ inside' same => List.inj_on_of_nodup_map distinct inside inside' same
  have of_sensor {sensor : SensorDescriptor} (member : sensor ∈ manifest.sensors) :
      ∃ k ∈ ks, sensor ∈ k.sensors host := by
    rw [sensors] at member
    exact List.mem_flatMap.mp member
  have of_device {device : HardwareDevice} (member : device ∈ manifest.devices) :
      ∃ k ∈ ks, fsDevice k.item.1 k.safe k.key = device := by
    rw [devices] at member
    exact List.mem_map.mp member
  constructor
  · rw [devices, List.map_map]
    exact distinct
  · intro device _
    exact HardwareDeviceKey.tryNew_asStr device.key
  · rw [sensors, List.map_flatMap, List.nodup_flatMap]
    refine ⟨fun k _ => sensors_nodup, ?_⟩
    refine (List.pairwise_map.mp distinct).imp ?_
    intro k k' different id inside inside'
    obtain ⟨sensor, member, rfl⟩ := List.mem_map.mp inside
    obtain ⟨sensor', member', same⟩ := List.mem_map.mp inside'
    obtain ⟨_, metric, known, id⟩ := mem_sensors member
    obtain ⟨_, metric', known', id'⟩ := mem_sensors member'
    rw [id, id', SensorId.mk.injEq] at same
    exact different (safe_inj.mpr (sensorId_inj known' known same).1.symm)
  · intro sensor member
    obtain ⟨k, _, inside⟩ := of_sensor member
    obtain ⟨_, metric, known, id⟩ := mem_sensors inside
    rw [id]
    exact sensorId_valid k known
  · refine ⟨readMtab tables, ?_, List.filter_sublist, List.Sublist.refl _⟩
    have items : ks.map (·.item.1) = readMtab tables := by
      calc ks.map (·.item.1) = ((ks.map fun k => (k.item, k.safe)).map Prod.fst).map Prod.fst := by
            simp only [List.map_map]
            rfl
        _ = readMtab tables := by rw [names, Suffixes.map_fst_named, List.zipIdx_map_fst]
    rw [devices, ← items, List.map_map, List.map_map]
    rfl
  · intro sensor member
    obtain ⟨k, inside, here⟩ := of_sensor member
    refine ⟨fsDevice k.item.1 k.safe k.key, ?_, (mem_sensors here).1⟩
    rw [devices]
    exact List.mem_map_of_mem inside
  · intro device member
    obtain ⟨k, inside, rfl⟩ := of_device member
    have first : ∃ sensor ∈ k.sensors host, sensor.deviceKey = some k.key :=
      ⟨_, List.mem_append_left _ List.mem_cons_self, rfl⟩
    obtain ⟨sensor, there, owner⟩ := first
    refine ⟨sensor, ?_, owner⟩
    rw [sensors]
    exact List.mem_flatMap.mpr ⟨k, inside, there⟩
  · intro sensor member device member' same mountpoint location
    obtain ⟨k, inside, here⟩ := of_sensor member
    obtain ⟨k', inside', rfl⟩ := of_device member'
    obtain ⟨owner, metric, known, id⟩ := mem_sensors here
    have keys : k.key = k'.key := Option.some.inj (owner.symm.trans same)
    obtain rfl := apart k inside k' inside' keys
    cases location
    obtain ⟨value, valued⟩ := (metrics_plain metric known).2.2
    refine ⟨k.safe, metric, value, by rw [id], valued, fun stats => ?_⟩
    rw [id]
    have found : (ks.map fun k => (k.item.1.mountpoint, k.safe)).find? (fun m => m.2 = k.safe) =
        some (k.item.1.mountpoint, k.safe) := by
      have safes : ((ks.map fun k => (k.item.1.mountpoint, k.safe)).map Prod.snd).Nodup := by
        rw [List.map_map]
        exact List.pairwise_map.mpr ((List.pairwise_map.mp distinct).imp fun different equal =>
          different (safe_inj.mpr equal))
      exact Suffixes.find_name safes (List.mem_map_of_mem inside)
    exact sampleInner_eq known found valued stats

end Mounts

/-- Exactly when `init` ends with mounts, devices and sensors that stand for each other. -/
theorem mounts_one_to_one_iff (host : Host) (tables : MountTables) :
    (∃ manifest mounts, initInner host tables = .ok (manifest, mounts) ∧
      OneToOne tables manifest mounts) ↔ Flattens (readMtab tables).zipIdx := by
  constructor
  · rintro ⟨manifest, mounts, done, whole⟩
    obtain ⟨ks, names, devices, _, _⟩ := initInner_ok done
    have valid {item : MtabEntry × Nat} {name : String}
        (member : (item, name) ∈ Suffixes.named baseKey lineNumber [] (readMtab tables).zipIdx) :
        keyError ("fs:" ++ name) = none := by
      rw [← names] at member
      obtain ⟨k, _, same⟩ := List.mem_map.mp member
      cases same
      exact k.made ▸ k.key.valid
    have distinct := whole.keys
    rw [devices, List.map_map] at distinct
    exact ⟨fun item first => valid (Suffixes.mem_named_iff.mpr (.inr ⟨first, rfl⟩)),
      fun item repeats => valid (Suffixes.mem_named_iff.mpr (.inl ⟨repeats, rfl⟩)),
      (keys_nodup_iff names).mp distinct⟩
  · intro flattens
    obtain ⟨b, done⟩ := @initMounts_total host (readMtab tables).zipIdx ⟨[], [], [], []⟩ (by
      rintro ⟨item, name⟩ member
      rcases Suffixes.mem_named_iff.mp member with ⟨repeats, rfl⟩ | ⟨first, rfl⟩
      · exact flattens.numbered item repeats
      · exact flattens.bare item first)
    have all : initInner host tables =
        .ok (⟨"com.visorcraft.linsight.fs", "Filesystem", "1.20.5", b.sensors, b.devices⟩,
          b.mounts) := by
      rw [initInner, done]
      rfl
    obtain ⟨ks, names, devices, sensors, mounts⟩ := initInner_ok all
    refine ⟨_, _, all, ?_⟩
    rw [mounts]
    exact oneToOne_of_apart names devices sensors ((keys_nodup_iff names).mpr flattens.apart)

/-- A host on which nothing but the mount table matters. -/
def bareHost : Host := ⟨⟨fun _ => false, fun _ => false, none⟩, fun path => .error (.io path)⟩

/-- The root, and a mount whose path has a space, as the kernel writes it. -/
def spaced : MountTables :=
  ⟨some (some "/dev/sda1 / ext4 rw 0 0\n/dev/sdb1 /mnt/my\\040disk ext4 rw 0 0\n"), none⟩

/-- The third mount gets the key of the first one. -/
def collided : MountTables :=
  ⟨some (some "/dev/sda1 /root_3 ext4 rw\n/dev/sda2 / ext4 rw\n/dev/sda3 /root ext4 rw\n"), none⟩

theorem mounts_not_one_to_one :
    (¬ ∃ manifest mounts, initInner bareHost spaced = .ok (manifest, mounts) ∧
      OneToOne spaced manifest mounts) ∧
    ¬ ∃ manifest mounts, initInner bareHost collided = .ok (manifest, mounts) ∧
      OneToOne collided manifest mounts := by
  constructor
  · rintro ⟨manifest, mounts, done, _⟩
    obtain ⟨ks, names, _⟩ := initInner_ok done
    have second : ("mnt_my\\040disk") ∈ ks.map (·.safe) := by
      have all := congrArg (List.map Prod.snd) names
      rw [List.map_map] at all
      have texts : (Suffixes.named baseKey lineNumber [] (readMtab spaced).zipIdx).map Prod.snd =
          ["root", "mnt_my\\040disk"] := by decide +kernel
      have same : ks.map (·.safe) = ["root", "mnt_my\\040disk"] := all.trans texts
      rw [same]
      decide
    obtain ⟨k, _, safe⟩ := List.mem_map.mp second
    have valid := k.key.valid
    rw [k.made, safe] at valid
    exact absurd valid (by decide +kernel)
  · rintro ⟨manifest, mounts, done, whole⟩
    obtain ⟨ks, names, devices, _, _⟩ := initInner_ok done
    have all := congrArg (List.map Prod.snd) names
    rw [List.map_map] at all
    have texts : (Suffixes.named baseKey lineNumber [] (readMtab collided).zipIdx).map Prod.snd =
        ["root_3", "root", "root_3"] := by decide +kernel
    have same : ks.map (·.safe) = ["root_3", "root", "root_3"] := all.trans texts
    have distinct := whole.keys
    rw [devices, List.map_map] at distinct
    have safes : (ks.map (·.safe)).Nodup :=
      List.pairwise_map.mpr ((List.pairwise_map.mp distinct).imp fun different equal =>
        different (safe_inj.mpr equal))
    rw [same] at safes
    exact absurd safes (by decide)

end LinSight.Fs
