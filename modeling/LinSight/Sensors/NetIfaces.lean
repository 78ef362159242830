import LinSight.Library.Utf8
import LinSight.Plugin.MirrorReadings
import LinSight.Plugin.PciIds
import LinSight.Sensors.FsMounts
import LinSight.Sensors.Hwmon

set_option autoImplicit false

/-! The network plugin: what it makes of the entries of `/sys/class/net`, and what it samples. -/

namespace LinSight.NetIfaces

open DebugText (Message)
open Ieee (Value binary64)
open Words (stripPrefix rsplitOnce parseUnsigned)

/-- A directory that cannot be read. -/
structure IoError where
  notFound : Bool
  message : String

/-- The files of an entry by their paths from it; `none` is one that cannot be read. -/
abbrev Files := String → String → Option (List UInt8)

structure NetIfaceStats where
  rxBytes : Nat
  txBytes : Nat
  rxPackets : Nat
  txPackets : Nat
  rxErrors : Nat
  txErrors : Nat
  rxDropped : Nat
  txDropped : Nat
  operstate : String
  speed : Int
deriving DecidableEq

/-- The interfaces, and the last snapshot with the time it was taken at, in nanoseconds. -/
structure Inner where
  interfaces : List String
  cache : Option (Nat × KeyMap String NetIfaceStats)

def cacheTtl : Nat := 50000000

def matchesExclude (name : String) (patterns : List String) : Bool :=
  patterns.any fun p =>
    let trimmed := p.toList.rdropWhile (· = '*')
    !trimmed.isEmpty && trimmed.isPrefixOf name.toList

/-- The name of an entry that is listed. -/
def listedName (exclude : List String) (fileName : List UInt8) : Option String :=
  let name := String.ofList (Utf8.lossy fileName)
  if name = "lo" ∨ matchesExclude name exclude = true then none else some name

/-- An entry of the directory that cannot be read is `none`. -/
def enumerate (readDir : Except IoError (List (Option (List UInt8)))) (exclude : List String) :
    Except Message (List String) :=
  match readDir with
  | .error e => if e.notFound then .ok [] else .error e.message
  | .ok entries =>
      let names := entries.filterMap fun entry => entry.bind (listedName exclude)
      .ok (names.mergeSort fun a b => a ≤ b)

/-! The files of an interface. -/

/-- At most 64 bytes are read. -/
def readSmallFile (content : Option (List UInt8)) : Option (List Char) :=
  content.bind fun bytes => Utf8.decode (bytes.take 64)

def readU64 (content : Option (List UInt8)) : Option Nat :=
  (readSmallFile content).bind fun s => parseUnsigned u64Bound (Words.trim isWhitespace s)

def readI64 (content : Option (List UInt8)) : Option Int :=
  (readSmallFile content).bind fun s => (Hwmon.parseI64 (Words.trim isWhitespace s)).toOption

def readString (content : Option (List UInt8)) : Option String :=
  (readSmallFile content).map fun s => String.ofList (Words.trim isWhitespace s)

/-- The file is read whole, and `0x` is left out where it is in front. -/
def parseSysfsPciId (content : Option (List UInt8)) : Option Nat := do
  let raw ← content.bind Utf8.decode
  let trimmed := Words.trim isWhitespace raw
  PciIdDb.parseHex ((stripPrefix "0x".toList trimmed).getD trimmed)

def readIfacePciIds (files : Files) (ifname : String) : Option (Nat × Nat) := do
  let v ← parseSysfsPciId (files ifname "device/vendor")
  let d ← parseSysfsPciId (files ifname "device/device")
  return (v, d)

/-! The manifest. -/

def netDevice (db : PciIdDb) (files : Files) (iface : String) (key : HardwareDeviceKey) :
    HardwareDevice :=
  let (vendor, model) := match readIfacePciIds files iface with
    | some (v, d) => (db.vendors.lookup v, (db.devices.lookup (v, d)).getD iface)
    | none => (none, iface)
  { key
    category := .network
    model
    vendor
    location := none
    pluginId := ""
    pluginDeviceId := iface
    sensorIds := [] }

/-- What the sensors of an interface differ in. -/
structure Metric where
  metric : String
  displayName : String
  unit : LinSight.Unit
  kind : SensorKind
  rateHz : Value
  min : Option Value
  reading : NetIfaceStats → Reading

def counter (metric displayName : String) (unit : LinSight.Unit) (value : NetIfaceStats → Nat) :
    Metric :=
  ⟨metric, displayName, unit, .counter, .finite 2, some (.finite 0), fun s => .counter (value s)⟩

/-- The ten sensors of an interface. -/
def metrics : List Metric :=
  [counter "rx_bytes" "Network received bytes" .bytes (·.rxBytes),
    counter "tx_bytes" "Network transmitted bytes" .bytes (·.txBytes),
    counter "rx_packets" "Network received packets" .count (·.rxPackets),
    counter "tx_packets" "Network transmitted packets" .count (·.txPackets),
    counter "rx_errors" "Network receive errors" .count (·.rxErrors),
    counter "tx_errors" "Network transmit errors" .count (·.txErrors),
    counter "rx_dropped" "Network receive drops" .count (·.rxDropped),
    counter "tx_dropped" "Network transmit drops" .count (·.txDropped),
    ⟨"link_state", "Network link state", .custom "", .state, .finite (1 / 2), none,
      fun s => .state s.operstate⟩,
    ⟨"speed_mbps", "Network link speed", .custom "Mb/s", .scalar, Fs.slowRateHz, none,
      fun s => .scalar (binary64.round s.speed)⟩]

def sensorId (iface : String) (m : Metric) : SensorId := ⟨"net." ++ iface ++ "." ++ m.metric⟩

def Metric.sensor (m : Metric) (iface : String) (key : HardwareDeviceKey) : SensorDescriptor where
  id := sensorId iface m
  displayName := m.displayName
  unit := m.unit
  kind := m.kind
  category := .network
  nativeRateHz := m.rateHz
  min := m.min
  max := none
  deviceId := some iface
  deviceKey := some key
  tags := []

/-- The device and the sensors of one interface. -/
def initIface (db : PciIdDb) (files : Files) (iface : String) :
    Except PluginError (HardwareDevice × List SensorDescriptor) :=
  match HardwareDeviceKey.tryNew ("net:" ++ iface) with
  | .error e => .error (.io ("net " ++ iface ++ " bad key: " ++ e.toString))
  | .ok key => .ok (netDevice db files iface key, metrics.map fun m => m.sensor iface key)

/-- What the plugin finds on the host when it starts. -/
structure Host where
  readDir : Except IoError (List (Option (List UInt8)))
  files : Files
  db : PciIdDb

/-- The manifest of the plugin, and its state; a name that is no key ends it with an error. -/
def initInner (host : Host) (exclude : List String) :
    Except PluginError (Inner × PluginManifest) := do
  let interfaces ← (enumerate host.readDir exclude).mapError PluginError.io
  let built ← interfaces.mapM (initIface host.db host.files)
  return (⟨interfaces, none⟩, {
    pluginId := "com.visorcraft.linsight.net"
    displayName := "Network"
    version := "1.20.5"
    sensors := built.flatMap (·.2)
    devices := built.map (·.1) })

/-! Samples. -/

/-- The statistics of an interface whose counters can all be read. -/
def ifaceStats (files : Files) (iface : String) : Option NetIfaceStats := do
  let rxBytes ← readU64 (files iface "statistics/rx_bytes")
  let txBytes ← readU64 (files iface "statistics/tx_bytes")
  let rxPackets ← readU64 (files iface "statistics/rx_packets")
  let txPackets ← readU64 (files iface "statistics/tx_packets")
  let rxErrors ← readU64 (files iface "statistics/rx_errors")
  let txErrors ← readU64 (files iface "statistics/tx_errors")
  let rxDropped ← readU64 (files iface "statistics/rx_dropped")
  let txDropped ← readU64 (files iface "statistics/tx_dropped")
  let operstate := (readString (files iface "operstate")).getD "unknown"
  let speed := (readI64 (files iface "speed")).getD (-1)
  return ⟨rxBytes, txBytes, rxPackets, txPackets, rxErrors, txErrors, rxDropped, txDropped,
    operstate, speed⟩

def readStats (files : Files) (interfaces : List String) : KeyMap String NetIfaceStats :=
  interfaces.foldl (fun stats iface =>
    match ifaceStats files iface with
    | some s => stats.insert iface s
    | none => stats) ∅

/-- A call of `sample`: when it comes, and what the files hold then. -/
structure Call where
  now : Nat
  files : Files
  sensor : SensorId

/-- The stored snapshot where it is fresh, and else another one. -/
def snapshot (inner : Inner) (now : Nat) (files : Files) : KeyMap String NetIfaceStats × Inner :=
  let refreshed := readStats files inner.interfaces
  match inner.cache with
  | some (capturedAt, stats) =>
      if now - capturedAt ≤ cacheTtl then (stats, inner)
      else (refreshed, { inner with cache := some (now, refreshed) })
  | none => (refreshed, { inner with cache := some (now, refreshed) })

def sampleInner (inner : Inner) (call : Call) : Except PluginError Reading × Inner :=
  let id := call.sensor.asStr
  match (stripPrefix "net.".toList id.toList).bind (rsplitOnce '.') with
  | none => (.error (.unsupported id), inner)
  | some (ifaceChars, metric) =>
      let iface := String.ofList ifaceChars
      if iface ∉ inner.interfaces then (.error (.unsupported id), inner)
      else
        let (stats, inner) := snapshot inner call.now call.files
        match stats.lookup iface with
        | none => (.error (.unsupported ("net." ++ iface ++ " not in snapshot")), inner)
        | some s =>
            match metrics.find? (·.metric = String.ofList metric) with
            | some m => (.ok (m.reading s), inner)
            | none => (.error (.unsupported id), inner)

/-- The state after some calls. -/
def after (inner : Inner) (calls : List Call) : Inner :=
  calls.foldl (fun inner call => (sampleInner inner call).2) inner

/-- The name of an interface forms a device key. -/
def FormsKey (iface : String) : Prop := keyError ("net:" ++ iface) = none

/-- What the plugin is for: its manifest is accepted, every listed interface whose name forms a key
has that key and its ten sensors, and these give the interface's metrics. -/
structure Served (exclude : List String) (names : List (List UInt8)) (inner : Inner)
    (manifest : PluginManifest) : Prop where
  accepted : hostInit (.ok (.of manifest)) = .ok (some manifest)
  keysDistinct : (manifest.devices.map (·.key)).Nodup
  idsDistinct : (manifest.sensors.map (·.id)).Nodup
  idsValid : manifest.IdsValid
  own : ∀ name ∈ names, ∀ iface, listedName exclude name = some iface → FormsKey iface →
    ∃ device ∈ manifest.devices, device.key.asStr = "net:" ++ iface ∧
      device.pluginDeviceId = iface ∧
      manifest.sensors.filter (fun s => s.deviceKey = some device.key) =
        metrics.map fun m => m.sensor iface device.key
  /-- The value is of the files at a call of the last 50 ms. -/
  sampled : ∀ name ∈ names, ∀ iface, listedName exclude name = some iface → FormsKey iface →
    ∀ (front : List Call) (call : Call),
      (∀ c ∈ front ++ [call], (ifaceStats c.files iface).isSome = true) →
      ∀ m ∈ metrics, call.sensor = sensorId iface m →
        ∃ c ∈ front ++ [call], ∃ s, ifaceStats c.files iface = some s ∧
          call.now - c.now ≤ cacheTtl ∧
          (sampleInner (after inner front) call).1 = .ok (m.reading s)

/-- The plugin starts and serves the entries. -/
def Serves (host : Host) (exclude : List String) (names : List (List UInt8)) : Prop :=
  ∃ inner manifest, initInner host exclude = .ok (inner, manifest) ∧
    Served exclude names inner manifest

section Keys

variable {iface iface' : String}

theorem netKey_toList (iface : String) :
    ("net:" ++ iface).toList = 'n' :: 'e' :: 't' :: ':' :: iface.toList := by
  rw [String.toList_append]
  rfl

theorem payload_of_netKey {key : HardwareDeviceKey} (made : key.asStr = "net:" ++ iface) :
    key.payload = iface := by
  have cut : splitOnce ':' key.asStr = some ("net", iface) := by
    rw [made]
    unfold splitOnce
    rw [netKey_toList]
    simp
  rw [HardwareDeviceKey.payload, cut]
  rfl

/-- A name that forms a key has only the characters of keys. -/
theorem FormsKey.chars (forms : FormsKey iface) : ∀ c ∈ iface.toList, isKeyChar c = true := by
  have payload := @payload_of_netKey iface ⟨"net:" ++ iface, forms⟩ rfl
  intro c member
  exact HardwareDeviceKey.payload_chars ⟨"net:" ++ iface, forms⟩ c (payload.symm ▸ member)

theorem netKey_injective (same : "net:" ++ iface = "net:" ++ iface') : iface = iface' := by
  have chars := congrArg String.toList same
  rw [String.toList_append, String.toList_append] at chars
  exact String.toList_injective (List.append_cancel_left chars)

theorem initIface_ok (db : PciIdDb) (files : Files) (key : HardwareDeviceKey)
    (made : key.asStr = "net:" ++ iface) : initIface db files iface =
      .ok (netDevice db files iface key, metrics.map fun m => m.sensor iface key) := by
  rw [initIface, ← made, HardwareDeviceKey.tryNew_asStr]

/-- The device and the sensors of a name that forms a key, and an error for another one. -/
theorem initIface_cases (db : PciIdDb) (files : Files) (iface : String) :
    (∃ built, FormsKey iface ∧ initIface db files iface = .ok built) ∨
      ∃ message, ¬ FormsKey iface ∧ initIface db files iface = .error (.io message) := by
  unfold initIface
  cases parsed : HardwareDeviceKey.tryNew ("net:" ++ iface) with
  | error e =>
      refine .inr ⟨_, fun forms => ?_, rfl⟩
      rw [HardwareDeviceKey.tryNew_asStr ⟨"net:" ++ iface, forms⟩] at parsed
      cases parsed
  | ok key =>
      refine .inl ⟨_, ?_, rfl⟩
      rw [FormsKey, ← HardwareDeviceKey.asStr_of_tryNew parsed]
      exact key.valid

end Keys

section Names

/-- A character of a key is a byte of ASCII. -/
theorem not_foreign {part : Option Char} (plain : isKeyChar (part.getD '\uFFFD') = true) :
    ¬ Utf8.Foreign part := by
  intro foreign
  cases part with
  | none => exact absurd plain (by decide)
  | some c =>
      obtain ⟨n, large, rfl⟩ := foreign c rfl
      have range := isKeyChar_range plain
      rw [Option.getD_some, Char.toNat_ofNat] at range
      split at range
      · omega
      · omega

/-- Different entries do not get one name that forms a key. -/
theorem listedName_inj {exclude : List String} {first second : List UInt8} {iface : String}
    (forms : FormsKey iface) (named : listedName exclude first = some iface)
    (named' : listedName exclude second = some iface) : first = second := by
  have bytes {fileName : List UInt8} (named : listedName exclude fileName = some iface) :
      fileName = Utf8.ascii iface.toList := by
    have text : String.ofList (Utf8.lossy fileName) = iface := by
      unfold listedName at named
      dsimp only at named
      split at named
      · cases named
      · exact Option.some.inj named
    have chars : Utf8.lossy fileName = iface.toList := by
      rw [← text, String.toList_ofList]
    obtain ⟨plain, bytes_eq, _, parts_eq⟩ := @Utf8.ascii_of_parts fileName (by
      intro part member
      apply not_foreign
      apply forms.chars
      rw [← chars]
      exact List.mem_map_of_mem member)
    have same : Utf8.lossy fileName = plain := by
      rw [Utf8.lossy, parts_eq, List.map_map]
      exact List.map_id plain
    rw [bytes_eq, ← chars, same]
  rw [bytes named, bytes named']

/-- The listed entries, of which the interfaces are the sorted names. -/
theorem enumerate_entries {host : Host} {entries : List (Option (List UInt8))}
    (listing : host.readDir = .ok entries) (exclude : List String) :
    enumerate host.readDir exclude = .ok ((entries.reduceOption.filterMap
      (listedName exclude)).mergeSort fun a b => a ≤ b) := by
  have same : entries.filterMap (fun entry => entry.bind (listedName exclude)) =
      entries.reduceOption.filterMap (listedName exclude) := by
    rw [List.reduceOption, List.filterMap_filterMap]
    rfl
  rw [listing, enumerate, same]

end Names

/-- An interface with its key. -/
structure Keyed where
  iface : String
  forms : FormsKey iface

namespace Keyed

def key (k : Keyed) : HardwareDeviceKey := ⟨"net:" ++ k.iface, k.forms⟩

def sensors (k : Keyed) : List SensorDescriptor := metrics.map fun m => m.sensor k.iface k.key

theorem iface_of_key {k k' : Keyed} (same : k.key = k'.key) : k.iface = k'.iface :=
  netKey_injective (congrArg HardwareDeviceKey.asStr same)

theorem exists_of_names {names : List String} (forms : ∀ iface ∈ names, FormsKey iface) :
    ∃ ks : List Keyed, ks.map Keyed.iface = names := by
  refine ⟨names.pmap Keyed.mk forms, ?_⟩
  rw [List.map_pmap]
  exact (List.pmap_eq_map forms).trans (List.map_id names)

end Keyed

section Manifest

variable (db : PciIdDb) (files : Files) (ks : List Keyed)

/-- The manifest of interfaces whose names all form keys. -/
def manifestOf : PluginManifest where
  pluginId := "com.visorcraft.linsight.net"
  displayName := "Network"
  version := "1.20.5"
  sensors := ks.flatMap Keyed.sensors
  devices := ks.map fun k => netDevice db files k.iface k.key

theorem mapM_initIface : (ks.map Keyed.iface).mapM (initIface db files) =
    .ok (ks.map fun k => (netDevice db files k.iface k.key, k.sensors)) := by
  induction ks with
  | nil => rfl
  | cons k rest ih =>
      rw [List.map_cons, List.mapM_cons, initIface_ok db files k.key rfl, ih]
      rfl

/-- One name that forms no key ends the loop. -/
theorem mapM_initIface_error {names : List String} {iface : String} (member : iface ∈ names)
    (unkeyed : ¬ FormsKey iface) :
    ∃ message, names.mapM (initIface db files) = .error (.io message) := by
  induction names with
  | nil => exact absurd member List.not_mem_nil
  | cons first rest ih =>
      rw [List.mapM_cons]
      rcases initIface_cases db files first with ⟨built, forms, done⟩ | ⟨message, _, failed⟩
      · obtain ⟨message, later⟩ := ih ((List.mem_cons.mp member).resolve_left fun same =>
          unkeyed (same ▸ forms))
        exact ⟨message, by rw [done, later]; rfl⟩
      · exact ⟨message, by rw [failed]; rfl⟩

end Manifest

section Distinct

variable {ks : List Keyed}

/-- No metric has a separator in it or a blank. -/
theorem metrics_plain : ∀ m ∈ metrics, '.' ∉ m.metric.toList ∧
    m.metric.toList.any isWhitespace = false := by
  simp only [metrics, counter, List.forall_mem_cons]
  decide

theorem metrics_nodup : (metrics.map Metric.metric).Nodup := by
  simp only [metrics, counter, List.map_cons, List.map_nil]
  decide

theorem find_metric {m : Metric} (member : m ∈ metrics) :
    metrics.find? (fun other => other.metric = m.metric) = some m := by
  simp only [metrics, List.mem_cons, List.not_mem_nil, or_false] at member
  rcases member with rfl | rfl | rfl | rfl | rfl | rfl | rfl | rfl | rfl | rfl <;> rfl

theorem sensorId_toList (iface : String) (m : Metric) : (sensorId iface m).asStr.toList =
    "net.".toList ++ (iface.toList ++ '.' :: m.metric.toList) := by
  simp only [sensorId, String.toList_append, List.append_assoc]
  rfl

/-- An id has one interface and one metric, whatever dots the name has. -/
theorem sensorId_inj {iface iface' : String} {m m' : Metric} (member : m ∈ metrics)
    (member' : m' ∈ metrics) (same : sensorId iface m = sensorId iface' m') :
    iface = iface' ∧ m.metric = m'.metric := by
  have chars := congrArg (fun id : SensorId => id.asStr.toList) same
  rw [sensorId_toList, sensorId_toList] at chars
  obtain ⟨ifaces, names⟩ := Words.cut_last_inj (metrics_plain m member).1
    (metrics_plain m' member').1 (List.append_cancel_left chars)
  exact ⟨String.toList_injective ifaces, String.toList_injective names⟩

theorem sensorId_valid (k : Keyed) {m : Metric} (member : m ∈ metrics) :
    SensorId.tryNew (sensorId k.iface m).asStr = .ok (sensorId k.iface m) := by
  have plain : k.iface.toList.any isWhitespace = false := by
    rw [List.any_eq_false]
    exact fun c inside => by simp [isWhitespace_of_isKeyChar (k.forms.chars c inside)]
  refine (SensorId.tryNew_iff _).mpr ⟨?_, ?_⟩
  · rw [sensorId_toList]
    exact List.cons_ne_nil _ _
  · rw [sensorId_toList]
    simp only [List.any_cons, List.any_append, plain, (metrics_plain m member).2]
    decide

theorem Keyed.ids_nodup (k : Keyed) : (k.sensors.map (·.id)).Nodup := by
  rw [Keyed.sensors, List.map_map]
  refine List.Nodup.map_on (fun m known m' known' same => ?_) (metrics_nodup.of_map _)
  exact List.inj_on_of_nodup_map metrics_nodup known known' (sensorId_inj known known' same).2

theorem keys_nodup (distinct : (ks.map Keyed.iface).Nodup) : (ks.map Keyed.key).Nodup := by
  rw [List.Nodup, List.pairwise_map] at distinct ⊢
  exact distinct.imp fun apart same => apart (Keyed.iface_of_key same)

theorem ids_nodup (distinct : (ks.map Keyed.iface).Nodup) :
    ((ks.flatMap Keyed.sensors).map (·.id)).Nodup := by
  rw [List.map_flatMap, List.nodup_flatMap]
  refine ⟨fun k _ => k.ids_nodup, ?_⟩
  rw [List.Nodup, List.pairwise_map] at distinct
  refine distinct.imp fun apart id first second => ?_
  obtain ⟨s, member, rfl⟩ := List.mem_map.mp first
  obtain ⟨s', member', same⟩ := List.mem_map.mp second
  obtain ⟨m, known, rfl⟩ := List.mem_map.mp member
  obtain ⟨m', known', rfl⟩ := List.mem_map.mp member'
  exact apart (sensorId_inj known' known same).1.symm

/-- The sensors of an interface are those with its key. -/
theorem filter_sensors (distinct : (ks.map Keyed.iface).Nodup) {k : Keyed} (member : k ∈ ks) :
    (ks.flatMap Keyed.sensors).filter (fun s => s.deviceKey = some k.key) = k.sensors := by
  have own (other : Keyed) : (other.sensors.filter fun s => s.deviceKey = some k.key) =
      if other.key = k.key then other.sensors else [] := by
    split
    · rename_i same
      refine List.filter_eq_self.mpr fun s inside => ?_
      obtain ⟨m, _, rfl⟩ := List.mem_map.mp inside
      exact decide_eq_true (congrArg some same)
    · rename_i apart
      refine List.filter_eq_nil_iff.mpr fun s inside => ?_
      obtain ⟨m, _, rfl⟩ := List.mem_map.mp inside
      exact fun same => apart (Option.some.inj (of_decide_eq_true same))
  rw [List.filter_flatMap]
  simp only [own]
  obtain ⟨front, back, rfl⟩ := List.append_of_mem member
  have keys := keys_nodup distinct
  rw [List.map_append, List.map_cons, List.nodup_append_comm, List.cons_append,
    List.nodup_cons, List.mem_append, not_or] at keys
  obtain ⟨⟨after_apart, before_apart⟩, _⟩ := keys
  have silent {others : List Keyed} (apart : k.key ∉ others.map Keyed.key) :
      (others.flatMap fun other => if other.key = k.key then other.sensors else []) = [] := by
    refine List.flatMap_eq_nil_iff.mpr fun other inside => if_neg fun same => apart ?_
    exact List.mem_map.mpr ⟨other, inside, same⟩
  rw [List.flatMap_append, List.flatMap_cons, silent before_apart, silent after_apart,
    if_pos rfl, List.append_nil, List.nil_append]

end Distinct

section Sampling

variable {inner : Inner} {iface : String}

theorem lookup_readStats (files : Files) {interfaces : List String} (iface : String) :
    (readStats files interfaces).lookup iface =
      if iface ∈ interfaces then ifaceStats files iface else none := by
  unfold readStats
  induction interfaces using List.reverseRecOn with
  | nil => rfl
  | append_singleton front last ih =>
      rw [List.foldl_append, List.foldl_cons, List.foldl_nil]
      by_cases same : iface = last
      · subst same
        rw [if_pos (List.mem_append_right _ (List.mem_singleton_self iface))]
        cases stats : ifaceStats files iface with
        | none =>
            dsimp only
            rw [ih, stats, ite_self]
        | some s =>
            dsimp only
            rw [KeyMap.lookup_insert_eq, if_pos rfl]
      · have member : iface ∈ front ++ [last] ↔ iface ∈ front := by
          rw [List.mem_append, List.mem_singleton, or_iff_left same]
        simp only [member]
        cases ifaceStats files last with
        | none => exact ih
        | some s =>
            dsimp only
            rw [KeyMap.lookup_insert_eq, if_neg same, ih]

theorem interfaces_snapshot (inner : Inner) (now : Nat) (files : Files) :
    (snapshot inner now files).2.interfaces = inner.interfaces := by
  unfold snapshot
  dsimp only
  cases inner.cache with
  | none => rfl
  | some entry =>
      dsimp only
      split <;> rfl

/-- The stored snapshot is one of the files at some call. -/
def Inner.CachedFrom (inner : Inner) (calls : List Call) : Prop :=
  ∀ entry ∈ inner.cache, ∃ c ∈ calls,
    entry = (c.now, readStats c.files inner.interfaces)

theorem snapshot_spec {calls : List Call} (cached : inner.CachedFrom calls) (call : Call) :
    (snapshot inner call.now call.files).2.CachedFrom (calls ++ [call]) ∧
      ∃ c ∈ calls ++ [call], call.now - c.now ≤ cacheTtl ∧
        (snapshot inner call.now call.files).1 = readStats c.files inner.interfaces := by
  have refreshed : ∀ entry ∈ some (call.now, readStats call.files inner.interfaces),
      ∃ c ∈ calls ++ [call], entry = (c.now, readStats c.files inner.interfaces) := by
    rintro entry ⟨⟩
    exact ⟨call, List.mem_append_right _ (List.mem_singleton_self call), rfl⟩
  have last : call ∈ calls ++ [call] := List.mem_append_right _ (List.mem_singleton_self call)
  have own : call.now - call.now ≤ cacheTtl := by
    rw [Nat.sub_self]
    exact Nat.zero_le _
  unfold snapshot
  dsimp only
  cases stored : inner.cache with
  | none => exact ⟨refreshed, call, last, own, rfl⟩
  | some entry =>
      obtain ⟨c, member, same⟩ := cached entry stored
      dsimp only
      split
      · rename_i fresh
        refine ⟨fun other here => ?_, c, List.mem_append_left _ member, ?_, ?_⟩
        · obtain ⟨c', member', same'⟩ := cached other here
          exact ⟨c', List.mem_append_left _ member', same'⟩
        · rw [same] at fresh
          exact fresh
        · rw [same]
      · exact ⟨refreshed, call, last, own, rfl⟩

/-- A sample leaves the state, or takes that of the snapshot. -/
theorem sample_state (inner : Inner) (call : Call) : (sampleInner inner call).2 = inner ∨
    (sampleInner inner call).2 = (snapshot inner call.now call.files).2 := by
  unfold sampleInner
  dsimp only
  cases (stripPrefix "net.".toList call.sensor.asStr.toList).bind (rsplitOnce '.') with
  | none => exact .inl rfl
  | some cut =>
      dsimp only
      split
      · exact .inl rfl
      · refine .inr ?_
        cases (snapshot inner call.now call.files).1.lookup (String.ofList cut.1) with
        | none => rfl
        | some s =>
            dsimp only
            cases metrics.find? fun m => m.metric = String.ofList cut.2 with
            | none => rfl
            | some m => rfl

/-- The state after some calls: its interfaces are the same, and its snapshot is of one of them. -/
theorem after_spec (fresh : inner.cache = none) (calls : List Call) :
    (after inner calls).interfaces = inner.interfaces ∧ (after inner calls).CachedFrom calls := by
  induction calls using List.reverseRecOn with
  | nil =>
      refine ⟨rfl, fun entry stored => ?_⟩
      rw [after, List.foldl_nil, fresh] at stored
      cases stored
  | append_singleton front call ih =>
      obtain ⟨same, cached⟩ := ih
      have step : after inner (front ++ [call]) = (sampleInner (after inner front) call).2 := by
        rw [after, List.foldl_append]
        rfl
      rw [step]
      rcases sample_state (after inner front) call with kept | taken
      · rw [kept]
        refine ⟨same, fun entry stored => ?_⟩
        obtain ⟨c, member, whole⟩ := cached entry stored
        exact ⟨c, List.mem_append_left _ member, whole⟩
      · rw [taken]
        refine ⟨(interfaces_snapshot _ _ _).trans same, (snapshot_spec cached call).1⟩

/-- What the sensor of an interface gives. -/
theorem sample_eq {call : Call} {m : Metric} (known : m ∈ metrics)
    (named : call.sensor = sensorId iface m) (member : iface ∈ inner.interfaces) :
    (sampleInner inner call).1 =
      ((snapshot inner call.now call.files).1.lookup iface).elim
        (.error (.unsupported ("net." ++ iface ++ " not in snapshot")))
        fun s => .ok (m.reading s) := by
  have cut : (stripPrefix "net.".toList call.sensor.asStr.toList).bind (rsplitOnce '.') =
      some (iface.toList, m.metric.toList) := by
    rw [named, sensorId_toList, Words.stripPrefix_append, Option.bind_some,
      Words.rsplitOnce_append _ (metrics_plain m known).1]
  unfold sampleInner
  dsimp only
  rw [cut]
  dsimp only
  rw [String.ofList_toList, String.ofList_toList, find_metric known, if_neg (not_not.mpr member)]
  cases (snapshot inner call.now call.files).1.lookup iface with
  | none => rfl
  | some s => rfl

end Sampling

section Serving

variable {exclude : List String} {names : List (List UInt8)} {ks : List Keyed}

theorem accepted_manifest (db : PciIdDb) (files : Files) (distinct : (ks.map Keyed.iface).Nodup) :
    (manifestOf db files ks).IdsValid ∧
      hostInit (.ok (.of (manifestOf db files ks))) = .ok (some (manifestOf db files ks)) := by
  have ids : (manifestOf db files ks).IdsValid := by
    intro d member
    obtain ⟨k, _, inside⟩ := List.mem_flatMap.mp member
    obtain ⟨m, known, rfl⟩ := List.mem_map.mp inside
    exact sensorId_valid k known
  have keys_eq : (manifestOf db files ks).devices.map (·.key) = ks.map Keyed.key := by
    rw [manifestOf, List.map_map]
    rfl
  have keys : KeysValid (manifestOf db files ks).devices (manifestOf db files ks).sensors := by
    refine ⟨keys_eq ▸ keys_nodup distinct, fun s member key bound => ?_⟩
    obtain ⟨k, here, inside⟩ := List.mem_flatMap.mp member
    obtain ⟨m, _, rfl⟩ := List.mem_map.mp inside
    rw [keys_eq, ← Option.some.inj bound]
    exact List.mem_map_of_mem here
  have unowned : (manifestOf db files ks).unowned = manifestOf db files ks := by
    unfold PluginManifest.unowned manifestOf
    dsimp only
    rw [List.map_map]
    rfl
  have accepted := hostInit_of ids keys
  rw [unowned] at accepted
  exact ⟨ids, accepted⟩

/-- What the plugin has when every listed name forms a key. -/
theorem served_of_keyed (db : PciIdDb) (files : Files) (distinct : (ks.map Keyed.iface).Nodup)
    (listed : ∀ name ∈ names, ∀ iface, listedName exclude name = some iface →
      iface ∈ ks.map Keyed.iface) :
    Served exclude names ⟨ks.map Keyed.iface, none⟩ (manifestOf db files ks) where
  accepted := (accepted_manifest db files distinct).2
  keysDistinct := by
    rw [manifestOf, List.map_map]
    exact keys_nodup distinct
  idsDistinct := ids_nodup distinct
  idsValid := (accepted_manifest db files distinct).1
  own := by
    intro name member iface named _
    obtain ⟨k, here, rfl⟩ := List.mem_map.mp (listed name member iface named)
    refine ⟨netDevice db files k.iface k.key, List.mem_map_of_mem here, rfl, rfl, ?_⟩
    exact filter_sensors distinct here
  sampled := by
    intro name member iface named _ front call readable m known asked
    have inside := listed name member iface named
    obtain ⟨same, cached⟩ := @after_spec ⟨ks.map Keyed.iface, none⟩ rfl front
    obtain ⟨c, among, recent, stats⟩ := (snapshot_spec cached call).2
    obtain ⟨s, read⟩ := Option.isSome_iff_exists.mp (readable c among)
    refine ⟨c, among, s, read, recent, ?_⟩
    rw [sample_eq known asked (by rw [same]; exact inside), stats, lookup_readStats, same,
      if_pos inside, read]
    rfl

end Serving

section Starting

variable {host : Host} {exclude : List String} {entries : List (Option (List UInt8))}

theorem mem_listed_iff {iface : String} : iface ∈ (entries.reduceOption.filterMap
      (listedName exclude)).mergeSort (fun a b => a ≤ b) ↔
    ∃ name ∈ entries.reduceOption, listedName exclude name = some iface := by
  rw [List.mem_mergeSort, List.mem_filterMap]

/-- One listed name that forms no key, and the plugin does not start. -/
theorem initInner_error (listing : host.readDir = .ok entries) {name : List UInt8}
    (member : name ∈ entries.reduceOption) {iface : String}
    (named : listedName exclude name = some iface) (unkeyed : ¬ FormsKey iface) :
    ∃ message, initInner host exclude = .error (.io message) := by
  obtain ⟨message, loop⟩ := mapM_initIface_error host.db host.files
    (mem_listed_iff.mpr ⟨name, member, named⟩) unkeyed
  refine ⟨message, ?_⟩
  unfold initInner
  rw [enumerate_entries listing]
  change List.mapM (initIface host.db host.files) _ >>= _ = _
  rw [loop]
  rfl

end Starting

/-- The plugin serves the entries of the directory exactly where the name of each one that it lists
forms a device key. -/
theorem serves_iff {host : Host} {exclude : List String} {entries : List (Option (List UInt8))}
    (listing : host.readDir = .ok entries) (distinct : entries.reduceOption.Nodup) :
    Serves host exclude entries.reduceOption ↔
      ∀ name ∈ entries.reduceOption, ∀ iface, listedName exclude name = some iface →
        FormsKey iface := by
  constructor
  · rintro ⟨inner, manifest, done, _⟩ name member iface named
    by_contra unkeyed
    obtain ⟨message, failed⟩ := initInner_error listing member named unkeyed
    rw [failed] at done
    cases done
  · intro forms
    obtain ⟨ks, interfaces⟩ := @Keyed.exists_of_names _ fun iface member => by
      obtain ⟨name, inside, named⟩ := mem_listed_iff.mp member
      exact forms name inside iface named
    have different : (ks.map Keyed.iface).Nodup := by
      rw [interfaces, (List.mergeSort_perm _ _).nodup_iff]
      refine List.pairwise_filterMap.mpr (distinct.imp_of_mem ?_)
      intro first second member _ apart iface named iface' named' same
      exact apart (listedName_inj (forms first member iface named) named (same ▸ named'))
    refine ⟨⟨ks.map Keyed.iface, none⟩, manifestOf host.db host.files ks, ?_,
      served_of_keyed host.db host.files different fun name member iface named => ?_⟩
    · have built := mapM_initIface host.db host.files ks
      unfold initInner
      rw [enumerate_entries listing, ← interfaces]
      refine Fallible.bind_eq_ok.mpr ⟨_, rfl, Fallible.bind_eq_ok.mpr ⟨_, built, ?_⟩⟩
      rw [List.flatMap_map, List.map_map]
      rfl
    · rw [interfaces]
      exact mem_listed_iff.mpr ⟨name, member, named⟩

/-- A host with the entries and no files. -/
def hostOf (names : List String) : Host :=
  ⟨.ok (names.map fun name => some (Utf8.ascii name.toList)), fun _ _ => none, ⟨∅, ∅⟩⟩

/-- An interface with a dot in its name, the loopback interface and a control file. -/
theorem serves_iff_usual :
    Serves (hostOf ["enp0s3.100", "lo", "bonding_masters"]) []
      (["enp0s3.100", "lo", "bonding_masters"].map fun name => Utf8.ascii name.toList) := by
  have keyed : (["enp0s3.100", "lo", "bonding_masters"].all fun name =>
      (listedName [] (Utf8.ascii name.toList)).all fun iface =>
        (keyError ("net:" ++ iface)).isNone) = true := by decide +kernel
  refine (@serves_iff (hostOf ["enp0s3.100", "lo", "bonding_masters"]) [] _ rfl
    (by decide +kernel)).mpr fun name member iface named => ?_
  change name ∈ ["enp0s3.100", "lo", "bonding_masters"].map fun name =>
    Utf8.ascii name.toList at member
  obtain ⟨text, inside, rfl⟩ := List.mem_map.mp member
  have forms := List.all_eq_true.mp keyed text inside
  rw [named] at forms
  exact Option.isNone_iff_eq_none.mp forms

/-- One name with an at sign, and no interface is served. -/
theorem at_sign_ends_init :
    (∃ message, initInner (hostOf ["eth0", "veth@x"]) [] = .error (.io message)) ∧
      ¬ Serves (hostOf ["eth0", "veth@x"]) []
        (["eth0", "veth@x"].map fun name => Utf8.ascii name.toList) := by
  have failed := @initInner_error (hostOf ["eth0", "veth@x"]) []
    (["eth0", "veth@x"].map fun name => some (Utf8.ascii name.toList)) rfl
    (Utf8.ascii "veth@x".toList) (by decide +kernel) "veth@x" (by decide +kernel)
    (by unfold FormsKey; decide +kernel)
  refine ⟨failed, ?_⟩
  rintro ⟨inner, manifest, done, _⟩
  obtain ⟨message, failed⟩ := failed
  rw [failed] at done
  cases done

end LinSight.NetIfaces
