import LinSight.Gui.Tiles

set_option autoImplicit false

/-! The network and disk rates that the overview computes from its tiles after each batch. How a
link speed is read is a parameter. -/

namespace LinSight.Gui

open Ieee (Value binary64)

/-- `str::rsplit_once`. -/
def rsplitOnce (c : Char) (text : String) : Option (String × String) :=
  match text.toList.reverse.span (· ≠ c) with
  | (tail, _ :: front) => some (String.ofList front.reverse, String.ofList tail.reverse)
  | (_, []) => none

def startsWith (front text : String) : Bool := front.toList.isPrefixOf text.toList

def endsWith (tail text : String) : Bool := tail.toList.isSuffixOf text.toList

/-- The counters of an interface. -/
inductive NetMetric where
  | rxBytes
  | txBytes
  | rxPackets
  | txPackets
  | rxErrors
  | txErrors
  | rxDropped
  | txDropped
deriving DecidableEq

def NetMetric.all : List NetMetric :=
  [.rxBytes, .txBytes, .rxPackets, .txPackets, .rxErrors, .txErrors, .rxDropped, .txDropped]

def NetMetric.name : NetMetric → String
  | rxBytes => "rx_bytes"
  | txBytes => "tx_bytes"
  | rxPackets => "rx_packets"
  | txPackets => "tx_packets"
  | rxErrors => "rx_errors"
  | txErrors => "tx_errors"
  | rxDropped => "rx_dropped"
  | txDropped => "tx_dropped"

def NetMetric.ofName (name : String) : Option NetMetric := NetMetric.all.find? (·.name = name)

inductive DiskMetric where
  | bytesRead
  | bytesWritten
deriving DecidableEq

def DiskMetric.ofName : String → Option DiskMetric
  | "bytes_read" => some bytesRead
  | "bytes_written" => some bytesWritten
  | _ => none

structure NetworkInterfaceJson where
  iface : String
  perSec : NetMetric → Value
  linkState : String
  speedMbps : Value

def NetworkInterfaceJson.fresh (iface : String) : NetworkInterfaceJson :=
  ⟨iface, fun _ => .finite 0, "", .finite 0⟩

structure DiskRateJson where
  device : String
  perSec : DiskMetric → Value

def DiskRateJson.fresh (device : String) : DiskRateJson := ⟨device, fun _ => .finite 0⟩

/-- A difference of counters over one of microseconds. -/
def perSecond (deltaVal deltaUs : Nat) : Value :=
  binary64.div (binary64.round deltaVal) (binary64.div (binary64.round deltaUs) (.finite 1000000))

/-- The rate of a counter against what the previous call saw of it. -/
def counterRate (prev : Option (Nat × Nat)) (ts raw : Nat) : Value :=
  if ts = 0 then .finite 0
  else
    match prev with
    | some (prevTs, prevVal) =>
        let deltaVal := raw - prevVal
        let deltaUs := ts - prevTs
        if 0 < deltaUs then perSecond deltaVal deltaUs else .finite 0
    | none => .finite 0

def holdUs : Nat := 5000000

/-- The raw rate, or the last one that was not zero for as long as it is held. -/
def heldRate (hold : Option (Nat × Value)) (ts : Nat) (rawRate : Value) : Value :=
  if (Value.finite 0).lt rawRate then rawRate
  else
    match hold with
    | some (holdTs, holdRate) => if ts - holdTs < holdUs then holdRate else .finite 0
    | none => .finite 0

/-- The interface and the metric of a sensor of the network plugin. -/
def netSensor (id : String) : Option (String × String) :=
  (stripPrefix "net." id).bind (rsplitOnce '.')

section Network

variable (speed : String → Value) (state : SampleState)

/-- The interfaces so far, and `net_prev`. -/
abbrev NetRates := KeyMap String NetworkInterfaceJson × KeyMap String (Nat × Nat)

/-- The rates of one tile. -/
def netTile (acc : NetRates) (id : String) : NetRates :=
  match netSensor id, state.tiles.lookup id with
  | some (iface, metric), some tile =>
      let entry := (acc.1.lookup iface).getD (.fresh iface)
      match NetMetric.ofName metric with
      | some m =>
          let rate := counterRate (acc.2.lookup id) tile.lastTsMicros tile.lastRawValue
          (acc.1.insert iface { entry with perSec := Function.update entry.perSec m rate },
            acc.2.insert id (tile.lastTsMicros, tile.lastRawValue))
      | none =>
          if metric = "link_state" then
            (acc.1.insert iface { entry with linkState := tile.value }, acc.2)
          else if metric = "speed_mbps" then
            (acc.1.insert iface { entry with speedMbps := speed tile.value }, acc.2)
          else (acc.1.insert iface entry, acc.2)
  | _, _ => acc

def netIds : List String := state.tiles.keys.filter (startsWith "net.")

/-- The text of the JSON array stands for its entries. -/
def computeNetworkRates (netPrev : KeyMap String (Nat × Nat)) : NetRates :=
  let rates := (netIds state).foldl (netTile speed state) (∅, netPrev)
  (rates.1, KeyMap.retain (fun id _ => (netIds state).contains id) rates.2)

end Network

/-- The previous samples of the disk counters, and the rates that are held. -/
structure DiskTables where
  prev : KeyMap String (Nat × Nat)
  hold : KeyMap String (Nat × Value)

section Disk

variable (state : SampleState)

abbrev DiskRates := KeyMap String DiskRateJson × DiskTables

def DiskTables.rawRate (tables : DiskTables) (id : String) (tile : TileJson) : Value :=
  counterRate (tables.prev.lookup id) tile.lastTsMicros tile.lastRawValue

def diskTile (acc : DiskRates) (id : String) : DiskRates :=
  match rsplitOnce '.' id, state.tiles.lookup id with
  | some (_, metric), some tile =>
      match tile.device.filter (fun device => !device.toList.isEmpty) with
      | some device =>
          let entry := (acc.1.lookup device).getD (.fresh device)
          let ts := tile.lastTsMicros
          let rawRate := acc.2.rawRate id tile
          let held := heldRate (acc.2.hold.lookup id) ts rawRate
          let hold := if (Value.finite 0).lt rawRate then acc.2.hold.insert id (ts, rawRate)
            else acc.2.hold
          let entry := match DiskMetric.ofName metric with
            | some m => { entry with perSec := Function.update entry.perSec m held }
            | none => entry
          (acc.1.insert device entry, ⟨acc.2.prev.insert id (ts, tile.lastRawValue), hold⟩)
      | none => acc
  | _, _ => acc

def isDiskCounter (id : String) : Bool :=
  (startsWith "disk." id || startsWith "nvme." id) &&
    (endsWith ".bytes_read" id || endsWith ".bytes_written" id)

def diskIds : List String := state.tiles.keys.filter isDiskCounter

def activeDisks : List String :=
  state.tiles.keys.filter fun id => startsWith "disk." id || startsWith "nvme." id

def computeDiskRates (tables : DiskTables) : DiskRates :=
  let rates := (diskIds state).foldl (diskTile state) (∅, tables)
  let active := fun id => (activeDisks state).contains id
  (rates.1, ⟨KeyMap.retain (fun id _ => active id) rates.2.prev,
    KeyMap.retain (fun id _ => active id) rates.2.hold⟩)

end Disk

section Names

theorem toList_of_rsplitOnce {c : Char} {text front tail : String}
    (parted : rsplitOnce c text = some (front, tail)) :
    text.toList = front.toList ++ c :: tail.toList := by
  unfold rsplitOnce at parted
  rw [List.span_eq_takeWhile_dropWhile] at parted
  have whole := @List.takeWhile_append_dropWhile _ (· ≠ c) text.toList.reverse
  cases rest : text.toList.reverse.dropWhile (· ≠ c) with
  | nil =>
      rw [rest] at parted
      cases parted
  | cons first others =>
      have stops := List.head?_dropWhile_not (· ≠ c) text.toList.reverse
      rw [rest] at parted whole stops
      have last : first = c := by simpa using stops
      cases parted
      have reversed := congrArg List.reverse whole
      rw [List.reverse_append, List.reverse_cons, List.reverse_reverse, last] at reversed
      refine reversed.symm.trans ?_
      simp only [String.toList_ofList, List.append_assoc, List.singleton_append]

theorem toList_of_stripPrefix {front text rest : String}
    (stripped : stripPrefix front text = some rest) :
    startsWith front text = true ∧ text.toList = front.toList ++ rest.toList := by
  unfold stripPrefix at stripped
  split at stripped
  · rename_i here
    cases stripped
    obtain ⟨tail, same⟩ := List.isPrefixOf_iff_prefix.mp here
    refine ⟨here, ?_⟩
    rw [String.toList_ofList, ← same, List.drop_left]
  · cases stripped

/-- No two sensors are one metric of one interface. -/
theorem netSensor_injective {id other : String} {pair : String × String}
    (first : netSensor id = some pair) (second : netSensor other = some pair) : id = other := by
  obtain ⟨rest, stripped, parted⟩ := Option.bind_eq_some_iff.mp first
  obtain ⟨rest', stripped', parted'⟩ := Option.bind_eq_some_iff.mp second
  have same : rest = rest' := String.ext
    ((toList_of_rsplitOnce parted).trans (toList_of_rsplitOnce parted').symm)
  apply String.ext
  rw [(toList_of_stripPrefix stripped).2, (toList_of_stripPrefix stripped').2, same]

@[simp] theorem ofName_name (m : NetMetric) : NetMetric.ofName m.name = some m := by
  cases m <;> rfl

theorem name_of_ofName {name : String} {m : NetMetric} (found : NetMetric.ofName name = some m) :
    m.name = name := by
  have passes := List.find?_some found
  exact of_decide_eq_true passes

end Names

section Network

variable {speed : String → Value} {state : SampleState} {acc : NetRates} {id : String}
  {iface : String} {m : NetMetric} {tile : TileJson}

theorem netTile_counter (sensor : netSensor id = some (iface, m.name))
    (found : state.tiles.lookup id = some tile) :
    netTile speed state acc id =
      (acc.1.insert iface { (acc.1.lookup iface).getD (.fresh iface) with
        perSec := Function.update ((acc.1.lookup iface).getD (.fresh iface)).perSec m
          (counterRate (acc.2.lookup id) tile.lastTsMicros tile.lastRawValue) },
        acc.2.insert id (tile.lastTsMicros, tile.lastRawValue)) := by
  simp only [netTile, sensor, found, ofName_name]

/-- A tile leaves the other sensors alone. -/
theorem netTile_other {other : String} (differ : id ≠ other) :
    (netTile speed state acc other).2.lookup id = acc.2.lookup id ∧
      (netSensor id = some (iface, m.name) → ∀ entry, acc.1.lookup iface = some entry →
        ∃ entry', (netTile speed state acc other).1.lookup iface = some entry' ∧
          entry'.perSec m = entry.perSec m) := by
  unfold netTile
  split
  · rename_i there metric _ sensor_other _
    dsimp only
    split
    · rename_i m' named
      refine ⟨AList.lookup_insert_ne differ, fun sensor entry before => ?_⟩
      rw [KeyMap.lookup_insert_eq]
      split
      · rename_i here
        subst here
        refine ⟨_, rfl, ?_⟩
        have distinct : m ≠ m' := by
          rintro rfl
          rw [← name_of_ofName named] at sensor_other
          exact differ (netSensor_injective sensor sensor_other)
        refine (Function.update_of_ne distinct _ _).trans ?_
        rw [before, Option.getD_some]
      · exact ⟨entry, before, rfl⟩
    · have kept (entry : NetworkInterfaceJson)
          (same : entry.perSec = ((acc.1.lookup there).getD (.fresh there)).perSec) :
          ∀ before, acc.1.lookup iface = some before →
            ∃ entry', (acc.1.insert there entry).lookup iface = some entry' ∧
              entry'.perSec m = before.perSec m := by
        intro before found
        rw [KeyMap.lookup_insert_eq]
        split
        · rename_i here
          subst here
          refine ⟨_, rfl, ?_⟩
          rw [same, found, Option.getD_some]
        · exact ⟨before, found, rfl⟩
      split
      · exact ⟨rfl, fun _ => kept _ rfl⟩
      · split
        · exact ⟨rfl, fun _ => kept _ rfl⟩
        · exact ⟨rfl, fun _ => kept _ rfl⟩
  · exact ⟨rfl, fun _ entry before => ⟨entry, before, rfl⟩⟩

theorem lookup_foldl_netTile {ids : List String} (absent : id ∉ ids) :
    (ids.foldl (netTile speed state) acc).2.lookup id = acc.2.lookup id := by
  induction ids generalizing acc with
  | nil => rfl
  | cons first rest ih =>
      rw [List.mem_cons, not_or] at absent
      rw [List.foldl_cons, ih absent.2]
      exact (@netTile_other speed state acc id "" .rxBytes first absent.1).1

/-- What the tiles come to for a counter among them. -/
theorem foldl_netTile {ids : List String} (distinct : ids.Nodup) (member : id ∈ ids)
    (sensor : netSensor id = some (iface, m.name)) (found : state.tiles.lookup id = some tile) :
    (ids.foldl (netTile speed state) acc).2.lookup id =
        some (tile.lastTsMicros, tile.lastRawValue) ∧
      ∃ entry, (ids.foldl (netTile speed state) acc).1.lookup iface = some entry ∧
        entry.perSec m =
          counterRate (acc.2.lookup id) tile.lastTsMicros tile.lastRawValue := by
  induction ids using List.reverseRecOn with
  | nil => cases member
  | append_singleton front last ih =>
      rw [List.foldl_append, List.foldl_cons, List.foldl_nil]
      obtain ⟨apart, _, fresh⟩ := List.nodup_append.mp distinct
      by_cases here : id = last
      · subst here
        have absent : id ∉ front := fun inside => fresh id inside id (List.mem_singleton.mpr rfl) rfl
        rw [netTile_counter sensor found, lookup_foldl_netTile absent]
        exact ⟨AList.lookup_insert _, _, AList.lookup_insert _, Function.update_self ..⟩
      · have inside : id ∈ front := by simpa [here] using member
        obtain ⟨prev, entry, shown, rate⟩ := ih apart inside
        obtain ⟨same, keeps⟩ := @netTile_other speed state
          (front.foldl (netTile speed state) acc) id iface m last here
        obtain ⟨entry', shown', rate'⟩ := keeps sensor entry shown
        exact ⟨same.trans prev, entry', shown', rate'.trans rate⟩

theorem computeNetworkRates_counter {netPrev : KeyMap String (Nat × Nat)}
    (sensor : netSensor id = some (iface, m.name)) (found : state.tiles.lookup id = some tile) :
    (computeNetworkRates speed state netPrev).2.lookup id =
        some (tile.lastTsMicros, tile.lastRawValue) ∧
      ∃ entry, (computeNetworkRates speed state netPrev).1.lookup iface = some entry ∧
        entry.perSec m = counterRate (netPrev.lookup id) tile.lastTsMicros tile.lastRawValue := by
  obtain ⟨rest, stripped, _⟩ := Option.bind_eq_some_iff.mp sensor
  have key : id ∈ netIds state := by
    refine List.mem_filter.mpr ⟨?_, (toList_of_stripPrefix stripped).1⟩
    exact AList.mem_keys.mp (KeyMap.mem_of_lookup found)
  obtain ⟨prev, shown⟩ := @foldl_netTile speed state (∅, netPrev) id iface m tile (netIds state)
    ((AList.keys_nodup _).filter _) key sensor found
  refine ⟨?_, shown⟩
  rw [computeNetworkRates, KeyMap.lookup_retain, prev, Option.filter_some,
    if_pos (List.contains_iff_mem.mpr key)]

end Network

/-- The metric of a counter of the disk or NVMe plugin. -/
def diskSensor (id : String) : Option DiskMetric :=
  if isDiskCounter id then
    (rsplitOnce '.' id).bind fun parts => DiskMetric.ofName parts.2
  else none

/-- The device and the metric that a tile is shown under. -/
def diskPlace (state : SampleState) (id : String) : Option (String × DiskMetric) :=
  (diskSensor id).bind fun m => (state.tiles.lookup id).bind fun tile =>
    (tile.device.filter fun device => !device.toList.isEmpty).map fun device => (device, m)

section Disk

variable {state : SampleState} {acc : DiskRates} {id : String} {device : String} {m : DiskMetric}
  {tile : TileJson}

theorem diskTile_counter (place : diskPlace state id = some (device, m))
    (found : state.tiles.lookup id = some tile) :
    diskTile state acc id =
      (acc.1.insert device { (acc.1.lookup device).getD (.fresh device) with
        perSec := Function.update ((acc.1.lookup device).getD (.fresh device)).perSec m
          (heldRate (acc.2.hold.lookup id) tile.lastTsMicros (acc.2.rawRate id tile)) },
        ⟨acc.2.prev.insert id (tile.lastTsMicros, tile.lastRawValue),
          if (Value.finite 0).lt (acc.2.rawRate id tile) then
            acc.2.hold.insert id (tile.lastTsMicros, acc.2.rawRate id tile) else acc.2.hold⟩) := by
  obtain ⟨m', sensor, rest⟩ := Option.bind_eq_some_iff.mp place
  obtain ⟨tile', found', placed⟩ := Option.bind_eq_some_iff.mp rest
  obtain ⟨device', filled, same⟩ := Option.map_eq_some_iff.mp placed
  cases same
  cases Option.some.inj (found.symm.trans found')
  unfold diskSensor at sensor
  split at sensor
  · obtain ⟨parts, parted, named⟩ := Option.bind_eq_some_iff.mp sensor
    simp only [diskTile, parted, found, filled, named]
  · cases sensor

/-- A tile leaves the tables of the other sensors alone. -/
theorem diskTile_other {other : String} (differ : id ≠ other) :
    (diskTile state acc other).2.prev.lookup id = acc.2.prev.lookup id ∧
      (diskTile state acc other).2.hold.lookup id = acc.2.hold.lookup id := by
  unfold diskTile
  split
  · split
    · refine ⟨AList.lookup_insert_ne differ, ?_⟩
      dsimp only
      split
      · exact AList.lookup_insert_ne differ
      · rfl
    · exact ⟨rfl, rfl⟩
  · exact ⟨rfl, rfl⟩

theorem lookup_foldl_diskTile {ids : List String} (absent : id ∉ ids) :
    (ids.foldl (diskTile state) acc).2.prev.lookup id = acc.2.prev.lookup id ∧
      (ids.foldl (diskTile state) acc).2.hold.lookup id = acc.2.hold.lookup id := by
  induction ids generalizing acc with
  | nil => exact ⟨rfl, rfl⟩
  | cons first rest ih =>
      rw [List.mem_cons, not_or] at absent
      obtain ⟨prev, hold⟩ := @diskTile_other state acc id first absent.1
      obtain ⟨later, later'⟩ := @ih (diskTile state acc first) absent.2
      exact ⟨later.trans prev, later'.trans hold⟩

/-- A tile of another place leaves the rate alone. -/
theorem diskTile_elsewhere {other : String} (counter : isDiskCounter other = true)
    (place : diskPlace state other ≠ some (device, m)) {entry : DiskRateJson}
    (before : acc.1.lookup device = some entry) :
    ∃ entry', (diskTile state acc other).1.lookup device = some entry' ∧
      entry'.perSec m = entry.perSec m := by
  unfold diskTile
  split
  · rename_i front metric tile parted found
    split
    · rename_i there filled
      rw [KeyMap.lookup_insert_eq]
      split
      · rename_i here
        subst here
        refine ⟨_, rfl, ?_⟩
        rw [before, Option.getD_some]
        split
        · rename_i m' named
          have distinct : m ≠ m' := by
            rintro rfl
            apply place
            simp only [diskPlace, diskSensor, counter, if_true, parted, Option.bind_some, named, found,
              filled, Option.map_some]
          exact Function.update_of_ne distinct _ _
        · rfl
      · exact ⟨entry, before, rfl⟩
    · exact ⟨entry, before, rfl⟩
  · exact ⟨entry, before, rfl⟩

theorem counter_of_diskPlace {place : String × DiskMetric} (here : diskPlace state id = some place) :
    isDiskCounter id = true ∧ ∃ tile, state.tiles.lookup id = some tile := by
  obtain ⟨m', sensor, rest⟩ := Option.bind_eq_some_iff.mp here
  obtain ⟨tile, found, _⟩ := Option.bind_eq_some_iff.mp rest
  unfold diskSensor at sensor
  split at sensor
  · rename_i counter
    exact ⟨counter, tile, found⟩
  · cases sensor

/-- What the tiles leave in the tables for a counter among them. -/
theorem foldl_diskTile_tables {ids : List String} (distinct : ids.Nodup) (member : id ∈ ids)
    (place : diskPlace state id = some (device, m)) (found : state.tiles.lookup id = some tile) :
    (ids.foldl (diskTile state) acc).2.prev.lookup id =
        some (tile.lastTsMicros, tile.lastRawValue) ∧
      (ids.foldl (diskTile state) acc).2.hold.lookup id =
        if (Value.finite 0).lt (acc.2.rawRate id tile) then
          some (tile.lastTsMicros, acc.2.rawRate id tile) else acc.2.hold.lookup id := by
  induction ids generalizing acc with
  | nil => cases member
  | cons first rest ih =>
      obtain ⟨fresh, apart⟩ := List.nodup_cons.mp distinct
      rw [List.foldl_cons]
      by_cases here : id = first
      · subst here
        obtain ⟨prev, hold⟩ := @lookup_foldl_diskTile state (diskTile state acc id) id rest fresh
        rw [prev, hold, diskTile_counter place found]
        refine ⟨AList.lookup_insert _, ?_⟩
        dsimp only
        split
        · exact AList.lookup_insert _
        · rfl
      · have inside : id ∈ rest := by simpa [here] using member
        obtain ⟨prev, hold⟩ := @diskTile_other state acc id first here
        have later := @ih (diskTile state acc first) apart inside
        unfold DiskTables.rawRate at later ⊢
        rw [prev, hold] at later
        exact later

/-- What is shown in a place is the held rate of a counter of this place. -/
theorem foldl_diskTile_shown {ids : List String} (distinct : ids.Nodup)
    (counters : ∀ other ∈ ids, isDiskCounter other = true) (member : id ∈ ids)
    (place : diskPlace state id = some (device, m)) :
    ∃ other tile entry, diskPlace state other = some (device, m) ∧
      state.tiles.lookup other = some tile ∧
      (ids.foldl (diskTile state) acc).1.lookup device = some entry ∧
      entry.perSec m = heldRate (acc.2.hold.lookup other) tile.lastTsMicros
        (acc.2.rawRate other tile) := by
  induction ids using List.reverseRecOn with
  | nil => cases member
  | append_singleton front last ih =>
      rw [List.foldl_append, List.foldl_cons, List.foldl_nil]
      obtain ⟨apart, _, fresh⟩ := List.nodup_append.mp distinct
      by_cases here : diskPlace state last = some (device, m)
      · obtain ⟨_, tile, found⟩ := counter_of_diskPlace here
        have absent : last ∉ front :=
          fun inside => fresh last inside last (List.mem_singleton.mpr rfl) rfl
        obtain ⟨prev, hold⟩ := @lookup_foldl_diskTile state acc last front absent
        rw [diskTile_counter here found]
        refine ⟨last, tile, _, here, found, AList.lookup_insert _, ?_⟩
        unfold DiskTables.rawRate
        rw [prev, hold]
        exact Function.update_self ..
      · have inside : id ∈ front := by
          rcases List.mem_append.mp member with inside | last_one
          · exact inside
          · rw [List.mem_singleton.mp last_one] at place
            exact absurd place here
        obtain ⟨other, tile, entry, there, found, shown, rate⟩ :=
          ih apart (fun other inside => counters other (List.mem_append_left _ inside)) inside
        have counter := counters last (List.mem_append_right _ (List.mem_singleton.mpr rfl))
        obtain ⟨entry', shown', rate'⟩ := diskTile_elsewhere counter here shown
        exact ⟨other, tile, entry', there, found, shown', rate'.trans rate⟩

theorem computeDiskRates_tables {tables : DiskTables}
    (place : diskPlace state id = some (device, m)) (found : state.tiles.lookup id = some tile) :
    (computeDiskRates state tables).2.prev.lookup id =
        some (tile.lastTsMicros, tile.lastRawValue) ∧
      (computeDiskRates state tables).2.hold.lookup id =
        if (Value.finite 0).lt (tables.rawRate id tile) then
          some (tile.lastTsMicros, tables.rawRate id tile) else tables.hold.lookup id := by
  have key : id ∈ state.tiles.keys := AList.mem_keys.mp (KeyMap.mem_of_lookup found)
  have counter := (counter_of_diskPlace place).1
  have active : (activeDisks state).contains id = true := by
    rw [List.contains_iff_mem]
    exact List.mem_filter.mpr ⟨key, (Bool.and_eq_true _ _ ▸ counter).1⟩
  obtain ⟨prev, hold⟩ := @foldl_diskTile_tables state (∅, tables) id device m tile (diskIds state)
    ((AList.keys_nodup _).filter _) (List.mem_filter.mpr ⟨key, counter⟩) place found
  constructor
  · rw [computeDiskRates, KeyMap.lookup_retain, prev, Option.filter_some, if_pos active]
  · rw [computeDiskRates, KeyMap.lookup_retain, hold]
    simp only [active]
    have all (kept : Option (Nat × Value)) : kept.filter (fun _ => true) = kept := by
      cases kept <;> rfl
    exact all _

theorem computeDiskRates_shown {tables : DiskTables}
    (place : diskPlace state id = some (device, m)) :
    ∃ other tile entry, diskPlace state other = some (device, m) ∧
      state.tiles.lookup other = some tile ∧
      (computeDiskRates state tables).1.lookup device = some entry ∧
      entry.perSec m = heldRate (tables.hold.lookup other) tile.lastTsMicros
        (tables.rawRate other tile) := by
  obtain ⟨counter, tile, found⟩ := counter_of_diskPlace place
  have key : id ∈ state.tiles.keys := AList.mem_keys.mp (KeyMap.mem_of_lookup found)
  exact foldl_diskTile_shown ((AList.keys_nodup _).filter _)
    (fun other member => (List.mem_filter.mp member).2) (List.mem_filter.mpr ⟨key, counter⟩) place

end Disk

end LinSight.Gui
