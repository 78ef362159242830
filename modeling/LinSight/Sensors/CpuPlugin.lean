import LinSight.Library.SharedSnapshots
import LinSight.Plugin.Manifest
import LinSight.Sensors.CpuUtil

set_option autoImplicit false

/-! The utilization sensors of the CPU plugin over the snapshot of `/proc/stat` that they share. -/

namespace LinSight.ProcStat

open Ieee (Value)
open SharedSnapshots (Record)
open Words (words lines stripPrefix stripSuffix parseUnsigned)

def StatError.text : StatError → String
  | missingAggregate => "missing aggregate cpu line"
  | tooShort => "aggregate cpu line too short (need ≥ 8 fields)"
  | badNumber field => s!"non-numeric field in cpu line: {field}"
  | io message => s!"io: {message}"

def CoreStat.toStat (s : CoreStat) : Stat :=
  ⟨s.user, s.nice, s.system, s.idle, s.iowait, s.irq, s.softirq, s.steal⟩

structure ProcStatSnapshot where
  aggregate : Stat
  cores : List (Nat × CoreStat)
deriving DecidableEq

/-- The first line; its fields are read as those of a core are. -/
def parseProcStat (s : String) : Except StatError Stat :=
  match (lines s.toList).head? with
  | none => .error .missingAggregate
  | some line =>
      if (words isWhitespace line).head? ≠ some cpu then .error .missingAggregate
      else (parseCoreStat line).map CoreStat.toStat

/-- One read of the file for both. -/
def readProcStatSnapshot (path : String) (content : Except String String) :
    Except StatError ProcStatSnapshot :=
  match content with
  | .ok content => do
      let aggregate ← parseProcStat content
      let cores ← parseCoreStats content
      return { aggregate, cores }
  | .error e => .error (.io s!"reading {path}: {e}")

/-- `BTreeMap::from_iter`: the last entry of a core stays. -/
def byCore (cores : List (Nat × CoreStat)) : KeyMap Nat CoreStat :=
  cores.foldl (fun map core => map.insert core.1 core.2) ∅

/-- The share of a core; 0 where the previous snapshot lacks it. -/
def coreShare (prevByCore : KeyMap Nat CoreStat) (coreIdx : Nat) (currentStat : CoreStat) :
    Option Value :=
  match prevByCore.lookup coreIdx with
  | some prevStat => coreUtilBetween prevStat currentStat
  | none => some (.finite 0)

def computeCoreUtilSnapshot (prev : Option (List (Nat × CoreStat)))
    (current : List (Nat × CoreStat)) : KeyMap Nat (Option Value) :=
  let prevByCore := byCore (prev.getD [])
  current.foldl (fun map core => map.insert core.1 (coreShare prevByCore core.1 core.2)) ∅

/-- In nanoseconds. -/
def procStatCacheTtl : Nat := 50000000

structure ProcStatCache where
  capturedAt : Nat
  snapshot : ProcStatSnapshot

structure CoreUtilCache where
  snapshot : List (Nat × CoreStat)
  utilByCore : KeyMap Nat (Option Value)

/-- What the utilization sensors keep. -/
structure Inner where
  statPath : String
  procStatCache : Option ProcStatCache
  prevStat : Option Stat
  prevCoreStats : Option (List (Nat × CoreStat))
  coreUtilCache : Option CoreUtilCache

/-- A sample: when it looks at the cache, what `/proc/stat` holds then, and when it has read it.
What the sensors of other files read is given. -/
structure Call where
  sensor : SensorId
  now : Nat
  stat : Except String String
  readAt : Nat
  other : Except PluginError (Option Reading)

/-- The core of `cpu.core<idx>.util`. -/
def coreIndex (sensor : SensorId) : Option Nat := do
  let rest ← stripPrefix "cpu.core".toList sensor.asStr.toList
  let idxStr ← stripSuffix ".util".toList rest
  parseUnsigned u32Bound idxStr

namespace Inner

def start (statPath : String) : Inner := ⟨statPath, none, none, none, none⟩

/-- The cached snapshot, while it is young. -/
def cached (inner : Inner) (now : Nat) : Option ProcStatSnapshot :=
  (inner.procStatCache.filter fun cache => now - cache.capturedAt ≤ procStatCacheTtl).map
    ProcStatCache.snapshot

def procStatSnapshot (inner : Inner) (call : Call) : Except PluginError ProcStatSnapshot × Inner :=
  match inner.cached call.now with
  | some snapshot => (.ok snapshot, inner)
  | none =>
      match readProcStatSnapshot inner.statPath call.stat with
      | .error e => (.error (.io e.text), inner)
      | .ok snapshot =>
          (.ok snapshot, { inner with procStatCache := some ⟨call.readAt, snapshot⟩ })

def refreshCoreUtilCache (inner : Inner) (call : Call) : Except PluginError PUnit.{1} × Inner :=
  match inner.procStatSnapshot call with
  | (.error e, inner) => (.error e, inner)
  | (.ok snapshot, inner) =>
      let currentList := snapshot.cores
      if inner.coreUtilCache.any fun cache => cache.snapshot = currentList then (.ok ⟨⟩, inner)
      else
        let utilByCore := computeCoreUtilSnapshot inner.prevCoreStats currentList
        (.ok ⟨⟩, { inner with
          prevCoreStats := some currentList
          coreUtilCache := some ⟨currentList, utilByCore⟩ })

/-- 0 at the first sample. -/
def aggregateUtil (prevStat : Option Stat) (current : Stat) : Option Value :=
  match prevStat with
  | none => some (.finite 0)
  | some prev => utilBetween prev current

/-- The reading is `none` where a sum of counters leaves 64 bits. -/
def sampleInner (inner : Inner) (call : Call) : Except PluginError (Option Reading) × Inner :=
  if call.sensor.asStr = "cpu.util" then
    match inner.procStatSnapshot call with
    | (.error e, inner) => (.error e, inner)
    | (.ok snapshot, inner) =>
        let current := snapshot.aggregate
        let util := aggregateUtil inner.prevStat current
        (.ok (util.map .scalar), { inner with prevStat := some current })
  -- these read other files, and leave the state of the utilization sensors
  else if call.sensor.asStr = "cpu.temp_c" ∨ call.sensor.asStr = "cpu.freq_hz" then
    (call.other, inner)
  else
    match coreIndex call.sensor with
    | none => (.error (.unsupported call.sensor.asStr), inner)
    | some coreIdx =>
        match inner.refreshCoreUtilCache call with
        | (.error e, inner) => (.error e, inner)
        | (.ok _, inner) =>
            match inner.coreUtilCache.bind fun cache => cache.utilByCore.lookup coreIdx with
            | none => (.error (.unsupported call.sensor.asStr), inner)
            | some util => (.ok (util.map .scalar), inner)

end Inner

/-- The two that keep a previous snapshot: the aggregate sensor, and all sensors of cores. -/
inductive Reader where
  | util
  | cores
deriving DecidableEq

def reader (sensor : SensorId) : Option Reader :=
  if sensor.asStr = "cpu.util" then some .util
  else if sensor.asStr = "cpu.temp_c" ∨ sensor.asStr = "cpu.freq_hz" then none
  else (coreIndex sensor).map fun _ => .cores

/-- The plugin, and a record of the snapshots that it took. No step reads the record. -/
structure Traced where
  inner : Inner
  record : Record ProcStatSnapshot Reader

namespace Traced

def start (statPath : String) : Traced := ⟨.start statPath, .start⟩

/-- The snapshot that a utilization sensor takes itself. -/
def fresh (t : Traced) (call : Call) : Option ProcStatSnapshot :=
  match t.inner.cached call.now with
  | some _ => none
  | none => (readProcStatSnapshot t.inner.statPath call.stat).toOption

/-- The record when the sensor has its snapshot. -/
def captured (t : Traced) (call : Call) : Record ProcStatSnapshot Reader :=
  t.record.take (t.fresh call)

def step (t : Traced) (call : Call) : Traced where
  inner := (t.inner.sampleInner call).2
  record := match reader call.sensor, (t.inner.procStatSnapshot call).1 with
    | some who, .ok _ => (t.captured call).serve who
    | _, _ => t.record

def run (statPath : String) (calls : List Call) : Traced := calls.foldl step (start statPath)

end Traced

section Shares

/-- What is computed for a core. -/
theorem lookup_computeCoreUtilSnapshot (prev : Option (List (Nat × CoreStat)))
    (current : List (Nat × CoreStat)) (coreIdx : Nat) :
    (computeCoreUtilSnapshot prev current).lookup coreIdx =
      ((byCore current).lookup coreIdx).map (coreShare (byCore (prev.getD [])) coreIdx) := by
  have loop (shares : KeyMap Nat (Option Value)) (stats : KeyMap Nat CoreStat)
      (same : shares.lookup coreIdx =
        (stats.lookup coreIdx).map (coreShare (byCore (prev.getD [])) coreIdx)) :
      (current.foldl (fun map core => map.insert core.1
          (coreShare (byCore (prev.getD [])) core.1 core.2)) shares).lookup coreIdx =
        ((current.foldl (fun map core => map.insert core.1 core.2) stats).lookup coreIdx).map
          (coreShare (byCore (prev.getD [])) coreIdx) := by
    induction current generalizing shares stats with
    | nil => exact same
    | cons core rest ih =>
        refine ih _ _ ?_
        rw [KeyMap.lookup_insert_eq, KeyMap.lookup_insert_eq]
        split
        · rename_i here
          rw [here, Option.map_some]
        · exact same
  exact loop ∅ ∅ rfl

end Shares

section Steps

variable {t : Traced} {call : Call}

/-- What the plugin keeps, by the record. -/
structure Tracked (t : Traced) : Prop where
  ordered : t.record.Ordered
  cached : t.inner.procStatCache.map ProcStatCache.snapshot = t.record.taken.getLast?
  prevStat : t.inner.prevStat = (t.record.latest .util).map ProcStatSnapshot.aggregate
  prevCoreStats : t.inner.prevCoreStats = (t.record.latest .cores).map ProcStatSnapshot.cores
  tabled : t.inner.coreUtilCache.map CoreUtilCache.snapshot = t.inner.prevCoreStats
  shares : ∀ front prev cur, t.record.taken = front ++ [prev, cur] →
    t.record.SeesNewest .cores → t.record.SawPrevious .cores → prev.cores ≠ cur.cores →
    t.inner.coreUtilCache =
      some ⟨cur.cores, computeCoreUtilSnapshot (some prev.cores) cur.cores⟩

theorem start_tracked (statPath : String) : Tracked (.start statPath) :=
  ⟨Record.start_ordered, rfl, rfl, rfl, rfl, fun front _ _ taken =>
    absurd taken.symm (List.append_ne_nil_of_right_ne_nil front (List.cons_ne_nil _ _))⟩

/-- A sensor gets the newest snapshot, or nothing changes. -/
theorem procStatSnapshot_cases (tracked : Tracked t) (call : Call) :
    (∃ e, t.inner.procStatSnapshot call = (.error e, t.inner)) ∨
    ∃ snapshot cache, t.inner.procStatSnapshot call =
        (.ok snapshot, { t.inner with procStatCache := some cache }) ∧
      cache.snapshot = snapshot ∧ (t.captured call).taken.getLast? = some snapshot := by
  unfold Inner.procStatSnapshot Traced.captured Traced.fresh
  cases hit : t.inner.cached call.now with
  | some snapshot =>
      obtain ⟨cache, young, rfl⟩ := Option.map_eq_some_iff.mp hit
      have stored : t.inner.procStatCache = some cache := (Option.filter_eq_some_iff.mp young).1
      refine .inr ⟨cache.snapshot, cache, ?_, rfl, ?_⟩
      · rw [← stored]
      · rw [Record.take_none, ← tracked.cached, stored, Option.map_some]
  | none =>
      cases readProcStatSnapshot t.inner.statPath call.stat with
      | error e => exact .inl ⟨_, rfl⟩
      | ok snapshot =>
          exact .inr ⟨snapshot, ⟨call.readAt, snapshot⟩, rfl, rfl, List.getLast?_concat⟩

/-- A sample of the aggregate sensor that gets a snapshot. -/
theorem sampleInner_util {snapshot : ProcStatSnapshot} {inner : Inner}
    (util : call.sensor.asStr = "cpu.util")
    (got : t.inner.procStatSnapshot call = (.ok snapshot, inner)) :
    t.inner.sampleInner call =
      (.ok ((Inner.aggregateUtil inner.prevStat snapshot.aggregate).map .scalar),
        { inner with prevStat := some snapshot.aggregate }) := by
  unfold Inner.sampleInner
  rw [if_pos util, got]

/-- A refresh keeps the table of the same counters, and computes one for others. -/
theorem refreshCoreUtilCache_cases (tracked : Tracked t) {snapshot : ProcStatSnapshot}
    {cache : ProcStatCache} (got : t.inner.procStatSnapshot call =
      (.ok snapshot, { t.inner with procStatCache := some cache })) :
    ∃ table, t.inner.refreshCoreUtilCache call =
        (.ok ⟨⟩, { t.inner with
          procStatCache := some cache
          prevCoreStats := some snapshot.cores
          coreUtilCache := some table }) ∧
      table.snapshot = snapshot.cores ∧
      (t.inner.coreUtilCache = some table ∨
        t.inner.prevCoreStats ≠ some snapshot.cores ∧
        table.utilByCore = computeCoreUtilSnapshot t.inner.prevCoreStats snapshot.cores) := by
  unfold Inner.refreshCoreUtilCache
  rw [got]
  dsimp only
  cases kept : t.inner.coreUtilCache with
  | none =>
      refine ⟨⟨snapshot.cores, _⟩, rfl, rfl, .inr ⟨?_, rfl⟩⟩
      rw [← tracked.tabled, kept]
      exact Option.some_ne_none _ |>.symm
  | some table =>
      have prev : t.inner.prevCoreStats = some table.snapshot := by
        rw [← tracked.tabled, kept, Option.map_some]
      by_cases same : table.snapshot = snapshot.cores
      · refine ⟨table, ?_, same, .inl rfl⟩
        rw [Option.any_some, if_pos (decide_eq_true same), prev, same]
      · refine ⟨⟨snapshot.cores, computeCoreUtilSnapshot t.inner.prevCoreStats snapshot.cores⟩, ?_,
          rfl, .inr ⟨?_, rfl⟩⟩
        · rw [Option.any_some, if_neg (by rw [decide_eq_false same]; exact Bool.false_ne_true)]
        · rw [prev]
          exact fun other => same (Option.some.inj other)

theorem latest_captured (tracked : Tracked t) (call : Call) (who : Reader) :
    (t.captured call).latest who = t.record.latest who :=
  Record.latest_take tracked.ordered (t.fresh call) who

/-- The table of a snapshot that a core was served. -/
theorem shares_captured (tracked : Tracked t) {front : List ProcStatSnapshot}
    {prev cur : ProcStatSnapshot} (taken : (t.captured call).taken = front ++ [prev, cur])
    (sees : (t.captured call).SeesNewest .cores) (saw : (t.captured call).SawPrevious .cores)
    (differ : prev.cores ≠ cur.cores) :
    t.inner.coreUtilCache =
      some ⟨cur.cores, computeCoreUtilSnapshot (some prev.cores) cur.cores⟩ := by
  unfold Traced.captured at taken sees saw
  cases fresh : t.fresh call with
  | some snapshot =>
      rw [fresh] at sees
      exact absurd sees (Record.not_seesNewest_take tracked.ordered snapshot .cores)
  | none =>
      rw [fresh, Record.take_none] at taken sees saw
      exact tracked.shares front prev cur taken sees saw differ

/-- After a sample of a core, the table is of the newest two snapshots, where the sensors of the
cores were served the previous one and it has other counters. -/
theorem table_eq (tracked : Tracked t) {front : List ProcStatSnapshot}
    {prev cur snapshot : ProcStatSnapshot} {table : CoreUtilCache}
    (taken : (t.captured call).taken = front ++ [prev, cur])
    (newest : (t.captured call).taken.getLast? = some snapshot)
    (saw : (t.captured call).SawPrevious .cores) (differ : prev.cores ≠ cur.cores)
    (here : table.snapshot = snapshot.cores)
    (made : t.inner.coreUtilCache = some table ∨
      t.inner.prevCoreStats ≠ some snapshot.cores ∧
      table.utilByCore = computeCoreUtilSnapshot t.inner.prevCoreStats snapshot.cores) :
    table = ⟨cur.cores, computeCoreUtilSnapshot (some prev.cores) cur.cores⟩ := by
  have ordered : (t.captured call).Ordered := tracked.ordered.take (t.fresh call)
  have last := Record.getLast?_taken taken
  cases Option.some.inj (newest.symm.trans last)
  have before := tracked.prevCoreStats
  rw [← latest_captured tracked call] at before
  by_cases sees : (t.captured call).SeesNewest .cores
  · rw [Record.latest_newest ordered sees, last, Option.map_some] at before
    rcases made with kept | ⟨other, _⟩
    · rw [shares_captured tracked taken sees saw differ] at kept
      exact (Option.some.inj kept).symm
    · exact absurd before other
  · rw [Record.latest_previous ordered taken sees saw, Option.map_some] at before
    rcases made with kept | ⟨_, computed⟩
    · have tabled := tracked.tabled
      rw [kept, before, Option.map_some, here] at tabled
      exact absurd (Option.some.inj tabled).symm differ
    · rw [before] at computed
      obtain ⟨counters, shares⟩ := table
      dsimp only at here computed
      rw [here, computed]

theorem reader_util : reader call.sensor = some .util ↔ call.sensor.asStr = "cpu.util" := by
  unfold reader
  split
  · rename_i util
    exact iff_of_true rfl util
  · rename_i util
    refine iff_of_false (fun reads => ?_) util
    split at reads
    · cases reads
    · obtain ⟨_, _, other⟩ := Option.map_eq_some_iff.mp reads
      cases other

theorem of_reader_cores (core : reader call.sensor = some .cores) :
    call.sensor.asStr ≠ "cpu.util" ∧
      ¬ (call.sensor.asStr = "cpu.temp_c" ∨ call.sensor.asStr = "cpu.freq_hz") ∧
      ∃ coreIdx, coreIndex call.sensor = some coreIdx := by
  unfold reader at core
  split at core
  · cases core
  · rename_i util
    split at core
    · cases core
    · rename_i files
      obtain ⟨coreIdx, index, _⟩ := Option.map_eq_some_iff.mp core
      exact ⟨util, files, coreIdx, index⟩

theorem sampleInner_other (other : reader call.sensor = none) (inner : Inner) :
    (inner.sampleInner call).2 = inner := by
  unfold reader at other
  unfold Inner.sampleInner
  split
  · rename_i util
    rw [if_pos util] at other
    cases other
  · rename_i util
    rw [if_neg util] at other
    split
    · rfl
    · rename_i files
      rw [if_neg files] at other
      rw [Option.map_eq_none_iff.mp other]

/-- A sample of a sensor of a core that gets a snapshot. -/
theorem sampleInner_core {coreIdx : Nat} (inner : Inner) {table : CoreUtilCache}
    (core : reader call.sensor = some .cores) (index : coreIndex call.sensor = some coreIdx)
    (refreshed : t.inner.refreshCoreUtilCache call =
      (.ok ⟨⟩, { inner with coreUtilCache := some table })) :
    t.inner.sampleInner call =
      ((table.utilByCore.lookup coreIdx).elim (.error (.unsupported call.sensor.asStr))
        fun util => .ok (util.map .scalar), { inner with coreUtilCache := some table }) := by
  obtain ⟨util, files, _⟩ := of_reader_cores core
  unfold Inner.sampleInner
  rw [if_neg util, if_neg files, index, refreshed]
  dsimp only
  rw [Option.bind_some]
  cases table.utilByCore.lookup coreIdx <;> rfl

/-- A sample that gets no snapshot. -/
theorem sampleInner_failed {e : PluginError} {who : Reader}
    (reads : reader call.sensor = some who)
    (failed : t.inner.procStatSnapshot call = (.error e, t.inner)) :
    t.inner.sampleInner call = (.error e, t.inner) := by
  unfold Inner.sampleInner
  cases who with
  | util => rw [if_pos (reader_util.mp reads), failed]
  | cores =>
      obtain ⟨util, files, coreIdx, index⟩ := of_reader_cores reads
      rw [if_neg util, if_neg files, index, Inner.refreshCoreUtilCache, failed]

theorem Tracked.step (tracked : Tracked t) (call : Call) : Tracked (t.step call) := by
  have ordered : (t.captured call).Ordered := tracked.ordered.take (t.fresh call)
  unfold Traced.step
  cases reads : reader call.sensor with
  | none =>
      rw [sampleInner_other reads]
      exact tracked
  | some who =>
      rcases procStatSnapshot_cases tracked call with
        ⟨e, failed⟩ | ⟨snapshot, cache, got, held, newest⟩
      · rw [sampleInner_failed reads failed, failed]
        exact tracked
      · have some_taken : (t.captured call).taken ≠ [] :=
          List.ne_nil_of_mem (List.mem_of_getLast? newest)
        cases who with
        | util =>
            rw [sampleInner_util (reader_util.mp reads) got, got]
            refine ⟨ordered.serve some_taken .util, ?_, ?_, ?_, tracked.tabled, ?_⟩
            · rw [Option.map_some, held, Record.taken_serve, newest]
            · rw [Record.latest_serve, if_pos rfl, newest, Option.map_some]
            · rw [Record.latest_serve, if_neg (by decide), latest_captured tracked]
              exact tracked.prevCoreStats
            · intro front prev cur taken sees saw differ
              rw [Record.seesNewest_serve, or_iff_right (by decide)] at sees
              rw [Record.taken_serve] at taken
              rw [Record.sawPrevious_serve taken] at saw
              exact shares_captured tracked taken sees saw differ
        | cores =>
            obtain ⟨_, _, coreIdx, index⟩ := of_reader_cores reads
            obtain ⟨table, refreshed, here, made⟩ := refreshCoreUtilCache_cases tracked got
            rw [sampleInner_core { t.inner with
              procStatCache := some cache, prevCoreStats := some snapshot.cores } reads index
              refreshed, got]
            refine ⟨ordered.serve some_taken .cores, ?_, ?_, ?_, ?_, ?_⟩
            · rw [Option.map_some, held, Record.taken_serve, newest]
            · rw [Record.latest_serve, if_neg (by decide), latest_captured tracked]
              exact tracked.prevStat
            · rw [Record.latest_serve, if_pos rfl, newest, Option.map_some]
            · rw [Option.map_some, here]
            · intro front prev cur taken _ saw differ
              rw [Record.taken_serve] at taken
              rw [Record.sawPrevious_serve taken] at saw
              exact congrArg some (table_eq tracked taken newest saw differ here made)

theorem tracked_run (statPath : String) (calls : List Call) : Tracked (.run statPath calls) := by
  induction calls using List.reverseRecOn with
  | nil => exact start_tracked statPath
  | append_singleton front last ih =>
      rw [Traced.run, List.foldl_append]
      exact ih.step last

end Steps

end LinSight.ProcStat
