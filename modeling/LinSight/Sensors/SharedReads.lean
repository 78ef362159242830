import LinSight.Sensors.CpuPlugin
import LinSight.Sensors.XeUtil

set_option autoImplicit false

/-! What a utilization sensor reads where others ask for the same snapshots. -/

namespace LinSight

open Ieee (Value binary64)
open SharedSnapshots (Record)

namespace ProcStat

/-- The reading is the busy share between the newest two snapshots that were taken. -/
def SharesNewest (t : Traced) (call : Call) : Prop :=
  ∀ front prev cur, (t.step call).record.taken = front ++ [prev, cur] →
    ∀ reading, (t.inner.sampleInner call).1 = .ok reading →
      (call.sensor.asStr = "cpu.util" →
        reading = (utilBetween prev.aggregate cur.aggregate).map .scalar) ∧
      ∀ coreIdx, coreIndex call.sensor = some coreIdx →
        ∀ a, (byCore prev.cores).lookup coreIdx = some a →
          ∃ b, (byCore cur.cores).lookup coreIdx = some b ∧
            reading = (coreUtilBetween a b).map .scalar

/-- The aggregate sensor is served the newest snapshot for the first time, and was served the one
before it; for a core, some sensor of a core was served the one before, with other counters. -/
def InTurn (t : Traced) (call : Call) : Prop :=
  ∀ front prev cur, (t.captured call).taken = front ++ [prev, cur] →
    (call.sensor.asStr = "cpu.util" →
      ¬ (t.captured call).SeesNewest .util ∧ (t.captured call).SawPrevious .util) ∧
    ∀ coreIdx, coreIndex call.sensor = some coreIdx →
      (t.captured call).SawPrevious .cores ∧ prev.cores ≠ cur.cores

section Calls

variable {t : Traced} {call : Call}

theorem reader_core {coreIdx : Nat} (index : coreIndex call.sensor = some coreIdx) :
    reader call.sensor = some .cores := by
  have others : ∀ name ∈ ["cpu.util", "cpu.temp_c", "cpu.freq_hz"], coreIndex ⟨name⟩ = none := by
    decide +kernel
  have named {name : String} (member : name ∈ ["cpu.util", "cpu.temp_c", "cpu.freq_hz"]) :
      call.sensor.asStr ≠ name := by
    rintro rfl
    rw [others _ member] at index
    cases index
  unfold reader
  rw [if_neg (named (by simp)), if_neg (not_or.mpr ⟨named (by simp), named (by simp)⟩), index]
  rfl

theorem sharesNewest_of_inTurn (tracked : Tracked t) (inTurn : InTurn t call) :
    SharesNewest t call := by
  intro front prev cur taken reading sampled
  have ordered : (t.captured call).Ordered := tracked.ordered.take (t.fresh call)
  -- the sample has got a snapshot, since it has a reading
  have served {who : Reader} (reads : reader call.sensor = some who) :
      ∃ cache, t.inner.procStatSnapshot call =
          (.ok cur, { t.inner with procStatCache := some cache }) ∧
        (t.captured call).taken = front ++ [prev, cur] ∧
        (t.captured call).taken.getLast? = some cur := by
    rcases procStatSnapshot_cases tracked call with
      ⟨e, failed⟩ | ⟨snapshot, cache, got, _, newest⟩
    · rw [sampleInner_failed reads failed] at sampled
      cases sampled
    · have here : (t.captured call).taken = front ++ [prev, cur] := by
        rw [← taken]
        simp only [Traced.step, reads, got, Record.taken_serve]
      have last := Record.getLast?_taken here
      cases Option.some.inj (newest.symm.trans last)
      exact ⟨cache, got, here, last⟩
  constructor
  · intro util
    obtain ⟨cache, got, here, _⟩ := served (reader_util.mpr util)
    obtain ⟨lacks, saw⟩ := (inTurn front prev cur here).1 util
    have before : t.inner.prevStat = some prev.aggregate := by
      rw [tracked.prevStat, ← latest_captured tracked call,
        Record.latest_previous ordered here lacks saw, Option.map_some]
    rw [sampleInner_util util got, before] at sampled
    exact (Except.ok.inj sampled).symm
  · intro coreIdx index a known
    have core := reader_core index
    obtain ⟨cache, got, here, newest⟩ := served core
    obtain ⟨saw, differ⟩ := (inTurn front prev cur here).2 coreIdx index
    obtain ⟨table, refreshed, same, made⟩ := refreshCoreUtilCache_cases tracked got
    rw [sampleInner_core { t.inner with
      procStatCache := some cache, prevCoreStats := some cur.cores } core index refreshed,
      table_eq tracked here newest saw differ same made,
      lookup_computeCoreUtilSnapshot] at sampled
    dsimp only at sampled
    cases found : (byCore cur.cores).lookup coreIdx with
    | none =>
        rw [found] at sampled
        cases sampled
    | some b =>
        rw [found, Option.map_some, Option.getD_some, coreShare, known] at sampled
        exact ⟨b, rfl, (Except.ok.inj sampled).symm⟩

end Calls

end ProcStat

namespace Fdinfo

/-- A sample of `xe.gpu<idx>.util`. -/
structure Request where
  idx : Nat
  now : Nat
  proc : Proc

/-- The plugin, and a record of the snapshots that it took. No step reads the record. -/
structure Recorded where
  inner : Inner
  record : Record Snapshots String

namespace Recorded

def start (devices : List String) : Recorded := ⟨.start devices, .start⟩

/-- The snapshot that a sample takes itself. -/
def fresh (r : Recorded) (request : Request) : Option Snapshots :=
  if r.inner.cacheFresh request.now then none
  else (r.inner.refresh request.now request.proc).cachedSnapshot.map Prod.snd

def captured (r : Recorded) (request : Request) : Record Snapshots String :=
  r.record.take (r.fresh request)

def step (r : Recorded) (request : Request) : Recorded :=
  match r.inner.devices[request.idx]? with
  | none => r
  | some pdev =>
      ⟨(r.inner.sampleUtil request.idx request.now request.proc).2,
        (r.captured request).serve pdev⟩

def run (devices : List String) (requests : List Request) : Recorded :=
  requests.foldl step (start devices)

end Recorded

/-- What a device finds in a snapshot. -/
def Snapshots.of (snaps : Snapshots) (pdev : String) : PdevSnapshot :=
  (snaps.lookup pdev).getD .empty

/-- The reading is the busy share between the newest two snapshots that were taken. -/
def SharesNewest (r : Recorded) (request : Request) : Prop :=
  ∀ pdev, r.inner.devices[request.idx]? = some pdev →
    ∀ front prev cur, (r.step request).record.taken = front ++ [prev, cur] →
      (r.inner.sampleUtil request.idx request.now request.proc).1 =
        some (binary64.mul (maxUtil (Snapshots.of prev pdev) (Snapshots.of cur pdev))
          (.finite 100))

/-- The device is served the newest snapshot for the first time, and was served the one before. -/
def InTurn (r : Recorded) (request : Request) : Prop :=
  ∀ pdev, r.inner.devices[request.idx]? = some pdev →
    ∀ front prev cur, (r.captured request).taken = front ++ [prev, cur] →
      ¬ (r.captured request).SeesNewest pdev ∧ (r.captured request).SawPrevious pdev

section Requests

variable {r : Recorded} {request : Request}

/-- What the plugin keeps, by the record. -/
structure Kept (r : Recorded) : Prop where
  ordered : r.record.Ordered
  cached : r.inner.cachedSnapshot.map Prod.snd = r.record.taken.getLast?
  stored : ∀ pdev, r.inner.utilState.lookup pdev =
    (r.record.latest pdev).map fun snaps => Snapshots.of snaps pdev

theorem start_kept (devices : List String) : Kept (.start devices) :=
  ⟨Record.start_ordered, rfl, fun _ => rfl⟩

/-- The newest snapshot is the one in the cache, and each device reads it there. -/
theorem captured_newest (kept : Kept r) (request : Request) :
    ∃ snaps, (r.captured request).taken.getLast? = some snaps ∧
      (r.inner.refresh request.now request.proc).cachedSnapshot.map Prod.snd = some snaps ∧
      ∀ pdev, (r.inner.refresh request.now request.proc).current pdev = Snapshots.of snaps pdev := by
  have cached : ∃ time snaps,
      (r.inner.refresh request.now request.proc).cachedSnapshot = some (time, snaps) ∧
      (r.captured request).taken.getLast? = some snaps := by
    unfold Recorded.captured Recorded.fresh Inner.refresh
    by_cases young : r.inner.cacheFresh request.now = true
    · rw [if_pos young, if_pos young, Record.take_none, ← kept.cached]
      cases cached : r.inner.cachedSnapshot with
      | none =>
          rw [Inner.cacheFresh, cached] at young
          cases young
      | some pair => exact ⟨pair.1, pair.2, rfl, rfl⟩
    · rw [if_neg young, if_neg young]
      exact ⟨_, _, rfl, List.getLast?_concat⟩
  obtain ⟨time, snaps, cached, newest⟩ := cached
  refine ⟨snaps, newest, by rw [cached, Option.map_some], fun pdev => ?_⟩
  rw [Inner.current, cached, Option.bind_some]
  rfl

theorem Kept.step (kept : Kept r) (request : Request) : Kept (r.step request) := by
  unfold Recorded.step
  cases device : r.inner.devices[request.idx]? with
  | none => exact kept
  | some pdev =>
      obtain ⟨snaps, newest, cached, current⟩ := captured_newest kept request
      have ordered : (r.captured request).Ordered := kept.ordered.take (r.fresh request)
      have some_taken : (r.captured request).taken ≠ [] :=
        List.ne_nil_of_mem (List.mem_of_getLast? newest)
      simp only [Inner.sampleUtil, device]
      refine ⟨ordered.serve some_taken pdev, ?_, fun other => ?_⟩
      · dsimp only
        rw [cached, Record.taken_serve, newest]
      · rw [KeyMap.lookup_insert_eq, Record.latest_serve, utilState_refresh]
        split
        · rename_i here
          rw [newest, current, here, Option.map_some]
        · rw [Recorded.captured, Record.latest_take kept.ordered, kept.stored]

theorem kept_run (devices : List String) (requests : List Request) :
    Kept (.run devices requests) := by
  induction requests using List.reverseRecOn with
  | nil => exact start_kept devices
  | append_singleton front last ih =>
      rw [Recorded.run, List.foldl_append]
      exact ih.step last

theorem sharesNewest_of_inTurn (kept : Kept r) (inTurn : InTurn r request) :
    SharesNewest r request := by
  intro pdev device front prev cur taken
  have here : (r.captured request).taken = front ++ [prev, cur] := by
    rw [← taken]
    simp only [Recorded.step, device, Record.taken_serve]
  obtain ⟨lacks, saw⟩ := inTurn pdev device front prev cur here
  obtain ⟨snaps, newest, _, current⟩ := captured_newest kept request
  have last := Record.getLast?_taken here
  cases Option.some.inj (newest.symm.trans last)
  have before : r.inner.utilState.lookup pdev = some (Snapshots.of prev pdev) := by
    have latest := Record.latest_previous (kept.ordered.take (r.fresh request)) here lacks saw
    rw [Record.latest_take kept.ordered] at latest
    rw [kept.stored, latest, Option.map_some]
  simp only [Inner.sampleUtil, device, utilState_refresh, before, current]

end Requests

end Fdinfo

/-- In every sequence of calls on the two plugins, a reading in turn is the share between the newest
two snapshots. -/
theorem readings_share_newest (statPath : String) (calls : List ProcStat.Call)
    (devices : List String) (requests : List Fdinfo.Request) :
    (∀ front call, front ++ [call] <+: calls → ProcStat.InTurn (.run statPath front) call →
      ProcStat.SharesNewest (.run statPath front) call) ∧
    ∀ front request, front ++ [request] <+: requests →
      Fdinfo.InTurn (.run devices front) request →
        Fdinfo.SharesNewest (.run devices front) request := by
  constructor
  · intro front call _ inTurn
    exact ProcStat.sharesNewest_of_inTurn (ProcStat.tracked_run statPath front) inTurn
  · intro front request _ inTurn
    exact Fdinfo.sharesNewest_of_inTurn (Fdinfo.kept_run devices front) inTurn

/-- A CPU that is busy half of the time, with a single core. -/
def halfBusy (sensor : String) (now : Nat) (counters : String) : ProcStat.Call :=
  ⟨⟨sensor⟩, now, .ok ("cpu  " ++ counters ++ "\ncpu0 " ++ counters ++ "\n"), now,
    .error (.unsupported sensor)⟩

def firstTick (sensor : String) : ProcStat.Call := halfBusy sensor 0 "10 0 0 10 0 0 0 0"

def secondTick (sensor : String) : ProcStat.Call := halfBusy sensor 1000000000 "60 0 0 60 0 0 0 0"

/-- Another reader, 10 ms after the second tick. -/
def scrape (sensor : String) : ProcStat.Call := halfBusy sensor 1010000000 "61 0 0 60 0 0 0 0"

/-- A client that spends half of the cycles. -/
def halfSpent (now : Nat) (busy total : String) : Fdinfo.Request :=
  ⟨0, now, [100], fun _ => [(3, "/dev/dri/renderD128")], fun _ _ =>
    some (Fdinfo.clientText "1" busy total)⟩

def firstSpent : Fdinfo.Request := halfSpent 0 "0" "1000"

def secondSpent : Fdinfo.Request := halfSpent 1000000000 "500" "2000"

/-- Another reader, 200 ms after the second tick. -/
def scrapeSpent : Fdinfo.Request := halfSpent 1200000000 "510" "2200"

/-- One reader, once a second. -/
theorem readings_share_newest_ticks :
    ProcStat.SharesNewest (.run "/proc/stat" [firstTick "cpu.util"]) (secondTick "cpu.util") ∧
      ProcStat.SharesNewest (.run "/proc/stat" [firstTick "cpu.core0.util"])
        (secondTick "cpu.core0.util") ∧
      Fdinfo.SharesNewest (.run [Fdinfo.slot] [firstSpent]) secondSpent := by
  refine ⟨(readings_share_newest "/proc/stat" [firstTick "cpu.util", secondTick "cpu.util"]
      [] []).1 [firstTick "cpu.util"] (secondTick "cpu.util") (List.prefix_refl _) ?_,
    (readings_share_newest "/proc/stat" [firstTick "cpu.core0.util", secondTick "cpu.core0.util"]
      [] []).1 [firstTick "cpu.core0.util"] (secondTick "cpu.core0.util") (List.prefix_refl _) ?_,
    (readings_share_newest "/proc/stat" [] [Fdinfo.slot] [firstSpent, secondSpent]).2
      [firstSpent] secondSpent (List.prefix_refl _) ?_⟩
  · intro front prev cur _
    refine ⟨fun _ => by decide +kernel, fun coreIdx index => ?_⟩
    have aggregate : ProcStat.coreIndex (secondTick "cpu.util").sensor = none := by decide +kernel
    rw [aggregate] at index
    cases index
  · intro front prev cur taken
    refine ⟨fun util => absurd util (by decide +kernel), fun _ _ => ⟨by decide +kernel, ?_⟩⟩
    have moved : (((ProcStat.Traced.run "/proc/stat" [firstTick "cpu.core0.util"]).captured
        (secondTick "cpu.core0.util")).taken.map ProcStat.ProcStatSnapshot.cores).Pairwise
          (· ≠ ·) := by decide +kernel
    rw [taken, List.map_append, List.pairwise_append] at moved
    exact List.rel_of_pairwise_cons moved.2.1 List.mem_cons_self
  · intro pdev device front prev cur _
    cases Option.some.inj device
    decide +kernel

/-- The second reader gets 0, where the share is 50. -/
theorem readings_share_newest_scrape :
    ¬ ProcStat.SharesNewest
        (.run "/proc/stat" [firstTick "cpu.util", secondTick "cpu.util"]) (scrape "cpu.util") ∧
      ¬ Fdinfo.SharesNewest (.run [Fdinfo.slot] [firstSpent, secondSpent]) scrapeSpent := by
  constructor
  · intro shares
    let t := ProcStat.Traced.run "/proc/stat" [firstTick "cpu.util", secondTick "cpu.util"]
    have taken : (t.step (scrape "cpu.util")).record.taken =
        [] ++ [⟨⟨10, 0, 0, 10, 0, 0, 0, 0⟩, [(0, ⟨10, 0, 0, 10, 0, 0, 0, 0⟩)]⟩,
          ⟨⟨60, 0, 0, 60, 0, 0, 0, 0⟩, [(0, ⟨60, 0, 0, 60, 0, 0, 0, 0⟩)]⟩] := by decide +kernel
    have idle : (t.inner.sampleInner (scrape "cpu.util")).1.toOption =
        some (some (.scalar (.finite 0))) := by decide +kernel
    cases sampled : (t.inner.sampleInner (scrape "cpu.util")).1 with
    | error e =>
        rw [sampled] at idle
        cases idle
    | ok reading =>
        rw [sampled] at idle
        cases Option.some.inj idle
        have half := (shares _ _ _ taken _ sampled).1 rfl
        exact absurd half (by decide +kernel)
  · intro shares
    let r := Fdinfo.Recorded.run [Fdinfo.slot] [firstSpent, secondSpent]
    have two : (r.step scrapeSpent).record.taken.length = 2 := by decide +kernel
    have half : ((r.step scrapeSpent).record.taken.head?.bind fun prev =>
        (r.step scrapeSpent).record.taken.getLast?.map fun cur => Fdinfo.maxUtil
          (Fdinfo.Snapshots.of prev Fdinfo.slot) (Fdinfo.Snapshots.of cur Fdinfo.slot)) =
        some (.finite (1 / 2)) := by decide +kernel
    have idle : (r.inner.sampleUtil scrapeSpent.idx scrapeSpent.now scrapeSpent.proc).1 =
        some (.finite 0) := by decide +kernel
    obtain ⟨prev, cur, taken⟩ := List.length_eq_two.mp two
    rw [taken] at half
    have spent : Fdinfo.maxUtil (Fdinfo.Snapshots.of prev Fdinfo.slot)
        (Fdinfo.Snapshots.of cur Fdinfo.slot) = .finite (1 / 2) := Option.some.inj half
    have share := shares Fdinfo.slot rfl [] prev cur taken
    rw [idle, spent] at share
    exact absurd share (by decide +kernel)

end LinSight
