import LinSight.Library.GuardedCalls
import LinSight.Library.KeyMap
import LinSight.Library.Words
import LinSight.Plugin.Manifest
import LinSight.Sensors.Fdinfo

set_option autoImplicit false

/-! The NVML plugin: calls into a driver that may hang, and the table of GPU processes. -/

namespace LinSight.Nvml

open GuardedCalls (Call Guard History Policy Verdict)

/-- In nanoseconds, as all times here. -/
def nvmlTimeout : Nat := 5000000000

def maxConcurrentNvml : Nat := 4

def backoffBase : Nat := 1000000000

def backoffMax : Nat := 300000000000

def maxDetachedHandles : Nat := 16

def u32Max : Nat := 4294967295

abbrev SampleResult := Except PluginError Reading

/-- The state after `init`; a detached handle stands for the time at which its thread ends. -/
structure NvmlState where
  deviceCount : Nat
  backoffUntil : KeyMap Nat Nat
  strikes : KeyMap Nat Nat
  permits : Nat
  detachedHandles : List (Option Nat)

def NvmlState.start (deviceCount : Nat) : NvmlState where
  deviceCount := deviceCount
  backoffUntil := ∅
  strikes := ∅
  permits := maxConcurrentNvml
  detachedHandles := []

/-- What a call meets: the instants it looks at the clock, and the driver, which may take any time
to answer and to let the thread end. -/
structure Env where
  lookAt : Nat
  reapAt : Nat
  startAt : Nat
  doneAt : Nat
  answers : Option Nat
  endsAt : Option Nat
  device : Nat → List Char → SampleResult
  look_le : lookAt ≤ reapAt
  reap_le : reapAt ≤ startAt
  start_le : startAt ≤ doneAt

def markBackoff (state : NvmlState) (idx now : Nat) : NvmlState :=
  let strikes := min ((state.strikes.lookup idx).getD 0 + 1) u32Max
  let factor := 2 ^ min strikes 8
  let backoff := min (backoffBase * factor) backoffMax
  { state with
    strikes := state.strikes.insert idx strikes
    backoffUntil := state.backoffUntil.insert idx (now + backoff) }

def clearBackoff (state : NvmlState) (idx : Nat) : NvmlState :=
  { state with
    strikes := state.strikes.erase idx
    backoffUntil := state.backoffUntil.erase idx }

def backedOff (idx : Nat) : PluginError :=
  .unsupported s!"nvml gpu{idx} backed off after timeout"

def capReached (idx : Nat) : PluginError :=
  .unsupported s!"nvml gpu{idx} detached-worker cap reached ({maxDetachedHandles}); backing off"

def timedOut (idx : Nat) : PluginError :=
  .unsupported s!"nvml gpu{idx} timed out after 5s"

/-- `Semaphore::acquire` under the lock of the state; `none` waits for a permit that nobody can
give back. -/
def acquire (state : NvmlState) : Option NvmlState :=
  if state.permits = 0 then none else some { state with permits := state.permits - 1 }

/-- The drop of a `SemaphorePermit`. -/
def release (state : NvmlState) : NvmlState :=
  { state with permits := min maxConcurrentNvml (state.permits + 1) }

def sampleInnerWith (state : NvmlState) (idx : Nat) (metric : List Char) (env : Env) :
    Option (SampleResult × NvmlState) :=
  if (state.backoffUntil.lookup idx).any fun retry => decide (env.lookAt < retry) then
    some (.error (backedOff idx), state)
  else
    let state := { state with
      detachedHandles := state.detachedHandles.filter fun ends => !ends.any (· ≤ env.reapAt) }
    if maxDetachedHandles ≤ state.detachedHandles.length then
      some (.error (capReached idx), markBackoff state idx env.doneAt)
    else
      (acquire state).map fun state =>
        let state := release
          { state with detachedHandles := state.detachedHandles ++ [env.endsAt] }
        if env.answers.any (· ≤ nvmlTimeout) then
          match env.device idx metric with
          | .ok reading => (.ok reading, clearBackoff state idx)
          | .error error => (.error error, state)
        else (.error (timedOut idx), markBackoff state idx env.doneAt)

def parseSensorId (id : String) : Option (Nat × List Char) := do
  let rest ← Words.stripPrefix "nvml.gpu".toList id.toList
  let (idx, metric) ← Fdinfo.splitOnce '.' rest
  let idx ← Words.parseUnsigned (2 ^ 32) idx
  some (idx, metric)

/-- The device and the metric a sensor stands for. -/
def target (deviceCount : Nat) (sensor : SensorId) : Option (Nat × List Char) :=
  (parseSensorId sensor.asStr).filter fun found => decide (found.1 < deviceCount)

def sampleInner (state : NvmlState) (sensor : SensorId) (env : Env) :
    Option (SampleResult × NvmlState) :=
  match parseSensorId sensor.asStr with
  | none => some (.error (.unsupported sensor.asStr), state)
  | some (idx, metric) =>
      if state.deviceCount ≤ idx then some (.error (.unsupported sensor.asStr), state)
      else sampleInnerWith state idx metric env

/-- One sample after another. -/
def samples : NvmlState → List (SensorId × Env) → Option (List SampleResult × NvmlState)
  | state, [] => some ([], state)
  | state, (sensor, env) :: rest =>
      (sampleInner state sensor env).bind fun (result, next) =>
        (samples next rest).map fun (results, final) => (result :: results, final)

/-! The plugin is a guard with one key for each GPU. -/

/-- Only a reading takes strikes back; an error that comes in time leaves them. -/
def policy : Policy SampleResult where
  cap := maxDetachedHandles
  timeout := nvmlTimeout
  delay strikes := min (backoffBase * 2 ^ min strikes 8) backoffMax
  strikeMax := u32Max
  clears result := result.isOk

/-- Strikes escalate up to 256 seconds, so that `BACKOFF_MAX` is never what bounds them. -/
theorem policy_delay (strikes : Nat) :
    policy.delay strikes = backoffBase * 2 ^ min strikes 8 ∧ policy.delay strikes < backoffMax := by
  have power : 2 ^ min strikes 8 ≤ 2 ^ 8 :=
    Nat.pow_le_pow_right (by omega) (Nat.min_le_right strikes 8)
  simp only [policy, backoffBase, backoffMax] at power ⊢
  omega

def Env.call (env : Env) (idx : Nat) (metric : List Char) : Call Nat SampleResult where
  key := idx
  lookAt := env.lookAt
  reapAt := env.reapAt
  startAt := env.startAt
  doneAt := env.doneAt
  answers := env.answers
  endsAt := env.endsAt
  result := env.device idx metric
  look_le := env.look_le
  reap_le := env.reap_le
  start_le := env.start_le

/-- What the plugin returns for a verdict. -/
def reply (idx : Nat) : Verdict SampleResult → SampleResult
  | .backedOff => .error (backedOff idx)
  | .capped => .error (capReached idx)
  | .missed => .error (timedOut idx)
  | .answered result => result

def NvmlState.guard (state : NvmlState) : Guard Nat where
  backoffUntil key := state.backoffUntil.lookup key
  strikes key := (state.strikes.lookup key).getD 0
  handles := state.detachedHandles

theorem guard_start (deviceCount : Nat) :
    (NvmlState.start deviceCount).guard = Guard.start := by
  simp only [NvmlState.guard, NvmlState.start, Guard.start, AList.lookup_empty, Option.getD_none]

theorem guard_markBackoff (state : NvmlState) (idx now : Nat) :
    (markBackoff state idx now).guard = state.guard.mark policy idx now := by
  have strikes : ∀ key, ((markBackoff state idx now).strikes.lookup key).getD 0 =
      (state.guard.mark policy idx now).strikes key := by
    intro key
    simp only [markBackoff, KeyMap.lookup_insert_eq, Guard.mark, Function.update_apply]
    split <;> rfl
  have backoff : ∀ key, (markBackoff state idx now).backoffUntil.lookup key =
      (state.guard.mark policy idx now).backoffUntil key := by
    intro key
    simp only [markBackoff, KeyMap.lookup_insert_eq, Guard.mark, Function.update_apply]
    split <;> rfl
  simp only [NvmlState.guard, strikes, backoff]
  rfl

theorem guard_clearBackoff (state : NvmlState) (idx : Nat) :
    (clearBackoff state idx).guard = state.guard.clear idx := by
  have strikes : ∀ key, ((clearBackoff state idx).strikes.lookup key).getD 0 =
      (state.guard.clear idx).strikes key := by
    intro key
    simp only [clearBackoff, KeyMap.lookup_erase_eq, Guard.clear, Function.update_apply]
    split <;> rfl
  have backoff : ∀ key, (clearBackoff state idx).backoffUntil.lookup key =
      (state.guard.clear idx).backoffUntil key := by
    intro key
    simp only [clearBackoff, KeyMap.lookup_erase_eq, Guard.clear, Function.update_apply]
    split <;> rfl
  simp only [NvmlState.guard, strikes, backoff]
  rfl

/-- A call of the guard, as a reply and what the next call finds: all permits are back. -/
structure Serves (state : NvmlState) (idx : Nat) (call : Call Nat SampleResult)
    (result : SampleResult) (next : NvmlState) : Prop where
  result : result = reply idx (state.guard.call policy call).1
  guard : next.guard = (state.guard.call policy call).2
  permits : next.permits = maxConcurrentNvml
  deviceCount : next.deviceCount = state.deviceCount

theorem sampleInnerWith_serves {state : NvmlState} (idle : state.permits = maxConcurrentNvml)
    (idx : Nat) (metric : List Char) (env : Env) :
    ∃ result next, sampleInnerWith state idx metric env = some (result, next) ∧
      Serves state idx (env.call idx metric) result next := by
  have served : Guard.call policy state.guard (env.call idx metric) =
      if (state.backoffUntil.lookup idx).any fun retry => decide (env.lookAt < retry) then
        (.backedOff, state.guard)
      else
        let state := { state with
          detachedHandles := state.detachedHandles.filter fun ends => !ends.any (· ≤ env.reapAt) }
        if maxDetachedHandles ≤ state.detachedHandles.length then
          (.capped, state.guard.mark policy idx env.doneAt)
        else
          let state := { state with detachedHandles := state.detachedHandles ++ [env.endsAt] }
          if env.answers.any (· ≤ nvmlTimeout) then
            (.answered (env.device idx metric),
              if (env.device idx metric).isOk then state.guard.clear idx else state.guard)
          else (.missed, state.guard.mark policy idx env.doneAt) := rfl
  have permits : maxConcurrentNvml ≠ 0 := by decide
  unfold sampleInnerWith
  by_cases alone : ((state.backoffUntil.lookup idx).any fun retry => decide (env.lookAt < retry)) =
      true
  · rw [if_pos alone] at served ⊢
    refine ⟨_, _, rfl, ?_, ?_, idle, rfl⟩
    · rw [served]
      rfl
    · rw [served]
  · rw [if_neg alone] at served ⊢
    dsimp only at served ⊢
    by_cases full : maxDetachedHandles ≤
        (state.detachedHandles.filter fun ends => !ends.any (· ≤ env.reapAt)).length
    · rw [if_pos full] at served ⊢
      refine ⟨_, _, rfl, ?_, ?_, idle, rfl⟩
      · rw [served]
        rfl
      · rw [served, guard_markBackoff]
    · rw [if_neg full] at served ⊢
      simp only [acquire, idle, permits, ↓reduceIte, Option.map_some, release]
      by_cases answered : env.answers.any (· ≤ nvmlTimeout) = true
      · rw [if_pos answered] at served ⊢
        cases read : env.device idx metric with
        | ok reading =>
            rw [read] at served
            refine ⟨_, _, rfl, ?_, ?_, rfl, rfl⟩
            · rw [served]
              rfl
            · rw [served, guard_clearBackoff]
              rfl
        | error error =>
            rw [read] at served
            refine ⟨_, _, rfl, ?_, ?_, rfl, rfl⟩
            · rw [served]
              rfl
            · rw [served]
              rfl
      · rw [if_neg answered] at served ⊢
        refine ⟨_, _, rfl, ?_, ?_, rfl, rfl⟩
        · rw [served]
          rfl
        · rw [served, guard_markBackoff]
          rfl

/-- What a list of samples comes to by the history of the calls it makes. -/
def judgedSamples (deviceCount : Nat) :
    History Nat SampleResult → List (SensorId × Env) → List SampleResult × History Nat SampleResult
  | history, [] => ([], history)
  | history, (sensor, env) :: rest =>
      match target deviceCount sensor with
      | none =>
          let (results, final) := judgedSamples deviceCount history rest
          (.error (.unsupported sensor.asStr) :: results, final)
      | some (idx, metric) =>
          let call := env.call idx metric
          let verdict := GuardedCalls.verdict policy history call
          let (results, final) := judgedSamples deviceCount (history ++ [(call, verdict)]) rest
          (reply idx verdict :: results, final)

/-- Each sample begins when the one before it is done, as they share a lock. -/
def InOrder : Nat → List (SensorId × Env) → Prop
  | _, [] => True
  | now, (_, env) :: rest => now ≤ env.lookAt ∧ InOrder env.doneAt rest

theorem sampleInner_eq (state : NvmlState) (sensor : SensorId) (env : Env) :
    sampleInner state sensor env =
      match target state.deviceCount sensor with
      | none => some (.error (.unsupported sensor.asStr), state)
      | some (idx, metric) => sampleInnerWith state idx metric env := by
  unfold sampleInner target
  cases parseSensorId sensor.asStr with
  | none => rfl
  | some found =>
      obtain ⟨idx, metric⟩ := found
      by_cases beyond : state.deviceCount ≤ idx
      · have dropped : ((some (idx, metric)).filter fun found =>
            decide (found.1 < state.deviceCount)) = none := by simp [beyond]
        rw [dropped]
        exact if_pos beyond
      · have kept : ((some (idx, metric)).filter fun found =>
            decide (found.1 < state.deviceCount)) = some (idx, metric) := by
          simpa using beyond
        rw [kept]
        exact if_neg beyond

theorem samples_tracks {requests : List (SensorId × Env)} {state : NvmlState}
    {history : History Nat SampleResult} {now : Nat}
    (tracks : GuardedCalls.Tracks policy state.guard history now)
    (idle : state.permits = maxConcurrentNvml) (order : InOrder now requests) :
    ∃ final, samples state requests =
        some ((judgedSamples state.deviceCount history requests).1, final) ∧
      final.permits = maxConcurrentNvml := by
  induction requests generalizing state history now with
  | nil => exact ⟨state, rfl, idle⟩
  | cons request rest ih =>
      obtain ⟨sensor, env⟩ := request
      obtain ⟨begins, rest_order⟩ := order
      rw [samples, sampleInner_eq, judgedSamples]
      cases aimed : target state.deviceCount sensor with
      | none =>
          have passed : now ≤ env.doneAt :=
            begins.trans (env.look_le.trans (env.reap_le.trans env.start_le))
          obtain ⟨final, sampled, permits⟩ := ih (tracks.later passed) idle rest_order
          exact ⟨final, by simp only [Option.bind_some, sampled, Option.map_some], permits⟩
      | some found =>
          obtain ⟨idx, metric⟩ := found
          obtain ⟨result, next, taken, serves⟩ := sampleInnerWith_serves idle idx metric env
          obtain ⟨verdict, tracked⟩ := tracks.judge (env.call idx metric) begins
          rw [← serves.guard] at tracked
          obtain ⟨final, sampled, permits⟩ := ih tracked serves.permits rest_order
          rw [serves.deviceCount] at sampled
          refine ⟨final, ?_, permits⟩
          simp only [taken, Option.bind_some, sampled, Option.map_some, serves.result, verdict]

theorem alive_judgedSamples {deviceCount : Nat} {requests : List (SensorId × Env)}
    {history : History Nat SampleResult}
    (within : ∀ now, GuardedCalls.alive history now ≤ maxDetachedHandles) (now : Nat) :
    GuardedCalls.alive (judgedSamples deviceCount history requests).2 now ≤ maxDetachedHandles := by
  induction requests generalizing history with
  | nil => exact within now
  | cons request rest ih =>
      obtain ⟨sensor, env⟩ := request
      rw [judgedSamples]
      cases target deviceCount sensor with
      | none => exact ih within
      | some found =>
          exact ih (GuardedCalls.alive_judged_concat policy within)

/-- Whatever the driver does, no sample blocks, what each of them returns follows from the history
of the calls, and the plugin never has more than 16 threads. -/
theorem samples_follow (deviceCount : Nat) {requests : List (SensorId × Env)}
    (order : InOrder 0 requests) :
    ∃ final, samples (.start deviceCount) requests =
        some ((judgedSamples deviceCount [] requests).1, final) ∧
      final.permits = maxConcurrentNvml ∧
      ∀ now, GuardedCalls.alive (judgedSamples deviceCount [] requests).2 now ≤
        maxDetachedHandles := by
  have tracks : GuardedCalls.Tracks policy (NvmlState.start deviceCount).guard [] 0 :=
    guard_start deviceCount ▸ GuardedCalls.Tracks.start policy 0
  obtain ⟨final, sampled, permits⟩ := samples_tracks tracks rfl order
  exact ⟨final, sampled, permits, alive_judgedSamples fun _ => Nat.zero_le _⟩

/-- The environment of a sample that is answered by the driver after `delay`. -/
def Env.quick (now delay : Nat) (result : SampleResult) : Env where
  lookAt := now
  reapAt := now
  startAt := now
  doneAt := now + delay
  answers := some delay
  endsAt := some (now + delay)
  device _ _ := result
  look_le := Nat.le_refl now
  reap_le := Nat.le_refl now
  start_le := Nat.le_add_right now delay

/-- The environment of a sample in which the driver hangs for good. -/
def Env.hung (now : Nat) : Env where
  lookAt := now
  reapAt := now
  startAt := now
  doneAt := now + nvmlTimeout
  answers := none
  endsAt := none
  device _ _ := .ok (.scalar (.finite 0))
  look_le := Nat.le_refl now
  reap_le := Nat.le_refl now
  start_le := Nat.le_add_right now nvmlTimeout

/-- A GPU hangs and is left alone for two seconds, while the other one is read. -/
theorem samples_follow_hung : ∃ final,
    samples (.start 2) [(⟨"nvml.gpu0.util"⟩, .hung 0),
      (⟨"nvml.gpu1.util"⟩, .quick 5000000000 3 (.ok (.scalar (.finite 7)))),
      (⟨"nvml.gpu0.util"⟩, .hung 6999999999)] =
      some ([.error (timedOut 0), .ok (.scalar (.finite 7)), .error (backedOff 0)], final) ∧
    final.permits = 4 := by
  have order : InOrder 0 [(⟨"nvml.gpu0.util"⟩, Env.hung 0),
      (⟨"nvml.gpu1.util"⟩, .quick 5000000000 3 (.ok (.scalar (.finite 7)))),
      (⟨"nvml.gpu0.util"⟩, .hung 6999999999)] := by
    refine ⟨by decide, by decide, by decide, trivial⟩
  obtain ⟨final, sampled, permits, _⟩ := samples_follow 2 order
  refine ⟨final, sampled.trans ?_, permits⟩
  have results : (judgedSamples 2 [] [(⟨"nvml.gpu0.util"⟩, Env.hung 0),
      (⟨"nvml.gpu1.util"⟩, .quick 5000000000 3 (.ok (.scalar (.finite 7)))),
      (⟨"nvml.gpu0.util"⟩, .hung 6999999999)]).1 =
      [.error (timedOut 0), .ok (.scalar (.finite 7)), .error (backedOff 0)] := by
    decide +kernel
  rw [results]

/-! The metric `processes`: compute and graphics processes in one table. -/

/-- A process as NVML lists it: its pid, and the memory where it is available. -/
abbrev Process := Nat × Option Nat

def usedGpuMemory (process : Process) : Nat := process.2.getD 0

/-- `entry(pid).and_modify(max).or_insert(mem)`. -/
def tally (byPid : KeyMap Nat Nat) (process : Process) : KeyMap Nat Nat :=
  byPid.insert process.1 (match byPid.lookup process.1 with
    | some mem => max mem (usedGpuMemory process)
    | none => usedGpuMemory process)

/-- The processes of a list that could be read. -/
def listed : Except String (List Process) → List Process
  | .ok procs => procs
  | .error _ => []

def errorText : Except String (List Process) → String
  | .ok _ => ""
  | .error error => error

def processRow (comm : Nat → String) (entry : Nat × Nat) : TableRow where
  cells := [.number (.finite entry.1), .text (comm entry.1), .bytes entry.2]

/-- The entries of the map in the order of the table. The map gives those with the same memory in
any order. -/
def entriesOf (byPid : KeyMap Nat Nat) : List (Nat × Nat) :=
  (byPid.entries.map fun entry => (entry.1, entry.2)).mergeSort fun a b => b.2 ≤ a.2

def processes (compute graphics : Except String (List Process)) (comm : Nat → String) :
    SampleResult :=
  if !compute.isOk && !graphics.isOk then
    .error (.io (s!"NVML process enumeration failed: compute=[{errorText compute}]" ++
      s!" graphics=[{errorText graphics}]"))
  else
    .ok (.table ((entriesOf ((listed compute ++ listed graphics).foldl tally ∅)).map
      (processRow comm)))

theorem lookup_tally (byPid : KeyMap Nat Nat) (process : Process) (pid : Nat) :
    (tally byPid process).lookup pid =
      if pid = process.1 then
        some (max ((byPid.lookup pid).getD 0) (usedGpuMemory process))
      else byPid.lookup pid := by
  rw [tally, KeyMap.lookup_insert_eq]
  split
  · rename_i same
    subst same
    cases byPid.lookup process.1 with
    | none => simp
    | some mem => rfl
  · rfl

/-- Leaving out what something larger is kept for does not change the largest. -/
theorem isGreatest_iff_of_dominated {kept all : Set Nat} (inside : kept ⊆ all)
    (dominated : ∀ m ∈ all, ∃ larger ∈ kept, m ≤ larger) (mem : Nat) :
    IsGreatest kept mem ↔ IsGreatest all mem := by
  constructor
  · intro greatest
    refine ⟨inside greatest.1, fun m member => ?_⟩
    obtain ⟨larger, is_kept, le⟩ := dominated m member
    exact le.trans (greatest.2 is_kept)
  · intro greatest
    obtain ⟨larger, is_kept, le⟩ := dominated mem greatest.1
    have same : larger = mem := Nat.le_antisymm (greatest.2 (inside is_kept)) le
    exact ⟨same ▸ is_kept, fun m member => greatest.2 (inside member)⟩

/-- What is reported of a pid: the entry of the map, and the memory in the list. -/
def reported (byPid : KeyMap Nat Nat) (procs : List Process) (pid : Nat) : Set Nat :=
  {mem | byPid.lookup pid = some mem ∨
    ∃ process ∈ procs, process.1 = pid ∧ usedGpuMemory process = mem}

theorem reported_tally (byPid : KeyMap Nat Nat) (process : Process) (rest : List Process)
    (pid mem : Nat) :
    IsGreatest (reported (tally byPid process) rest pid) mem ↔
      IsGreatest (reported byPid (process :: rest) pid) mem := by
  apply isGreatest_iff_of_dominated
  · intro m member
    rcases member with here | ⟨other, later, found⟩
    · rw [lookup_tally] at here
      split at here
      · rename_i same
        have value := Option.some.inj here
        cases old : byPid.lookup pid with
        | none =>
            rw [old, Option.getD_none, Nat.zero_max] at value
            exact .inr ⟨process, List.mem_cons_self, same.symm, value⟩
        | some before =>
            rw [old, Option.getD_some] at value
            rcases Nat.le_total before (usedGpuMemory process) with le | le
            · rw [Nat.max_eq_right le] at value
              exact .inr ⟨process, List.mem_cons_self, same.symm, value⟩
            · rw [Nat.max_eq_left le] at value
              exact .inl (old.trans (congrArg some value))
      · exact .inl here
    · exact .inr ⟨other, List.mem_cons_of_mem process later, found⟩
  · intro m member
    have largest : pid = process.1 → max ((byPid.lookup pid).getD 0) (usedGpuMemory process) ∈
        reported (tally byPid process) rest pid := by
      intro same
      exact .inl ((lookup_tally byPid process pid).trans (if_pos same))
    rcases member with before | ⟨other, inside, pid_eq, value⟩
    · by_cases same : pid = process.1
      · refine ⟨_, largest same, ?_⟩
        rw [before, Option.getD_some]
        exact Nat.le_max_left m _
      · refine ⟨m, .inl ?_, Nat.le_refl m⟩
        rw [lookup_tally, if_neg same, before]
    · rcases List.mem_cons.mp inside with rfl | later
      · refine ⟨_, largest pid_eq.symm, ?_⟩
        rw [value]
        exact Nat.le_max_right _ m
      · exact ⟨m, .inr ⟨other, later, pid_eq, value⟩, Nat.le_refl m⟩

/-- The map holds the largest memory of each pid. -/
theorem lookup_foldl_tally (procs : List Process) (byPid : KeyMap Nat Nat) (pid mem : Nat) :
    (procs.foldl tally byPid).lookup pid = some mem ↔
      IsGreatest (reported byPid procs pid) mem := by
  induction procs generalizing byPid with
  | nil =>
      have alone : reported byPid [] pid = {m | byPid.lookup pid = some m} := by
        simp [reported]
      rw [alone, List.foldl_nil]
      constructor
      · intro found
        refine ⟨found, fun m same => ?_⟩
        rw [Set.mem_ofPred_eq, found, Option.some.injEq] at same
        exact Nat.le_of_eq same.symm
      · exact fun greatest => greatest.1
  | cons process rest ih =>
      rw [List.foldl_cons, ih, reported_tally]

/-- The table has one row for each pid in either list that could be read, with the larger of its
memories, from the largest to the smallest. There is none only where neither list could be read. -/
theorem processes_table (compute graphics : Except String (List Process)) (comm : Nat → String) :
    (∃ message, processes compute graphics comm = .error (.io message) ∧
      compute.isOk = false ∧ graphics.isOk = false) ∨
    ∃ entries : List (Nat × Nat),
      processes compute graphics comm = .ok (.table (entries.map (processRow comm))) ∧
      (entries.map Prod.fst).Nodup ∧ entries.Pairwise (fun a b => b.2 ≤ a.2) ∧
      ∀ pid mem, (pid, mem) ∈ entries ↔
        IsGreatest {m | ∃ process ∈ listed compute ++ listed graphics,
          process.1 = pid ∧ usedGpuMemory process = m} mem := by
  by_cases failed : (!compute.isOk && !graphics.isOk) = true
  · refine .inl ⟨_, if_pos failed, ?_⟩
    simpa using failed
  · refine .inr ⟨_, if_neg failed, ?_, ?_, ?_⟩
    · have perm : ((entriesOf ((listed compute ++ listed graphics).foldl tally ∅)).map
          Prod.fst).Perm ((listed compute ++ listed graphics).foldl tally ∅).keys := by
        refine ((List.mergeSort_perm _ _).map Prod.fst).trans ?_
        rw [List.map_map]
        exact List.Perm.refl _
      exact perm.nodup_iff.mpr (AList.keys_nodup _)
    · have trans : ∀ a b c : Nat × Nat, decide (b.2 ≤ a.2) = true → decide (c.2 ≤ b.2) = true →
          decide (c.2 ≤ a.2) = true := by
        intro a b c first second
        rw [decide_eq_true_eq] at first second ⊢
        exact second.trans first
      have total : ∀ a b : Nat × Nat, (decide (b.2 ≤ a.2) || decide (a.2 ≤ b.2)) = true := by
        intro a b
        rw [Bool.or_eq_true, decide_eq_true_eq, decide_eq_true_eq]
        exact Nat.le_total b.2 a.2
      have sorted := List.pairwise_mergeSort trans total
        (((listed compute ++ listed graphics).foldl tally ∅).entries.map fun entry =>
          (entry.1, entry.2))
      exact sorted.imp fun le => of_decide_eq_true le
    · intro pid mem
      have all : reported ∅ (listed compute ++ listed graphics) pid =
          {m | ∃ process ∈ listed compute ++ listed graphics,
            process.1 = pid ∧ usedGpuMemory process = m} := by
        simp [reported]
      rw [← all, ← lookup_foldl_tally, ← KeyMap.mem_entries_iff, entriesOf, List.mem_mergeSort,
        List.mem_map]
      constructor
      · intro found
        obtain ⟨⟨key, value⟩, member, same⟩ := found
        cases same
        exact member
      · intro member
        exact ⟨_, member, rfl⟩

end LinSight.Nvml
