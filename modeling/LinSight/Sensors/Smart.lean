import LinSight.Core.Hardware
import LinSight.Library.GuardedCalls
import LinSight.Library.KeyMap
import LinSight.Library.Words
import LinSight.Plugin.Manifest

set_option autoImplicit false

/-! The SMART plugin: one D-Bus call for all drives, which may hang, behind a cache that is served
past its age where the call fails. -/

namespace LinSight.Smart

open DebugText (Message)
open GuardedCalls (Call Guard History Policy Verdict)

/-- In nanoseconds, as all times here. -/
def cacheTtl : Nat := 30000000000

def udisksTimeout : Nat := 10000000000

def backoffBase : Nat := 1000000000

def backoffMax : Nat := 300000000000

def maxDetachedHandles : Nat := 8

def u32Max : Nat := 4294967295

/-- A property of a drive, by the types the plugin looks for. -/
inductive PropValue where
  | f64 (v : Ieee.Value)
  | bool (b : Bool)
  | u64 (n : Nat)
  | other

def PropValue.f64? : PropValue → Option Ieee.Value
  | .f64 v => some v
  | _ => none

def PropValue.bool? : PropValue → Option Bool
  | .bool b => some b
  | _ => none

def PropValue.u64? : PropValue → Option Nat
  | .u64 n => some n
  | _ => none

abbrev Props := KeyMap String PropValue

abbrev SmartDrives := KeyMap String Props

abbrev Rows := List (SensorId × Reading)

def makeSensor (diskName metric : String) (reading : Reading) :
    Except PluginError (SensorId × Reading) :=
  match HardwareDeviceKey.tryNew ("block:" ++ diskName) with
  | .error e => .error (.io ("block " ++ diskName ++ " bad key: " ++ e.toString))
  | .ok _ => .ok (⟨"disk." ++ diskName ++ "." ++ metric⟩, reading)

/-- The readings the properties have, in the order of the source. -/
def readingsOf (props : Props) : List (String × Reading) :=
  let f64 (name : String) := (props.lookup name).bind PropValue.f64?
  let u64 (name : String) := (props.lookup name).bind PropValue.u64?
  let asF64 (n : Nat) := Ieee.binary64.round n
  let kelvin := Ieee.binary64.round (-27315 / 100)
  ((f64 "SmartTemperature").map fun v =>
      ("smart_temp_c", Reading.scalar (Ieee.binary64.add v kelvin))).toList ++
    (((props.lookup "SmartFailing").bind PropValue.bool?).map fun failing =>
      ("smart_health", Reading.state (if failing then "failing" else "ok"))).toList ++
    ((u64 "SmartPowerOnSeconds").map fun secs =>
      ("smart_power_on_hours",
        Reading.scalar (Ieee.binary64.div (asF64 secs) (.finite 3600)))).toList ++
    ((u64 "SmartNumAttributes").map fun attrs =>
      ("smart_realloc_sectors", Reading.scalar (asF64 attrs))).toList ++
    ((u64 "SmartPowerOnHours").map fun hours =>
      ("smart_power_on_hours", Reading.scalar (asF64 hours))).toList ++
    ((f64 "SmartPercentUsed").map fun used => ("smart_wear_pct", Reading.scalar used)).toList

def sensorsFromDrive (diskName : String) (props : Props) : Except PluginError Rows :=
  (readingsOf props).mapM fun row => makeSensor diskName row.1 row.2

/-- Disk name to the readings and the time they were stored at. -/
abbrev Cache := KeyMap String (Nat × Rows)

structure Inner where
  cache : Cache
  backoffUntil : Option Nat
  timeoutStrikes : Nat
  detachedHandles : List (Option Nat)

def Inner.default : Inner := ⟨∅, none, 0, []⟩

/-- What a call meets: the instants it looks at the clock, udisks2, which may take any time to
answer and to let the thread end, when each drive is stored, and when the lock is left. -/
structure Env where
  checkAt : Nat
  lookAt : Nat
  reapAt : Nat
  startAt : Nat
  doneAt : Nat
  answers : Option Nat
  endsAt : Option Nat
  drives : Except Message SmartDrives
  storedAt : String → Nat
  leaveAt : Nat
  check_le : checkAt ≤ lookAt
  look_le : lookAt ≤ reapAt
  reap_le : reapAt ≤ startAt
  start_le : startAt ≤ doneAt
  done_le : doneAt ≤ leaveAt
  stored_le : ∀ name, storedAt name ≤ leaveAt

def Inner.strike (inner : Inner) (now : Nat) : Inner :=
  let strikes := min (inner.timeoutStrikes + 1) u32Max
  let factor := 2 ^ min strikes 8
  { inner with
    timeoutStrikes := strikes
    backoffUntil := some (now + min (backoffBase * factor) backoffMax) }

def backedOff : PluginError := .unsupported "udisks2 backed off after repeated timeouts"

def capReached : PluginError :=
  .unsupported s!"udisks2 detached-worker cap reached ({maxDetachedHandles}); backing off"

def timedOut : PluginError := .unsupported "udisks2 fetch timed out after 10s"

def fetchSmartDrivesTimeout (inner : Inner) (env : Env) : Except PluginError SmartDrives × Inner :=
  if inner.backoffUntil.any fun retry => decide (env.lookAt < retry) then
    (.error backedOff, inner)
  else
    let inner := { inner with
      detachedHandles := inner.detachedHandles.filter fun ends => !ends.any (· ≤ env.reapAt) }
    if maxDetachedHandles ≤ inner.detachedHandles.length then
      (.error capReached, inner.strike env.doneAt)
    else
      let inner := { inner with detachedHandles := inner.detachedHandles ++ [env.endsAt] }
      if env.answers.any (· ≤ udisksTimeout) then
        (env.drives.mapError .io, { inner with timeoutStrikes := 0, backoffUntil := none })
      else (.error timedOut, inner.strike env.doneAt)

/-- The drives from one after another into a cache, up to a drive that fails. -/
def storeEach (keepEmpty : Bool) (storedAt : String → Nat) :
    List (String × Props) → Cache → Except PluginError PUnit.{1} × Cache
  | [], cache => (.ok ⟨⟩, cache)
  | (diskName, props) :: rest, cache =>
      match sensorsFromDrive diskName props with
      | .error error => (.error error, cache)
      | .ok rows =>
          if rows.isEmpty && !keepEmpty then storeEach keepEmpty storedAt rest cache
          else storeEach keepEmpty storedAt rest (cache.insert diskName (storedAt diskName, rows))

/-- `HashMap` iteration, whose order is arbitrary. -/
def drivesOf (drives : SmartDrives) : List (String × Props) :=
  drives.entries.map fun entry => (entry.1, entry.2)

/-- `init_inner`, as far as it concerns the state. -/
def initInner (inner : Inner) (env : Env) : Except PluginError PUnit.{1} × Inner :=
  match fetchSmartDrivesTimeout { inner with cache := ∅ } env with
  | (.error _, inner) => (.ok ⟨⟩, inner)
  | (.ok drives, inner) =>
      let (result, cache) := storeEach false env.storedAt (drivesOf drives) inner.cache
      (result, { inner with cache })

/-- The reading of a sensor in the cache. -/
def cachedReading (cache : Cache) (name : String) (sensor : SensorId) : Option (Nat × Reading) :=
  (cache.lookup name).bind fun entry =>
    (entry.2.find? (·.1 = sensor)).map fun row => (entry.1, row.2)

/-- The disk a sensor belongs to. -/
def diskName (sensor : SensorId) : Option String := do
  let rest ← Words.stripPrefix "disk.".toList sensor.asStr.toList
  let (name, _) ← Words.rsplitOnce '.' rest
  some (String.ofList name)

def sampleInner (inner : Inner) (sensor : SensorId) (env : Env) :
    Except PluginError Reading × Inner :=
  match diskName sensor with
  | none => (.error (.unsupported sensor.asStr), inner)
  | some name =>
      match (cachedReading inner.cache name sensor).filter fun cached =>
          decide (env.checkAt - cached.1 ≤ cacheTtl) with
      | some (_, reading) => (.ok reading, inner)
      | none =>
          match fetchSmartDrivesTimeout inner env with
          | (.error error, inner) =>
              match cachedReading inner.cache name sensor with
              | some (_, reading) => (.ok reading, inner)
              | none => (.error error, inner)
          | (.ok drives, inner) =>
              match storeEach true env.storedAt (drivesOf drives) ∅ with
              | (.error error, _) => (.error error, inner)
              | (.ok _, cache) =>
                  let inner := { inner with cache }
                  match cachedReading cache name sensor with
                  | some (_, reading) => (.ok reading, inner)
                  | none => (.error (.unsupported sensor.asStr), inner)

/-! The plugin is a guard with a single key. -/

abbrev Fetched := Except PluginError SmartDrives

/-- Every answer that comes in time takes the strikes back, an error of udisks2 too. -/
def policy : Policy Fetched where
  cap := maxDetachedHandles
  timeout := udisksTimeout
  delay strikes := min (backoffBase * 2 ^ min strikes 8) backoffMax
  strikeMax := u32Max
  clears _ := true

def Env.call (env : Env) : Call PUnit.{1} Fetched where
  key := ⟨⟩
  lookAt := env.lookAt
  reapAt := env.reapAt
  startAt := env.startAt
  doneAt := env.doneAt
  answers := env.answers
  endsAt := env.endsAt
  result := env.drives.mapError .io
  look_le := env.look_le
  reap_le := env.reap_le
  start_le := env.start_le

def reply : Verdict Fetched → Fetched
  | .backedOff => .error backedOff
  | .capped => .error capReached
  | .missed => .error timedOut
  | .answered result => result

def Inner.guard (inner : Inner) : Guard PUnit.{1} where
  backoffUntil _ := inner.backoffUntil
  strikes _ := inner.timeoutStrikes
  handles := inner.detachedHandles

theorem guard_strike (inner : Inner) (now : Nat) :
    (inner.strike now).guard = inner.guard.mark policy ⟨⟩ now := by
  simp only [Inner.guard, Inner.strike, Guard.mark, Guard.mk.injEq, and_true]
  constructor <;> funext key <;> rw [Function.update_apply, if_pos rfl] <;> rfl

theorem guard_clear (inner : Inner) :
    ({ inner with timeoutStrikes := 0, backoffUntil := none } : Inner).guard =
      inner.guard.clear ⟨⟩ := by
  simp only [Inner.guard, Guard.clear, Guard.mk.injEq, and_true]
  constructor <;> funext key <;> rw [Function.update_apply, if_pos rfl]

/-- A fetch is a call of the guard, and leaves the cache alone. -/
theorem fetchSmartDrivesTimeout_guard (inner : Inner) (env : Env) :
    (fetchSmartDrivesTimeout inner env).1 = reply (inner.guard.call policy env.call).1 ∧
      (fetchSmartDrivesTimeout inner env).2.guard = (inner.guard.call policy env.call).2 ∧
      (fetchSmartDrivesTimeout inner env).2.cache = inner.cache := by
  have served : Guard.call policy inner.guard env.call =
      if inner.backoffUntil.any fun retry => decide (env.lookAt < retry) then
        (.backedOff, inner.guard)
      else
        let inner := { inner with
          detachedHandles := inner.detachedHandles.filter fun ends => !ends.any (· ≤ env.reapAt) }
        if maxDetachedHandles ≤ inner.detachedHandles.length then
          (.capped, inner.guard.mark policy ⟨⟩ env.doneAt)
        else
          let inner := { inner with detachedHandles := inner.detachedHandles ++ [env.endsAt] }
          if env.answers.any (· ≤ udisksTimeout) then
            (.answered (env.drives.mapError .io), inner.guard.clear ⟨⟩)
          else (.missed, inner.guard.mark policy ⟨⟩ env.doneAt) := rfl
  rw [served]
  unfold fetchSmartDrivesTimeout
  split
  · exact ⟨rfl, rfl, rfl⟩
  · dsimp only
    split
    · exact ⟨rfl, guard_strike _ _, rfl⟩
    · split
      · have cleared := guard_clear { inner with
          detachedHandles :=
            inner.detachedHandles.filter (fun ends => !ends.any (· ≤ env.reapAt)) ++ [env.endsAt] }
        exact ⟨rfl, cleared, rfl⟩
      · exact ⟨rfl, guard_strike _ _, rfl⟩

/-! What the cache holds, by what udisks2 has answered. -/

/-- Drives the plugin was answered, with the times they were stored at. -/
structure Refresh where
  drives : SmartDrives
  storedAt : String → Nat

def Refresh.entry (refresh : Refresh) (name : String) : Option (Nat × Rows) :=
  (refresh.drives.lookup name).bind fun props =>
    (sensorsFromDrive name props).toOption.map fun rows => (refresh.storedAt name, rows)

/-- Every entry of the cache is one of the refresh. -/
def Within (cache : Cache) (refresh : Option Refresh) : Prop :=
  ∀ name entry, cache.lookup name = some entry →
    ∃ source, refresh = some source ∧ source.entry name = some entry

theorem storeEach_entries {keepEmpty : Bool} {storedAt : String → Nat}
    {drives : List (String × Props)} {cache : Cache} {name : String} {entry : Nat × Rows}
    (found : (storeEach keepEmpty storedAt drives cache).2.lookup name = some entry) :
    cache.lookup name = some entry ∨ ∃ props, (name, props) ∈ drives ∧
      ∃ rows, sensorsFromDrive name props = .ok rows ∧ entry = (storedAt name, rows) := by
  induction drives generalizing cache with
  | nil => exact .inl found
  | cons drive rest ih =>
      obtain ⟨diskName, props⟩ := drive
      rw [storeEach] at found
      cases read : sensorsFromDrive diskName props with
      | error error =>
          rw [read] at found
          exact .inl found
      | ok rows =>
          simp only [read] at found
          split at found
          · rcases ih found with before | ⟨other, member, stored⟩
            · exact .inl before
            · exact .inr ⟨other, List.mem_cons_of_mem _ member, stored⟩
          · rcases ih found with before | ⟨other, member, stored⟩
            · rw [KeyMap.lookup_insert_eq] at before
              split at before
              · rename_i same
                subst same
                exact .inr ⟨props, List.mem_cons_self, rows, read, (Option.some.inj before).symm⟩
              · exact .inl before
            · exact .inr ⟨other, List.mem_cons_of_mem _ member, stored⟩

theorem within_storeEach (keepEmpty : Bool) (storedAt : String → Nat) (drives : SmartDrives) :
    Within (storeEach keepEmpty storedAt (drivesOf drives) ∅).2 (some ⟨drives, storedAt⟩) := by
  intro name entry found
  refine ⟨_, rfl, ?_⟩
  rcases storeEach_entries found with absent | ⟨props, member, rows, read, stored⟩
  · cases absent
  · obtain ⟨⟨key, value⟩, inside, same⟩ := List.mem_map.mp member
    cases same
    have answered := (KeyMap.mem_entries_iff drives key value).mp inside
    show (drives.lookup key).bind _ = some entry
    rw [answered, Option.bind_some, read, stored]
    rfl

theorem within_empty (refresh : Option Refresh) : Within ∅ refresh := by
  intro name entry found
  cases found

/-- What the host asks of the plugin. -/
inductive Op where
  | init (env : Env)
  | sample (sensor : SensorId) (env : Env)

def Op.env : Op → Env
  | .init env | .sample _ env => env

def Inner.after (inner : Inner) : Op → Inner
  | .init env => (initInner inner env).2
  | .sample sensor env => (sampleInner inner sensor env).2

/-- What the cache has of a sensor that is not too old. -/
def freshReading (cache : Cache) (sensor : SensorId) (env : Env) : Option (Nat × Reading) :=
  (diskName sensor).bind fun name =>
    (cachedReading cache name sensor).filter fun cached =>
      decide (env.checkAt - cached.1 ≤ cacheTtl)

/-- The operation asks udisks2, or tries to. -/
def Inner.fetches (inner : Inner) : Op → Bool
  | .init _ => true
  | .sample sensor env =>
      (diskName sensor).isSome && (freshReading inner.cache sensor env).isNone

/-- All fetches so far, and what the cache was last filled from. -/
structure Log where
  history : History PUnit.{1} Fetched
  refresh : Option Refresh

def Log.empty : Log := ⟨[], none⟩

/-- Every drive has a name that is a device key. -/
def readable (env : Env) (drives : SmartDrives) : Bool :=
  (storeEach true env.storedAt (drivesOf drives) ∅).1.isOk

def Log.after (log : Log) (inner : Inner) (op : Op) : Log :=
  if inner.fetches op then
    let verdict := GuardedCalls.verdict policy log.history op.env.call
    { history := log.history ++ [(op.env.call, verdict)]
      refresh := match op, reply verdict with
        | .init env, .ok drives => some ⟨drives, env.storedAt⟩
        | .init _, .error _ => none
        | .sample _ env, .ok drives =>
            if readable env drives then some ⟨drives, env.storedAt⟩ else log.refresh
        | .sample _ _, .error _ => log.refresh }
  else log

/-- A run of the plugin, one operation at a time as they share a lock. -/
def operate : Inner × Log → List Op → Inner × Log
  | state, [] => state
  | (inner, log), op :: rest => operate (inner.after op, log.after inner op) rest

def InOrder : Nat → List Op → Prop
  | _, [] => True
  | now, op :: rest => now ≤ op.env.checkAt ∧ InOrder op.env.leaveAt rest

/-- The plugin after the fetches of the log. -/
structure Keeps (inner : Inner) (log : Log) (now : Nat) : Prop where
  tracks : GuardedCalls.Tracks policy inner.guard log.history now
  within : Within inner.cache log.refresh
  stored : ∀ refresh, log.refresh = some refresh → ∀ name, refresh.storedAt name ≤ now
  threads : ∀ instant, GuardedCalls.alive log.history instant ≤ maxDetachedHandles

theorem Keeps.start : Keeps .default .empty 0 where
  tracks := GuardedCalls.Tracks.start policy 0
  within := within_empty none
  stored _ none_yet := nomatch none_yet
  threads _ := Nat.zero_le _

variable {inner : Inner} {log : Log} {now : Nat} {env : Env}

theorem Env.passes (env : Env) : env.checkAt ≤ env.leaveAt := by
  have check := env.check_le
  have look := env.look_le
  have reap := env.reap_le
  have start := env.start_le
  have done := env.done_le
  omega

/-- What a fetch does to the plugin's state. -/
theorem Keeps.fetch (keeps : Keeps inner log now) (later : now ≤ env.checkAt) {cache : Cache}
    {answer : Fetched} {next : Inner}
    (fetched : fetchSmartDrivesTimeout { inner with cache } env = (answer, next)) :
    let verdict := GuardedCalls.verdict policy log.history env.call
    answer = reply verdict ∧ next.cache = cache ∧
      GuardedCalls.Tracks policy next.guard (log.history ++ [(env.call, verdict)]) env.leaveAt ∧
      ∀ instant, GuardedCalls.alive (log.history ++ [(env.call, verdict)]) instant ≤
        maxDetachedHandles := by
  have guarded := fetchSmartDrivesTimeout_guard { inner with cache } env
  have judged := keeps.tracks.judge env.call (later.trans env.check_le)
  have same : ({ inner with cache } : Inner).guard = inner.guard := rfl
  rw [fetched, same] at guarded
  obtain ⟨answered, guard, kept⟩ := guarded
  dsimp only at answered guard kept
  refine ⟨?_, kept, ?_, ?_⟩
  · rw [answered, judged.1]
  · rw [guard]
    exact judged.2.later env.done_le
  · intro instant
    exact GuardedCalls.alive_judged_concat policy keeps.threads instant

/-- The cache after an answer of udisks2, and what is answered then. -/
def refreshed (inner : Inner) (name : String) (sensor : SensorId) (env : Env)
    (drives : SmartDrives) : Except PluginError Reading × Inner :=
  match storeEach true env.storedAt (drivesOf drives) ∅ with
  | (.error error, _) => (.error error, inner)
  | (.ok _, cache) =>
      ((match cachedReading cache name sensor with
        | some (_, reading) => .ok reading
        | none => .error (.unsupported sensor.asStr)), { inner with cache })

/-- What is answered where udisks2 did not answer. -/
def stale (inner : Inner) (name : String) (sensor : SensorId) (error : PluginError) :
    Except PluginError Reading :=
  match cachedReading inner.cache name sensor with
  | some (_, reading) => .ok reading
  | none => .error error

/-- A sample that has to ask. -/
theorem sampleInner_of_fetches {sensor : SensorId} {name : String}
    (named : diskName sensor = some name) (old : freshReading inner.cache sensor env = none) :
    sampleInner inner sensor env =
      match fetchSmartDrivesTimeout inner env with
      | (.error error, inner) => (stale inner name sensor error, inner)
      | (.ok drives, inner) => refreshed inner name sensor env drives := by
  rw [freshReading, named, Option.bind_some] at old
  unfold sampleInner
  simp only [named, old]
  cases fetchSmartDrivesTimeout inner env with
  | mk answer inner =>
      cases answer with
      | error error =>
          simp only [stale]
          split <;> rfl
      | ok drives =>
          simp only [refreshed]
          cases storeEach true env.storedAt (drivesOf drives) ∅ with
          | mk stored cache =>
              cases stored with
              | error error => rfl
              | ok _ =>
                  dsimp only
                  cases cachedReading cache name sensor <;> rfl

/-- A sample that does not ask leaves all as it is. -/
theorem sampleInner_of_not_fetches {sensor : SensorId}
    (idle : inner.fetches (.sample sensor env) = false) :
    sampleInner inner sensor env =
      (match freshReading inner.cache sensor env with
        | some (_, reading) => .ok reading
        | none => .error (.unsupported sensor.asStr), inner) := by
  change ((diskName sensor).isSome && (freshReading inner.cache sensor env).isNone) = false at idle
  unfold sampleInner
  cases named : diskName sensor with
  | none =>
      have nothing : freshReading inner.cache sensor env = none := by
        rw [freshReading, named, Option.bind_none]
      rw [nothing]
  | some name =>
      rw [named, Option.isSome_some, Bool.true_and, Option.isNone_eq_false_iff] at idle
      obtain ⟨found, fresh⟩ := Option.isSome_iff_exists.mp idle
      rw [fresh]
      rw [freshReading, named, Option.bind_some] at fresh
      simp only [fresh]

theorem fetches_sample {sensor : SensorId} :
    inner.fetches (.sample sensor env) = true ↔
      (∃ name, diskName sensor = some name) ∧ freshReading inner.cache sensor env = none := by
  show ((diskName sensor).isSome && (freshReading inner.cache sensor env).isNone) = true ↔ _
  rw [Bool.and_eq_true, Option.isSome_iff_exists, Option.isNone_iff_eq_none]

theorem readable_of_stored {drives : SmartDrives} {done : PUnit.{1}} {cache : Cache}
    (stored : storeEach true env.storedAt (drivesOf drives) ∅ = (.ok done, cache)) :
    readable env drives = true := by
  rw [readable, stored]
  rfl

theorem not_readable_of_error {drives : SmartDrives} {error : PluginError} {cache : Cache}
    (failed : storeEach true env.storedAt (drivesOf drives) ∅ = (.error error, cache)) :
    readable env drives = false := by
  rw [readable, failed]
  rfl

theorem Keeps.init (keeps : Keeps inner log now) (later : now ≤ env.checkAt) :
    Keeps (initInner inner env).2 (log.after inner (.init env)) env.leaveAt := by
  show Keeps (initInner inner env).2 ⟨log.history ++ [(env.call, _)], _⟩ env.leaveAt
  unfold initInner
  cases fetched : fetchSmartDrivesTimeout { inner with cache := ∅ } env with
  | mk answer next =>
      obtain ⟨answered, kept, tracks, threads⟩ := keeps.fetch later fetched
      simp only [Op.env]
      rw [← answered]
      cases answer with
      | error error =>
          refine ⟨tracks, kept ▸ within_empty none, ?_, threads⟩
          intro refresh last
          cases last
      | ok drives =>
          dsimp only
          rw [kept]
          refine ⟨tracks, within_storeEach false env.storedAt drives, ?_, threads⟩
          intro refresh last name
          cases last
          exact env.stored_le name

theorem Keeps.sample (keeps : Keeps inner log now) (later : now ≤ env.checkAt) (sensor : SensorId) :
    Keeps (sampleInner inner sensor env).2 (log.after inner (.sample sensor env)) env.leaveAt := by
  have passed : now ≤ env.leaveAt := later.trans env.passes
  cases fetches : inner.fetches (.sample sensor env) with
  | false =>
      rw [Log.after, if_neg (ne_true_of_eq_false fetches), sampleInner_of_not_fetches fetches]
      refine ⟨keeps.tracks.later passed, keeps.within, ?_, keeps.threads⟩
      intro refresh last name
      exact (keeps.stored refresh last name).trans passed
  | true =>
      obtain ⟨⟨name, named⟩, old⟩ := fetches_sample.mp fetches
      rw [Log.after, if_pos fetches, sampleInner_of_fetches named old]
      cases fetched : fetchSmartDrivesTimeout inner env with
      | mk answer next =>
          obtain ⟨answered, kept, tracks, threads⟩ := keeps.fetch later fetched
          simp only [Op.env]
          rw [← answered]
          have before : Within next.cache log.refresh := kept.symm ▸ keeps.within
          have older : ∀ refresh, log.refresh = some refresh → ∀ name,
              refresh.storedAt name ≤ env.leaveAt :=
            fun refresh last name => (keeps.stored refresh last name).trans passed
          cases answer with
          | error error => exact ⟨tracks, before, older, threads⟩
          | ok drives =>
              dsimp only [refreshed]
              cases stored : storeEach true env.storedAt (drivesOf drives) ∅ with
              | mk result cache =>
                  cases result with
                  | error error =>
                      rw [if_neg (ne_true_of_eq_false (not_readable_of_error stored))]
                      exact ⟨tracks, before, older, threads⟩
                  | ok done =>
                      rw [if_pos (readable_of_stored stored)]
                      have within := within_storeEach true env.storedAt drives
                      rw [stored] at within
                      refine ⟨tracks, within, ?_, threads⟩
                      intro refresh last name
                      cases last
                      exact env.stored_le name

/-- One operation keeps the plugin in step with its log. -/
theorem Keeps.after (keeps : Keeps inner log now) (op : Op) (later : now ≤ op.env.checkAt) :
    Keeps (inner.after op) (log.after inner op) op.env.leaveAt := by
  cases op with
  | init env => exact keeps.init later
  | sample sensor env => exact keeps.sample later sensor

theorem Keeps.operate {ops : List Op} (keeps : Keeps inner log now) (order : InOrder now ops) :
    ∃ later, Keeps (operate (inner, log) ops).1 (operate (inner, log) ops).2 later ∧
      ∀ rest, InOrder now (ops ++ rest) → InOrder later rest := by
  induction ops generalizing inner log now with
  | nil => exact ⟨now, keeps, fun _ order => order⟩
  | cons op rest ih =>
      obtain ⟨later, kept, ordered⟩ := ih (keeps.after op order.1) order.2
      exact ⟨later, kept, fun more order => ordered more order.2⟩

/-- The refresh has this reading of the sensor. -/
def Refresh.Has (refresh : Refresh) (name : String) (sensor : SensorId) (reading : Reading) :
    Prop :=
  ∃ rows, refresh.entry name = some (refresh.storedAt name, rows) ∧ (sensor, reading) ∈ rows

theorem Within.has {cache : Cache} {refresh : Option Refresh} (within : Within cache refresh)
    {name : String} {sensor : SensorId} {stored : Nat} {reading : Reading}
    (found : cachedReading cache name sensor = some (stored, reading)) :
    ∃ source, refresh = some source ∧ stored = source.storedAt name ∧
      source.Has name sensor reading := by
  obtain ⟨⟨time, rows⟩, entry, picked⟩ := Option.bind_eq_some_iff.mp found
  obtain ⟨⟨id, value⟩, row, same⟩ := Option.map_eq_some_iff.mp picked
  cases same
  obtain ⟨source, last, source_entry⟩ := within name _ entry
  have id_eq : id = sensor := by
    have picks := List.find?_some row
    exact of_decide_eq_true picks
  have time_eq : time = source.storedAt name := by
    obtain ⟨props, _, read⟩ := Option.bind_eq_some_iff.mp source_entry
    obtain ⟨_, _, same⟩ := Option.map_eq_some_iff.mp read
    exact (congrArg Prod.fst same).symm
  subst id_eq time_eq
  exact ⟨source, last, rfl, rows, source_entry, List.mem_of_find?_eq_some row⟩

theorem InOrder.of_append {ops rest : List Op} {now : Nat} (order : InOrder now (ops ++ rest)) :
    InOrder now ops := by
  induction ops generalizing now with
  | nil => trivial
  | cons op rest ih => exact ⟨order.1, ih order.2⟩

theorem operate_concat (state : Inner × Log) (ops : List Op) (op : Op) :
    operate state (ops ++ [op]) =
      ((operate state ops).1.after op, (operate state ops).2.after (operate state ops).1 op) := by
  induction ops generalizing state with
  | nil => rfl
  | cons first rest ih => exact ih _

/-- Where a reading comes from that a sample answers with. -/
theorem Keeps.served (keeps : Keeps inner log now) (later : now ≤ env.checkAt) {sensor : SensorId}
    {reading : Reading} (served : (sampleInner inner sensor env).1 = .ok reading) :
    let after := log.after inner (.sample sensor env)
    let verdict := GuardedCalls.verdict policy log.history env.call
    ∃ name refresh, diskName sensor = some name ∧ after.refresh = some refresh ∧
      refresh.Has name sensor reading ∧
      (after = log ∧ refresh.storedAt name ≤ env.checkAt ∧
          env.checkAt ≤ refresh.storedAt name + cacheTtl ∨
        after.history = log.history ++ [(env.call, verdict)] ∧
          (reply verdict = .ok refresh.drives ∨
            ∃ error, reply verdict = .error error ∧ log.refresh = some refresh)) := by
  intro after verdict
  cases fetches : inner.fetches (.sample sensor env) with
  | false =>
      have kept : after = log := if_neg (ne_true_of_eq_false fetches)
      rw [sampleInner_of_not_fetches fetches] at served
      cases fresh : freshReading inner.cache sensor env with
      | none => rw [fresh] at served; cases served
      | some found =>
          obtain ⟨stored, value⟩ := found
          rw [fresh] at served
          cases served
          obtain ⟨name, named, found⟩ := Option.bind_eq_some_iff.mp fresh
          obtain ⟨cached, young⟩ := Option.filter_eq_some_iff.mp found
          obtain ⟨source, last, stored_eq, has⟩ := keeps.within.has cached
          have age : env.checkAt - stored ≤ cacheTtl := of_decide_eq_true young
          have past := keeps.stored source last name
          refine ⟨name, source, named, kept ▸ last, has, .inl ⟨kept, ?_, ?_⟩⟩
          · omega
          · omega
  | true =>
      obtain ⟨⟨name, named⟩, old⟩ := fetches_sample.mp fetches
      have taken : after = if inner.fetches (.sample sensor env) then _ else log := rfl
      rw [if_pos fetches] at taken
      rw [sampleInner_of_fetches named old] at served
      cases fetched : fetchSmartDrivesTimeout inner env with
      | mk answer next =>
          obtain ⟨answered, kept, _, _⟩ := keeps.fetch later fetched
          rw [fetched] at served
          rw [taken]
          dsimp only [Op.env]
          rw [← answered]
          cases answer with
          | error error =>
              dsimp only [stale] at served
              rw [kept] at served
              cases cached : cachedReading inner.cache name sensor with
              | none => rw [cached] at served; cases served
              | some found =>
                  obtain ⟨stored, value⟩ := found
                  rw [cached] at served
                  cases served
                  obtain ⟨source, last, _, has⟩ := keeps.within.has cached
                  exact ⟨name, source, named, last, has, .inr ⟨rfl, .inr ⟨error, rfl, last⟩⟩⟩
          | ok drives =>
              dsimp only [refreshed] at served
              cases stored : storeEach true env.storedAt (drivesOf drives) ∅ with
              | mk result cache =>
                  rw [stored] at served
                  cases result with
                  | error error => cases served
                  | ok done =>
                      dsimp only at served ⊢
                      rw [if_pos (readable_of_stored stored)]
                      have within := within_storeEach true env.storedAt drives
                      rw [stored] at within
                      cases cached : cachedReading cache name sensor with
                      | none => rw [cached] at served; cases served
                      | some found =>
                          obtain ⟨time, value⟩ := found
                          rw [cached] at served
                          cases served
                          obtain ⟨source, last, _, has⟩ := within.has cached
                          cases last
                          exact ⟨name, _, named, rfl, has, .inr ⟨rfl, .inl rfl⟩⟩

/-- Whatever udisks2 does, a reading is what it last answered for that drive: it is at most 30
seconds old and nothing is asked, or udisks2 has just answered it, or udisks2 was asked in vain.
There are never more than 8 threads. -/
theorem sample_served {ops : List Op} {sensor : SensorId} {env : Env} {reading : Reading}
    (order : InOrder 0 (ops ++ [.sample sensor env]))
    (served : (sampleInner (operate (.default, .empty) ops).1 sensor env).1 = .ok reading) :
    let before := (operate (.default, .empty) ops).2
    let after := (operate (.default, .empty) (ops ++ [.sample sensor env])).2
    let verdict := GuardedCalls.verdict policy before.history env.call
    (∀ instant, GuardedCalls.alive after.history instant ≤ maxDetachedHandles) ∧
    ∃ name refresh, diskName sensor = some name ∧ after.refresh = some refresh ∧
      refresh.Has name sensor reading ∧
      (after = before ∧ refresh.storedAt name ≤ env.checkAt ∧
          env.checkAt ≤ refresh.storedAt name + cacheTtl ∨
        after.history = before.history ++ [(env.call, verdict)] ∧
          (reply verdict = .ok refresh.drives ∨
            ∃ error, reply verdict = .error error ∧ before.refresh = some refresh)) := by
  obtain ⟨later, keeps, ordered⟩ := Keeps.start.operate order.of_append
  have begins := (ordered _ order).1
  have next := keeps.sample begins sensor
  rw [operate_concat]
  exact ⟨next.threads, keeps.served begins served⟩

/-- A call of udisks2 that begins at `now`; it hangs for good where there is no answer. -/
def Env.asked (now : Nat) (answers : Option Nat) (drives : SmartDrives) : Env where
  checkAt := now
  lookAt := now
  reapAt := now
  startAt := now
  doneAt := now + answers.getD udisksTimeout
  answers := answers
  endsAt := answers.map (now + ·)
  drives := .ok drives
  storedAt _ := now + answers.getD udisksTimeout
  leaveAt := now + answers.getD udisksTimeout
  check_le := Nat.le_refl now
  look_le := Nat.le_refl now
  reap_le := Nat.le_refl now
  start_le := Nat.le_add_right now _
  done_le := Nat.le_refl _
  stored_le _ := Nat.le_refl _

/-- A drive that is failing, as udisks2 has it. -/
def failingDrive : SmartDrives :=
  (∅ : SmartDrives).insert "sda" ((∅ : Props).insert "SmartFailing" (.bool true))

/-- udisks2 hangs, and the health of the drive is still known after 40 seconds. -/
theorem sample_served_hung : ∃ (name : String) (refresh : Refresh),
    diskName ⟨"disk.sda.smart_health"⟩ = some name ∧
      refresh.Has name ⟨"disk.sda.smart_health"⟩ (.state "failing") := by
  have order : InOrder 0 ([.init (.asked 0 (some 5) failingDrive)] ++
      [.sample ⟨"disk.sda.smart_health"⟩ (.asked 40000000000 none failingDrive)]) := by
    refine ⟨by decide, by decide, trivial⟩
  have answered : (sampleInner
      (operate (.default, .empty) [.init (.asked 0 (some 5) failingDrive)]).1
      ⟨"disk.sda.smart_health"⟩ (.asked 40000000000 none failingDrive)).1 =
        .ok (.state "failing") := by decide +kernel
  obtain ⟨_, name, refresh, named, _, has, _⟩ := sample_served order answered
  exact ⟨name, refresh, named, has⟩

end LinSight.Smart
