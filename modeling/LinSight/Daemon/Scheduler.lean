import LinSight.Library.KeyMap
import LinSight.Plugin.Manifest

set_option autoImplicit false

namespace LinSight

inductive SchedError where
  | unknown (sensor : String)
deriving DecidableEq

def SchedError.toString : SchedError → String
  | .unknown sensor => "unknown sensor: " ++ sensor

structure Subscription where
  sensor : SensorId
  periodMicros : Nat
deriving DecidableEq

structure Entry where
  periodCounts : KeyMap Nat Nat
  periodMicros : Nat
  nextDueAtMicros : Nat
  lastSampledAtMicros : Option Nat
  isStatic : Bool
  unsupportedStrikes : Nat
  timeoutStrikes : Nat
deriving DecidableEq

/-- `descriptors` is the catalogue of the plugin host; it never changes. -/
structure Scheduler where
  descriptors : List SensorDescriptor
  entries : KeyMap SensorId Entry
deriving DecidableEq

namespace Scheduler

def new (descriptors : List SensorDescriptor) : Scheduler := ⟨descriptors, ∅⟩

/-- The sampling period a request is granted; `none` is the assertion of
`f32::clamp` failing, which it does on a NaN native rate. -/
def grantedPeriod (descriptor : SensorDescriptor) (requestedRateHz : Option Ieee.Value) :
    Option Nat := do
  let native ← descriptor.clampedRateHz
  let effective ← match requestedRateHz with
    | some r => (r.clamp minRateHz native).map native.min
    | none => some native
  let effective := if !effective.isFinite || effective.le (.finite 0) then minRateHz else effective
  return (Ieee.binary64.div (.finite 1000000) effective).toUnsigned u64Bound

/-- The entry of the first subscription on a sensor. -/
def freshEntry (period : Nat) (isStatic : Bool) : Entry where
  periodCounts := AList.insert period 1 ∅
  periodMicros := period
  nextDueAtMicros := 0
  lastSampledAtMicros := none
  isStatic := isStatic
  unsupportedStrikes := 0
  timeoutStrikes := 0

/-- The counts after one more subscription at `period`. -/
def incremented (counts : KeyMap Nat Nat) (period : Nat) : KeyMap Nat Nat :=
  counts.insert period ((counts.lookup period).getD 0 + 1)

/-- One more subscription on a sensor that is already sampled; it becomes due
at once. -/
def joinEntry (entry : Entry) (period : Nat) : Entry :=
  let counts := incremented entry.periodCounts period
  { entry with
    periodCounts := counts
    -- the counts are not empty, so `expect` does not fire
    periodMicros := (KeyMap.firstKey counts).getD entry.periodMicros
    nextDueAtMicros := 0 }

/-- The entry after a subscription, given the one stored before it. -/
def admitEntry (period : Nat) (isStatic : Bool) : Option Entry → Entry
  | some entry => joinEntry entry period
  | none => freshEntry period isStatic

def subscribe (scheduler : Scheduler) (id : SensorId) (requestedRateHz : Option Ieee.Value) :
    Option (Except SchedError (Scheduler × Subscription)) :=
  match scheduler.descriptors.find? (·.id = id) with
  | none => some (.error (.unknown id.asStr))
  | some descriptor => do
      let period ← grantedPeriod descriptor requestedRateHz
      let isStatic := descriptor.tags.any (· = staticTag)
      let entry := admitEntry period isStatic (scheduler.entries.lookup id)
      return .ok ({ scheduler with entries := scheduler.entries.insert id entry }, ⟨id, period⟩)

/-- The counts after one subscription at `period` went away. -/
def decremented (counts : KeyMap Nat Nat) (period : Nat) : KeyMap Nat Nat :=
  match counts.lookup period with
  | some count => if count - 1 = 0 then counts.erase period else counts.insert period (count - 1)
  | none => counts

/-- The entry that remains while other subscriptions hold the sensor. -/
def leaveEntry (entry : Entry) (counts : KeyMap Nat Nat) : Entry :=
  let period := (KeyMap.firstKey counts).getD entry.periodMicros
  { entry with
    periodCounts := counts
    periodMicros := period
    nextDueAtMicros :=
      if entry.isStatic then entry.nextDueAtMicros
      else match entry.lastSampledAtMicros with
        | some last => saturatingAdd last period
        | none => 0 }

def unsubscribe (scheduler : Scheduler) (subscription : Subscription) : Scheduler :=
  match scheduler.entries.lookup subscription.sensor with
  | none => scheduler
  | some entry =>
      let counts := decremented entry.periodCounts subscription.periodMicros
      { scheduler with
        entries :=
          if counts.entries.isEmpty then scheduler.entries.erase subscription.sensor
          else scheduler.entries.insert subscription.sensor (leaveEntry entry counts) }

structure TickItem where
  id : SensorId
deriving DecidableEq

/-- The entry after a tick planned it at `now`. -/
def advanceEntry (now : Nat) (entry : Entry) : Entry :=
  if now < entry.nextDueAtMicros then entry
  else { entry with nextDueAtMicros := wrappingAdd now entry.periodMicros }

def tickPlan (scheduler : Scheduler) (now : Nat) : Scheduler × List TickItem :=
  ({ scheduler with entries := KeyMap.mapValues (fun _ => advanceEntry now) scheduler.entries },
    (scheduler.entries.entries.filter fun due => !decide (now < due.2.nextDueAtMicros)).map
      fun due => ⟨due.1⟩)

abbrev u32Max : Nat := 4294967295

/-- Due time after the given number of consecutive failures. -/
def backoffDue (now period strikes : Nat) : Nat :=
  wrappingAdd now (saturatingMul period (2 ^ min strikes 8))

abbrev SampleResult := Except PluginError Sample

/-- What one sampling result does to the entry of its sensor. -/
def settleEntry (now : Nat) (entry : Entry) : SampleResult → Entry
  | .ok _ =>
      { entry with
        unsupportedStrikes := 0
        timeoutStrikes := 0
        lastSampledAtMicros := some now
        nextDueAtMicros := if entry.isStatic then u64Max else entry.nextDueAtMicros }
  | .error (.unsupported _) =>
      let strikes := min (entry.unsupportedStrikes + 1) u32Max
      { entry with
        unsupportedStrikes := strikes
        nextDueAtMicros := backoffDue now entry.periodMicros strikes }
  | .error (.timeout _) =>
      let strikes := min (entry.timeoutStrikes + 1) u32Max
      { entry with
        timeoutStrikes := strikes
        nextDueAtMicros := backoffDue now entry.periodMicros strikes }
  | .error _ => { entry with nextDueAtMicros := wrappingAdd now entry.periodMicros }

/-- Apply the results in order; the samples returned are the ones recorded to
history and fed to the alert engine. -/
def tickCommit (now : Nat) (scheduler : Scheduler) :
    List (TickItem × SampleResult) → Scheduler × List Sample
  | [] => (scheduler, [])
  | (item, result) :: rest =>
      match scheduler.entries.lookup item.id with
      | none => tickCommit now scheduler rest
      | some entry =>
          let settled := { scheduler with
            entries := scheduler.entries.insert item.id (settleEntry now entry result) }
          let (final, out) := tickCommit now settled rest
          match result with
          | .ok sample => (final, sample :: out)
          | .error _ => (final, out)

/-! Each operation, seen from the entry of one sensor. -/

theorem subscribe_ok {scheduler next : Scheduler} {id : SensorId} {rate : Option Ieee.Value}
    {subscription : Subscription}
    (granted : scheduler.subscribe id rate = some (.ok (next, subscription))) :
    ∃ descriptor, scheduler.descriptors.find? (·.id = id) = some descriptor ∧
      grantedPeriod descriptor rate = some subscription.periodMicros ∧
      subscription.sensor = id ∧
      next = { scheduler with
        entries := scheduler.entries.insert id
          (admitEntry subscription.periodMicros (descriptor.tags.any (· = staticTag))
            (scheduler.entries.lookup id)) } := by
  unfold subscribe at granted
  split at granted
  · cases granted
  · rename_i descriptor found
    simp only [Option.bind_eq_bind, Option.bind_eq_some_iff, Option.pure_def, Option.some.injEq,
      Except.ok.injEq, Prod.mk.injEq] at granted
    obtain ⟨period, periodEq, rfl, rfl⟩ := granted
    exact ⟨descriptor, found, periodEq, rfl, rfl⟩

@[simp] theorem subscribe_descriptors {scheduler next : Scheduler} {id : SensorId}
    {rate : Option Ieee.Value} {subscription : Subscription}
    (granted : scheduler.subscribe id rate = some (.ok (next, subscription))) :
    next.descriptors = scheduler.descriptors := by
  obtain ⟨_, _, _, _, rfl⟩ := subscribe_ok granted
  rfl

theorem lookup_unsubscribe_ne (scheduler : Scheduler) (subscription : Subscription)
    {id : SensorId} (other : id ≠ subscription.sensor) :
    (scheduler.unsubscribe subscription).entries.lookup id = scheduler.entries.lookup id := by
  unfold unsubscribe
  split
  · rfl
  · dsimp only
    split
    · exact AList.lookup_erase_ne other
    · exact AList.lookup_insert_ne other

theorem lookup_unsubscribe (scheduler : Scheduler) (subscription : Subscription) :
    (scheduler.unsubscribe subscription).entries.lookup subscription.sensor =
      (scheduler.entries.lookup subscription.sensor).bind fun entry =>
        let counts := decremented entry.periodCounts subscription.periodMicros
        if counts.entries.isEmpty then none else some (leaveEntry entry counts) := by
  unfold unsubscribe
  split
  · rename_i absent
    simp [absent]
  · rename_i entry found
    dsimp only [Option.bind_some]
    split
    · rename_i empty
      simp only [found, Option.bind_some, empty, ↓reduceIte, AList.lookup_erase]
    · rename_i nonempty
      simp only [found, Option.bind_some, nonempty, ↓reduceIte, AList.lookup_insert,
        Bool.false_eq_true]

theorem lookup_tickPlan (scheduler : Scheduler) (now : Nat) (id : SensorId) :
    (scheduler.tickPlan now).1.entries.lookup id =
      (scheduler.entries.lookup id).map (advanceEntry now) :=
  KeyMap.lookup_mapValues _ _ id

theorem mem_tickPlan (scheduler : Scheduler) (now : Nat) (id : SensorId) :
    (⟨id⟩ : TickItem) ∈ (scheduler.tickPlan now).2 ↔
      ∃ entry, scheduler.entries.lookup id = some entry ∧ entry.nextDueAtMicros ≤ now := by
  simp only [tickPlan, List.mem_map, List.mem_filter, Bool.not_eq_true', decide_eq_false_iff_not,
    Nat.not_lt, TickItem.mk.injEq]
  constructor
  · rintro ⟨⟨key, entry⟩, ⟨member, due⟩, rfl⟩
    exact ⟨entry, (KeyMap.mem_entries_iff _ _ _).mp member, due⟩
  · rintro ⟨entry, found, due⟩
    exact ⟨⟨id, entry⟩, ⟨(KeyMap.mem_entries_iff _ _ _).mpr found, due⟩, rfl⟩

/-- The results of one sensor, in order. -/
def resultsFor (id : SensorId) (results : List (TickItem × SampleResult)) : List SampleResult :=
  (results.filter (·.1.id = id)).map (·.2)

theorem resultsFor_of_notMem {id : SensorId} {plan : List TickItem}
    {results : List (TickItem × SampleResult)}
    (planned : ∀ entry ∈ results, entry.1 ∈ plan) (absent : (⟨id⟩ : TickItem) ∉ plan) :
    resultsFor id results = [] := by
  rw [resultsFor, List.map_eq_nil_iff, List.filter_eq_nil_iff]
  intro entry member same
  have sensor : entry.1 = ⟨id⟩ := by
    obtain ⟨⟨sensor⟩, result⟩ := entry
    simpa using same
  exact absent (sensor ▸ planned entry member)

theorem resultsFor_of_mem {id : SensorId} {results : List (TickItem × SampleResult)}
    (distinct : (results.map (·.1)).Nodup) {result : SampleResult}
    (member : ((⟨id⟩ : TickItem), result) ∈ results) : resultsFor id results = [result] := by
  induction results with
  | nil => cases member
  | cons head rest ih =>
      obtain ⟨fresh, others⟩ := List.nodup_cons.mp distinct
      rcases List.mem_cons.mp member with same | later
      · subst same
        have none_left : resultsFor id rest = [] :=
          resultsFor_of_notMem (fun entry inside => List.mem_map_of_mem inside) fresh
        rw [resultsFor] at none_left
        simp only [resultsFor, decide_true, List.filter_cons_of_pos, List.map_cons, none_left]
      · have differs : head.1.id ≠ id := by
          intro same
          apply fresh
          have sensor : head.1 = ⟨id⟩ := by rw [← same]
          change head.1 ∈ _
          rw [sensor]
          exact List.mem_map_of_mem later
        rw [← ih others later]
        simp [resultsFor, differs]

theorem lookup_tickCommit (now : Nat) (results : List (TickItem × SampleResult))
    (scheduler : Scheduler) (id : SensorId) :
    (tickCommit now scheduler results).1.entries.lookup id =
      (scheduler.entries.lookup id).map fun entry =>
        (resultsFor id results).foldl (settleEntry now) entry := by
  induction results generalizing scheduler with
  | nil => simp [tickCommit, resultsFor]
  | cons head rest ih =>
      obtain ⟨item, result⟩ := head
      unfold tickCommit
      split
      · rename_i absent
        rw [ih]
        by_cases same : item.id = id
        · subst same
          simp [absent]
        · simp [resultsFor, same]
      · rename_i entry found
        have settled : ∀ final : Scheduler × List Sample,
            (match result with
              | .ok sample => (final.1, sample :: final.2)
              | .error _ => (final.1, final.2)).1 = final.1 := by
          intro final
          cases result <;> rfl
        dsimp only
        rw [settled, ih]
        by_cases same : item.id = id
        · subst same
          simp [resultsFor, found]
        · rw [AList.lookup_insert_ne (Ne.symm same)]
          simp [resultsFor, same]

/-- A successful result of a sensor that is still subscribed is handed on. -/
theorem mem_tickCommit (now : Nat) {results : List (TickItem × SampleResult)}
    {scheduler : Scheduler} {item : TickItem} {sample : Sample}
    (returned : (item, Except.ok sample) ∈ results) (subscribed : item.id ∈ scheduler.entries) :
    sample ∈ (tickCommit now scheduler results).2 := by
  induction results generalizing scheduler with
  | nil => cases returned
  | cons head rest ih =>
      obtain ⟨first, result⟩ := head
      unfold tickCommit
      split
      · rename_i absent
        rcases List.mem_cons.mp returned with same | later
        · cases same
          exact absurd subscribed (AList.lookup_eq_none.mp absent)
        · exact ih later subscribed
      · rename_i entry found
        have still : item.id ∈ scheduler.entries.insert first.id (settleEntry now entry result) :=
          (AList.mem_insert _).mpr (Or.inr subscribed)
        rcases List.mem_cons.mp returned with same | later
        · cases same
          exact List.mem_cons_self
        · have later_out := @ih { scheduler with entries := _ } later still
          cases result with
          | ok other => exact List.mem_cons_of_mem _ later_out
          | error _ => exact later_out

@[simp] theorem tickCommit_descriptors (now : Nat) (results : List (TickItem × SampleResult))
    (scheduler : Scheduler) :
    (tickCommit now scheduler results).1.descriptors = scheduler.descriptors := by
  induction results generalizing scheduler with
  | nil => rfl
  | cons head rest ih =>
      obtain ⟨item, result⟩ := head
      unfold tickCommit
      split
      · exact ih scheduler
      · cases result <;> exact ih _

end Scheduler

end LinSight
