import LinSight.Daemon.GrantedPeriods
import LinSight.Daemon.Refcounts
import LinSight.Library.Run

set_option autoImplicit false

/-! Runs of the scheduler's calls, and what holds of every entry in them. -/

namespace LinSight

namespace Scheduler

/-- A call that changes the scheduler. Its clock is a `u64`. -/
inductive Call where
  | subscribe (id : SensorId) (rate : Option Ieee.Value)
  | unsubscribe (subscription : Subscription)
  | tickPlan (now : Fin u64Bound)
  | tickCommit (now : Fin u64Bound) (results : List (TickItem × SampleResult))

/-- The state after the call, and none where it panics. -/
def call (scheduler : Scheduler) : Call → Option Scheduler
  | .subscribe id rate =>
      match scheduler.subscribe id rate with
      | none => none
      | some (.error _) => some scheduler
      | some (.ok (next, _)) => some next
  | .unsubscribe subscription => some (scheduler.unsubscribe subscription)
  | .tickPlan now => some (scheduler.tickPlan now).1
  | .tickCommit now results => some (tickCommit now scheduler results).1

/-- Every period is one that is granted, the least of them is in force, and the due time is a
`u64`. -/
structure Regular (entry : Entry) : Prop where
  fastest : IsLeast {period | period ∈ entry.periodCounts} entry.periodMicros
  periods : ∀ period ∈ entry.periodCounts, 0 < period ∧ period ≤ 10000000
  due : entry.nextDueAtMicros ≤ u64Max

def AllRegular (scheduler : Scheduler) : Prop :=
  ∀ id entry, scheduler.entries.lookup id = some entry → Regular entry

section Regular

variable {entry : Entry} {now : Nat}

theorem Regular.inForce (regular : Regular entry) :
    0 < entry.periodMicros ∧ entry.periodMicros ≤ 10000000 :=
  regular.periods _ regular.fastest.1

variable {period : Nat}

theorem wrappingAdd_le (a b : Nat) : wrappingAdd a b ≤ u64Max :=
  Nat.le_of_lt_succ (Nat.mod_lt _ (by decide))

theorem freshEntry_regular (granted : 0 < period ∧ period ≤ 10000000) (isStatic : Bool) :
    Regular (freshEntry period isStatic) := by
  have only : ∀ other ∈ (freshEntry period isStatic).periodCounts, other = period := by
    intro other member
    rcases (AList.mem_insert _).mp member with same | absent
    · exact same
    · exact absurd absent (AList.notMem_empty other)
  refine ⟨⟨(AList.mem_insert _).mpr (Or.inl rfl), ?_⟩, ?_, Nat.zero_le _⟩
  · exact fun other member => (only other member).ge
  · exact fun other member => only other member ▸ granted

theorem Regular.joinEntry (regular : Regular entry) (granted : 0 < period ∧ period ≤ 10000000) :
    Regular (joinEntry entry period) where
  fastest := getD_firstKey_isLeast ((AList.mem_insert _).mpr (Or.inl rfl)) entry.periodMicros
  periods := by
    intro other member
    rcases (AList.mem_insert _).mp member with rfl | earlier
    · exact granted
    · exact regular.periods other earlier
  due := Nat.zero_le _

theorem mem_of_mem_decremented {counts : KeyMap Nat Nat} {other : Nat}
    (member : other ∈ decremented counts period) : other ∈ counts := by
  obtain ⟨count, found⟩ := KeyMap.exists_lookup member
  rw [lookup_decremented] at found
  split at found
  · rename_i same
    obtain ⟨before, held, _⟩ := Option.bind_eq_some_iff.mp found
    rw [same, ← AList.lookup_isSome, held]
    rfl
  · rw [← AList.lookup_isSome, found]
    rfl

theorem exists_mem_of_nonempty {counts : KeyMap Nat Nat} (nonempty : counts.entries.isEmpty = false) :
    ∃ other, other ∈ counts := by
  have some_entry : counts.entries ≠ [] := by
    rw [← List.isEmpty_eq_false_iff]
    exact nonempty
  obtain ⟨⟨other, count⟩, member⟩ := List.exists_mem_of_ne_nil _ some_entry
  have found := (KeyMap.mem_entries_iff counts other count).mp member
  refine ⟨other, ?_⟩
  rw [← AList.lookup_isSome, found]
  rfl

/-- What stays has the fastest of the remaining periods. -/
theorem Regular.leaveEntry (regular : Regular entry)
    (nonempty : (decremented entry.periodCounts period).entries.isEmpty = false) :
    Regular (leaveEntry entry (decremented entry.periodCounts period)) := by
  obtain ⟨other, member⟩ := exists_mem_of_nonempty nonempty
  refine ⟨getD_firstKey_isLeast member entry.periodMicros, ?_, ?_⟩
  · exact fun other member => regular.periods other (mem_of_mem_decremented member)
  · simp only [Scheduler.leaveEntry]
    split
    · exact regular.due
    · split
      · exact Nat.min_le_right _ _
      · exact Nat.zero_le _

/-- The period in force does not get shorter as a subscriber leaves. -/
theorem Regular.le_leaveEntry (regular : Regular entry)
    (nonempty : (decremented entry.periodCounts period).entries.isEmpty = false) :
    entry.periodMicros ≤
      (Scheduler.leaveEntry entry (decremented entry.periodCounts period)).periodMicros :=
  regular.fastest.2 (mem_of_mem_decremented (regular.leaveEntry nonempty).fastest.1)

theorem Regular.advanceEntry (regular : Regular entry) : Regular (advanceEntry now entry) := by
  unfold Scheduler.advanceEntry
  split
  · exact regular
  · exact ⟨regular.fastest, regular.periods, wrappingAdd_le _ _⟩

theorem Regular.settleEntry (regular : Regular entry) (result : SampleResult) :
    Regular (settleEntry now entry result) := by
  cases result with
  | ok sample =>
      refine ⟨regular.fastest, regular.periods, ?_⟩
      simp only [Scheduler.settleEntry]
      split
      · exact le_rfl
      · exact regular.due
  | error failure =>
      cases failure <;> exact ⟨regular.fastest, regular.periods, wrappingAdd_le _ _⟩

theorem Regular.settleAll (regular : Regular entry) (results : List SampleResult) :
    Regular (results.foldl (Scheduler.settleEntry now) entry) := by
  induction results generalizing entry with
  | nil => exact regular
  | cons result rest ih => exact ih (regular.settleEntry result)

end Regular

section Calls

variable {scheduler next : Scheduler}

theorem call_subscribe {id : SensorId} {rate : Option Ieee.Value}
    (taken : scheduler.call (.subscribe id rate) = some next) :
    next = scheduler ∨ ∃ subscription,
      scheduler.subscribe id rate = some (.ok (next, subscription)) := by
  unfold call at taken
  dsimp only at taken
  split at taken
  · cases taken
  · exact .inl (Option.some.inj taken).symm
  · rename_i after subscription granted
    rw [← Option.some.inj taken]
    exact .inr ⟨subscription, granted⟩

/-- The entry after a subscription to its sensor is due at once. -/
theorem lookup_subscribe {id : SensorId} {rate : Option Ieee.Value} {subscription : Subscription}
    (granted : scheduler.subscribe id rate = some (.ok (next, subscription))) :
    (∀ other, other ≠ id → next.entries.lookup other = scheduler.entries.lookup other) ∧
      ∃ isStatic, next.entries.lookup id = some (admitEntry subscription.periodMicros isStatic
        (scheduler.entries.lookup id)) := by
  obtain ⟨descriptor, _, _, _, rfl⟩ := subscribe_ok granted
  exact ⟨fun other differs => AList.lookup_insert_ne differs, _, AList.lookup_insert _⟩

theorem admitEntry_due (period : Nat) (isStatic : Bool) (before : Option Entry) :
    (admitEntry period isStatic before).nextDueAtMicros = 0 := by
  cases before <;> rfl

theorem new_allRegular (descriptors : List SensorDescriptor) : (new descriptors).AllRegular := by
  intro id entry found
  exact absurd found (by rw [new, AList.lookup_empty]; exact nofun)

theorem AllRegular.call (all : scheduler.AllRegular) {label : Call}
    (taken : scheduler.call label = some next) : next.AllRegular := by
  cases label with
  | subscribe id rate =>
      rcases call_subscribe taken with rfl | ⟨subscription, granted⟩
      · exact all
      · obtain ⟨others, isStatic, own⟩ := lookup_subscribe granted
        have bounds := subscribe_period granted
        intro other entry found
        by_cases same : other = id
        · rw [same, own, Option.some.injEq] at found
          rw [← found]
          cases before : scheduler.entries.lookup id with
          | none => exact freshEntry_regular bounds isStatic
          | some held => exact (all id held before).joinEntry bounds
        · exact all other entry (others other same ▸ found)
  | unsubscribe subscription =>
      cases taken
      intro other entry found
      by_cases same : other = subscription.sensor
      · rw [same, lookup_unsubscribe, Option.bind_eq_some_iff] at found
        obtain ⟨before, held, rest⟩ := found
        dsimp only at rest
        split at rest
        · cases rest
        · rename_i nonempty
          cases rest
          exact (all _ before held).leaveEntry (Bool.eq_false_iff.mpr nonempty)
      · rw [lookup_unsubscribe_ne scheduler subscription same] at found
        exact all other entry found
  | tickPlan now =>
      cases taken
      intro other entry found
      rw [lookup_tickPlan, Option.map_eq_some_iff] at found
      obtain ⟨before, held, rfl⟩ := found
      exact (all other before held).advanceEntry
  | tickCommit now results =>
      cases taken
      intro other entry found
      rw [lookup_tickCommit, Option.map_eq_some_iff] at found
      obtain ⟨before, held, rfl⟩ := found
      exact (all other before held).settleAll _

end Calls

end Scheduler

end LinSight
