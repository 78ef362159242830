import LinSight.Daemon.SchedulerCalls

set_option autoImplicit false

/-! Which calls keep the due times within a `u64`, also at the reading of a bad clock. -/

namespace LinSight

namespace Scheduler

/-- The reading of a clock before the epoch, `TS_SENTINEL_BAD_CLOCK`. -/
abbrev badClock : Nat := u64Max

/-- What `tick_commit` adds to its clock for a result; a success adds nothing. -/
def addend (entry : Entry) : SampleResult → Option Nat
  | .ok _ => none
  | .error (.unsupported _) =>
      some (saturatingMul entry.periodMicros
        (2 ^ min (min (entry.unsupportedStrikes + 1) u32Max) 8))
  | .error (.timeout _) =>
      some (saturatingMul entry.periodMicros (2 ^ min (min (entry.timeoutStrikes + 1) u32Max) 8))
  | .error _ => some entry.periodMicros

/-- The results with the entries they find. -/
def findings (now : Nat) (scheduler : Scheduler) :
    List (TickItem × SampleResult) → List (Entry × SampleResult)
  | [] => []
  | (item, result) :: rest =>
      match scheduler.entries.lookup item.id with
      | none => findings now scheduler rest
      | some entry =>
          (entry, result) :: findings now { scheduler with
            entries := scheduler.entries.insert item.id (settleEntry now entry result) } rest

/-- The sums of a call, as integers. -/
def sums (scheduler : Scheduler) : Call → List Nat
  | .tickPlan now =>
      (scheduler.entries.entries.filter fun due =>
        !decide ((now : Nat) < due.2.nextDueAtMicros)).map fun due => now + due.2.periodMicros
  | .tickCommit now results =>
      (findings now scheduler results).filterMap fun found =>
        (addend found.1 found.2).map (now + ·)
  | _ => []

/-- The clock that a tick passes to the call. -/
def Call.clock : Call → Option Nat
  | .tickPlan now | .tickCommit now _ => some now
  | _ => none

/-- No tick at a working clock plans the sensor, whose readings change. -/
def Starved (scheduler : Scheduler) (id : SensorId) : Prop :=
  (∃ entry, scheduler.entries.lookup id = some entry ∧ entry.isStatic = false) ∧
    ∀ now < badClock, (⟨id⟩ : TickItem) ∉ (scheduler.tickPlan now).2

/-- The result overwrites the due time. -/
def WritesDue (entry : Entry) : SampleResult → Prop
  | .ok _ => entry.isStatic = true
  | .error _ => True

/-- Nothing wraps in the call from one state to the next, due times are not before the clock they
are written at, and a sensor is not starved by a tick at the bad clock, or later from a sample
taken then. -/
structure Sound (scheduler : Scheduler) (label : Call) (next : Scheduler) : Prop where
  sums : ∀ sum ∈ scheduler.sums label, sum ≤ u64Max
  planned : ∀ now, label = .tickPlan now → ∀ item ∈ (scheduler.tickPlan now).2,
    ∃ entry, next.entries.lookup item.id = some entry ∧ now ≤ entry.nextDueAtMicros
  committed : ∀ now results, label = .tickCommit now results →
    ∀ found ∈ findings now scheduler results, WritesDue found.1 found.2 →
      now ≤ (settleEntry now found.1 found.2).nextDueAtMicros
  unstarved : ∀ id, (label.clock = some badClock ∨ label.clock = none ∧
      ∃ entry, scheduler.entries.lookup id = some entry ∧
        entry.lastSampledAtMicros = some badClock) →
    next.Starved id → scheduler.Starved id

/-- How far a result puts off the sensor, counting its strikes. -/
def delay (entry : Entry) : SampleResult → Nat
  | .ok _ => 0
  | .error (.unsupported _) => entry.periodMicros * 2 ^ min (entry.unsupportedStrikes + 1) 8
  | .error (.timeout _) => entry.periodMicros * 2 ^ min (entry.timeoutStrikes + 1) 8
  | .error _ => entry.periodMicros

/-- A due sensor leaves room for its period and a failed one for its delay, and of a sensor last
sampled at the bad clock no subscriber leaves but the last one. -/
def Fits (scheduler : Scheduler) : Call → Prop
  | .subscribe _ _ => True
  | .unsubscribe subscription =>
      ∀ entry, scheduler.entries.lookup subscription.sensor = some entry →
        entry.isStatic = false → entry.lastSampledAtMicros = some badClock →
        entry.nextDueAtMicros ≠ badClock →
          (decremented entry.periodCounts subscription.periodMicros).entries.isEmpty = true
  | .tickPlan now =>
      ∀ id entry, scheduler.entries.lookup id = some entry → entry.nextDueAtMicros ≤ now →
        now + entry.periodMicros ≤ u64Max
  | .tickCommit now results =>
      ∀ found ∈ findings now scheduler results, now + delay found.1 found.2 ≤ u64Max

section Starved

variable {scheduler next : Scheduler} {id : SensorId}

theorem starved_iff (all : scheduler.AllRegular) :
    scheduler.Starved id ↔ ∃ entry, scheduler.entries.lookup id = some entry ∧
      entry.isStatic = false ∧ entry.nextDueAtMicros = badClock := by
  constructor
  · rintro ⟨⟨entry, found, changing⟩, unplanned⟩
    refine ⟨entry, found, changing, ?_⟩
    have bounded := (all id entry found).due
    by_contra before
    have early : entry.nextDueAtMicros < badClock := lt_of_le_of_ne bounded before
    exact unplanned _ early ((mem_tickPlan scheduler _ id).mpr ⟨entry, found, le_rfl⟩)
  · rintro ⟨entry, found, changing, due⟩
    refine ⟨⟨entry, found, changing⟩, fun now early planned => ?_⟩
    obtain ⟨other, held, reached⟩ := (mem_tickPlan scheduler now id).mp planned
    rw [found, Option.some.injEq] at held
    rw [← held, due] at reached
    omega

theorem starved_of_lookup (all : scheduler.AllRegular) (regular : next.AllRegular)
    (same : next.entries.lookup id = scheduler.entries.lookup id) (starved : next.Starved id) :
    scheduler.Starved id := by
  obtain ⟨entry, found, rest⟩ := (starved_iff regular).mp starved
  exact (starved_iff all).mpr ⟨entry, same ▸ found, rest⟩

end Starved

section Ticks

variable {scheduler next : Scheduler} {now : Nat}

theorem mem_sums_tickPlan {clock : Fin u64Bound} {sum : Nat} :
    sum ∈ scheduler.sums (.tickPlan clock) ↔ ∃ id entry,
      scheduler.entries.lookup id = some entry ∧ entry.nextDueAtMicros ≤ clock ∧
        (clock : Nat) + entry.periodMicros = sum := by
  simp only [sums, List.mem_map, List.mem_filter, Bool.not_eq_true', decide_eq_false_iff_not,
    Nat.not_lt]
  constructor
  · rintro ⟨⟨id, entry⟩, ⟨member, due⟩, rfl⟩
    exact ⟨id, entry, (KeyMap.mem_entries_iff _ _ _).mp member, due, rfl⟩
  · rintro ⟨id, entry, found, due, rfl⟩
    exact ⟨⟨id, entry⟩, ⟨(KeyMap.mem_entries_iff _ _ _).mpr found, due⟩, rfl⟩

/-- The sum is written as it is where it fits. -/
theorem wrappingAdd_of_fits {a b : Nat} (fits : a + b ≤ u64Max) : wrappingAdd a b = a + b :=
  Nat.mod_eq_of_lt (Nat.lt_succ_of_le fits)

/-- A failure adds its delay, and the others nothing. -/
theorem addend_eq {entry : Entry} (regular : Regular entry) (result : SampleResult) :
    (∃ sample, result = .ok sample) ∨
      0 < delay entry result ∧ addend entry result = some (delay entry result) ∧
        ∀ now, (settleEntry now entry result).nextDueAtMicros =
          wrappingAdd now (delay entry result) := by
  obtain ⟨positive, bounded⟩ := regular.inForce
  have limit : u32Max = 4294967295 := rfl
  have strikes (count : Nat) : min (min (count + 1) u32Max) 8 = min (count + 1) 8 := by omega
  have product (count : Nat) : saturatingMul entry.periodMicros (2 ^ min (count + 1) 8) =
      entry.periodMicros * 2 ^ min (count + 1) 8 := by
    have power : 2 ^ min (count + 1) 8 ≤ 2 ^ 8 := Nat.pow_le_pow_right (by decide) (by omega)
    have below : entry.periodMicros * 2 ^ min (count + 1) 8 ≤ 10000000 * 2 ^ 8 :=
      Nat.mul_le_mul bounded power
    exact Nat.min_eq_left (below.trans (by decide))
  have above (count : Nat) : 0 < entry.periodMicros * 2 ^ min (count + 1) 8 := by positivity
  have due (now count : Nat) : backoffDue now entry.periodMicros (min (count + 1) u32Max) =
      wrappingAdd now (entry.periodMicros * 2 ^ min (count + 1) 8) := by
    rw [backoffDue, strikes, product]
  cases result with
  | ok sample => exact .inl ⟨sample, rfl⟩
  | error failure =>
      right
      cases failure with
      | unsupported message =>
          exact ⟨above _, by rw [addend, strikes, product]; rfl, fun now => due now _⟩
      | timeout message =>
          exact ⟨above _, by rw [addend, strikes, product]; rfl, fun now => due now _⟩
      | io message | parse message | transient message | manifest message | panic message =>
          exact ⟨positive, rfl, fun now => rfl⟩

theorem findings_regular {results : List (TickItem × SampleResult)} (all : scheduler.AllRegular) :
    ∀ found ∈ findings now scheduler results, Regular found.1 := by
  induction results generalizing scheduler with
  | nil => exact fun found member => absurd member List.not_mem_nil
  | cons head rest ih =>
      obtain ⟨item, result⟩ := head
      unfold findings
      split
      · exact ih all
      · rename_i entry held
        have own := all item.id entry held
        intro found member
        rcases List.mem_cons.mp member with rfl | later
        · exact own
        · refine ih ?_ found later
          intro id other here
          by_cases same : id = item.id
          · rw [same, AList.lookup_insert, Option.some.injEq] at here
            exact here ▸ own.settleEntry result
          · rw [AList.lookup_insert_ne same] at here
            exact all id other here

/-- Successes leave the due times of changing sensors alone. -/
theorem commit_due {results : List (TickItem × SampleResult)}
    (succeed : ∀ found ∈ findings now scheduler results, ∃ sample, found.2 = .ok sample)
    {id : SensorId} {after : Entry}
    (found : (tickCommit now scheduler results).1.entries.lookup id = some after)
    (changing : after.isStatic = false) :
    ∃ before, scheduler.entries.lookup id = some before ∧ before.isStatic = false ∧
      after.nextDueAtMicros = before.nextDueAtMicros := by
  induction results generalizing scheduler with
  | nil => exact ⟨after, found, changing, rfl⟩
  | cons head rest ih =>
      obtain ⟨item, result⟩ := head
      unfold tickCommit at found
      unfold findings at succeed
      split at found
      · rename_i absent
        rw [absent] at succeed
        exact ih succeed found
      · rename_i entry held
        rw [held] at succeed
        obtain ⟨sample, rfl⟩ := succeed _ List.mem_cons_self
        have later := fun found member => succeed found (List.mem_cons_of_mem _ member)
        obtain ⟨middle, here, readings, due⟩ := ih later found
        by_cases same : id = item.id
        · subst same
          rw [AList.lookup_insert, Option.some.injEq] at here
          subst here
          refine ⟨entry, held, readings, due.trans ?_⟩
          have moving : entry.isStatic = false := readings
          simp only [settleEntry, moving, Bool.false_eq_true, if_false]
        · rw [AList.lookup_insert_ne same] at here
          exact ⟨middle, here, readings, due⟩

end Ticks

section Steps

variable {scheduler next : Scheduler}

theorem sound_subscribe (all : scheduler.AllRegular) {id : SensorId} {rate : Option Ieee.Value}
    (taken : scheduler.call (.subscribe id rate) = some next) :
    scheduler.Sound (.subscribe id rate) next := by
  have regular := all.call taken
  refine ⟨nofun, nofun, nofun, fun other _ starved => ?_⟩
  rcases call_subscribe taken with rfl | ⟨subscription, granted⟩
  · exact starved
  · obtain ⟨others, isStatic, own⟩ := lookup_subscribe granted
    by_cases same : other = id
    · subst same
      obtain ⟨entry, found, _, due⟩ := (starved_iff regular).mp starved
      rw [own, Option.some.injEq] at found
      rw [← found, admitEntry_due] at due
      cases due
    · exact starved_of_lookup all regular (others other same) starved

/-- A subscriber that leaves others on a sensor last sampled at the bad clock parks it. -/
theorem sound_unsubscribe_iff (all : scheduler.AllRegular) {subscription : Subscription}
    (taken : scheduler.call (.unsubscribe subscription) = some next) :
    scheduler.Sound (.unsubscribe subscription) next ↔
      scheduler.Fits (.unsubscribe subscription) := by
  have regular := all.call taken
  cases taken
  have own := lookup_unsubscribe scheduler subscription
  constructor
  · intro sound entry held changing sampled early
    by_contra nonempty
    rw [held, Option.bind_some] at own
    dsimp only at own
    rw [if_neg nonempty] at own
    have starved : (scheduler.unsubscribe subscription).Starved subscription.sensor := by
      refine (starved_iff regular).mpr ⟨_, own, changing, ?_⟩
      simp only [leaveEntry, changing, sampled, Bool.false_eq_true, if_false]
      exact Nat.min_eq_right (Nat.le_add_right _ _)
    have before := sound.unstarved _ (.inr ⟨rfl, entry, held, sampled⟩) starved
    obtain ⟨other, found, _, due⟩ := (starved_iff all).mp before
    rw [held, Option.some.injEq] at found
    exact early (found ▸ due)
  · intro fits
    refine ⟨fun _ member => absurd member List.not_mem_nil, (fun _ same => by cases same),
      (fun _ _ same => by cases same), fun id cause starved => ?_⟩
    by_cases same : id = subscription.sensor
    · subst same
      rcases cause with clock | ⟨_, entry, held, sampled⟩
      · cases clock
      · rw [held, Option.bind_some] at own
        dsimp only at own
        obtain ⟨after, found, changing, _⟩ := (starved_iff regular).mp starved
        rw [own] at found
        split at found
        · cases found
        · rename_i nonempty
          cases found
          by_contra unstarved
          refine nonempty (fits entry held changing sampled fun due => unstarved ?_)
          exact (starved_iff all).mpr ⟨entry, held, changing, due⟩
    · exact starved_of_lookup all regular (lookup_unsubscribe_ne scheduler subscription same) starved

theorem sound_tickPlan_iff (all : scheduler.AllRegular) {now : Fin u64Bound}
    (taken : scheduler.call (.tickPlan now) = some next) :
    scheduler.Sound (.tickPlan now) next ↔ scheduler.Fits (.tickPlan now) := by
  have regular := all.call taken
  cases taken
  constructor
  · intro sound id entry found due
    exact sound.sums _ (mem_sums_tickPlan.mpr ⟨id, entry, found, due, rfl⟩)
  · intro fits
    refine ⟨?_, ?_, nofun, ?_⟩
    · intro sum member
      obtain ⟨id, entry, found, due, rfl⟩ := mem_sums_tickPlan.mp member
      exact fits id entry found due
    · intro clock same item member
      cases same
      obtain ⟨entry, found, due⟩ := (mem_tickPlan scheduler now item.id).mp member
      refine ⟨advanceEntry now entry, ?_, ?_⟩
      · rw [lookup_tickPlan, found, Option.map_some]
      · rw [advanceEntry, if_neg (Nat.not_lt.mpr due)]
        dsimp only
        rw [wrappingAdd_of_fits (fits item.id entry found due)]
        exact Nat.le_add_right _ _
    · intro id cause starved
      rcases cause with clock | ⟨clock, _⟩
      · -- at the bad clock nothing is due, so nothing changes
        have bad : (now : Nat) = u64Max := Option.some.inj clock
        obtain ⟨after, found, changing, due⟩ := (starved_iff regular).mp starved
        rw [lookup_tickPlan, Option.map_eq_some_iff] at found
        obtain ⟨entry, held, rfl⟩ := found
        have positive := (all id entry held).inForce.1
        have early : (now : Nat) < entry.nextDueAtMicros := by
          by_contra reached
          have room := fits id entry held (Nat.le_of_not_lt reached)
          omega
        have bounded := (all id entry held).due
        have waits : entry.nextDueAtMicros ≤ now := bad ▸ bounded
        omega
      · cases clock

theorem sound_tickCommit_iff (all : scheduler.AllRegular) {now : Fin u64Bound}
    {results : List (TickItem × SampleResult)}
    (taken : scheduler.call (.tickCommit now results) = some next) :
    scheduler.Sound (.tickCommit now results) next ↔
      scheduler.Fits (.tickCommit now results) := by
  have regular := all.call taken
  cases taken
  have entries := @findings_regular scheduler now results all
  have clock : (now : Nat) ≤ u64Max := Nat.le_of_lt_succ now.isLt
  constructor
  · intro sound found member
    rcases addend_eq (entries found member) found.2 with ⟨sample, success⟩ | ⟨_, added, _⟩
    · rw [success]
      exact clock
    · refine sound.sums _ (List.mem_filterMap.mpr ⟨found, member, ?_⟩)
      rw [added]
      rfl
  · intro fits
    refine ⟨?_, nofun, ?_, ?_⟩
    · intro sum member
      obtain ⟨found, inside, same⟩ := List.mem_filterMap.mp member
      have room := fits found inside
      rcases addend_eq (entries found inside) found.2 with ⟨sample, success⟩ | ⟨_, added, _⟩
      · rw [success] at same
        cases same
      · rw [added] at same
        cases same
        exact room
    · intro _ _ same found member writes
      cases same
      rcases addend_eq (entries found member) found.2 with ⟨sample, success⟩ | ⟨_, _, due⟩
      · rw [success] at writes ⊢
        have static : found.1.isStatic = true := writes
        simp only [settleEntry, static, if_true]
        exact clock
      · rw [due, wrappingAdd_of_fits (fits found member)]
        exact Nat.le_add_right _ _
    · intro id cause starved
      rcases cause with reading | ⟨reading, _⟩
      · -- at the bad clock no delay fits, so all results are successes
        have bad : (now : Nat) = u64Max := Option.some.inj reading
        have succeed : ∀ found ∈ findings now scheduler results,
            ∃ sample, found.2 = .ok sample := by
          intro found member
          rcases addend_eq (entries found member) found.2 with success | ⟨positive, _⟩
          · exact success
          · have room := fits found member
            omega
        obtain ⟨after, found, changing, due⟩ := (starved_iff regular).mp starved
        obtain ⟨before, held, moving, same⟩ := commit_due succeed found changing
        exact (starved_iff all).mpr ⟨before, held, moving, same ▸ due⟩
      · cases reading

theorem sound_iff_fits (all : scheduler.AllRegular) {label : Call}
    (taken : scheduler.call label = some next) :
    scheduler.Sound label next ↔ scheduler.Fits label := by
  cases label with
  | subscribe id rate => exact iff_of_true (sound_subscribe all taken) trivial
  | unsubscribe subscription => exact sound_unsubscribe_iff all taken
  | tickPlan now => exact sound_tickPlan_iff all taken
  | tickCommit now results => exact sound_tickCommit_iff all taken

end Steps

/-- Every call of a run is sound where each of them fits, and only there. -/
theorem due_times_sound_iff (descriptors : List SensorDescriptor) (calls : List Call) :
    Run.Always call (fun scheduler label => ∀ next, scheduler.call label = some next →
        scheduler.Sound label next) (new descriptors) calls ↔
      Run.Always call Fits (new descriptors) calls := by
  refine Run.always_iff_of_invariant (fun _ _ _ taken all => AllRegular.call all taken) ?_
    (new_allRegular descriptors)
  intro scheduler label all
  constructor
  · intro sound
    cases taken : scheduler.call label with
    | some next => exact (sound_iff_fits all taken).mp (sound next taken)
    | none => cases label with
      | subscribe id rate => trivial
      | unsubscribe _ | tickPlan _ | tickCommit _ _ => cases taken
  · intro fits next taken
    exact (sound_iff_fits all taken).mpr fits

/-- The memory sensor, due from the start. -/
def usedBytesDue : Scheduler :=
  { new [memUsedBytes] with entries := AList.insert memUsedBytes.id (freshEntry 1000000 false) ∅ }

/-- A tick at the bad clock plans it for a time long past. -/
theorem bad_clock_wraps :
    ¬ Run.Always call (fun scheduler label => ∀ next, scheduler.call label = some next →
        scheduler.Sound label next) (new [memUsedBytes])
      [.subscribe memUsedBytes.id none, .tickPlan ⟨badClock, by decide⟩] := by
  intro always
  have subscribed : (new [memUsedBytes]).call (.subscribe memUsedBytes.id none) =
      some usedBytesDue := by
    have granted : grantedPeriod memUsedBytes none = some 1000000 := by decide +kernel
    have found : (new [memUsedBytes]).descriptors.find? (·.id = memUsedBytes.id) =
        some memUsedBytes := by decide
    rw [call, subscribe, found]
    simp only [granted, Option.bind_eq_bind, Option.bind_some, Option.pure_def]
    rfl
  have sound := (always.2 _ subscribed).1 _ rfl
  have wrapped := sound.sums (badClock + 1000000) (by decide)
  exact absurd wrapped (by decide)

end Scheduler

end LinSight
