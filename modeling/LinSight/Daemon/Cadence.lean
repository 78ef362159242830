import LinSight.Daemon.SchedulerCalls

set_option autoImplicit false

/-! How far apart the ticks are that plan one sensor. -/

namespace LinSight

namespace Scheduler

/-- The times of a run lie below it. -/
def timeLimit : Nat := 2 ^ 62

/-- The last `tick_plan` that included the sensor: its time, the period in force then, and whether
a client has subscribed to the sensor since. -/
structure Planned where
  time : Nat
  period : Nat
  joined : Bool
deriving DecidableEq

/-- A scheduler with its latest clock and the last plan of the sensor in question. -/
structure Watched where
  scheduler : Scheduler
  clock : Nat
  plan : Option Planned

namespace Watched

def start (descriptors : List SensorDescriptor) : Watched := ⟨new descriptors, 0, none⟩

/-- The clock does not go back. -/
def Follows (w : Watched) (now : Nat) : Prop := w.clock ≤ now ∧ now < timeLimit

instance (w : Watched) (now : Nat) : Decidable (w.Follows now) := instDecidableAnd

/-- A call of a run in which all samples of the sensor succeed. -/
def step (id : SensorId) (w : Watched) : Call → Option Watched
  | .subscribe other rate =>
      (w.scheduler.call (.subscribe other rate)).map fun next =>
        { w with
          scheduler := next
          plan := w.plan.map fun planned =>
            { planned with joined := planned.joined || decide (other = id) } }
  | .unsubscribe subscription =>
      some { w with scheduler := w.scheduler.unsubscribe subscription }
  | .tickPlan now =>
      Run.enabled (w.Follows now)
        { scheduler := (w.scheduler.tickPlan now).1
          clock := now
          plan :=
            if (⟨id⟩ : TickItem) ∈ (w.scheduler.tickPlan now).2 then
              (w.scheduler.entries.lookup id).map fun entry => ⟨now, entry.periodMicros, false⟩
            else w.plan }
  | .tickCommit now results =>
      Run.enabled (w.Follows now ∧ ∀ result ∈ resultsFor id results, result.isOk = true)
        { w with scheduler := (tickCommit now w.scheduler results).1, clock := now }

/-- What a `tick_plan` that may come next owes the sensor: it does not include it before the lesser
of the two periods is over, where no client joined, and includes it once the period in force
is, where the sensor is not a parked static one. -/
def OnCadence (id : SensorId) (w : Watched) : Prop :=
  ∀ planned, w.plan = some planned → ∀ entry, w.scheduler.entries.lookup id = some entry →
    ∀ now, w.Follows now →
      (planned.time < now → planned.joined = false →
        (⟨id⟩ : TickItem) ∈ (w.scheduler.tickPlan now).2 →
          min planned.period entry.periodMicros ≤ now - planned.time) ∧
      (planned.time + entry.periodMicros ≤ now →
        ¬ (entry.isStatic = true ∧ entry.nextDueAtMicros = u64Max) →
          (⟨id⟩ : TickItem) ∈ (w.scheduler.tickPlan now).2)

/-- No tick that may come later than `after` comes between the due time and the bound. -/
def NotBefore (clock after due bound : Nat) : Prop :=
  min timeLimit bound ≤ max (max clock due) (after + 1)

/-- Every tick that may come at the bound comes at the due time. -/
def NotAfter (clock due bound : Nat) : Prop := min timeLimit due ≤ max clock bound

/-- A subscriber that leaves others on a changing sensor leaves its last success, or none, such
that a period of theirs later is neither before the period of the last plan is over nor after
the new one is. -/
def Keeps (id : SensorId) (w : Watched) : Call → Prop
  | .unsubscribe subscription =>
      subscription.sensor = id → ∀ planned, w.plan = some planned →
        ∀ entry, w.scheduler.entries.lookup id = some entry → entry.isStatic = false →
          let counts := decremented entry.periodCounts subscription.periodMicros
          counts.entries.isEmpty = false →
            let period := (KeyMap.firstKey counts).getD entry.periodMicros
            match entry.lastSampledAtMicros with
            | none => planned.joined = false →
                NotBefore w.clock planned.time 0 (planned.time + planned.period)
            | some last =>
                (planned.joined = false → NotBefore w.clock planned.time (last + period)
                  (planned.time + planned.period)) ∧
                NotAfter w.clock (last + period) (planned.time + period)
  | _ => True

/-- The due time of the entry, against the last plan of its sensor. -/
structure Timely (clock : Nat) (planned : Planned) (entry : Entry) : Prop where
  apart : planned.joined = false → NotBefore clock planned.time entry.nextDueAtMicros
    (planned.time + min planned.period entry.periodMicros)
  inTime : ¬ (entry.isStatic = true ∧ entry.nextDueAtMicros = u64Max) →
    NotAfter clock entry.nextDueAtMicros (planned.time + entry.periodMicros)

/-- What holds in every run: no success is later than the clock, and where no client joined since
the last plan the period in force is no shorter than it was then. -/
structure Tracked (id : SensorId) (w : Watched) : Prop where
  regular : w.scheduler.AllRegular
  clock : w.clock < timeLimit
  sampled : ∀ entry, w.scheduler.entries.lookup id = some entry →
    ∀ last, entry.lastSampledAtMicros = some last → last ≤ w.clock
  longer : ∀ planned, w.plan = some planned → planned.joined = false →
    ∀ entry, w.scheduler.entries.lookup id = some entry → planned.period ≤ entry.periodMicros

section Timely

variable {id : SensorId} {w : Watched}

theorem mem_tickPlan_of_lookup {scheduler : Scheduler} {entry : Entry}
    (found : scheduler.entries.lookup id = some entry) (now : Nat) :
    (⟨id⟩ : TickItem) ∈ (scheduler.tickPlan now).2 ↔ entry.nextDueAtMicros ≤ now := by
  rw [mem_tickPlan]
  constructor
  · rintro ⟨other, held, due⟩
    rw [found, Option.some.injEq] at held
    exact held ▸ due
  · intro due
    exact ⟨entry, found, due⟩

/-- The cadence is a matter of the due time alone. -/
theorem onCadence_iff : w.OnCadence id ↔
    ∀ planned, w.plan = some planned → ∀ entry, w.scheduler.entries.lookup id = some entry →
      Timely w.clock planned entry := by
  refine forall_congr' fun planned => forall_congr' fun _ => forall_congr' fun entry =>
    forall_congr' fun found => ?_
  simp only [mem_tickPlan_of_lookup found, Follows]
  constructor
  · intro cadence
    refine ⟨fun alone => ?_, fun unparked => ?_⟩
    · by_contra early
      unfold NotBefore at early
      have first := (cadence (max (max w.clock entry.nextDueAtMicros) (planned.time + 1))
        (by omega)).1 (by omega) alone (by omega)
      omega
    · by_contra late
      unfold NotAfter at late
      have second := (cadence (max w.clock (planned.time + entry.periodMicros)) (by omega)).2
        (by omega) unparked
      omega
  · intro timely now follows
    refine ⟨fun later alone due => ?_, fun _ unparked => ?_⟩
    · have apart := timely.apart alone
      unfold NotBefore at apart
      omega
    · have inTime := timely.inTime unparked
      unfold NotAfter at inTime
      omega

/-- A later clock leaves fewer ticks to come. -/
theorem Timely.later {clock now : Nat} {planned : Planned} {entry : Entry}
    (timely : Timely clock planned entry) (order : clock ≤ now) : Timely now planned entry where
  apart alone := by
    have apart := timely.apart alone
    unfold NotBefore at apart ⊢
    omega
  inTime unparked := by
    have inTime := timely.inTime unparked
    unfold NotAfter at inTime ⊢
    omega

/-- A plan puts the sensor off by the period in force. -/
theorem timely_planned {now : Nat} {entry : Entry} (regular : Regular entry)
    (reached : entry.nextDueAtMicros ≤ now) (bounded : now < timeLimit) :
    Timely now ⟨now, entry.periodMicros, false⟩ (advanceEntry now entry) := by
  have room : wrappingAdd now entry.periodMicros = now + entry.periodMicros := by
    have short := regular.inForce.2
    refine Nat.mod_eq_of_lt ?_
    simp only [timeLimit] at bounded
    simp only [u64Bound]
    omega
  rw [advanceEntry, if_neg (Nat.not_lt.mpr reached), room]
  refine ⟨fun _ => ?_, fun _ => ?_⟩
  · simp only [NotBefore]
    omega
  · simp only [NotAfter]
    omega

/-- A success leaves the due time alone or parks the sensor. -/
theorem settle_ok {now : Nat} {entry : Entry} {results : List SampleResult}
    (succeed : ∀ result ∈ results, result.isOk = true) :
    let after := results.foldl (settleEntry now) entry
    after.periodMicros = entry.periodMicros ∧ after.isStatic = entry.isStatic ∧
      (after.nextDueAtMicros = entry.nextDueAtMicros ∨
        after.isStatic = true ∧ after.nextDueAtMicros = u64Max) ∧
      (after.lastSampledAtMicros = entry.lastSampledAtMicros ∨
        after.lastSampledAtMicros = some now) := by
  induction results generalizing entry with
  | nil => exact ⟨rfl, rfl, .inl rfl, .inl rfl⟩
  | cons result rest ih =>
      obtain ⟨period, static, due, sampled⟩ := @ih (settleEntry now entry result)
        fun other member => succeed other (List.mem_cons_of_mem _ member)
      cases result with
      | error failure => cases succeed _ List.mem_cons_self
      | ok sample =>
          refine ⟨period, static, ?_, ?_⟩
          · rcases due with same | parked
            · by_cases fixed : entry.isStatic = true
              · right
                refine ⟨static.trans fixed, same.trans ?_⟩
                simp only [settleEntry, fixed, if_true]
              · left
                refine same.trans ?_
                simp only [settleEntry, fixed, Bool.false_eq_true, if_false]
            · exact .inr parked
          · rcases sampled with same | sampled
            · exact .inr same
            · exact .inr sampled

theorem Timely.settled {clock now : Nat} {planned : Planned} {entry : Entry}
    (timely : Timely clock planned entry) (order : clock ≤ now) {results : List SampleResult}
    (succeed : ∀ result ∈ results, result.isOk = true) :
    Timely now planned (results.foldl (settleEntry now) entry) := by
  obtain ⟨period, static, due, _⟩ := @settle_ok now entry results succeed
  have later := timely.later order
  rcases due with same | ⟨fixed, parked⟩
  · refine ⟨fun alone => ?_, fun unparked => ?_⟩
    · rw [same, period]
      exact later.apart alone
    · rw [same, period]
      rw [same, static] at unparked
      exact later.inTime unparked
  · refine ⟨fun alone => ?_, fun unparked => absurd ⟨fixed, parked⟩ unparked⟩
    rw [parked]
    have limit : timeLimit ≤ u64Max := by decide
    exact (Nat.min_le_left _ _).trans (limit.trans
      ((Nat.le_max_right _ _).trans (Nat.le_max_left _ _)))

end Timely

section Steps

variable {id : SensorId} {w next : Watched}

theorem start_tracked (descriptors : List SensorDescriptor) : (start descriptors).Tracked id where
  regular := new_allRegular descriptors
  clock := Nat.two_pow_pos 62
  sampled entry found := by cases found
  longer planned held := by cases held

theorem step_subscribe {other : SensorId} {rate : Option Ieee.Value}
    (taken : w.step id (.subscribe other rate) = some next) :
    w.scheduler.call (.subscribe other rate) = some next.scheduler ∧ next.clock = w.clock ∧
      next.plan = w.plan.map fun planned =>
        { planned with joined := planned.joined || decide (other = id) } := by
  obtain ⟨scheduler, called, rfl⟩ := Option.map_eq_some_iff.mp taken
  exact ⟨called, rfl, rfl⟩

/-- Either the entry is due at once, or the call was not about its sensor. -/
theorem lookup_call_subscribe {scheduler after : Scheduler} {other : SensorId}
    {rate : Option Ieee.Value} (taken : scheduler.call (.subscribe other rate) = some after) :
    after.entries.lookup id = scheduler.entries.lookup id ∨
      other = id ∧ ∃ period isStatic, after.entries.lookup id =
        some (admitEntry period isStatic (scheduler.entries.lookup id)) := by
  rcases call_subscribe taken with rfl | ⟨subscription, granted⟩
  · exact .inl rfl
  · obtain ⟨others, isStatic, own⟩ := lookup_subscribe granted
    by_cases same : id = other
    · subst same
      exact .inr ⟨rfl, _, isStatic, own⟩
    · exact .inl (others id same)

theorem subscribe_onCadence (cadence : w.OnCadence id) {other : SensorId}
    {rate : Option Ieee.Value} (taken : w.step id (.subscribe other rate) = some next) :
    next.OnCadence id := by
  obtain ⟨called, clock, plan⟩ := step_subscribe taken
  rw [onCadence_iff] at cadence ⊢
  intro planned held entry found
  rw [plan, Option.map_eq_some_iff] at held
  obtain ⟨before, earlier, rfl⟩ := held
  rw [clock]
  rcases @lookup_call_subscribe id _ _ _ _ called with same | ⟨rfl, period, isStatic, own⟩
  · have timely := cadence before earlier entry (same ▸ found)
    refine ⟨fun alone => ?_, timely.inTime⟩
    exact timely.apart (Bool.or_eq_false_iff.mp alone).1
  · rw [own, Option.some.injEq] at found
    subst found
    refine ⟨fun alone => ?_, fun _ => ?_⟩
    · simp only [decide_true, Bool.or_true, Bool.true_eq_false] at alone
    · rw [admitEntry_due]
      exact (Nat.min_le_right _ _).trans (Nat.zero_le _)

theorem tickPlan_onCadence (tracked : w.Tracked id) (cadence : w.OnCadence id)
    {now : Fin u64Bound} (taken : w.step id (.tickPlan now) = some next) :
    next.OnCadence id := by
  obtain ⟨⟨order, bounded⟩, rfl⟩ := Run.enabled_eq_some.mp taken
  rw [onCadence_iff] at cadence ⊢
  intro planned held entry found
  dsimp only at held found ⊢
  rw [lookup_tickPlan, Option.map_eq_some_iff] at found
  obtain ⟨before, stored, rfl⟩ := found
  have member := mem_tickPlan_of_lookup stored now
  by_cases reached : before.nextDueAtMicros ≤ now
  · rw [if_pos (member.mpr reached), stored, Option.map_some, Option.some.injEq] at held
    subst held
    exact timely_planned (tracked.regular id before stored) reached bounded
  · rw [if_neg fun planned => reached (member.mp planned)] at held
    rw [advanceEntry, if_pos (Nat.lt_of_not_le reached)]
    exact (cadence planned held before stored).later order

theorem tickCommit_onCadence (cadence : w.OnCadence id) {now : Fin u64Bound}
    {results : List (TickItem × SampleResult)}
    (taken : w.step id (.tickCommit now results) = some next) : next.OnCadence id := by
  obtain ⟨⟨⟨order, _⟩, succeed⟩, rfl⟩ := Run.enabled_eq_some.mp taken
  rw [onCadence_iff] at cadence ⊢
  intro planned held entry found
  dsimp only at held found ⊢
  rw [lookup_tickCommit, Option.map_eq_some_iff] at found
  obtain ⟨before, stored, rfl⟩ := found
  exact (cadence planned held before stored).settled order succeed

/-- The due time of a sensor that others still subscribe to. -/
theorem leaveEntry_due {entry : Entry} {counts : KeyMap Nat Nat}
    (sampled : ∀ last, entry.lastSampledAtMicros = some last → last < timeLimit)
    (short : (leaveEntry entry counts).periodMicros ≤ 10000000)
    (changing : entry.isStatic = false) :
    (leaveEntry entry counts).nextDueAtMicros = match entry.lastSampledAtMicros with
      | none => 0
      | some last => last + (leaveEntry entry counts).periodMicros := by
  simp only [leaveEntry, changing, Bool.false_eq_true, if_false]
  cases last : entry.lastSampledAtMicros with
  | none => rfl
  | some last' =>
      have early := sampled last' last
      refine Nat.min_eq_left ?_
      simp only [leaveEntry] at short
      simp only [timeLimit] at early
      have limit : u64Max = 18446744073709551615 := rfl
      omega

/-- A static sensor keeps its due time, and its period does not get shorter. -/
theorem Timely.left {clock : Nat} {planned : Planned} {entry after : Entry}
    (timely : Timely clock planned entry) (period : entry.periodMicros ≤ after.periodMicros)
    (longer : planned.joined = false → planned.period ≤ entry.periodMicros)
    (due : after.nextDueAtMicros = entry.nextDueAtMicros)
    (static : after.isStatic = entry.isStatic) : Timely clock planned after := by
  refine ⟨fun alone => ?_, fun unparked => ?_⟩
  · have apart := timely.apart alone
    have order := longer alone
    rw [due]
    rw [Nat.min_eq_left order] at apart
    rw [Nat.min_eq_left (order.trans period)]
    exact apart
  · rw [due, static] at unparked
    have inTime := timely.inTime unparked
    rw [due]
    unfold NotAfter at inTime ⊢
    omega

/-- What stays of an entry as a subscriber leaves. -/
theorem lookup_unsubscribe_kept {scheduler : Scheduler} (all : scheduler.AllRegular)
    {subscription : Subscription} {after : Entry}
    (found : (scheduler.unsubscribe subscription).entries.lookup id = some after) :
    ∃ before, scheduler.entries.lookup id = some before ∧
      after.lastSampledAtMicros = before.lastSampledAtMicros ∧
      before.periodMicros ≤ after.periodMicros := by
  by_cases own : id = subscription.sensor
  · subst own
    rw [lookup_unsubscribe, Option.bind_eq_some_iff] at found
    obtain ⟨before, stored, rest⟩ := found
    dsimp only at rest
    split at rest
    · cases rest
    · rename_i some_left
      cases rest
      exact ⟨before, stored, rfl,
        (all _ before stored).le_leaveEntry (Bool.eq_false_iff.mpr some_left)⟩
  · rw [lookup_unsubscribe_ne scheduler subscription own] at found
    exact ⟨after, found, rfl, le_rfl⟩

/-- A changing sensor is due a period after its last success, or at once. -/
theorem timely_leaveEntry_iff {clock removed : Nat} {planned : Planned} {entry : Entry}
    (regular : Regular entry)
    (sampled : ∀ last, entry.lastSampledAtMicros = some last → last < timeLimit)
    (longer : planned.joined = false → planned.period ≤ entry.periodMicros)
    (changing : entry.isStatic = false)
    (nonempty : (decremented entry.periodCounts removed).entries.isEmpty = false) :
    let counts := decremented entry.periodCounts removed
    let period := (KeyMap.firstKey counts).getD entry.periodMicros
    Timely clock planned (leaveEntry entry counts) ↔
      match entry.lastSampledAtMicros with
      | none => planned.joined = false →
          NotBefore clock planned.time 0 (planned.time + planned.period)
      | some last =>
          (planned.joined = false → NotBefore clock planned.time (last + period)
            (planned.time + planned.period)) ∧
          NotAfter clock (last + period) (planned.time + period) := by
  intro counts period
  have kept := regular.leaveEntry nonempty
  have order := regular.le_leaveEntry nonempty
  have due := leaveEntry_due sampled kept.inForce.2 changing
  have readings : (leaveEntry entry counts).isStatic = false := changing
  have lesser : planned.joined = false →
      min planned.period (leaveEntry entry counts).periodMicros = planned.period :=
    fun alone => Nat.min_eq_left ((longer alone).trans order)
  have whole : Timely clock planned (leaveEntry entry counts) ↔
      (planned.joined = false → NotBefore clock planned.time
        (leaveEntry entry counts).nextDueAtMicros (planned.time + planned.period)) ∧
      NotAfter clock (leaveEntry entry counts).nextDueAtMicros (planned.time + period) := by
    constructor
    · intro timely
      refine ⟨fun alone => lesser alone ▸ timely.apart alone, timely.inTime ?_⟩
      exact fun parked => absurd parked.1 (Bool.eq_false_iff.mp readings)
    · rintro ⟨apart, inTime⟩
      exact ⟨fun alone => (lesser alone).symm ▸ apart alone, fun _ => inTime⟩
  rw [whole, due]
  cases entry.lastSampledAtMicros with
  | none => exact and_iff_left ((Nat.min_le_right _ _).trans (Nat.zero_le _))
  | some last => exact Iff.rfl

/-- The condition on a subscriber that leaves is exact. -/
theorem unsubscribe_onCadence_iff (tracked : w.Tracked id) (cadence : w.OnCadence id)
    {subscription : Subscription} (taken : w.step id (.unsubscribe subscription) = some next) :
    next.OnCadence id ↔ w.Keeps id (.unsubscribe subscription) := by
  cases taken
  rw [onCadence_iff] at cadence ⊢
  by_cases own : subscription.sensor = id
  · subst own
    have lookup := lookup_unsubscribe w.scheduler subscription
    have sampled : ∀ entry, w.scheduler.entries.lookup subscription.sensor = some entry →
        ∀ last, entry.lastSampledAtMicros = some last → last < timeLimit :=
      fun entry found last success =>
        (tracked.sampled entry found last success).trans_lt tracked.clock
    constructor
    · intro timely _ planned held entry found changing counts nonempty
      rw [found, Option.bind_some] at lookup
      dsimp only at lookup
      rw [if_neg (Bool.eq_false_iff.mp nonempty)] at lookup
      have longer := fun alone => tracked.longer planned held alone entry found
      exact (timely_leaveEntry_iff (tracked.regular _ entry found) (sampled entry found) longer
        changing nonempty).mp (timely planned held _ lookup)
    · intro keeps planned held after found
      dsimp only at held found
      rw [lookup, Option.bind_eq_some_iff] at found
      obtain ⟨entry, stored, rest⟩ := found
      dsimp only at rest
      split at rest
      · cases rest
      · rename_i some_left
        cases rest
        have nonempty := Bool.eq_false_iff.mpr some_left
        have regular := tracked.regular _ entry stored
        have longer := fun alone => tracked.longer planned held alone entry stored
        by_cases changing : entry.isStatic = false
        · exact (timely_leaveEntry_iff regular (sampled entry stored) longer changing nonempty).mpr
            (keeps rfl planned held entry stored changing nonempty)
        · have static : entry.isStatic = true := Bool.not_eq_false _ ▸ changing
          refine (cadence planned held entry stored).left (regular.le_leaveEntry nonempty) longer
            ?_ rfl
          simp only [leaveEntry, static, if_true]
  · have same := lookup_unsubscribe_ne w.scheduler subscription (Ne.symm own)
    refine iff_of_true ?_ fun other => absurd other own
    intro planned held entry found
    exact cadence planned held entry (same ▸ found)

theorem step_onCadence_iff (tracked : w.Tracked id) (cadence : w.OnCadence id) {label : Call}
    (taken : w.step id label = some next) : next.OnCadence id ↔ w.Keeps id label := by
  cases label with
  | subscribe other rate => exact iff_of_true (subscribe_onCadence cadence taken) trivial
  | unsubscribe subscription => exact unsubscribe_onCadence_iff tracked cadence taken
  | tickPlan now => exact iff_of_true (tickPlan_onCadence tracked cadence taken) trivial
  | tickCommit now results => exact iff_of_true (tickCommit_onCadence cadence taken) trivial

theorem Tracked.step (tracked : w.Tracked id) {label : Call}
    (taken : w.step id label = some next) : next.Tracked id := by
  cases label with
  | subscribe other rate =>
      obtain ⟨called, clock, plan⟩ := step_subscribe taken
      refine ⟨tracked.regular.call called, clock ▸ tracked.clock, ?_, ?_⟩
      · intro entry found last success
        rw [clock]
        rcases @lookup_call_subscribe id _ _ _ _ called with same | ⟨_, period, isStatic, own⟩
        · exact tracked.sampled entry (same ▸ found) last success
        · rw [own, Option.some.injEq] at found
          subst found
          cases stored : w.scheduler.entries.lookup id with
          | none => rw [stored] at success; cases success
          | some before =>
              rw [stored] at success
              exact tracked.sampled before stored last success
      · intro planned held alone entry found
        rw [plan, Option.map_eq_some_iff] at held
        obtain ⟨before, earlier, rfl⟩ := held
        obtain ⟨unjoined, differs⟩ := Bool.or_eq_false_iff.mp alone
        rcases @lookup_call_subscribe id _ _ _ _ called with same | ⟨equal, _⟩
        · exact tracked.longer before earlier unjoined entry (same ▸ found)
        · exact absurd equal (of_decide_eq_false differs)
  | unsubscribe subscription =>
      cases taken
      have called : w.scheduler.call (.unsubscribe subscription) =
          some (w.scheduler.unsubscribe subscription) := rfl
      have regular := tracked.regular.call called
      refine ⟨regular, tracked.clock, ?_, ?_⟩
      · intro after found last success
        obtain ⟨before, stored, same, _⟩ := lookup_unsubscribe_kept tracked.regular found
        exact tracked.sampled before stored last (same ▸ success)
      · intro planned held alone after found
        obtain ⟨before, stored, _, longer⟩ := lookup_unsubscribe_kept tracked.regular found
        exact (tracked.longer planned held alone before stored).trans longer
  | tickPlan now =>
      obtain ⟨⟨order, bounded⟩, rfl⟩ := Run.enabled_eq_some.mp taken
      have called : w.scheduler.call (.tickPlan now) = some (w.scheduler.tickPlan now).1 := rfl
      have regular := tracked.regular.call called
      have kept : ∀ after, (w.scheduler.tickPlan now).1.entries.lookup id = some after →
          ∃ before, w.scheduler.entries.lookup id = some before ∧
            after.lastSampledAtMicros = before.lastSampledAtMicros ∧
            after.periodMicros = before.periodMicros := by
        intro after found
        rw [lookup_tickPlan, Option.map_eq_some_iff] at found
        obtain ⟨before, stored, rfl⟩ := found
        refine ⟨before, stored, ?_, ?_⟩ <;> unfold advanceEntry <;> split <;> rfl
      refine ⟨regular, bounded, ?_, ?_⟩
      · intro after found last success
        obtain ⟨before, stored, same, _⟩ := kept after found
        exact (tracked.sampled before stored last (same ▸ success)).trans order
      · intro planned held alone after found
        obtain ⟨before, stored, _, period⟩ := kept after found
        rw [period]
        dsimp only at held
        split at held
        · rw [stored, Option.map_some, Option.some.injEq] at held
          rw [← held]
        · exact tracked.longer planned held alone before stored
  | tickCommit now results =>
      obtain ⟨⟨⟨order, bounded⟩, succeed⟩, rfl⟩ := Run.enabled_eq_some.mp taken
      have called : w.scheduler.call (.tickCommit now results) =
          some (tickCommit now w.scheduler results).1 := rfl
      have regular := tracked.regular.call called
      refine ⟨regular, bounded, ?_, ?_⟩
      · intro after found last success
        dsimp only at found ⊢
        rw [lookup_tickCommit, Option.map_eq_some_iff] at found
        obtain ⟨before, stored, rfl⟩ := found
        rcases (@settle_ok _ before _ succeed).2.2.2 with same | sampled
        · exact (tracked.sampled before stored last (same ▸ success)).trans order
        · rw [sampled, Option.some.injEq] at success
          exact success.ge
      · intro planned held alone after found
        dsimp only at found
        rw [lookup_tickCommit, Option.map_eq_some_iff] at found
        obtain ⟨before, stored, rfl⟩ := found
        rw [(@settle_ok _ before _ succeed).1]
        exact tracked.longer planned held alone before stored

end Steps

/-- A run keeps the cadence of a sensor where every subscriber that leaves does. -/
theorem cadence_iff (descriptors : List SensorDescriptor) (id : SensorId) (calls : List Call) :
    (∀ w, Run.Visits (step id) (start descriptors) calls w → w.OnCadence id) ↔
      Run.Always (step id) (Keeps id) (start descriptors) calls := by
  have preserved : ∀ w label next, step id w label = some next → Tracked id w → Tracked id next :=
    fun _ _ _ taken tracked => tracked.step taken
  refine Run.visits_iff_always preserved ?_ ?_ (start_tracked descriptors) ?_
  · intro w label stuck
    cases label with
    | unsubscribe subscription => cases stuck
    | subscribe _ _ | tickPlan _ | tickCommit _ _ => trivial
  · exact fun _ _ _ taken tracked cadence => step_onCadence_iff tracked cadence taken
  · exact fun planned held => absurd held (by exact nofun)

/-- Two clients have the memory sensor, and one leaves while its sample is under way. -/
def leavingCalls : List Call :=
  [.subscribe memUsedBytes.id none, .subscribe memUsedBytes.id none,
    .tickPlan ⟨5000000, by decide⟩, .unsubscribe ⟨memUsedBytes.id, 1000000⟩]

/-- Then the next tick, 16 milliseconds later, plans it again, although its period is a second. -/
theorem leaving_resamples :
    ¬ ∀ w, Run.Visits (step memUsedBytes.id) (start [memUsedBytes]) leavingCalls w →
      w.OnCadence memUsedBytes.id := by
  intro all
  have ran : (Run.exec (step memUsedBytes.id) (start [memUsedBytes]) leavingCalls).isSome =
      true := by decide +kernel
  obtain ⟨w, reached⟩ := Option.isSome_iff_exists.mp ran
  have plan : (Run.exec (step memUsedBytes.id) (start [memUsedBytes]) leavingCalls).map
      (fun w => (w.plan, w.clock)) = some (some ⟨5000000, 1000000, false⟩, 5000000) := by
    decide +kernel
  have stored : (Run.exec (step memUsedBytes.id) (start [memUsedBytes]) leavingCalls).map
      (fun w => (w.scheduler.entries.lookup memUsedBytes.id).map
        fun entry => (entry.nextDueAtMicros, entry.periodMicros)) = some (some (0, 1000000)) := by
    decide +kernel
  rw [reached, Option.map_some, Option.some.injEq, Prod.mk.injEq] at plan
  rw [reached, Option.map_some, Option.some.injEq, Option.map_eq_some_iff] at stored
  obtain ⟨entry, found, due⟩ := stored
  obtain ⟨due, period⟩ := Prod.mk.inj due
  have cadence := all w ⟨leavingCalls, List.prefix_rfl, reached⟩ _ plan.1 entry found 5016000
    ⟨by rw [plan.2]; decide, by decide⟩
  have apart := cadence.1 (by decide) rfl ((mem_tickPlan_of_lookup found _).mpr (by omega))
  rw [period] at apart
  exact absurd apart (by decide)

end Watched

end Scheduler

end LinSight
