import LinSight.Daemon.Strikes

set_option autoImplicit false

namespace LinSight

open Scheduler (TickItem SampleResult)

namespace Scheduler

/-- No tick before `due` plans the sensor. -/
def QuietUntil (scheduler : Scheduler) (id : SensorId) (due : Nat) : Prop :=
  ∀ entry, scheduler.entries.lookup id = some entry →
    due ≤ entry.nextDueAtMicros ∧ entry.failing

variable {scheduler : Scheduler} {id : SensorId} {due now : Nat}

theorem QuietUntil.congr {next : Scheduler} (quiet : scheduler.QuietUntil id due)
    (same : next.entries.lookup id = scheduler.entries.lookup id) : next.QuietUntil id due := by
  intro entry found
  exact quiet entry (same ▸ found)

theorem QuietUntil.notMem_tickPlan (quiet : scheduler.QuietUntil id due) (early : now < due) :
    (⟨id⟩ : TickItem) ∉ (scheduler.tickPlan now).2 := by
  intro planned
  obtain ⟨entry, found, reached⟩ := (mem_tickPlan scheduler now id).mp planned
  have late := (quiet entry found).1
  omega

theorem QuietUntil.tickPlan (quiet : scheduler.QuietUntil id due) (early : now < due) :
    (scheduler.tickPlan now).1.QuietUntil id due := by
  apply quiet.congr
  rw [lookup_tickPlan]
  cases found : scheduler.entries.lookup id with
  | none => rfl
  | some entry =>
      have late := (quiet entry found).1
      have waits : now < entry.nextDueAtMicros := by omega
      simp only [Option.map_some, advanceEntry, waits, ↓reduceIte]

theorem QuietUntil.tickCommit (quiet : scheduler.QuietUntil id due) {now : Nat}
    {results : List (TickItem × SampleResult)} (absent : resultsFor id results = []) :
    (Scheduler.tickCommit now scheduler results).1.QuietUntil id due := by
  apply quiet.congr
  rw [lookup_tickCommit, absent]
  simp

/-- A failure of a kind puts off the next attempt and leaves a strike on record. -/
theorem settleEntry_backoff {entry : Entry} {error : PluginError} {kind : FailureKind}
    {strikes : Nat} (failure : error.failureKind = some kind)
    (counted : (settleEntry now entry (.error error)).strikes kind = strikes)
    (fits : now + entry.periodMicros * 2 ^ min strikes 8 ≤ u64Max) :
    (settleEntry now entry (.error error)).nextDueAtMicros =
        now + entry.periodMicros * 2 ^ min strikes 8 ∧
      (settleEntry now entry (.error error)).failing := by
  have bounded : entry.periodMicros * 2 ^ min strikes 8 ≤ u64Max := by omega
  have exact_due : backoffDue now entry.periodMicros strikes =
      now + entry.periodMicros * 2 ^ min strikes 8 := by
    unfold backoffDue saturatingMul wrappingAdd
    rw [Nat.min_eq_left bounded]
    exact Nat.mod_eq_of_lt (Nat.lt_succ_of_le fits)
  have struck : ∀ before, min (before + 1) u32Max ≠ 0 := by
    intro before
    have limit : u32Max = 4294967295 := rfl
    omega
  subst counted
  cases error with
  | timeout message =>
      cases failure
      exact ⟨exact_due, Or.inl (struck _)⟩
  | unsupported message =>
      cases failure
      exact ⟨exact_due, Or.inr (struck _)⟩
  | _ => cases failure

end Scheduler

/-- Giving back `removed` leaves a back-off of the sensor in force: nothing of it
is given back, or nothing of it stays, or its due time does not depend on the
periods, or the last success plus any period still held is late enough. -/
def GivesBackLate (entry : Entry) (id : SensorId) (removed : List Subscription) : Prop :=
  (∃ subscription ∈ removed, subscription.sensor = id) → entry.isStatic = false →
    ∀ period count, entry.periodCounts.lookup period = some count →
      removed.count ⟨id, period⟩ < count →
      ∃ last, entry.lastSampledAtMicros = some last ∧
        entry.nextDueAtMicros ≤ saturatingAdd last period

namespace Daemon

/-- The client asks for the sensor at a rate whose token it holds already. -/
def Repeats (daemon : Daemon) (id : SensorId) (client : Nat) (sensors : List SensorId)
    (rateHz : Option Ieee.Value) : Prop :=
  id ∈ sensors ∧ ∃ session period, daemon.sessions.lookup client = some session ∧
    requestedPeriod daemon.scheduler.descriptors id rateHz = some period ∧
    session.subscriptions.holds ⟨id, period⟩ = true

/-- The step adds a subscription to the sensor that the client did not hold. -/
def AddsFresh (daemon : Daemon) (id : SensorId) : Step → Prop
  | .subscribe client sensors rateHz =>
      id ∈ sensors ∧ ∃ session period, daemon.sessions.lookup client = some session ∧
        requestedPeriod daemon.scheduler.descriptors id rateHz = some period ∧
        session.subscriptions.holds ⟨id, period⟩ = false
  | _ => False

/-- While failures of the sensor are on record, no client repeats a
subscription to it, and what is given back leaves the back-off in force. -/
def KeepsBackoff (daemon : Daemon) (id : SensorId) (label : Step) : Prop :=
  ∀ entry, daemon.scheduler.entries.lookup id = some entry → entry.failing →
    match label with
    | .subscribe client sensors rateHz => ¬ daemon.Repeats id client sensors rateHz
    | .unsubscribed client | .release client =>
        ∀ session, daemon.sessions.lookup client = some session →
          GivesBackLate entry id session.phase.removed
    | _ => True

/-- The sensor is backed off until `due` and no sample of it is under way. -/
structure Quiet (daemon : Daemon) (id : SensorId) (due : Nat) : Prop where
  scheduler : daemon.scheduler.QuietUntil id due
  notSampling : ∀ now plan, daemon.sampler = .sampling now plan → (⟨id⟩ : TickItem) ∉ plan

variable {daemon next : Daemon} {id : SensorId} {due : Nat}

/-- Tokens that are given back late enough do not end the back-off. -/
theorem Quiet.released (quiet : daemon.Quiet id due) (balanced : daemon.Balanced) {client : Nat}
    {session : Session} (found : daemon.sessions.lookup client = some session)
    {phase : SessionPhase} (empty : phase.removed = [])
    (late : ∀ entry, daemon.scheduler.entries.lookup id = some entry → entry.failing →
      GivesBackLate entry id session.phase.removed) :
    (daemon.released client session phase).Quiet id due := by
  refine ⟨?_, quiet.notSampling⟩
  by_cases touched : ∃ subscription ∈ session.phase.removed, subscription.sensor = id
  · intro after left
    obtain ⟨subscription, member, sensor⟩ := touched
    obtain ⟨before, held, resumed⟩ := unsubscribeAll_resumed member sensor left
    obtain ⟨waits, failing⟩ := quiet.scheduler before held
    have still : after.failing := by
      unfold Entry.failing
      rw [resumed.timeout, resumed.unsupported]
      exact failing
    refine ⟨?_, still⟩
    rw [resumed.due, resumedDue]
    split
    · exact waits
    · rename_i moving
      -- the fastest period left is one of those the condition speaks of
      have counts_before := balanced.refcounts id
      have counts_after := (balanced.released found empty).refcounts id
      change (daemon.released client session phase).scheduler.entries.lookup id = _ at left
      simp only [held] at counts_before
      simp only [left] at counts_after
      have kept := counts_after.held
      have ledger : ({ session with phase } : Session).tokens = session.subscriptions.tokens := by
        simp only [Session.tokens, empty, Multiset.coe_nil, add_zero]
      have tokens_after : (daemon.released client session phase).tokens =
          ({ session with phase } : Session).tokens + daemon.otherTokens client :=
        tokens_of_insert rfl
      rw [tokens_after, ledger, Multiset.count_add] at kept
      have counted := counts_before.counted after.periodMicros
      rw [tokens_of_lookup found, Session.tokens, Multiset.count_add, Multiset.count_add,
        Multiset.coe_count] at counted
      cases stored : before.periodCounts.lookup after.periodMicros with
      | none =>
          rw [stored, Option.getD_none] at counted
          omega
      | some count =>
          rw [stored, Option.getD_some] at counted
          have remains : session.phase.removed.count ⟨id, after.periodMicros⟩ < count := by omega
          obtain ⟨last, sampled, enough⟩ := late before held failing ⟨subscription, member, sensor⟩
            (Bool.eq_false_iff.mpr moving) after.periodMicros count stored remains
          rw [sampled]
          exact Nat.le_trans waits enough
  · apply quiet.scheduler.congr
    apply lookup_unsubscribeAll_of_notMem
    intro subscription member same
    exact touched ⟨subscription, member, same⟩

/-- A `Subscribe` that neither adds nor repeats leaves the entry alone. -/
theorem Quiet.subscribed (quiet : daemon.Quiet id due) (balanced : daemon.Balanced) {client : Nat}
    {session : Session} (found : daemon.sessions.lookup client = some session)
    {sensors : List SensorId} {rateHz : Option Ieee.Value}
    (kept : daemon.KeepsBackoff id (.subscribe client sensors rateHz))
    (stale : ¬ daemon.AddsFresh id (.subscribe client sensors rateHz)) :
    (daemon.subscribed client
      (subscribeAll daemon.scheduler session sensors rateHz)).Quiet id due := by
  refine ⟨?_, quiet.notSampling⟩
  apply quiet.scheduler.congr
  apply lookup_subscribeAll_of_none
  intro member
  rw [Option.eq_none_iff_forall_ne_some]
  intro period granted
  cases held : session.subscriptions.holds ⟨id, period⟩ with
  | false => exact stale ⟨member, session, period, found, granted, held⟩
  | true =>
      obtain ⟨entry, present⟩ := KeyMap.exists_lookup (balanced.mem_of_holds found held)
      exact kept entry present (quiet.scheduler entry present).2
        ⟨member, session, period, found, granted, held⟩

/-- One step of the back-off argument. -/
theorem step_quiet {label : Step} (taken : daemon.step label = some next)
    (balanced : daemon.Balanced) (kept : daemon.KeepsBackoff id label)
    (stale : ¬ daemon.AddsFresh id label) (early : ∀ now, label = .tickPlan now → now < due)
    (quiet : daemon.Quiet id due) : next.Quiet id due := by
  cases label <;>
    simp only [step, Option.bind_eq_some_iff, Run.enabled_eq_some, Option.some.injEq] at taken
  case connect client =>
    obtain ⟨_, rfl⟩ := taken
    exact ⟨quiet.scheduler, quiet.notSampling⟩
  case subscribe client sensors rateHz =>
    obtain ⟨session, found, _, rfl⟩ := taken
    exact quiet.subscribed balanced found kept stale
  case unsubscribed client =>
    obtain ⟨session, found, _, rfl⟩ := taken
    exact quiet.released balanced found rfl fun entry present failing =>
      kept entry present failing session found
  case release client =>
    obtain ⟨session, found, _, rfl⟩ := taken
    exact quiet.released balanced found rfl fun entry present failing =>
      kept entry present failing session found
  case tickPlan now =>
    obtain ⟨_, rfl⟩ := taken
    have before_due := early now rfl
    refine ⟨quiet.scheduler.tickPlan before_due, ?_⟩
    intro planned plan same
    cases same
    exact quiet.scheduler.notMem_tickPlan before_due
  case tickCommit results =>
    split at taken
    · rename_i now plan sampling
      obtain ⟨⟨returned, _⟩, rfl⟩ := Run.enabled_eq_some.mp taken
      refine ⟨quiet.scheduler.tickCommit ?_, ?_⟩
      · simp only [poolResults, Bool.and_eq_true, List.all_eq_true, decide_eq_true_eq] at returned
        exact Scheduler.resultsFor_of_notMem (fun entry member => (returned.2 entry member).1)
          (quiet.notSampling now plan sampling)
      · intro other plan same
        dsimp only at same
        split at same <;> cases same
    · cases taken
  case snapshotSinks sinks =>
    split at taken
    · obtain ⟨_, rfl⟩ := Run.enabled_eq_some.mp taken
      exact ⟨quiet.scheduler, fun now plan same => by cases same⟩
    · cases taken
  case broadcast infos =>
    subst taken
    exact ⟨quiet.scheduler, quiet.notSampling⟩
  case fanOut =>
    obtain ⟨same, notSampling⟩ := fanOut_scheduler taken
    exact ⟨same ▸ quiet.scheduler, fun now plan sampling => absurd sampling (notSampling now plan)⟩
  all_goals
    obtain ⟨session, _, _, rfl⟩ := taken
    exact ⟨quiet.scheduler, quiet.notSampling⟩

/-- The times of the ticks of a run, in order. -/
def planTimes (labels : List Step) : List Nat :=
  labels.filterMap fun
    | .tickPlan now => some now
    | _ => none

theorem mem_planTimes {labels : List Step} {now : Nat} (member : Step.tickPlan now ∈ labels) :
    now ∈ planTimes labels :=
  List.mem_filterMap.mpr ⟨.tickPlan now, member, rfl⟩

/-- What one step keeps, every run of such steps keeps. -/
theorem exec_quiet {descriptors : List SensorDescriptor} {labels : List Step}
    (reached : Reachable descriptors daemon) (run : Run.exec step daemon labels = some next)
    (kept : Run.Always step (fun state label => state.KeepsBackoff id label) daemon labels)
    (stale : Run.Always step (fun state label => ¬ state.AddsFresh id label) daemon labels)
    (early : ∀ now, Step.tickPlan now ∈ labels → now < due) (quiet : daemon.Quiet id due) :
    next.Quiet id due := by
  have before_due : Run.Always step (fun _ label => ∀ now, label = .tickPlan now → now < due)
      daemon labels := by
    apply Run.Always.of_forall
    intro label member _ now same
    exact early now (same ▸ member)
  have invariant : Reachable descriptors next ∧ next.Quiet id due := by
    refine Run.exec_invariant_of_always
      (fun state => Reachable descriptors state ∧ state.Quiet id due) ?_ run
      (kept.and (stale.and before_due)) ⟨reached, quiet⟩
    intro state label after taken allowed valid
    refine ⟨valid.1.step taken, ?_⟩
    exact step_quiet taken (reachable_balanced valid.1) allowed.1 allowed.2.1 allowed.2.2 valid.2
  exact invariant.2

/-- The commit of the failure number `count` in a row backs the sensor off. -/
theorem quiet_of_commit {before after : Daemon} {now : Nat} {plan : List TickItem}
    {results : List (TickItem × SampleResult)} {error : PluginError} {kind : FailureKind}
    {period count : Nat} (balanced : before.Balanced)
    (sampling : before.sampler = .sampling now plan)
    (committed : before.step (.tickCommit results) = some after)
    (failed : ((⟨id⟩ : TickItem), Except.error error) ∈ results)
    (failure : error.failureKind = some kind)
    (fastest : IsLeast {period | (⟨id, period⟩ : Subscription) ∈ before.tokens} period)
    (counted : before.scheduler.strikes id kind = min count Scheduler.u32Max)
    (fits : now + period * 2 ^ min (count + 1) 8 ≤ u64Max) :
    after.Quiet id (now + period * 2 ^ min (count + 1) 8) := by
  simp only [step, sampling, Run.enabled_eq_some] at committed
  obtain ⟨⟨returned, _⟩, rfl⟩ := committed
  simp only [poolResults, Bool.and_eq_true, decide_eq_true_eq] at returned
  have only_result := Scheduler.resultsFor_of_mem returned.1 failed
  obtain ⟨entry, found, counts⟩ := balanced.refcounts.exists_lookup
    (Multiset.count_ne_zero.mpr fastest.1)
  have same_period : entry.periodMicros = period := by
    have held : {period | period ∈ entry.periodCounts} =
        {period | (⟨id, period⟩ : Subscription) ∈ before.tokens} := by
      ext other
      exact (counts.mem_iff other).trans Multiset.count_ne_zero
    exact (held ▸ counts.fastest).unique fastest
  have settled := Scheduler.lookup_tickCommit now results before.scheduler id
  rw [found, only_result, Option.map_some] at settled
  rw [Scheduler.strikes_of_lookup found] at counted
  have struck := Scheduler.settleEntry_strikes now entry (.error error) counted
  simp only [inRow, failure, ↓reduceIte] at struck
  -- the counter may have reached its top, the exponent has not
  have top : min (min (count + 1) Scheduler.u32Max) 8 = min (count + 1) 8 := by
    have limit : Scheduler.u32Max = 4294967295 := rfl
    omega
  rw [← same_period, ← top] at fits ⊢
  obtain ⟨due, failing⟩ := Scheduler.settleEntry_backoff failure struck fits
  refine ⟨?_, ?_⟩
  · intro stored same
    rw [settled] at same
    cases same
    exact ⟨Nat.le_of_eq due.symm, failing⟩
  · intro other plan same
    dsimp only at same
    split at same <;> cases same

/-- A commit stores the result of a sensor that has an entry behind what was stored before. -/
theorem consecutive_concat {descriptors : List SensorDescriptor} {started : List Step}
    {before : Daemon} {results : List (TickItem × SampleResult)} {error : PluginError}
    {kind : FailureKind} {entry : Entry}
    (reached : Run.exec step (new descriptors) started = some before)
    (found : before.scheduler.entries.lookup id = some entry)
    (distinct : (results.map (·.1)).Nodup)
    (failed : ((⟨id⟩ : TickItem), Except.error error) ∈ results)
    (failure : error.failureKind = some kind) :
    consecutive kind id (new descriptors) (started ++ [.tickCommit results]) =
      consecutive kind id (new descriptors) started + 1 := by
  have only_result := Scheduler.resultsFor_of_mem distinct failed
  have last : stored id before [.tickCommit results] = [.error error] := by
    simp only [stored, storedBy, found, Option.isSome_some, ↓reduceIte, only_result]
    split <;> rfl
  rw [consecutive, stored_append reached, last, List.foldl_append, List.foldl_cons, List.foldl_nil]
  simp only [inRow, failure, ↓reduceIte]
  rfl

/-- Once the `k`-th failure of a kind in a row is committed at `now` for a sensor whose fastest
period is `period`, no tick before `now + period * 2 ^ min k 8` plans the sensor, as long as nobody
subscribes afresh and every step keeps first the strikes and then the back-off. -/
theorem backoff_survives {descriptors : List SensorDescriptor} {started labels : List Step}
    {before after final : Daemon} {id : SensorId} {now later : Nat} {plan : List TickItem}
    {results : List (TickItem × SampleResult)} {error : PluginError} {kind : FailureKind}
    {period k : Nat} (reached : Run.exec step (new descriptors) started = some before)
    (counted : Run.Always step (KeepsStrikes kind id) (new descriptors) started)
    (sampling : before.sampler = .sampling now plan)
    (committed : before.step (.tickCommit results) = some after)
    (failed : ((⟨id⟩ : TickItem), Except.error error) ∈ results)
    (failure : error.failureKind = some kind)
    (kth : consecutive kind id (new descriptors) (started ++ [.tickCommit results]) = k)
    (fastest : IsLeast {period | (⟨id, period⟩ : Subscription) ∈ before.tokens} period)
    (fits : now + period * 2 ^ min k 8 ≤ u64Max)
    (run : Run.exec step after labels = some final)
    (ordered : (now :: planTimes labels ++ [later]).Pairwise (· ≤ ·))
    (stale : Run.Always step (fun state label => ¬ state.AddsFresh id label) after labels)
    (kept : Run.Always step (fun state label => state.KeepsBackoff id label) after labels)
    (early : later < now + period * 2 ^ min k 8) :
    (⟨id⟩ : TickItem) ∉ (final.scheduler.tickPlan later).2 := by
  have reachable : Reachable descriptors before := ⟨started, reached⟩
  have balanced := reachable_balanced reachable
  obtain ⟨entry, found, _⟩ := balanced.refcounts.exists_lookup
    (Multiset.count_ne_zero.mpr fastest.1)
  have distinct : (results.map (·.1)).Nodup := by
    have taken := committed
    simp only [step, sampling, Run.enabled_eq_some, poolResults, Bool.and_eq_true,
      decide_eq_true_eq] at taken
    exact taken.1.1.1
  rw [consecutive_concat reached found distinct failed failure] at kth
  subst kth
  have start := quiet_of_commit balanced sampling committed failed failure fastest
    (exec_strikes reached counted) fits
  have times : ∀ time, Step.tickPlan time ∈ labels →
      time < now + period * 2 ^ min (consecutive kind id (new descriptors) started + 1) 8 := by
    intro time member
    have sorted := (List.pairwise_append.mp ordered).2.2 time
      (List.mem_cons_of_mem _ (mem_planTimes member)) later List.mem_cons_self
    omega
  have finish := exec_quiet (reachable.step committed) run kept stale times start
  exact finish.scheduler.notMem_tickPlan early

/-- Two clients, a timeout at one second and the tick at three seconds that tries again. -/
def timedOutOnce : List Step :=
  [.connect 0, .connect 1, .subscribe 0 [memUsedBytes.id] none,
    .subscribe 1 [memUsedBytes.id] (some (.finite (1 / 2))), .tickPlan 1000000,
    .tickCommit [(⟨memUsedBytes.id⟩, .error (.timeout "late"))], .tickPlan 3000000]

/-- The second timeout in a row puts the next attempt four periods off. -/
theorem backoff_survives_timeout : ∃ before after final,
    Run.exec step (new [memUsedBytes]) timedOutOnce = some before ∧
    before.step (.tickCommit [(⟨memUsedBytes.id⟩, .error (.timeout "late"))]) = some after ∧
    Run.exec step after [.unsubscribe 1 [memUsedBytes.id], .tickPlan 5000000] = some final ∧
    (⟨memUsedBytes.id⟩ : TickItem) ∉ (final.scheduler.tickPlan 6999999).2 := by
  have ran : ((Run.exec step (new [memUsedBytes]) timedOutOnce).bind fun before =>
        (before.step (.tickCommit [(⟨memUsedBytes.id⟩, .error (.timeout "late"))])).bind
      fun after =>
        (Run.exec step after [.unsubscribe 1 [memUsedBytes.id], .tickPlan 5000000]).map
      fun _ => (before.sampler, before.tokens)) =
        some (.sampling 3000000 [⟨memUsedBytes.id⟩],
          {⟨memUsedBytes.id, 1000000⟩, ⟨memUsedBytes.id, 2000000⟩}) := by decide +kernel
  simp only [Option.bind_eq_some_iff, Option.map_eq_some_iff, Prod.mk.injEq] at ran
  obtain ⟨before, reached, after, committed, final, run, sampling, tokens⟩ := ran
  refine ⟨before, after, final, reached, committed, run, ?_⟩
  have fastest : IsLeast {period | (⟨memUsedBytes.id, period⟩ : Subscription) ∈ before.tokens}
      1000000 := by
    rw [tokens]
    constructor
    · simp
    · intro period member
      simp at member
      omega
  refine backoff_survives reached ?_ sampling committed List.mem_cons_self rfl
    (k := 2) (by decide +kernel) fastest (by decide) run (by decide) ?_ ?_ (by decide)
  · apply Run.Always.of_forall
    simp [timedOutOnce, KeepsStrikes]
  · apply Run.Always.of_forall
    simp [AddsFresh]
  · apply Run.Always.of_forall
    simp [KeepsBackoff]

/-- The failure at one second puts the next attempt off to three seconds. When
the second client leaves, or the first repeats its request, the sensor is
planned again a microsecond after the failure. -/
theorem backoff_lost :
    let failed : List Step :=
      [.connect 0, .connect 1, .subscribe 0 [memUsedBytes.id] none,
        .subscribe 1 [memUsedBytes.id] (some (.finite (1 / 2))), .tickPlan 1000000,
        .tickCommit [(⟨memUsedBytes.id⟩, .error (.timeout "late"))]]
    let planned (later : List Step) : Option (List TickItem) :=
      (Run.exec step (new [memUsedBytes]) (failed ++ later)).map fun daemon =>
        (daemon.scheduler.tickPlan 1000001).2
    (Run.exec step (new [memUsedBytes]) failed).map (fun daemon =>
        (daemon.scheduler.entries.lookup memUsedBytes.id).map fun entry =>
          (entry.timeoutStrikes, entry.periodMicros, entry.nextDueAtMicros)) =
        some (some (1, 1000000, 3000000)) ∧
      planned [] = some [] ∧
      planned [.unsubscribe 1 [memUsedBytes.id], .unsubscribed 1] = some [⟨memUsedBytes.id⟩] ∧
      planned [.subscribe 0 [memUsedBytes.id] none] = some [⟨memUsedBytes.id⟩] := by
  decide +kernel

end Daemon

end LinSight
