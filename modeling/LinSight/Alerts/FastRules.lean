import LinSight.Alerts.Comparison
import LinSight.Alerts.EvalPool

set_option autoImplicit false

/-! Whether a rule that is evaluated fast gets its own outcome, whatever the others do. -/

namespace LinSight.Alerts

section Waits

variable (evaluator : Evaluator)

/-- When the wait for a job is over that ends at a time. -/
def waitOver (since : Nat) (time : ℕ∞) : Nat :=
  if time ≤ (since + evalTimeout : Nat) then max since time.toNat else since + evalTimeout

/-- Whether jobs end before the timeouts of their waits, where they take less than that: the first
wait begins at a time, and each next one when the one before is over. -/
def WaitsInTime : Nat → List (EvalTask × ℕ∞) → Prop
  | _, [] => True
  | since, (task, time) :: rest =>
      (evaluator.taskCost task < evalTimeout → time ≤ (since + evalTimeout : Nat)) ∧
        WaitsInTime (waitOver since time) rest

instance : (since : Nat) → (waits : List (EvalTask × ℕ∞)) →
    Decidable (WaitsInTime evaluator since waits)
  | _, [] => .isTrue trivial
  | since, (task, time) :: rest =>
      have := instDecidableWaitsInTime (waitOver since time) rest
      inferInstanceAs (Decidable ((evaluator.taskCost task < evalTimeout → _) ∧ _))

namespace EvalPool

/-- A rule that takes less than the timeout gets its own outcome. -/
def OwnOutcomes (pool : EvalPool) : Prop :=
  ∀ answer ∈ pool.answers, evaluator.taskCost answer.task < evalTimeout →
    answer.outcome = evaluator.outcome answer.task

/-- The jobs of a sample come in time behind those that the pool still has, and no wait for a fast
one is given up at the instant at which it ends. -/
def InTime (pool : EvalPool) : EvalStep → Prop
  | .onSample sample => WaitsInTime evaluator pool.clock
      ((pool.plan evaluator (pool.submitted sample)).drop pool.queue.length)
  | .expire _ => ∀ call ∈ pool.call, evaluator.taskCost call.first.task < evalTimeout →
      (call.first.task, (pool.clock : ℕ∞)) ∉ pool.schedule evaluator
  | _ => True

instance (pool : EvalPool) : (label : EvalStep) → Decidable (pool.InTime evaluator label)
  | .onSample _ => inferInstanceAs (Decidable (WaitsInTime _ _ _))
  | .expire _ => inferInstanceAs (Decidable (∀ call ∈ pool.call, _))
  | .take _ | .finish _ | .receive _ | .tick _ => .isTrue trivial

/-- The outcome has come, or the job ends at the time. -/
def Tracks (pool : EvalPool) (waiting : Waiting) (time : ℕ∞) : Prop :=
  match waiting.received with
  | some outcome => outcome = evaluator.outcome waiting.task ∧ time ≤ pool.clock
  | none => (waiting.task, time) ∈ pool.schedule evaluator

/-- The jobs that a call waits for end at the times. -/
structure Waits (pool : EvalPool) (call : OnSample) (time : ℕ∞) (times : List ℕ∞) : Prop where
  first : pool.Tracks evaluator call.first time
  rest : List.Forall₂ (pool.Tracks evaluator) call.rest times
  begun : call.since ≤ pool.clock
  bounded : pool.clock ≤ call.since + evalTimeout
  prompt : call.first.received ≠ none → pool.clock ≤ call.since ∨ (pool.clock : ℕ∞) ≤ time

end EvalPool

/-- The jobs that a call waits for, with the times. -/
def OnSample.timed (call : OnSample) (time : ℕ∞) (times : List ℕ∞) : List (EvalTask × ℕ∞) :=
  (call.first.task, time) :: (call.rest.map Waiting.task).zip times

namespace EvalPool

/-- No fast rule was timed out, and none is going to be. -/
def Fine (pool : EvalPool) : Prop :=
  pool.OwnOutcomes evaluator ∧ ∀ call, pool.call = some call → ∃ time times,
    pool.Waits evaluator call time times ∧
    WaitsInTime evaluator call.since (call.timed time times)

/-- A fast rule was timed out, or is going to be. -/
def Doomed (pool : EvalPool) : Prop :=
  ¬ pool.OwnOutcomes evaluator ∨ ∃ call time times, pool.call = some call ∧
    pool.Waits evaluator call time times ∧
    ¬ WaitsInTime evaluator call.since (call.timed time times)

/-- A step that leaves the waits of a call as they are. -/
structure Works (pool next : EvalPool) : Prop where
  answers : next.answers = pool.answers
  idle : pool.call = none → next.call = none
  waits : ∀ call time times, pool.call = some call → pool.Waits evaluator call time times →
    ∃ after, next.call = some after ∧ after.since = call.since ∧
      after.timed time times = call.timed time times ∧ next.Waits evaluator after time times

end EvalPool

end Waits

namespace EvalPool

variable {evaluator : Evaluator} {pool next : EvalPool} {worker elapsed wall : Nat}
  {call : OnSample} {time : ℕ∞} {times : List ℕ∞} {label : EvalStep}

theorem Tracks.mono {waiting : Waiting} (tracks : pool.Tracks evaluator waiting time)
    (kept : ∀ entry ∈ pool.schedule evaluator, entry ∈ next.schedule evaluator)
    (later : pool.clock ≤ next.clock) : next.Tracks evaluator waiting time := by
  unfold Tracks at tracks ⊢
  cases received : waiting.received with
  | none =>
      rw [received] at tracks
      exact kept _ tracks
  | some outcome =>
      rw [received] at tracks
      exact ⟨tracks.1, tracks.2.trans (by exact_mod_cast later)⟩

theorem timed_deliver {task : EvalTask} {outcome : EvalOutcome} :
    (call.deliver task outcome).timed time times = call.timed time times := by
  simp only [OnSample.timed, OnSample.deliver, List.map_map, Waiting.deliver_task,
    Function.comp_def]

/-- The channel of a job that ends now gets its outcome. -/
theorem Tracks.deliver {waiting : Waiting} {task : EvalTask}
    (tracks : pool.Tracks evaluator waiting time) (sound : pool.Sound evaluator)
    (ends : (pool.schedule evaluator).Perm ((task, (pool.clock : ℕ∞)) :: next.schedule evaluator))
    (same : next.clock = pool.clock) :
    next.Tracks evaluator (waiting.deliver task (evaluator.outcome task)) time := by
  have distinct := sound.distinct
  rw [(ends.map fun entry => entry.1.number).nodup_iff, List.map_cons, List.nodup_cons] at distinct
  unfold Waiting.deliver
  cases received : waiting.received with
  | some outcome =>
      rw [Tracks, received] at tracks
      rw [← same] at tracks
      by_cases here : waiting.task.number = task.number
      · rw [if_pos here, Option.some_or]
        exact tracks
      · rw [if_neg here, Tracks, received]
        exact tracks
  | none =>
      rw [Tracks, received] at tracks
      by_cases here : waiting.task.number = task.number
      · rw [if_pos here, Option.none_or]
        rcases List.mem_cons.mp (ends.mem_iff.mp tracks) with now | later
        · cases now
          exact ⟨rfl, le_of_eq (congrArg Nat.cast same.symm)⟩
        · refine absurd (List.mem_map_of_mem (f := fun entry => entry.1.number) later) ?_
          rw [here]
          exact distinct.1
      · rw [if_neg here, Tracks, received]
        rcases List.mem_cons.mp (ends.mem_iff.mp tracks) with now | later
        · exact absurd (congrArg (fun entry => entry.1.number) now) here
        · exact later

theorem works_take (sound : pool.Sound evaluator)
    (taken : pool.step evaluator (.take worker) = some next) : pool.Works evaluator next := by
  have kept (entry : EvalTask × ℕ∞) : entry ∈ pool.schedule evaluator →
      entry ∈ next.schedule evaluator := (schedule_take sound taken).mem_iff.mpr
  obtain ⟨task, rest, _, _, after⟩ := step_take taken
  have clock : next.clock = pool.clock := by rw [after]
  have call_eq : next.call = pool.call := by rw [after]
  have tracks (waiting : Waiting) (time : ℕ∞) (before : pool.Tracks evaluator waiting time) :
      next.Tracks evaluator waiting time := before.mono kept clock.ge
  refine ⟨by rw [after], fun idle => call_eq.trans idle, fun call time times here waits => ?_⟩
  refine ⟨call, call_eq.trans here, rfl, rfl, ?_⟩
  refine ⟨tracks _ _ waits.first, waits.rest.imp tracks, ?_, ?_, ?_⟩ <;> rw [clock]
  · exact waits.begun
  · exact waits.bounded
  · exact waits.prompt

theorem works_tick (taken : pool.step evaluator (.tick elapsed) = some next) :
    pool.Works evaluator next := by
  have same := schedule_tick taken
  obtain ⟨⟨_, _, quiet⟩, after⟩ := Run.enabled_eq_some.mp taken
  subst after
  have later : pool.clock ≤ pool.clock + elapsed := Nat.le_add_right _ _
  have tracks (waiting : Waiting) (time : ℕ∞) (before : pool.Tracks evaluator waiting time) :
      ({ pool with clock := pool.clock + elapsed } : EvalPool).Tracks evaluator waiting time := by
    refine before.mono (fun entry member => ?_) later
    rw [same]
    exact member
  refine ⟨rfl, id, fun call time times here waits => ⟨call, here, rfl, rfl, ?_⟩⟩
  obtain ⟨silent, bounded⟩ := quiet call here
  exact ⟨tracks _ _ waits.first, waits.rest.imp tracks, waits.begun.trans later, bounded,
    fun came => absurd silent came⟩

theorem works_finish (sound : pool.Sound evaluator)
    (taken : pool.step evaluator (.finish worker) = some next) : pool.Works evaluator next := by
  obtain ⟨running, busy, _, after⟩ := step_finish taken
  have ends := schedule_finish busy taken
  subst after
  refine ⟨rfl, fun idle => ?_, fun call time times here waits => ?_⟩
  · rw [idle]
    rfl
  · let outcome := evaluator.outcome running.task
    refine ⟨call.deliver running.task outcome, by rw [here]; rfl, rfl, ?_, ?_⟩
    · exact timed_deliver
    · refine ⟨waits.first.deliver sound ends rfl, ?_, waits.begun, waits.bounded, fun _ => ?_⟩
      · refine List.forall₂_map_left_iff.mpr (waits.rest.imp fun waiting time tracks => ?_)
        exact tracks.deliver sound ends rfl
      · cases received : call.first.received with
        | some outcome => exact waits.prompt (by rw [received]; exact Option.some_ne_none _)
        | none =>
            have first := waits.first
            rw [Tracks, received] at first
            exact .inr (clock_le_of_mem_schedule sound first)

/-- After an answer the call returns, or waits for the next job. -/
theorem apply_waits {outcome : EvalOutcome} (waits : pool.Waits evaluator call time times)
    (ended : pool.clock = waitOver call.since time)
    (applied : pool.apply call outcome wall = some next) :
    next.call = none ∧ (WaitsInTime evaluator call.since (call.timed time times) ↔
        (evaluator.taskCost call.first.task < evalTimeout →
          time ≤ (call.since + evalTimeout : Nat))) ∨
      ∃ after time' times', next.call = some after ∧ next.Waits evaluator after time' times' ∧
        (WaitsInTime evaluator call.since (call.timed time times) ↔
          (evaluator.taskCost call.first.task < evalTimeout →
            time ≤ (call.since + evalTimeout : Nat)) ∧
            WaitsInTime evaluator after.since (after.timed time' times')) := by
  obtain ⟨engine, notifications, after⟩ := step_apply applied
  have rest := waits.rest
  rw [OnSample.timed, WaitsInTime, ← ended]
  cases left : call.rest with
  | nil =>
      rw [left] at after
      refine .inl ⟨by rw [after]; rfl, ?_⟩
      rw [List.map_nil, List.zip_nil_left, WaitsInTime, and_true]
  | cons waiting others =>
      rw [left] at after rest
      obtain ⟨time', times', first, later, rfl⟩ := List.forall₂_cons_left_iff.mp rest
      subst after
      refine .inr ⟨⟨waiting, others, pool.clock, notifications⟩, time', times', rfl, ?_, Iff.rfl⟩
      have tracks (waiting : Waiting) (time : ℕ∞) (before : pool.Tracks evaluator waiting time) :=
        @Tracks.mono _ _ (({ pool with
          engine := engine
          answers := pool.answers ++ [Answer.mk call.first.task outcome] } : EvalPool).await
            notifications (waiting :: others)) _ _ before (fun _ member => member) le_rfl
      exact ⟨tracks _ _ first, later.imp tracks, le_rfl, Nat.le_add_right _ _,
        fun _ => .inl le_rfl⟩

/-- A wait that has its outcome ends when the job did, or at once. -/
theorem clock_of_receive (waits : pool.Waits evaluator call time times)
    (came : call.first.received ≠ none) :
    pool.clock = waitOver call.since time ∧ time ≤ (call.since + evalTimeout : Nat) := by
  obtain ⟨outcome, received⟩ := Option.ne_none_iff_exists'.mp came
  have first := waits.first
  rw [Tracks, received] at first
  have bounded : (pool.clock : ℕ∞) ≤ (call.since + evalTimeout : Nat) := by
    exact_mod_cast waits.bounded
  have in_time := first.2.trans bounded
  refine ⟨?_, in_time⟩
  have prompt := waits.prompt came
  obtain ⟨n, rfl⟩ := ENat.ne_top_iff_exists.mp (ne_top_of_le_ne_top (ENat.natCast_ne_top _) in_time)
  have ended : n ≤ pool.clock := by exact_mod_cast first.2
  have prompt_nat : pool.clock ≤ max call.since n := by
    rcases prompt with at_once | later
    · exact le_max_of_le_left at_once
    · exact le_max_of_le_right (by exact_mod_cast later)
  rw [waitOver, if_pos in_time, ENat.toNat_natCast]
  exact le_antisymm prompt_nat (max_le waits.begun ended)

/-- A wait is given up when the timeout is over, and the job has not ended before. -/
theorem clock_of_expire (sound : pool.Sound evaluator)
    (waits : pool.Waits evaluator call time times) (silent : call.first.received = none)
    (late : call.since + evalTimeout ≤ pool.clock) :
    call.since + evalTimeout = pool.clock ∧ (pool.clock : ℕ∞) ≤ time ∧
      (call.first.task, time) ∈ pool.schedule evaluator := by
  have first := waits.first
  rw [Tracks, silent] at first
  exact ⟨le_antisymm late waits.bounded, clock_le_of_mem_schedule sound first, first⟩

theorem ended_of_expire (same : call.since + evalTimeout = pool.clock)
    (late : (pool.clock : ℕ∞) ≤ time) : pool.clock = waitOver call.since time := by
  rw [waitOver, same]
  split
  · rename_i early
    rw [le_antisymm early late, ENat.toNat_natCast, ← same]
    exact (max_eq_right (Nat.le_add_right _ _)).symm
  · rfl

theorem ownOutcomes_of_apply {outcome : EvalOutcome}
    (applied : pool.apply call outcome wall = some next) :
    next.OwnOutcomes evaluator ↔ pool.OwnOutcomes evaluator ∧
      (evaluator.taskCost call.first.task < evalTimeout →
        outcome = evaluator.outcome call.first.task) := by
  rw [OwnOutcomes, (answers_of_apply applied).1, List.forall_mem_append, List.forall_mem_singleton]
  rfl

theorem drop_plan (more : List EvalTask) :
    ∃ times : List ℕ∞, times.length = more.length ∧
      (pool.plan evaluator more).drop pool.queue.length = more.zip times := by
  let ends := ListSchedule.endTimes (pool.freeAt evaluator)
    ((pool.queue ++ more).map evaluator.taskCost)
  refine ⟨ends.drop pool.queue.length, ?_, ?_⟩
  · rw [List.length_drop, ListSchedule.length_endTimes, List.length_map, List.length_append,
      Nat.add_sub_cancel_left]
  · rw [plan, List.zip_eq_zipWith, List.drop_zipWith, List.drop_left, List.zip_eq_zipWith]

/-- A call waits for its jobs as they are planned. -/
theorem waits_onSample (sample : Sample) :
    (pool.onSample sample).call = none ∧
        (pool.plan evaluator (pool.submitted sample)).drop pool.queue.length = [] ∨
      ∃ call time times, (pool.onSample sample).call = some call ∧
        (pool.onSample sample).Waits evaluator call time times ∧ call.since = pool.clock ∧
        call.timed time times =
          (pool.plan evaluator (pool.submitted sample)).drop pool.queue.length := by
  obtain ⟨times, length, planned⟩ := @drop_plan evaluator pool (pool.submitted sample)
  have scheduled (entry : EvalTask × ℕ∞) (member : entry ∈ (pool.submitted sample).zip times) :
      entry ∈ (pool.onSample sample).schedule evaluator := by
    rw [schedule_onSample]
    rw [← planned] at member
    exact List.mem_append_right _ (List.mem_of_mem_drop member)
  rw [planned]
  cases submitted : pool.submitted sample with
  | nil => exact .inl ⟨by rw [onSample, submitted]; rfl, rfl⟩
  | cons task rest =>
      rw [submitted] at length scheduled
      obtain ⟨time, later, rfl⟩ := List.exists_cons_of_length_eq_add_one length
      obtain ⟨first, others⟩ := List.forall_mem_cons.mp scheduled
      refine .inr ⟨⟨⟨task, none⟩, rest.map fun task => ⟨task, none⟩, pool.clock, []⟩, time, later,
        by rw [onSample, submitted]; rfl, ?_, rfl, ?_⟩
      · have clock : (pool.onSample sample).clock = pool.clock := onSample_frame.2.2.1
        refine ⟨first, ?_, clock.ge, ?_, fun came => absurd rfl came⟩
        · refine List.forall₂_map_left_iff.mpr (List.forall₂_iff_zip.mpr ⟨?_, ?_⟩)
          · exact (Nat.succ.inj length).symm
          · exact fun member => others _ member
        · rw [clock]
          exact Nat.le_add_right _ _
      · simp only [OnSample.timed, List.map_map, Function.comp_def, List.map_id',
          List.zip_cons_cons]

theorem Fine.works (fine : pool.Fine evaluator) (works : pool.Works evaluator next) :
    next.Fine evaluator := by
  refine ⟨by rw [OwnOutcomes, works.answers]; exact fine.1, fun after here => ?_⟩
  cases before : pool.call with
  | none =>
      rw [works.idle before] at here
      cases here
  | some call =>
      obtain ⟨time, times, waits, in_time⟩ := fine.2 call before
      obtain ⟨_, there, since, timed, kept⟩ := works.waits call time times before waits
      cases Option.some.inj (here.symm.trans there)
      refine ⟨time, times, kept, ?_⟩
      rw [since, timed]
      exact in_time

theorem Doomed.works (doomed : pool.Doomed evaluator) (works : pool.Works evaluator next) :
    next.Doomed evaluator := by
  rcases doomed with given | ⟨call, time, times, here, waits, late⟩
  · refine .inl ?_
    rw [OwnOutcomes, works.answers]
    exact given
  · obtain ⟨after, there, since, timed, kept⟩ := works.waits call time times here waits
    refine .inr ⟨after, time, times, there, kept, ?_⟩
    rw [since, timed]
    exact late

theorem fine_apply {outcome : EvalOutcome} (own : pool.OwnOutcomes evaluator)
    (waits : pool.Waits evaluator call time times)
    (in_time : WaitsInTime evaluator call.since (call.timed time times))
    (ended : pool.clock = waitOver call.since time)
    (applied : pool.apply call outcome wall = some next)
    (answer : evaluator.taskCost call.first.task < evalTimeout →
      outcome = evaluator.outcome call.first.task) : next.Fine evaluator := by
  refine ⟨(ownOutcomes_of_apply applied).mpr ⟨own, answer⟩, fun after here => ?_⟩
  rcases apply_waits waits ended applied with
    ⟨none_left, _⟩ | ⟨call', time', times', there, kept, iff⟩
  · rw [none_left] at here
    cases here
  · cases Option.some.inj (here.symm.trans there)
    exact ⟨time', times', kept, (iff.mp in_time).2⟩

theorem doomed_apply {outcome : EvalOutcome} (waits : pool.Waits evaluator call time times)
    (late : ¬ WaitsInTime evaluator call.since (call.timed time times))
    (ended : pool.clock = waitOver call.since time)
    (applied : pool.apply call outcome wall = some next)
    (answer : ¬ time ≤ (call.since + evalTimeout : Nat) → outcome = .timeout) :
    next.Doomed evaluator := by
  by_cases first : evaluator.taskCost call.first.task < evalTimeout →
      time ≤ (call.since + evalTimeout : Nat)
  · rcases apply_waits waits ended applied with ⟨_, iff⟩ | ⟨call', time', times', there, kept, iff⟩
    · exact absurd (iff.mpr first) late
    · exact .inr ⟨call', time', times', there, kept, fun rest => late (iff.mpr ⟨first, rest⟩)⟩
  · obtain ⟨fast, beyond⟩ := Classical.not_imp.mp first
    refine .inl fun own => ?_
    have same := ((ownOutcomes_of_apply applied).mp own).2 fast
    rw [answer beyond] at same
    exact evaluator.evalexpr.evalSingle_ne_timeout _ _ same.symm

theorem doomed_of_given {outcome : EvalOutcome} (given : ¬ pool.OwnOutcomes evaluator)
    (applied : pool.apply call outcome wall = some next) : next.Doomed evaluator :=
  .inl fun own => given ((ownOutcomes_of_apply applied).mp own).1

/-- One step: in time, all stays fine. -/
theorem Fine.step (fine : pool.Fine evaluator) (sound : pool.Sound evaluator)
    (taken : pool.step evaluator label = some next) (allowed : pool.InTime evaluator label) :
    next.Fine evaluator := by
  cases label with
  | onSample sample =>
      obtain ⟨_, rfl⟩ := Run.enabled_eq_some.mp taken
      refine ⟨by rw [OwnOutcomes, onSample_frame.1]; exact fine.1, fun after here => ?_⟩
      rcases @waits_onSample evaluator pool sample with
        ⟨nothing, _⟩ | ⟨call, time, times, there, waits, since, timed⟩
      · rw [nothing] at here
        cases here
      · cases Option.some.inj (here.symm.trans there)
        refine ⟨time, times, waits, ?_⟩
        rw [since, timed]
        exact allowed
  | take worker => exact fine.works (works_take sound taken)
  | finish worker => exact fine.works (works_finish sound taken)
  | tick elapsed => exact fine.works (works_tick taken)
  | receive wall =>
      obtain ⟨call, outcome, here, came, applied⟩ := step_receive taken
      obtain ⟨time, times, waits, in_time⟩ := fine.2 call here
      have first := waits.first
      rw [Tracks, came] at first
      have ended := (clock_of_receive waits (by rw [came]; exact Option.some_ne_none _)).1
      exact fine_apply fine.1 waits in_time ended applied fun _ => first.1
  | expire wall =>
      obtain ⟨call, here, silent, late, applied⟩ := step_expire taken
      obtain ⟨time, times, waits, in_time⟩ := fine.2 call here
      obtain ⟨same, past, scheduled⟩ := clock_of_expire sound waits silent late
      refine fine_apply fine.1 waits in_time (ended_of_expire same past) applied fun fast => ?_
      have early := in_time.1 fast
      rw [same] at early
      have now : time = pool.clock := le_antisymm early past
      rw [now] at scheduled
      exact absurd scheduled (allowed call here fast)

/-- One step: what is doomed stays so. -/
theorem Doomed.step (doomed : pool.Doomed evaluator) (sound : pool.Sound evaluator)
    (taken : pool.step evaluator label = some next) : next.Doomed evaluator := by
  cases label with
  | onSample sample =>
      obtain ⟨idle, rfl⟩ := Run.enabled_eq_some.mp taken
      rcases doomed with given | ⟨call, _, _, here, _⟩
      · refine .inl ?_
        rw [OwnOutcomes, onSample_frame.1]
        exact given
      · rw [idle] at here
        cases here
  | take worker => exact doomed.works (works_take sound taken)
  | finish worker => exact doomed.works (works_finish sound taken)
  | tick elapsed => exact doomed.works (works_tick taken)
  | receive wall =>
      obtain ⟨call, outcome, here, came, applied⟩ := step_receive taken
      rcases doomed with given | ⟨_, time, times, there, waits, late⟩
      · exact doomed_of_given given applied
      · cases Option.some.inj (here.symm.trans there)
        have got : call.first.received ≠ none := by
          rw [came]
          exact Option.some_ne_none outcome
        obtain ⟨ended, in_time⟩ := clock_of_receive waits got
        exact doomed_apply waits late ended applied fun beyond => absurd in_time beyond
  | expire wall =>
      obtain ⟨call, here, silent, expired, applied⟩ := step_expire taken
      rcases doomed with given | ⟨_, time, times, there, waits, late⟩
      · exact doomed_of_given given applied
      · cases Option.some.inj (here.symm.trans there)
        obtain ⟨same, past, _⟩ := clock_of_expire sound waits silent expired
        exact doomed_apply waits late (ended_of_expire same past) applied fun _ => rfl

/-- One step: out of time, all is doomed. -/
theorem doomed_of_refused (taken : pool.step evaluator label = some next)
    (refused : ¬ pool.InTime evaluator label) : next.Doomed evaluator := by
  cases label with
  | onSample sample =>
      obtain ⟨_, rfl⟩ := Run.enabled_eq_some.mp taken
      rcases @waits_onSample evaluator pool sample with
        ⟨_, nothing⟩ | ⟨call, time, times, there, waits, since, timed⟩
      · refine absurd ?_ refused
        rw [InTime, nothing]
        trivial
      · refine .inr ⟨call, time, times, there, waits, ?_⟩
        rw [since, timed]
        exact refused
  | expire wall =>
      obtain ⟨call, here, _, _, applied⟩ := step_expire taken
      refine .inl fun own => refused fun other there fast => ?_
      cases Option.some.inj (here.symm.trans there)
      have same := ((ownOutcomes_of_apply applied).mp own).2 fast
      exact absurd same.symm (evaluator.evalexpr.evalSingle_ne_timeout _ _)
  | take worker => exact absurd trivial refused
  | finish worker => exact absurd trivial refused
  | receive wall => exact absurd trivial refused
  | tick elapsed => exact absurd trivial refused

end EvalPool

/-- Every job of a sample gets one outcome. In a run whose samples come in time, every rule that
takes less than the timeout gets its own one; in every other run that ends between two samples,
some such rule is timed out. -/
theorem fast_rules_answered (evaluator : Evaluator) (rules : List CompiledRule)
    (labels : List EvalStep) (pool : EvalPool)
    (run : Run.exec (EvalPool.step evaluator) (.start rules) labels = some pool) :
    (Run.Always (EvalPool.step evaluator) (EvalPool.InTime evaluator) (.start rules) labels →
      pool.OwnOutcomes evaluator) ∧
    (pool.call = none →
      pool.answers.map (fun answer => answer.task.number) = List.range pool.tasks ∧
      (pool.OwnOutcomes evaluator ↔
        Run.Always (EvalPool.step evaluator) (EvalPool.InTime evaluator) (.start rules)
          labels)) := by
  have answered (idle : pool.call = none) :
      pool.answers.map (fun answer => answer.task.number) = List.range pool.tasks := by
    have all := answers_in_order run
    rw [EvalPool.awaited, idle, Option.map_none, Option.getD_none, List.map_nil,
      List.append_nil] at all
    exact all
  have outlook := @Run.exec_fine_or_doomed _ _ (EvalPool.step evaluator)
    (fun pool => pool.Sound evaluator ∧ pool.Fine evaluator)
    (fun pool => pool.Sound evaluator ∧ pool.Doomed evaluator) (EvalPool.InTime evaluator)
    (fun _ _ _ taken now allowed => ⟨now.1.step taken, now.2.step now.1 taken allowed⟩)
    (fun _ _ _ taken now refused => ⟨now.1.step taken, EvalPool.doomed_of_refused taken refused⟩)
    (fun _ _ _ taken now => ⟨now.1.step taken, now.2.step now.1 taken⟩) _ _ _ run
    ⟨EvalPool.start_sound rules, (fun _ member => by cases member), (fun _ here => by cases here)⟩
  rcases outlook with ⟨always, _, fine⟩ | ⟨never, _, doomed⟩
  · refine ⟨fun _ => fine.1, fun idle => ⟨answered idle, ?_⟩⟩
    exact iff_of_true fine.1 always
  · refine ⟨fun always => absurd always never, fun idle => ⟨answered idle, ?_⟩⟩
    refine iff_of_false (fun own => ?_) never
    rcases doomed with given | ⟨call, _, _, here, _⟩
    · exact given own
    · rw [idle] at here
      cases here

section Busy

def slowRule : CompiledRule := compileRule "slow" "cpu.load > 1" 0 0 [] none

def fastRule : CompiledRule := compileRule "fast" "cpu.load > 2" 0 0 [] none

def loadSample : Sample := ⟨⟨"cpu.load"⟩, 0, .scalar (.finite 3)⟩

/-- The slow rule never ends, the other takes a microsecond. -/
def stuck : Evaluator := ⟨comparisons, fun text _ => if text = "cpu__load > 2" then 1000 else ⊤⟩

/-- Three slow rules leave a worker to the fast one. -/
def sparedRun : List EvalStep :=
  [.onSample loadSample, .take 0, .take 1, .take 2, .take 3, .tick 1000, .finish 3,
    .tick (evalTimeout - 1000), .expire 0, .tick evalTimeout, .expire 0, .tick evalTimeout,
    .expire 0, .receive 0]

theorem fast_rules_answered_spared : ∃ pool,
    Run.exec (EvalPool.step stuck) (.start [slowRule, slowRule, slowRule, fastRule]) sparedRun =
      some pool ∧ pool.OwnOutcomes stuck ∧ pool.answers.length = 4 := by
  have ran : (Run.exec (EvalPool.step stuck) (.start [slowRule, slowRule, slowRule, fastRule])
      sparedRun).isSome = true := by decide +kernel
  have four : ((Run.exec (EvalPool.step stuck) (.start [slowRule, slowRule, slowRule, fastRule])
      sparedRun).get ran).answers.length = 4 := by decide +kernel +revert
  have run := (Option.some_get ran).symm
  refine ⟨_, run, (fast_rules_answered stuck _ sparedRun _ run).1 ?_, four⟩
  refine @Run.Always.of_check _ _ _ _ (fun pool label => decide (pool.InTime stuck label)) ?_ _ _ ?_
  · exact fun _ _ passed => of_decide_eq_true passed
  · decide +kernel

/-- Four slow rules leave none. -/
def starvedRun : List EvalStep :=
  [.onSample loadSample, .take 0, .take 1, .take 2, .take 3, .tick evalTimeout, .expire 0,
    .tick evalTimeout, .expire 0, .tick evalTimeout, .expire 0, .tick evalTimeout, .expire 0,
    .tick evalTimeout, .expire 0]

theorem fast_rule_timed_out : ∃ pool,
    Run.exec (EvalPool.step stuck) (.start [slowRule, slowRule, slowRule, slowRule, fastRule])
      starvedRun = some pool ∧
    ∃ answer ∈ pool.answers, answer.task.job.rewrittenExpr = fastRule.rewrittenExpr ∧
      stuck.taskCost answer.task < evalTimeout ∧ answer.outcome = .timeout := by
  have ran : (Run.exec (EvalPool.step stuck)
      (.start [slowRule, slowRule, slowRule, slowRule, fastRule]) starvedRun).isSome = true := by
    decide +kernel
  exact ⟨_, (Option.some_get ran).symm, by decide +kernel +revert⟩

end Busy

end LinSight.Alerts
