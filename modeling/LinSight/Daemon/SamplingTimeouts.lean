import LinSight.Daemon.PartialResults

set_option autoImplicit false

/-! Which sensors a call reports as timed out. -/

namespace LinSight

open Scheduler (TickItem SampleResult)

namespace SamplingPool

/-- The jobs that are queued or that a worker runs, of whatever call. -/
def unfinished (pool : SamplingPool) : Nat := pool.jobs.length + pool.workers.countP Option.isSome

/-- The step queues the job of a pending item: the loop that seeds the pool does while it has
iterations left, and a result does that answers a job of the call. -/
def Queues (pool : SamplingPool) (call : SampleCall) : PoolStep → Prop
  | .send => call.pending ≠ [] ∧ call.phase ≠ .seeding 0
  | .receive => call.pending ≠ [] ∧ ∀ result ∈ pool.resultQueue.head?,
      result.callId = call.callId ∧ (call.inFlight.lookup result.sensor).isSome = true
  | _ => False

instance (pool : SamplingPool) (call : SampleCall) (label : PoolStep) :
    Decidable (pool.Queues call label) := by
  cases label <;> unfold Queues <;> infer_instance

/-- Jobs are queued in time, and when time reaches the deadline of a call no idle worker
faces a queued job and there are workers enough for what is unfinished. -/
def Unsaturated (pool : SamplingPool) : PoolStep → Prop
  | .sample _ _ _ => pool.workers ≠ [] ∧ pool.calls < u64Bound
  | .send => ∀ call, pool.current = some call → pool.Queues call .send →
      pool.clock < call.deadline
  | .receive => ∀ call, pool.current = some call → pool.Queues call .receive →
      pool.clock < call.deadline
  | .tick elapsed => ∀ call, pool.current = some call → pool.clock < call.deadline →
      call.deadline ≤ pool.clock + elapsed →
      (none ∈ pool.workers → pool.jobs = []) ∧ pool.unfinished ≤ pool.workers.length
  | _ => True

instance (pool : SamplingPool) (label : PoolStep) : Decidable (pool.Unsaturated label) := by
  cases label <;> unfold Unsaturated <;> infer_instance

end SamplingPool

/-- A worker took the job of the sensor before the deadline of the call. -/
def TakenInTime (taken : List Taking) (call : SampleCall) (sensor : SensorId) : Prop :=
  ∃ taking ∈ taken, taking.call = call.number ∧ taking.sensor = sensor ∧
    taking.time < call.deadline

/-- What holds of the running call. -/
structure CallTimely (pool : SamplingPool) (call : SampleCall) : Prop where
  sent : ∀ item ∈ call.sent,
    (∃ job ∈ pool.jobs, job.call = call.number ∧ job.id = item.id) ∨
      TakenInTime pool.taken call item.id
  early : call.deadline ≤ pool.clock → ∀ job ∈ pool.jobs, job.call ≠ call.number
  running : ∀ job, some job ∈ pool.workers → job.call = call.number →
    TakenInTime pool.taken call job.id
  queue : ∀ result ∈ pool.resultQueue, result.call = call.number →
    TakenInTime pool.taken call result.sensor
  answered : ∀ item result, (item, result) ∈ call.results → TakenInTime pool.taken call item.id

structure PoolTimely (pool : SamplingPool) : Prop where
  sound : PoolSound pool
  open_ : pool.current ≠ none → pool.workers ≠ []
  within : pool.calls ≤ u64Bound
  current : ∀ call, pool.current = some call → CallTimely pool call
  returned : ∀ record ∈ pool.returned, ∀ item result, (item, result) ∈ record.list →
    TakenInTime pool.taken record.call item.id

section Timely

variable {pool next : SamplingPool} {call : SampleCall} {phase : SamplePhase}

theorem TakenInTime.mono {taken more : List Taking} {sensor : SensorId}
    (inTime : TakenInTime taken call sensor) : TakenInTime (taken ++ more) call sensor := by
  obtain ⟨taking, member, facts⟩ := inTime
  exact ⟨taking, List.mem_append_left _ member, facts⟩

/-- With as many workers as unfinished jobs, and none idle before a job, no job waits. -/
theorem jobs_nil_of_unsaturated (prompt : none ∈ pool.workers → pool.jobs = [])
    (enough : pool.unfinished ≤ pool.workers.length) : pool.jobs = [] := by
  by_cases idle : none ∈ pool.workers
  · exact prompt idle
  · have busy : pool.workers.countP Option.isSome = pool.workers.length := by
      rw [List.countP_eq_length]
      intro worker member
      cases worker with
      | none => exact absurd member idle
      | some job => rfl
    unfold SamplingPool.unfinished at enough
    apply List.eq_nil_of_length_eq_zero
    omega

theorem CallTimely.tick (timely : CallTimely pool call) {elapsed : Nat}
    (running : pool.current = some call) (allowed : pool.Unsaturated (.tick elapsed)) :
    CallTimely { pool with clock := pool.clock + elapsed } call := by
  refine ⟨timely.sent, ?_, timely.running, timely.queue, timely.answered⟩
  intro late
  by_cases before : pool.clock < call.deadline
  · obtain ⟨prompt, enough⟩ := allowed call running before late
    have none_left := jobs_nil_of_unsaturated prompt enough
    intro job member
    rw [none_left] at member
    cases member
  · exact timely.early (Nat.le_of_not_lt before)

theorem CallTimely.take (timely : CallTimely pool call) {worker : Nat} {job : SamplingJob}
    {rest : List SamplingJob} (queued : pool.jobs = job :: rest) :
    CallTimely { pool with
      workers := pool.workers.set worker (some job)
      jobs := rest
      taken := pool.taken ++ [⟨job.call, job.id, pool.clock⟩] } call := by
  have own : job.call = call.number →
      TakenInTime (pool.taken ++ [⟨job.call, job.id, pool.clock⟩]) call job.id := by
    intro same
    refine ⟨_, List.mem_append_right _ List.mem_cons_self, same, rfl, ?_⟩
    apply Nat.lt_of_not_le
    intro late
    exact timely.early late job (queued ▸ List.mem_cons_self) same
  refine ⟨?_, ?_, ?_, ?_, ?_⟩
  · intro item member
    rcases timely.sent item member with ⟨waiting, listed, number, id⟩ | inTime
    · rw [queued] at listed
      rcases List.mem_cons.mp listed with rfl | later
      · right
        rw [← id]
        exact own number
      · exact Or.inl ⟨waiting, later, number, id⟩
    · exact Or.inr inTime.mono
  · intro late other member
    exact timely.early late other (queued ▸ List.mem_cons_of_mem _ member)
  · intro other member number
    rcases List.mem_or_eq_of_mem_set member with before | same
    · exact (timely.running other before number).mono
    · cases same
      exact own number
  · exact fun result member number => (timely.queue result member number).mono
  · exact fun item result member => (timely.answered item result member).mono

theorem CallTimely.finish (timely : CallTimely pool call) {worker : Nat} {job : SamplingJob}
    {outcome : Except PluginError Reading} (busy : pool.workers[worker]? = some (some job)) :
    CallTimely { pool with
      workers := pool.workers.set worker none
      resultQueue := pool.resultQueue ++ [SamplingPool.resultOf job outcome]
      produced := pool.produced ++ [SamplingPool.resultOf job outcome] } call := by
  refine ⟨timely.sent, timely.early, ?_, ?_, timely.answered⟩
  · intro other member number
    rcases List.mem_or_eq_of_mem_set member with before | same
    · exact timely.running other before number
    · cases same
  · intro result member number
    rcases List.mem_append.mp member with before | last
    · exact timely.queue result before number
    · cases List.mem_singleton.mp last
      exact timely.running job (List.mem_of_getElem? busy) number

/-- Queueing the next item in time keeps the call timely. -/
theorem CallTimely.dispatchNext (timely : CallTimely pool call) (open_ : pool.workers ≠ [])
    (inTime : call.pending ≠ [] → pool.clock < call.deadline) (phase : SamplePhase) :
    ∃ after, (pool.dispatchNext call phase).current = some after ∧
      CallTimely (pool.dispatchNext call phase) after := by
  unfold SamplingPool.dispatchNext
  split
  · exact ⟨_, rfl, timely.sent, timely.early, timely.running, timely.queue, timely.answered⟩
  · rename_i item rest pending
    unfold SamplingPool.dispatch
    rw [if_neg (by simpa using open_)]
    refine ⟨_, rfl, ?_, ?_, timely.running, timely.queue, timely.answered⟩
    · intro sent member
      rcases List.mem_append.mp member with before | last
      · rcases timely.sent sent before with ⟨job, listed, facts⟩ | taken
        · exact Or.inl ⟨job, List.mem_append_left _ listed, facts⟩
        · exact Or.inr taken
      · cases List.mem_singleton.mp last
        exact Or.inl ⟨_, List.mem_append_right _ List.mem_cons_self, rfl, rfl⟩
    · intro late
      exact absurd (inTime (pending ▸ List.cons_ne_nil _ _)) (Nat.not_lt.mpr late)

/-- Everything a call returns was taken in time. -/
theorem CallTimely.complete (timely : CallTimely pool call)
    (sound : CallSound (pool.workers = []) pool.produced call)
    (reason : call.inFlight.entries = [] ∨ call.deadline ≤ pool.clock) {item : TickItem}
    {result : SampleResult}
    (listed : (item, result) ∈ call.results ++ call.inFlight.entries.map fun entry =>
      (entry.2, .error (sampleLate call.timeout))) :
    TakenInTime pool.taken call item.id := by
  rcases List.mem_append.mp listed with answered | flying
  · exact timely.answered item result answered
  · obtain ⟨entry, stored, same⟩ := List.mem_map.mp flying
    cases same
    have sent := (sound.keyed _ _ ((KeyMap.mem_entries_iff _ _ _).mp stored)).2
    rcases timely.sent _ sent with ⟨job, waiting, number, _⟩ | inTime
    · rcases reason with empty | late
      · rw [empty] at stored
        cases stored
      · exact absurd number (timely.early late job waiting)
    · exact inTime

namespace PoolTimely

/-- A step that ends no call keeps what was returned. -/
theorem withCurrent (timely : PoolTimely pool) (sound : PoolSound next) {after : SampleCall}
    (current : next.current = some after) (workers : next.workers ≠ [])
    (calls : next.calls = pool.calls) (taken : next.taken = pool.taken)
    (returned : next.returned = pool.returned) (call_timely : CallTimely next after) :
    PoolTimely next := by
  refine ⟨sound, fun _ => workers, calls ▸ timely.within, ?_, ?_⟩
  · intro other same
    rw [current] at same
    cases same
    exact call_timely
  · rw [returned, taken]
    exact timely.returned

theorem sample (timely : PoolTimely pool) (sound : PoolSound next) {plan : List TickItem}
    {now timeout : Nat} (taken : pool.step (.sample plan now timeout) = some next)
    (allowed : pool.Unsaturated (.sample plan now timeout)) : PoolTimely next := by
  obtain ⟨_, rfl⟩ := Run.enabled_eq_some.mp taken
  refine ⟨sound, fun _ => allowed.1, allowed.2, ?_, timely.returned⟩
  intro call running
  have number : call.number = pool.calls := by
    cases running
    rfl
  -- nothing is queued, running or done for a call that only begins
  have fresh : ∀ {callId other}, Numbered pool.calls callId other → other ≠ call.number := by
    intro callId other numbered same
    have begun := numbered.begun
    omega
  refine ⟨?_, ?_, ?_, ?_, ?_⟩
  · intro item member
    cases running
    cases member
  · exact fun _ job member => fresh (timely.sound.jobs job member)
  · exact fun job member same => absurd same (fresh (timely.sound.workers job member))
  · exact fun result member same =>
      absurd same (fresh (timely.sound.produced result (timely.sound.queue result member)))
  · intro item result member
    cases running
    cases member

theorem dispatchNext_taken (pool : SamplingPool) (call : SampleCall) (phase : SamplePhase) :
    (pool.dispatchNext call phase).taken = pool.taken := by
  unfold SamplingPool.dispatchNext SamplingPool.dispatch
  split
  · rfl
  · split <;> rfl

theorem dispatchNext (timely : PoolTimely pool) (sound : PoolSound (pool.dispatchNext call phase))
    (call_timely : CallTimely pool call) (open_ : pool.workers ≠ [])
    (inTime : call.pending ≠ [] → pool.clock < call.deadline) :
    PoolTimely (pool.dispatchNext call phase) := by
  obtain ⟨after, current, after_timely⟩ := call_timely.dispatchNext open_ inTime phase
  obtain ⟨workers, calls, _, _, returned, _, _⟩ := pool.dispatchNext_frame call phase
  exact timely.withCurrent sound current (workers ▸ open_) calls (dispatchNext_taken pool call phase)
    returned after_timely

theorem send (timely : PoolTimely pool) (sound : PoolSound next)
    (taken : pool.step .send = some next) (allowed : pool.Unsaturated .send) :
    PoolTimely next := by
  obtain ⟨call, running, enabled⟩ := Option.bind_eq_some_iff.mp taken
  have call_timely := timely.current call running
  have open_ := timely.open_ (by simp [running])
  split at enabled
  · cases enabled
    exact timely.withCurrent sound rfl open_ rfl rfl rfl
      ⟨call_timely.sent, call_timely.early, call_timely.running, call_timely.queue,
        call_timely.answered⟩
  · rename_i left seeding
    cases enabled
    have rounds : call.phase ≠ .seeding 0 := by
      rw [seeding]
      exact fun none_left => by cases none_left
    exact timely.dispatchNext sound call_timely open_ fun more =>
      allowed call running ⟨more, rounds⟩
  · cases enabled

/-- A call that ends returns what was taken in time. -/
theorem complete (timely : PoolTimely pool) (sound : PoolSound (pool.complete call))
    (running : pool.current = some call)
    (reason : call.inFlight.entries = [] ∨ call.deadline ≤ pool.clock) :
    PoolTimely (pool.complete call) := by
  have call_sound := (timely.sound.current call running).1
  refine ⟨sound, fun some_call => absurd rfl some_call, timely.within, ?_, ?_⟩
  · intro other same
    cases same
  · intro record member item result listed
    rcases List.mem_append.mp member with before | last
    · exact timely.returned record before item result listed
    · cases List.mem_singleton.mp last
      exact (timely.current call running).complete call_sound reason listed

theorem check (timely : PoolTimely pool) (sound : PoolSound next)
    (taken : pool.step .check = some next) : PoolTimely next := by
  obtain ⟨call, running, enabled⟩ := Option.bind_eq_some_iff.mp taken
  obtain ⟨_, same⟩ := Run.enabled_eq_some.mp enabled
  have call_timely := timely.current call running
  split at same
  · rename_i ended
    cases same
    apply timely.complete sound running
    rwa [Bool.or_eq_true, List.isEmpty_iff, decide_eq_true_eq] at ended
  · cases same
    exact timely.withCurrent sound rfl (timely.open_ (by simp [running])) rfl rfl rfl
      ⟨call_timely.sent, call_timely.early, call_timely.running, call_timely.queue,
        call_timely.answered⟩

theorem expire (timely : PoolTimely pool) (sound : PoolSound next)
    (taken : pool.step .expire = some next) : PoolTimely next := by
  obtain ⟨call, running, enabled⟩ := Option.bind_eq_some_iff.mp taken
  obtain ⟨⟨_, reason⟩, rfl⟩ := Run.enabled_eq_some.mp enabled
  apply timely.complete sound running
  rcases reason with late | ⟨shut, _⟩
  · exact Or.inr late
  · exact absurd shut (timely.open_ (by simp [running]))

theorem receive (timely : PoolTimely pool) (sound : PoolSound next)
    (taken : pool.step .receive = some next) (allowed : pool.Unsaturated .receive) :
    PoolTimely next := by
  obtain ⟨call, running, received⟩ := Option.bind_eq_some_iff.mp taken
  obtain ⟨_, _, number, callId⟩ := timely.sound.current call running
  have call_timely := timely.current call running
  have open_ := timely.open_ (by simp [running])
  split at received
  · cases received
  · rename_i result rest queued
    obtain ⟨_, rfl⟩ := Run.enabled_eq_some.mp received
    have member : result ∈ pool.resultQueue := queued ▸ List.mem_cons_self
    have later : ∀ other ∈ rest, other ∈ pool.resultQueue := fun other inside =>
      queued ▸ List.mem_cons_of_mem _ inside
    have rest_timely : CallTimely { pool with resultQueue := rest } call :=
      ⟨call_timely.sent, call_timely.early, call_timely.running,
        fun other inside => call_timely.queue other (later other inside), call_timely.answered⟩
    have shorter : PoolTimely { pool with resultQueue := rest } := by
      refine ⟨timely.sound.dequeue queued, timely.open_, timely.within, ?_, timely.returned⟩
      intro other same
      rw [running] at same
      cases same
      exact rest_timely
    have waits : PoolSound { pool with
        resultQueue := rest, current := some { call with phase := .waiting } } →
          PoolTimely { pool with
            resultQueue := rest, current := some { call with phase := .waiting } } :=
      fun sound => shorter.withCurrent sound rfl open_ rfl rfl rfl
        ⟨rest_timely.sent, rest_timely.early, rest_timely.running, rest_timely.queue,
          rest_timely.answered⟩
    unfold SamplingPool.accept at sound ⊢
    split at sound
    · rename_i other_call
      rw [if_pos other_call]
      exact waits sound
    · rename_i same
      rw [if_neg same]
      split at sound
      · exact waits sound
      · rename_i item found
        -- fewer than 2^64 calls, so the id tells the call
        have numbered := timely.sound.produced result (timely.sound.queue result member)
        have own : result.call = call.number := by
          have within := timely.within
          have begun := numbered.begun
          have low := numbered.truncated.symm.trans ((not_not.mp same).trans callId)
          rwa [Nat.mod_eq_of_lt (by omega), Nat.mod_eq_of_lt (by omega)] at low
        have key := ((timely.sound.current call running).1.keyed _ _ found).1
        have answered : CallTimely { pool with resultQueue := rest } { call with
            inFlight := call.inFlight.erase result.sensor
            results := call.results ++ [(item, result.result)] } := by
          refine ⟨rest_timely.sent, rest_timely.early, rest_timely.running, rest_timely.queue, ?_⟩
          intro listed value inside
          rcases List.mem_append.mp inside with before | last
          · exact rest_timely.answered listed value before
          · cases List.mem_singleton.mp last
            rw [key]
            exact call_timely.queue result member own
        refine shorter.dispatchNext sound answered open_ fun more =>
          allowed call running ⟨more, fun first head => ?_⟩
        rw [queued] at head
        cases head
        exact ⟨not_not.mp same, by rw [found]; rfl⟩

theorem take (timely : PoolTimely pool) (sound : PoolSound next) {worker : Nat}
    (taken : pool.step (.take worker) = some next) : PoolTimely next := by
  obtain ⟨job, rest, idle, queued, rfl⟩ := SamplingPool.step_take taken
  refine ⟨sound, ?_, timely.within, ?_, ?_⟩
  · intro running
    simpa only [ne_eq, PoolSound.set_eq_nil_iff] using timely.open_ running
  · exact fun call running => (timely.current call running).take queued
  · intro record member item result listed
    exact (timely.returned record member item result listed).mono

theorem finish (timely : PoolTimely pool) (sound : PoolSound next) {worker : Nat}
    {outcome : Except PluginError Reading}
    (taken : pool.step (.finish worker outcome) = some next) : PoolTimely next := by
  obtain ⟨job, busy, rfl⟩ := SamplingPool.step_finish taken
  refine ⟨sound, ?_, timely.within, ?_, timely.returned⟩
  · intro running
    simpa only [ne_eq, PoolSound.set_eq_nil_iff] using timely.open_ running
  · exact fun call running => (timely.current call running).finish busy

theorem step (timely : PoolTimely pool) {label : PoolStep}
    (taken : pool.step label = some next) (allowed : pool.Unsaturated label) :
    PoolTimely next := by
  have sound := timely.sound.step taken
  cases label with
  | sample plan now timeout => exact timely.sample sound taken allowed
  | send => exact timely.send sound taken allowed
  | check => exact timely.check sound taken
  | receive => exact timely.receive sound taken allowed
  | expire => exact timely.expire sound taken
  | take worker => exact timely.take sound taken
  | finish worker outcome => exact timely.finish sound taken
  | tick elapsed =>
      cases taken
      exact ⟨sound, timely.open_, timely.within,
        fun call running => (timely.current call running).tick running allowed, timely.returned⟩

theorem new (size : Nat) : PoolTimely (.new size) := by
  refine ⟨.new size, fun running => absurd rfl running, Nat.zero_le _, ?_, ?_⟩
  · intro call running
    cases running
  · exact fun record member => absurd member List.not_mem_nil

end PoolTimely

end Timely

/-- In a run that never saturates the pool, a sensor reported as timed out was taken by
a worker before the deadline of the call. -/
theorem timeouts_were_sampled (size : Nat) (labels : List PoolStep) (pool : SamplingPool)
    (ran : Run.exec SamplingPool.step (.new size) labels = some pool)
    (unsaturated : Run.Always SamplingPool.step SamplingPool.Unsaturated (.new size) labels) :
    ∀ record ∈ pool.returned, ∀ item message,
      (item, .error (.timeout message)) ∈ record.list →
      ∃ taking ∈ pool.taken, taking.call = record.call.number ∧ taking.sensor = item.id ∧
        taking.time < record.call.deadline := by
  have timely : PoolTimely pool :=
    Run.exec_invariant_of_always PoolTimely
      (fun _ _ _ taken allowed timely => timely.step taken allowed) ran unsaturated (.new size)
  intro record member item message listed
  exact timely.returned record member item _ listed

/-- Two workers, one of which hangs: the other is enough for the next call. -/
def hungRun : List PoolStep :=
  [.sample [cpuUtil] 7 10, .send, .take 0, .send, .check, .tick 10, .expire,
    .sample [memUsed] 8 10, .send, .take 1, .send, .check, .tick 10, .expire]

theorem timeouts_were_sampled_hung :
    ∃ pool, Run.exec SamplingPool.step (.new 2) hungRun = some pool ∧
      (pool.returned.map fun record => record.list.map (·.1)) = [[cpuUtil], [memUsed]] ∧
      ∀ record ∈ pool.returned, ∀ item message,
        (item, .error (.timeout message)) ∈ record.list →
        ∃ taking ∈ pool.taken, taking.sensor = item.id := by
  have ran : (Run.exec SamplingPool.step (.new 2) hungRun).isSome = true := by decide +kernel
  have unsaturated : Run.Always SamplingPool.step SamplingPool.Unsaturated (.new 2) hungRun :=
    Run.Always.of_check (fun _ _ => of_decide_eq_true) (by decide +kernel)
  have lists : ((Option.get _ ran).returned.map fun record => record.list.map (·.1)) =
      [[cpuUtil], [memUsed]] := by
    decide +kernel +revert
  have exec := (Option.some_get ran).symm
  refine ⟨_, exec, lists, ?_⟩
  intro record member item message listed
  obtain ⟨taking, logged, _, sensor, _⟩ :=
    timeouts_were_sampled 2 hungRun _ exec unsaturated record member item message listed
  exact ⟨taking, logged, sensor⟩

/-- The one worker hangs in the first sensor. -/
def starvedRun : List PoolStep :=
  [.sample [cpuUtil] 7 10, .send, .take 0, .send, .check, .tick 10, .expire,
    .sample [memUsed] 8 10, .send, .send, .check, .tick 10, .expire]

/-- The second sensor is reported as timed out without ever being sampled, and the
scheduler counts a strike against it. -/
theorem hung_worker_starves_others :
    ∃ pool, Run.exec SamplingPool.step (.new 1) starvedRun = some pool ∧
      (∀ taking ∈ pool.taken, taking.sensor ≠ memUsed.id) ∧
      ∃ record ∈ pool.returned,
        record.list = [(memUsed, .error (.timeout "sample did not complete within 10ns"))] ∧
        ((Scheduler.tickCommit 8 ⟨[memUsedBytes],
          AList.insert memUsed.id (Scheduler.freshEntry 1000000 false) ∅⟩
            record.list).1.entries.lookup memUsed.id).map Entry.timeoutStrikes = some 1 := by
  have ran : (Run.exec SamplingPool.step (.new 1) starvedRun).isSome = true := by decide +kernel
  have starved : (∀ taking ∈ (Option.get _ ran).taken, taking.sensor ≠ memUsed.id) ∧
      ∃ record ∈ (Option.get _ ran).returned,
        record.list = [(memUsed, .error (.timeout "sample did not complete within 10ns"))] ∧
        ((Scheduler.tickCommit 8 ⟨[memUsedBytes],
          AList.insert memUsed.id (Scheduler.freshEntry 1000000 false) ∅⟩
            record.list).1.entries.lookup memUsed.id).map Entry.timeoutStrikes = some 1 := by
    decide +kernel +revert
  exact ⟨_, (Option.some_get ran).symm, starved⟩

end LinSight
