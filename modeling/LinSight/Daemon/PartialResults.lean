import LinSight.Daemon.SamplingPool

set_option autoImplicit false

/-! What `SamplingPool::sample` returns, however jobs and results race. -/

namespace LinSight

open Scheduler (TickItem SampleResult)

/-- The call number is known up to its low 64 bits, and the call has begun. -/
structure Numbered (calls callId call : Nat) : Prop where
  truncated : callId = call % u64Bound
  begun : call < calls

theorem Numbered.mono {calls later callId call : Nat} (numbered : Numbered calls callId call)
    (grows : calls ≤ later) : Numbered later callId call :=
  ⟨numbered.truncated, Nat.lt_of_lt_of_le numbered.begun grows⟩

/-- A worker produced the value for this sensor in a call with this id. -/
def Genuine (produced : List SamplingResult) (call : SampleCall) (item : TickItem)
    (result : SampleResult) : Prop :=
  ∃ made ∈ produced, made.sensor = item.id ∧ made.result = result ∧
    Numbered (call.number + 1) made.callId made.call ∧ made.callId = call.callId

/-- What holds of a running call; `closed` says that no worker is left. -/
structure CallSound (closed : Prop) (produced : List SamplingResult) (call : SampleCall) :
    Prop where
  keyed : ∀ id item, call.inFlight.lookup id = some item → item.id = id ∧ item ∈ call.sent
  split : call.plan.Nodup →
    (call.results.map (·.1) ++ call.inFlight.entries.map (·.2) ++ call.pending).Perm call.plan
  answered : ∀ item result, (item, result) ∈ call.results →
    (item ∈ call.sent ∧ Genuine produced call item result) ∨ closed ∧ result = .error poolShutDown

/-- A call with nothing in flight is seeding, has nothing left or cannot queue. -/
def Progress (closed : Prop) (call : SampleCall) : Prop :=
  call.inFlight.entries = [] →
    call.pending = [] ∨ closed ∨ ∃ left, call.phase = .seeding (left + 1)

section Call

variable {closed : Prop} {produced : List SamplingResult} {call : SampleCall}

theorem Genuine.mono {more : List SamplingResult} {item : TickItem} {result : SampleResult}
    (genuine : Genuine produced call item result) :
    Genuine (produced ++ more) call item result := by
  obtain ⟨made, member, facts⟩ := genuine
  exact ⟨made, List.mem_append_left _ member, facts⟩

theorem CallSound.mono (sound : CallSound closed produced call) (more : List SamplingResult) :
    CallSound closed (produced ++ more) call := by
  refine ⟨sound.keyed, sound.split, ?_⟩
  intro item result member
  rcases sound.answered item result member with ⟨sent, genuine⟩ | shut
  · exact Or.inl ⟨sent, genuine.mono⟩
  · exact Or.inr shut

theorem CallSound.setPhase (sound : CallSound closed produced call) (phase : SamplePhase) :
    CallSound closed produced { call with phase := phase } :=
  ⟨sound.keyed, sound.split, sound.answered⟩

/-- A pending item of a plan without repetitions is not in flight. -/
theorem CallSound.pending_fresh (sound : CallSound closed produced call) {item : TickItem}
    {rest : List TickItem} (pending : call.pending = item :: rest) (distinct : call.plan.Nodup) :
    item.id ∉ call.inFlight := by
  intro present
  obtain ⟨other, found⟩ := KeyMap.exists_lookup present
  have same : other = item := by
    have key := (sound.keyed _ _ found).1
    cases other
    cases item
    exact congrArg TickItem.mk key
  have all_distinct := (sound.split distinct).nodup_iff.mpr distinct
  have flying : item ∈ call.results.map (·.1) ++ call.inFlight.entries.map (·.2) := by
    apply List.mem_append_right
    apply List.mem_map.mpr
    exact ⟨⟨item.id, other⟩, (KeyMap.mem_entries_iff _ _ _).mpr found, same⟩
  have waiting : item ∈ call.pending := pending ▸ List.mem_cons_self
  exact (List.nodup_append.mp all_distinct).2.2 item flying item waiting rfl

theorem perm_move {α : Type} (front middle back : List α) (moved : α) :
    (front ++ moved :: middle ++ back).Perm (front ++ middle ++ moved :: back) := by
  rw [List.append_assoc, List.append_assoc]
  apply List.Perm.append_left
  exact (@List.perm_middle _ moved middle back).symm

/-- A result of this call takes the item of its sensor out of flight. -/
theorem CallSound.answer (sound : CallSound closed produced call) {result : SamplingResult}
    {item : TickItem} (found : call.inFlight.lookup result.sensor = some item)
    (made : result ∈ produced) (numbered : Numbered (call.number + 1) result.callId result.call)
    (same : result.callId = call.callId) :
    CallSound closed produced { call with
      inFlight := call.inFlight.erase result.sensor
      results := call.results ++ [(item, result.result)] } := by
  obtain ⟨key, sent⟩ := sound.keyed _ _ found
  refine ⟨?_, ?_, ?_⟩
  · intro id other kept
    rw [KeyMap.lookup_erase_eq] at kept
    split at kept
    · cases kept
    · exact sound.keyed id other kept
  · intro distinct
    have before := sound.split distinct
    have removed := (KeyMap.entries_perm_erase found).map (·.2)
    refine List.Perm.trans ?_ before
    apply List.Perm.append_right
    rw [List.map_append, List.append_assoc]
    exact List.Perm.append_left _ removed
  · intro answered value member
    rcases List.mem_append.mp member with earlier | last
    · exact sound.answered answered value earlier
    · cases List.mem_singleton.mp last
      exact Or.inl ⟨sent, result, made, key.symm, rfl, numbered, same⟩

end Call

namespace SamplingPool

variable {pool : SamplingPool} {call : SampleCall}

/-- Queueing the next item keeps the call sound, and the call moves on. -/
theorem dispatchNext_sound (sound : CallSound (pool.workers = []) pool.produced call)
    (phase : SamplePhase) :
    ∃ next, (pool.dispatchNext call phase).current = some next ∧
      CallSound (pool.workers = []) pool.produced next ∧ Progress (pool.workers = []) next ∧
      next.number = call.number ∧ next.callId = call.callId := by
  unfold dispatchNext
  split
  · rename_i pending
    exact ⟨_, rfl, sound.setPhase _, fun _ => Or.inl pending, rfl, rfl⟩
  · rename_i item rest pending
    unfold dispatch
    split
    · rename_i closed
      have shut : pool.workers = [] := List.isEmpty_iff.mp closed
      refine ⟨_, rfl, ⟨sound.keyed, ?_, ?_⟩, fun _ => Or.inr (Or.inl shut), rfl, rfl⟩
      · intro distinct
        have before := sound.split distinct
        rw [pending] at before
        refine List.Perm.trans ?_ before
        simp only [List.map_append, List.map_cons, List.map_nil, List.append_assoc,
          List.singleton_append]
        apply List.Perm.append_left
        exact List.perm_middle.symm
      · intro answered result member
        rcases List.mem_append.mp member with earlier | last
        · exact sound.answered answered result earlier
        · cases List.mem_singleton.mp last
          exact Or.inr ⟨shut, rfl⟩
    · have moves : ∀ next : SampleCall, next.inFlight = call.inFlight.insert item.id item →
          Progress (pool.workers = []) next := by
        intro next flying empty
        rw [flying, AList.entries_insert] at empty
        cases empty
      refine ⟨_, rfl, ⟨?_, ?_, ?_⟩, moves _ rfl, rfl, rfl⟩
      · intro id flying found
        rw [KeyMap.lookup_insert_eq] at found
        split at found
        · rename_i same
          cases found
          exact ⟨same.symm, List.mem_append_right _ List.mem_cons_self⟩
        · obtain ⟨key, sent⟩ := sound.keyed id flying found
          exact ⟨key, List.mem_append_left _ sent⟩
      · intro distinct
        have fresh := sound.pending_fresh pending distinct
        have before := sound.split distinct
        rw [pending] at before
        rw [AList.entries_insert_of_notMem fresh]
        exact (perm_move _ _ _ item).trans before
      · intro answered result member
        rcases sound.answered answered result member with ⟨sent, genuine⟩ | shut
        · exact Or.inl ⟨List.mem_append_left _ sent, genuine⟩
        · exact Or.inr shut

/-- The rest of the pool, apart from the job it may have queued. -/
theorem dispatchNext_frame (pool : SamplingPool) (call : SampleCall) (phase : SamplePhase) :
    (pool.dispatchNext call phase).workers = pool.workers ∧
      (pool.dispatchNext call phase).calls = pool.calls ∧
      (pool.dispatchNext call phase).nextCallId = pool.nextCallId ∧
      (pool.dispatchNext call phase).produced = pool.produced ∧
      (pool.dispatchNext call phase).returned = pool.returned ∧
      (pool.dispatchNext call phase).resultQueue = pool.resultQueue ∧
      ∀ job ∈ (pool.dispatchNext call phase).jobs, job ∈ pool.jobs ∨
        job.callId = call.callId ∧ job.call = call.number := by
  unfold dispatchNext dispatch
  split
  · exact ⟨rfl, rfl, rfl, rfl, rfl, rfl, fun job member => Or.inl member⟩
  · split
    · exact ⟨rfl, rfl, rfl, rfl, rfl, rfl, fun job member => Or.inl member⟩
    · refine ⟨rfl, rfl, rfl, rfl, rfl, rfl, ?_⟩
      intro job member
      rcases List.mem_append.mp member with before | last
      · exact Or.inl before
      · cases List.mem_singleton.mp last
        exact Or.inr ⟨rfl, rfl⟩

/-- The call that begins has every item of its plan pending. -/
theorem sample_sound (pool : SamplingPool) (plan : List TickItem) (now timeout : Nat) :
    ∃ next, (pool.sample plan now timeout).current = some next ∧
      CallSound (pool.workers = []) pool.produced next ∧ Progress (pool.workers = []) next ∧
      next.number = pool.calls ∧ next.callId = pool.nextCallId := by
  refine ⟨_, rfl, ⟨?_, ?_, ?_⟩, ?_, rfl, rfl⟩
  · intro id item found
    cases found
  · intro distinct
    exact List.Perm.refl plan
  · intro item result member
    cases member
  · intro empty
    right
    right
    exact ⟨max pool.workers.length 1 - 1, by simp only [SamplePhase.seeding.injEq]; omega⟩

end SamplingPool

/-- What a call has returned. -/
structure ReturnSound (closed : Prop) (produced : List SamplingResult) (record : Returned) :
    Prop where
  callId : record.call.callId = record.call.number % u64Bound
  once : record.call.plan.Nodup → (record.list.map (·.1)).Nodup
  planned : record.call.plan.Nodup → ∀ item ∈ record.list.map (·.1), item ∈ record.call.plan
  sent : ∀ item result, (item, result) ∈ record.list →
    item ∈ record.call.sent ∨ closed ∧ result = .error poolShutDown
  genuine : ∀ item sample, (item, .ok sample) ∈ record.list →
    Genuine produced record.call item (.ok sample)
  complete : record.call.plan.Nodup → record.list.length < record.call.plan.length →
    record.call.deadline ≤ record.time ∨ closed

structure PoolSound (pool : SamplingPool) : Prop where
  nextCallId : pool.nextCallId = pool.calls % u64Bound
  jobs : ∀ job ∈ pool.jobs, Numbered pool.calls job.callId job.call
  workers : ∀ job, some job ∈ pool.workers → Numbered pool.calls job.callId job.call
  queue : ∀ result ∈ pool.resultQueue, result ∈ pool.produced
  produced : ∀ result ∈ pool.produced, Numbered pool.calls result.callId result.call
  current : ∀ call, pool.current = some call →
    CallSound (pool.workers = []) pool.produced call ∧ Progress (pool.workers = []) call ∧
      call.number + 1 = pool.calls ∧ call.callId = call.number % u64Bound
  returned : ∀ record ∈ pool.returned, ReturnSound (pool.workers = []) pool.produced record

theorem ReturnSound.mono {closed : Prop} {produced : List SamplingResult} {record : Returned}
    (sound : ReturnSound closed produced record) (more : List SamplingResult) :
    ReturnSound closed (produced ++ more) record :=
  ⟨sound.callId, sound.once, sound.planned, sound.sent,
    fun item sample member => (sound.genuine item sample member).mono, sound.complete⟩

theorem CallSound.returns {closed : Prop} {produced : List SamplingResult} {call : SampleCall}
    (sound : CallSound closed produced call) (callId : call.callId = call.number % u64Bound)
    (time : Nat) (reason : call.deadline ≤ time ∨ closed ∨ call.pending = []) :
    ReturnSound closed produced ⟨call, call.results ++ call.inFlight.entries.map fun entry =>
      (entry.2, .error (sampleLate call.timeout)), time⟩ := by
  have items : (call.results ++ call.inFlight.entries.map fun entry =>
      (entry.2, (.error (sampleLate call.timeout) : SampleResult))).map (·.1) =
        call.results.map (·.1) ++ call.inFlight.entries.map (·.2) := by
    simp only [List.map_append, List.map_map]
    rfl
  refine ⟨callId, ?_, ?_, ?_, ?_, ?_⟩
  · intro distinct
    have all_distinct := (sound.split distinct).nodup_iff.mpr distinct
    rw [items]
    exact (List.nodup_append.mp all_distinct).1
  · intro distinct item member
    rw [items] at member
    exact (sound.split distinct).mem_iff.mp (List.mem_append_left _ member)
  · intro item result member
    rcases List.mem_append.mp member with answered | flying
    · exact (sound.answered item result answered).imp (fun genuine => genuine.1) id
    · obtain ⟨entry, stored, same⟩ := List.mem_map.mp flying
      cases same
      exact Or.inl (sound.keyed _ _ ((KeyMap.mem_entries_iff _ _ _).mp stored)).2
  · intro item sample member
    rcases List.mem_append.mp member with answered | flying
    · rcases sound.answered item _ answered with ⟨_, genuine⟩ | ⟨_, failed⟩
      · exact genuine
      · cases failed
    · obtain ⟨entry, _, same⟩ := List.mem_map.mp flying
      cases same
  · intro distinct fewer
    have total := (sound.split distinct).length_eq
    rcases reason with late | shut | nothing
    · exact Or.inl late
    · exact Or.inr shut
    · simp only [nothing, List.append_nil, List.length_append, List.length_map] at total fewer
      omega

namespace PoolSound

variable {pool : SamplingPool} {call : SampleCall}

/-- What a step may do while only the running call and the queues change. -/
theorem withCurrent (sound : PoolSound pool) {next : SamplingPool} {after : SampleCall}
    (workers : next.workers = pool.workers) (calls : next.calls = pool.calls)
    (nextCallId : next.nextCallId = pool.nextCallId) (produced : next.produced = pool.produced)
    (returned : next.returned = pool.returned)
    (queue : ∀ result ∈ next.resultQueue, result ∈ pool.resultQueue)
    (jobs : ∀ job ∈ next.jobs, job ∈ pool.jobs ∨ job.callId = after.callId ∧
      job.call = after.number)
    (current : next.current = some after)
    (call_sound : CallSound (pool.workers = []) pool.produced after)
    (progress : Progress (pool.workers = []) after)
    (number : after.number + 1 = pool.calls) (callId : after.callId = after.number % u64Bound) :
    PoolSound next := by
  refine ⟨?_, ?_, ?_, ?_, ?_, ?_, ?_⟩
  · rw [nextCallId, calls]
    exact sound.nextCallId
  · intro job member
    rw [calls]
    rcases jobs job member with before | ⟨same_id, same_call⟩
    · exact sound.jobs job before
    · rw [same_id, same_call]
      exact ⟨callId, by omega⟩
  · intro job member
    rw [calls]
    exact sound.workers job (workers ▸ member)
  · intro result member
    rw [produced]
    exact sound.queue result (queue result member)
  · intro result member
    rw [calls]
    exact sound.produced result (produced ▸ member)
  · intro other same
    rw [current] at same
    cases same
    rw [workers, produced, calls]
    exact ⟨call_sound, progress, number, callId⟩
  · intro record member
    rw [workers, produced]
    exact sound.returned record (returned ▸ member)

theorem dispatchNext (sound : PoolSound pool) {before : SampleCall}
    (running : pool.current = some before)
    (call_sound : CallSound (pool.workers = []) pool.produced call)
    (number : call.number = before.number) (callId : call.callId = before.callId)
    (phase : SamplePhase) :
    PoolSound (pool.dispatchNext call phase) := by
  obtain ⟨_, _, begun, truncated⟩ := sound.current before running
  obtain ⟨next, current, next_sound, progress, same_number, same_id⟩ :=
    SamplingPool.dispatchNext_sound call_sound phase
  obtain ⟨workers, calls, nextCallId, produced, returned, queue, jobs⟩ :=
    SamplingPool.dispatchNext_frame pool call phase
  apply sound.withCurrent workers calls nextCallId produced returned
    (fun result member => queue ▸ member) _ current next_sound progress
  · omega
  · rw [same_id, same_number, callId, number, truncated]
  · intro job member
    rw [same_id, same_number]
    exact jobs job member

theorem complete (sound : PoolSound pool) (running : pool.current = some call)
    (reason : call.deadline ≤ pool.clock ∨ pool.workers = [] ∨ call.pending = []) :
    PoolSound (pool.complete call) := by
  obtain ⟨call_sound, _, _, callId⟩ := sound.current call running
  refine ⟨sound.nextCallId, sound.jobs, sound.workers, sound.queue, sound.produced, ?_, ?_⟩
  · intro other same
    cases same
  · intro record member
    rcases List.mem_append.mp member with before | last
    · exact sound.returned record before
    · cases List.mem_singleton.mp last
      exact call_sound.returns callId pool.clock reason

theorem waiting (sound : PoolSound pool) (running : pool.current = some call)
    (phase : SamplePhase) (progress : Progress (pool.workers = []) { call with phase := phase }) :
    PoolSound { pool with current := some { call with phase := phase } } := by
  obtain ⟨call_sound, _, number, callId⟩ := sound.current call running
  exact sound.withCurrent rfl rfl rfl rfl rfl (fun _ member => member)
    (fun _ member => Or.inl member) rfl (call_sound.setPhase phase) progress number callId

theorem sample (sound : PoolSound pool) (plan : List TickItem) (now timeout : Nat) :
    PoolSound (pool.sample plan now timeout) := by
  obtain ⟨next, current, next_sound, progress, number, callId⟩ :=
    SamplingPool.sample_sound pool plan now timeout
  have grows : pool.calls ≤ pool.calls + 1 := Nat.le_succ _
  refine ⟨?_, fun job member => (sound.jobs job member).mono grows,
    fun job member => (sound.workers job member).mono grows, sound.queue,
    fun result member => (sound.produced result member).mono grows, ?_, sound.returned⟩
  · change wrappingAdd pool.nextCallId 1 = (pool.calls + 1) % u64Bound
    rw [sound.nextCallId, wrappingAdd]
    exact Nat.mod_add_mod _ _ _
  · intro other same
    rw [current] at same
    cases same
    refine ⟨next_sound, progress, ?_, ?_⟩
    · rw [number]
      rfl
    · rw [callId, number, sound.nextCallId]

theorem send (sound : PoolSound pool) {next : SamplingPool}
    (taken : pool.step .send = some next) : PoolSound next := by
  obtain ⟨call, running, enabled⟩ := Option.bind_eq_some_iff.mp taken
  obtain ⟨call_sound, progress, _, _⟩ := sound.current call running
  split at enabled
  · rename_i seeding
    cases enabled
    apply sound.waiting running
    intro empty
    rcases progress empty with done | shut | ⟨left, more⟩
    · exact Or.inl done
    · exact Or.inr (Or.inl shut)
    · rw [seeding] at more
      cases more
  · cases enabled
    exact sound.dispatchNext running call_sound rfl rfl _
  · cases enabled

theorem check (sound : PoolSound pool) {next : SamplingPool}
    (taken : pool.step .check = some next) : PoolSound next := by
  obtain ⟨call, running, enabled⟩ := Option.bind_eq_some_iff.mp taken
  obtain ⟨waiting, same⟩ := Run.enabled_eq_some.mp enabled
  obtain ⟨_, progress, _, _⟩ := sound.current call running
  have settled : call.inFlight.entries = [] → pool.workers = [] ∨ call.pending = [] := by
    intro empty
    rcases progress empty with done | shut | ⟨left, seeding⟩
    · exact Or.inr done
    · exact Or.inl shut
    · rw [waiting] at seeding
      cases seeding
  split at same
  · rename_i over_now
    cases same
    apply sound.complete running
    rw [Bool.or_eq_true, List.isEmpty_iff, decide_eq_true_eq] at over_now
    rcases over_now with empty | late
    · exact Or.inr (settled empty)
    · exact Or.inl late
  · cases same
    apply sound.waiting running
    intro empty
    rcases settled empty with shut | done
    · exact Or.inr (Or.inl shut)
    · exact Or.inl done

theorem accept (sound : PoolSound pool) (running : pool.current = some call)
    (receiving : call.phase = .receiving) {result : SamplingResult}
    (made : result ∈ pool.produced) : PoolSound (pool.accept call result) := by
  obtain ⟨call_sound, progress, number, callId⟩ := sound.current call running
  have ignored : Progress (pool.workers = []) { call with phase := .waiting } := by
    intro empty
    rcases progress empty with done | shut | ⟨left, seeding⟩
    · exact Or.inl done
    · exact Or.inr (Or.inl shut)
    · rw [receiving] at seeding
      cases seeding
  unfold SamplingPool.accept
  split
  · exact sound.waiting running .waiting ignored
  · rename_i same
    split
    · exact sound.waiting running .waiting ignored
    · rename_i item found
      have numbered := sound.produced result made
      rw [← number] at numbered
      have answered := call_sound.answer found made numbered (not_not.mp same)
      exact sound.dispatchNext running answered rfl rfl .waiting

theorem dequeue (sound : PoolSound pool) {result : SamplingResult} {rest : List SamplingResult}
    (queued : pool.resultQueue = result :: rest) : PoolSound { pool with resultQueue := rest } :=
  ⟨sound.nextCallId, sound.jobs, sound.workers,
    fun other member => sound.queue other (queued ▸ List.mem_cons_of_mem _ member),
    sound.produced, sound.current, sound.returned⟩

theorem receive (sound : PoolSound pool) {next : SamplingPool}
    (taken : pool.step .receive = some next) : PoolSound next := by
  obtain ⟨call, running, received⟩ := Option.bind_eq_some_iff.mp taken
  split at received
  · cases received
  · rename_i result rest queued
    obtain ⟨receiving, rfl⟩ := Run.enabled_eq_some.mp received
    have made := sound.queue result (queued ▸ List.mem_cons_self)
    exact (sound.dequeue queued).accept running receiving made

theorem expire (sound : PoolSound pool) {next : SamplingPool}
    (taken : pool.step .expire = some next) : PoolSound next := by
  obtain ⟨call, running, enabled⟩ := Option.bind_eq_some_iff.mp taken
  obtain ⟨⟨_, reason⟩, rfl⟩ := Run.enabled_eq_some.mp enabled
  apply sound.complete running
  rcases reason with late | ⟨shut, _⟩
  · exact Or.inl late
  · exact Or.inr (Or.inl shut)

/-- Giving a worker a job, or taking it away, leaves a pool open or closed. -/
theorem set_eq_nil_iff {α : Type} {entries : List α} {position : Nat} {value : α} :
    entries.set position value = [] ↔ entries = [] := by
  cases entries with
  | nil => simp
  | cons entry rest => cases position <;> simp

theorem take (sound : PoolSound pool) {worker : Nat} {next : SamplingPool}
    (taken : pool.step (.take worker) = some next) : PoolSound next := by
  obtain ⟨job, rest, idle, queued, rfl⟩ := SamplingPool.step_take taken
  refine ⟨sound.nextCallId, ?_, ?_, sound.queue, sound.produced, ?_, ?_⟩
  · exact fun other member => sound.jobs other (queued ▸ List.mem_cons_of_mem _ member)
  · intro other member
    rcases List.mem_or_eq_of_mem_set member with before | same
    · exact sound.workers other before
    · cases same
      exact sound.jobs job (queued ▸ List.mem_cons_self)
  · simpa only [set_eq_nil_iff] using sound.current
  · simpa only [set_eq_nil_iff] using sound.returned

theorem finish (sound : PoolSound pool) {worker : Nat} {outcome : Except PluginError Reading}
    {next : SamplingPool} (taken : pool.step (.finish worker outcome) = some next) :
    PoolSound next := by
  obtain ⟨job, busy, rfl⟩ := SamplingPool.step_finish taken
  have made := sound.workers job (List.mem_of_getElem? busy)
  refine ⟨sound.nextCallId, sound.jobs, ?_, ?_, ?_, ?_, ?_⟩
  · intro other member
    rcases List.mem_or_eq_of_mem_set member with before | same
    · exact sound.workers other before
    · cases same
  · intro result member
    rcases List.mem_append.mp member with before | last
    · exact List.mem_append_left _ (sound.queue result before)
    · exact List.mem_append_right _ last
  · intro result member
    rcases List.mem_append.mp member with before | last
    · exact sound.produced result before
    · cases List.mem_singleton.mp last
      exact made
  · intro call running
    obtain ⟨call_sound, progress, numbers⟩ := sound.current call running
    simp only [set_eq_nil_iff]
    exact ⟨call_sound.mono _, progress, numbers⟩
  · intro record member
    simp only [set_eq_nil_iff]
    exact (sound.returned record member).mono _

/-- Every step keeps the pool sound. -/
theorem step (sound : PoolSound pool) {label : PoolStep} {next : SamplingPool}
    (taken : pool.step label = some next) : PoolSound next := by
  cases label with
  | sample plan now timeout =>
      obtain ⟨_, rfl⟩ := Run.enabled_eq_some.mp taken
      exact sound.sample plan now timeout
  | send => exact sound.send taken
  | check => exact sound.check taken
  | receive => exact sound.receive taken
  | expire => exact sound.expire taken
  | take worker => exact sound.take taken
  | finish worker outcome => exact sound.finish taken
  | tick elapsed =>
      cases taken
      exact ⟨sound.nextCallId, sound.jobs, sound.workers, sound.queue, sound.produced,
        sound.current, sound.returned⟩

theorem new (size : Nat) : PoolSound (.new size) := by
  refine ⟨rfl, ?_, ?_, ?_, ?_, ?_, ?_⟩
  · exact fun job member => absurd member List.not_mem_nil
  · intro job member
    cases List.eq_of_mem_replicate member
  · exact fun result member => absurd member List.not_mem_nil
  · exact fun result member => absurd member List.not_mem_nil
  · intro call running
    cases running
  · exact fun record member => absurd member List.not_mem_nil

end PoolSound

/-- No step adds or removes a worker. -/
theorem SamplingPool.step_workers {pool next : SamplingPool} {label : PoolStep}
    (taken : pool.step label = some next) : next.workers.length = pool.workers.length := by
  cases label with
  | sample plan now timeout =>
      obtain ⟨_, rfl⟩ := Run.enabled_eq_some.mp taken
      rfl
  | send =>
      obtain ⟨call, _, enabled⟩ := Option.bind_eq_some_iff.mp taken
      split at enabled
      · cases enabled
        rfl
      · cases enabled
        rw [(SamplingPool.dispatchNext_frame pool call _).1]
      · cases enabled
  | check =>
      obtain ⟨call, _, enabled⟩ := Option.bind_eq_some_iff.mp taken
      obtain ⟨_, same⟩ := Run.enabled_eq_some.mp enabled
      split at same <;> cases same <;> rfl
  | receive =>
      obtain ⟨call, _, received⟩ := Option.bind_eq_some_iff.mp taken
      split at received
      · cases received
      · obtain ⟨_, rfl⟩ := Run.enabled_eq_some.mp received
        unfold SamplingPool.accept
        split
        · rfl
        · split
          · rfl
          · rw [(SamplingPool.dispatchNext_frame _ _ _).1]
  | expire =>
      obtain ⟨call, _, enabled⟩ := Option.bind_eq_some_iff.mp taken
      obtain ⟨_, rfl⟩ := Run.enabled_eq_some.mp enabled
      rfl
  | take worker =>
      obtain ⟨job, rest, _, _, rfl⟩ := SamplingPool.step_take taken
      exact List.length_set
  | finish worker outcome =>
      obtain ⟨job, _, rfl⟩ := SamplingPool.step_finish taken
      exact List.length_set
  | tick elapsed =>
      cases taken
      rfl

/-- Whatever the size of the pool and however its steps interleave: a call returns
items of its plan, each once; one that was never queued appears only where there is
no worker, as such; a sample is what a worker made for the sensor in a call with the
same id, which up to 2^64 calls is this call; and where items are missing the deadline
had passed or there is no worker. -/
theorem partial_results_sound (size : Nat) (pool : SamplingPool)
    (reached : Run.Reaches SamplingPool.step (.new size) pool) :
    ∀ record ∈ pool.returned,
      (record.call.plan.Nodup →
        (record.list.map (·.1)).Nodup ∧ ∀ item ∈ record.list.map (·.1), item ∈ record.call.plan) ∧
      (∀ item result, (item, result) ∈ record.list →
        item ∈ record.call.sent ∨ size = 0 ∧ result = .error poolShutDown) ∧
      (∀ item sample, (item, .ok sample) ∈ record.list →
        ∃ made ∈ pool.produced, made.sensor = item.id ∧ made.result = .ok sample ∧
          made.callId = record.call.callId ∧
          (record.call.number < u64Bound → made.call = record.call.number)) ∧
      (record.call.plan.Nodup → record.list.length < record.call.plan.length →
        record.call.deadline ≤ record.time ∨ size = 0) := by
  have sound : PoolSound pool :=
    reached.invariant (fun _ _ _ taken sound => sound.step taken) (.new size)
  have workers : pool.workers.length = size :=
    @Run.Reaches.invariant _ _ SamplingPool.step (fun pool => pool.workers.length = size)
      (fun _ _ _ taken same => (SamplingPool.step_workers taken).trans same) _ _ reached
      List.length_replicate
  have none_left : pool.workers = [] → size = 0 := by
    intro shut
    rw [← workers, shut]
    rfl
  intro record member
  have returned := sound.returned record member
  refine ⟨fun distinct => ⟨returned.once distinct, returned.planned distinct⟩, ?_, ?_, ?_⟩
  · intro item result listed
    rcases returned.sent item result listed with sent | ⟨shut, same⟩
    · exact Or.inl sent
    · exact Or.inr ⟨none_left shut, same⟩
  · intro item sample listed
    obtain ⟨made, produced, sensor, value, numbered, callId⟩ := returned.genuine item sample listed
    refine ⟨made, produced, sensor, value, callId, ?_⟩
    intro within
    have same_low := numbered.truncated.symm.trans (callId.trans returned.callId)
    have begun := numbered.begun
    rwa [Nat.mod_eq_of_lt (by omega), Nat.mod_eq_of_lt within] at same_low
  · intro distinct fewer
    exact (returned.complete distinct fewer).imp id none_left

def cpuUtil : TickItem := ⟨⟨"cpu.util"⟩⟩

def memUsed : TickItem := ⟨⟨"mem.used_bytes"⟩⟩

/-- The one worker hangs in the second sensor; its result comes during the next call. -/
def lateRun : List PoolStep :=
  [.sample [cpuUtil, memUsed] 7 10, .send, .send, .take 0, .finish 0 (.ok (.scalar (.finite 1))),
    .check, .receive, .take 0, .check, .tick 10, .expire,
    .sample [memUsed] 8 10, .send, .send, .finish 0 (.ok (.scalar (.finite 2))), .check, .receive,
    .take 0, .finish 0 (.ok (.scalar (.finite 3))), .check, .receive, .check]

theorem partial_results_sound_late :
    ∃ pool, Run.Reaches SamplingPool.step (.new 1) pool ∧
      pool.returned.map (·.list) =
        [[(cpuUtil, .ok ⟨cpuUtil.id, 7, .scalar (.finite 1)⟩),
          (memUsed, .error (.timeout "sample did not complete within 10ns"))],
        [(memUsed, .ok ⟨memUsed.id, 8, .scalar (.finite 3)⟩)]] ∧
      ∀ record ∈ pool.returned, ∀ item sample, (item, .ok sample) ∈ record.list →
        ∃ made ∈ pool.produced, made.sensor = item.id ∧ made.result = .ok sample := by
  have ran : (Run.exec SamplingPool.step (.new 1) lateRun).isSome = true := by decide +kernel
  have lists : (Option.get _ ran).returned.map (·.list) =
      [[(cpuUtil, .ok ⟨cpuUtil.id, 7, .scalar (.finite 1)⟩),
        (memUsed, .error (.timeout "sample did not complete within 10ns"))],
      [(memUsed, .ok ⟨memUsed.id, 8, .scalar (.finite 3)⟩)]] := by
    decide +kernel +revert
  refine ⟨_, .of_isSome ran, lists, ?_⟩
  intro record member item sample listed
  obtain ⟨_, _, genuine, _⟩ := partial_results_sound 1 _ (.of_isSome ran) record member
  obtain ⟨made, produced, sensor, value, _⟩ := genuine item sample listed
  exact ⟨made, produced, sensor, value⟩

/-- A pool without workers returns an item that it never queued and leaves out another,
long before the deadline. -/
theorem shut_pool_returns_early :
    ∃ pool, Run.exec SamplingPool.step (.new 0)
        [.sample [cpuUtil, memUsed] 7 10, .send, .send, .check] = some pool ∧
      ∃ record ∈ pool.returned, record.call.plan = [cpuUtil, memUsed] ∧
        record.list = [(cpuUtil, .error poolShutDown)] ∧ record.call.sent = [] ∧
        record.time < record.call.deadline := by
  have ran : (Run.exec SamplingPool.step (.new 0)
      [.sample [cpuUtil, memUsed] 7 10, .send, .send, .check]).isSome = true := by
    decide +kernel
  have early : ∃ record ∈ (Option.get _ ran).returned, record.call.plan = [cpuUtil, memUsed] ∧
      record.list = [(cpuUtil, .error poolShutDown)] ∧ record.call.sent = [] ∧
      record.time < record.call.deadline := by
    decide +kernel +revert
  exact ⟨_, (Option.some_get ran).symm, early⟩

end LinSight
