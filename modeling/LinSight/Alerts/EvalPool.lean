import LinSight.Alerts.Expr
import LinSight.Alerts.PendingJobs
import LinSight.Library.ListSchedule

set_option autoImplicit false

/-! The workers that evaluate the expressions of `on_sample`, and the time that it waits for
them. Nothing takes time but the evaluations and the waits. -/

namespace LinSight.Alerts

/-- In nanoseconds. -/
def evalTimeout : Nat := 500000000

def evalPoolSize : Nat := 4

/-- What an evaluation gives and the time it takes; `⊤` never ends. -/
structure Evaluator where
  evalexpr : Evalexpr
  cost : String → Context → ℕ∞

/-- A job in the pool. `number` tells the result channels apart. -/
structure EvalTask where
  number : Nat
  job : EvalJob
deriving DecidableEq

/-- The outcome that `eval_single` sends. -/
def Evaluator.outcome (evaluator : Evaluator) (task : EvalTask) : EvalOutcome :=
  evaluator.evalexpr.evalSingle task.job.rewrittenExpr task.job.ctx

def Evaluator.taskCost (evaluator : Evaluator) (task : EvalTask) : ℕ∞ :=
  evaluator.cost task.job.rewrittenExpr task.job.ctx

/-- A worker evaluates a job since a time. -/
structure Running where
  task : EvalTask
  started : Nat
deriving DecidableEq

/-- A result channel, with what came over it. -/
structure Waiting where
  task : EvalTask
  received : Option EvalOutcome
deriving DecidableEq

/-- `on_sample` in `recv_timeout` on the channel `first` since a time, and the channels that are
left for later. -/
structure OnSample where
  first : Waiting
  rest : List Waiting
  since : Nat
  notifications : List NotifyJob
deriving DecidableEq

structure Answer where
  task : EvalTask
  outcome : EvalOutcome
deriving DecidableEq

/-- The engine with its pool. `answers` records what `apply_eval_result` got; no step reads it. -/
structure EvalPool where
  engine : AlertEngine
  workers : List (Option Running)
  queue : List EvalTask
  call : Option OnSample
  clock : Nat
  tasks : Nat
  dispatched : List NotifyJob
  answers : List Answer
deriving DecidableEq

inductive EvalStep where
  | onSample (sample : Sample)
  | take (worker : Nat)
  | finish (worker : Nat)
  | receive (wall : Nat)
  | expire (wall : Nat)
  | tick (elapsed : Nat)

namespace EvalPool

def start (rules : List CompiledRule) : EvalPool where
  engine := .new rules
  workers := List.replicate evalPoolSize none
  queue := []
  call := none
  clock := 0
  tasks := 0
  dispatched := []
  answers := []

/-- Wait for the next channel, or dispatch the notifications and return. -/
def await (pool : EvalPool) (notifications : List NotifyJob) : List Waiting → EvalPool
  | [] => { pool with call := none, dispatched := pool.dispatched ++ notifications }
  | first :: rest => { pool with call := some ⟨first, rest, pool.clock, notifications⟩ }

/-- The jobs of a sample as the pool gets them. -/
def submitted (pool : EvalPool) (sample : Sample) : List EvalTask :=
  ((pool.engine.observe sample).2.zipIdx pool.tasks).map fun entry => EvalTask.mk entry.2 entry.1

/-- `on_sample` up to its first wait. -/
def onSample (pool : EvalPool) (sample : Sample) : EvalPool :=
  let tasks := pool.submitted sample
  { pool with
    engine := (pool.engine.observe sample).1
    queue := pool.queue ++ tasks
    tasks := pool.tasks + tasks.length }.await [] (tasks.map fun task => Waiting.mk task none)

/-- Apply the outcome of the channel that was waited on; `none` is a panic. -/
def apply (pool : EvalPool) (call : OnSample) (outcome : EvalOutcome) (wall : Nat) :
    Option EvalPool :=
  (pool.engine.applyEvalResult call.first.task.job.idx outcome pool.clock wall).map fun applied =>
    { pool with
      engine := applied.1
      answers := pool.answers ++ [Answer.mk call.first.task outcome] }.await
        (call.notifications ++ applied.2) call.rest

end EvalPool

/-- What came first is received first. -/
def Waiting.deliver (task : EvalTask) (outcome : EvalOutcome) (waiting : Waiting) : Waiting :=
  if waiting.task.number = task.number then
    { waiting with received := waiting.received.or (some outcome) }
  else waiting

@[simp] theorem Waiting.deliver_task (task : EvalTask) (outcome : EvalOutcome) (waiting : Waiting) :
    (waiting.deliver task outcome).task = waiting.task := by
  unfold Waiting.deliver
  split <;> rfl

/-- The outcome goes to the channel of the job; nobody gets it where that is gone. -/
def OnSample.deliver (call : OnSample) (task : EvalTask) (outcome : EvalOutcome) : OnSample :=
  { call with
    first := call.first.deliver task outcome
    rest := call.rest.map (Waiting.deliver task outcome) }

section Steps

variable (evaluator : Evaluator)

def Running.ends (running : Running) : ℕ∞ := running.started + evaluator.taskCost running.task

namespace EvalPool

/-- Time passes where there is nothing to do: no worker is idle with a job in the queue, no
evaluation ends in between, and the wait goes on. -/
def Passes (pool : EvalPool) (elapsed : Nat) : Prop :=
  (pool.queue = [] ∨ none ∉ pool.workers) ∧
  (∀ running ∈ pool.workers.filterMap id,
    ((pool.clock + elapsed : Nat) : ℕ∞) ≤ running.ends evaluator) ∧
  ∀ call ∈ pool.call, call.first.received = none ∧
    pool.clock + elapsed ≤ call.since + evalTimeout

instance (pool : EvalPool) (elapsed : Nat) : Decidable (pool.Passes evaluator elapsed) :=
  inferInstanceAs (Decidable (_ ∧ _ ∧ _))

def step (pool : EvalPool) : EvalStep → Option EvalPool
  | .onSample sample => Run.enabled (pool.call = none) (pool.onSample sample)
  | .take worker =>
      match pool.workers[worker]?, pool.queue with
      | some none, task :: rest =>
          some { pool with
            workers := pool.workers.set worker (some ⟨task, pool.clock⟩)
            queue := rest }
      | _, _ => none
  | .finish worker =>
      match pool.workers[worker]? with
      | some (some running) =>
          Run.enabled (running.ends evaluator = pool.clock)
            { pool with
              workers := pool.workers.set worker none
              call := pool.call.map fun call =>
                call.deliver running.task (evaluator.outcome running.task) }
      | _ => none
  | .receive wall =>
      pool.call.bind fun call =>
        call.first.received.bind fun outcome => pool.apply call outcome wall
  | .expire wall =>
      pool.call.bind fun call =>
        if call.first.received = none ∧ call.since + evalTimeout ≤ pool.clock then
          pool.apply call .timeout wall
        else none
  | .tick elapsed =>
      Run.enabled (pool.Passes evaluator elapsed) { pool with clock := pool.clock + elapsed }

/-- When each worker is free. -/
def freeAt (pool : EvalPool) : List ℕ∞ :=
  pool.workers.map fun worker => (worker.map (Running.ends evaluator)).getD pool.clock

/-- When the jobs of the queue end, and more jobs behind them. -/
def plan (pool : EvalPool) (more : List EvalTask) : List (EvalTask × ℕ∞) :=
  let tasks := pool.queue ++ more
  tasks.zip (ListSchedule.endTimes (pool.freeAt evaluator) (tasks.map evaluator.taskCost))

def running (pool : EvalPool) : List Running := pool.workers.filterMap id

/-- When the jobs at hand end. -/
def schedule (pool : EvalPool) : List (EvalTask × ℕ∞) :=
  pool.running.map (fun running => (running.task, running.ends evaluator)) ++
    pool.plan evaluator []

/-- Every job at hand is one job, and none ends before now. -/
structure Sound (pool : EvalPool) : Prop where
  distinct : ((pool.schedule evaluator).map fun entry => entry.1.number).Nodup
  numbered : ∀ entry ∈ pool.schedule evaluator, entry.1.number < pool.tasks
  due : ∀ running ∈ pool.running, (pool.clock : ℕ∞) ≤ running.ends evaluator

end EvalPool

section Workers

variable {workers : List (Option Running)} {worker : Nat} {running : Running}

theorem running_of_take (idle : workers[worker]? = some none) :
    ((workers.set worker (some running)).filterMap id).Perm (running :: workers.filterMap id) := by
  obtain ⟨inside, same⟩ := List.getElem?_eq_some_iff.mp idle
  have set := (List.set_perm_cons_eraseIdx inside (some running)).filterMap id
  have rest := (List.getElem_cons_eraseIdx_perm inside).filterMap id
  rw [same] at rest
  exact set.trans (rest.cons running)

theorem running_of_finish (busy : workers[worker]? = some (some running)) :
    (workers.filterMap id).Perm (running :: (workers.set worker none).filterMap id) := by
  obtain ⟨inside, same⟩ := List.getElem?_eq_some_iff.mp busy
  have set := (List.set_perm_cons_eraseIdx inside none).filterMap id
  have rest := (List.getElem_cons_eraseIdx_perm inside).filterMap id
  rw [same] at rest
  exact rest.symm.trans (set.symm.cons running)

end Workers

namespace EvalPool

variable {evaluator : Evaluator} {pool next : EvalPool} {worker elapsed wall : Nat}

theorem step_take (taken : pool.step evaluator (.take worker) = some next) :
    ∃ task rest, pool.workers[worker]? = some none ∧ pool.queue = task :: rest ∧
      next = { pool with
        workers := pool.workers.set worker (some ⟨task, pool.clock⟩)
        queue := rest } := by
  simp only [step] at taken
  split at taken
  · rename_i task rest idle queued
    exact ⟨task, rest, idle, queued, (Option.some.inj taken).symm⟩
  · cases taken

theorem step_finish (taken : pool.step evaluator (.finish worker) = some next) :
    ∃ running, pool.workers[worker]? = some (some running) ∧
      running.ends evaluator = pool.clock ∧
      next = { pool with
        workers := pool.workers.set worker none
        call := pool.call.map fun call =>
          call.deliver running.task (evaluator.outcome running.task) } := by
  simp only [step] at taken
  split at taken
  · rename_i running busy
    obtain ⟨ended, same⟩ := Run.enabled_eq_some.mp taken
    exact ⟨running, busy, ended, same.symm⟩
  · cases taken

theorem step_receive (taken : pool.step evaluator (.receive wall) = some next) :
    ∃ call outcome, pool.call = some call ∧ call.first.received = some outcome ∧
      pool.apply call outcome wall = some next := by
  obtain ⟨call, here, rest⟩ := Option.bind_eq_some_iff.mp taken
  obtain ⟨outcome, came, applied⟩ := Option.bind_eq_some_iff.mp rest
  exact ⟨call, outcome, here, came, applied⟩

theorem step_expire (taken : pool.step evaluator (.expire wall) = some next) :
    ∃ call, pool.call = some call ∧ call.first.received = none ∧
      call.since + evalTimeout ≤ pool.clock ∧ pool.apply call .timeout wall = some next := by
  obtain ⟨call, here, rest⟩ := Option.bind_eq_some_iff.mp taken
  split at rest
  · rename_i late
    exact ⟨call, here, late.1, late.2, rest⟩
  · cases rest

theorem schedule_await (notifications : List NotifyJob) (waiting : List Waiting) :
    (pool.await notifications waiting).schedule evaluator = pool.schedule evaluator := by
  cases waiting <;> rfl

theorem map_fst_plan (more : List EvalTask) :
    (pool.plan evaluator more).map Prod.fst = pool.queue ++ more := by
  refine List.map_fst_zip (le_of_eq ?_)
  rw [ListSchedule.length_endTimes, List.length_map]

theorem clock_le_freeAt (sound : pool.Sound evaluator) :
    ∀ time ∈ pool.freeAt evaluator, (pool.clock : ℕ∞) ≤ time := by
  intro time member
  obtain ⟨worker, inside, rfl⟩ := List.mem_map.mp member
  cases worker with
  | none => exact le_rfl
  | some running => exact sound.due running (List.mem_filterMap.mpr ⟨some running, inside, rfl⟩)

/-- Nothing at hand ends before now. -/
theorem clock_le_of_mem_schedule (sound : pool.Sound evaluator) {task : EvalTask} {time : ℕ∞}
    (member : (task, time) ∈ pool.schedule evaluator) : (pool.clock : ℕ∞) ≤ time := by
  rcases List.mem_append.mp member with busy | queued
  · obtain ⟨running, inside, same⟩ := List.mem_map.mp busy
    cases same
    exact sound.due running inside
  · exact ListSchedule.le_of_mem_endTimes (clock_le_freeAt sound) time (List.of_mem_zip queued).2

/-- A job that a worker takes ends when it was planned to. -/
theorem schedule_take (sound : pool.Sound evaluator)
    (taken : pool.step evaluator (.take worker) = some next) :
    (next.schedule evaluator).Perm (pool.schedule evaluator) := by
  obtain ⟨task, rest, idle, queued, rfl⟩ := step_take taken
  let running : Running := ⟨task, pool.clock⟩
  let ends := fun running : Running => (running.task, running.ends evaluator)
  have free : (pool.freeAt evaluator)[worker]? = some (pool.clock : ℕ∞) := by
    rw [freeAt, List.getElem?_map, idle]
    rfl
  have planned : pool.plan evaluator [] = ends running :: ({ pool with
      workers := pool.workers.set worker (some running), queue := rest } : EvalPool).plan
        evaluator [] := by
    simp only [plan, queued, List.append_nil, List.map_cons]
    rw [ListSchedule.endTimes_set free (clock_le_freeAt sound), List.zip_cons_cons]
    simp only [freeAt, List.map_set]
    rfl
  have busy := (@running_of_take _ _ running idle).map ends
  rw [schedule, schedule, planned]
  exact (busy.append_right _).trans List.perm_middle.symm

/-- A job that ends leaves the plan of the others. -/
theorem schedule_finish {running : Running} (here : pool.workers[worker]? = some (some running))
    (taken : pool.step evaluator (.finish worker) = some next) :
    (pool.schedule evaluator).Perm
      ((running.task, (pool.clock : ℕ∞)) :: next.schedule evaluator) := by
  obtain ⟨other, busy, ended, rfl⟩ := step_finish taken
  cases Option.some.inj (Option.some.inj (here.symm.trans busy))
  have busy := (running_of_finish here).map fun running => (running.task, running.ends evaluator)
  rw [List.map_cons, ended] at busy
  have free : (pool.workers.set worker none).map
      (fun worker => (worker.map (Running.ends evaluator)).getD (pool.clock : ℕ∞)) =
      pool.freeAt evaluator := by
    apply map_set_of_same here
    rw [Option.map_some, Option.getD_some, ended]
    rfl
  have planned : ({ pool with workers := pool.workers.set worker none } : EvalPool).plan
      evaluator [] = pool.plan evaluator [] := by
    simp only [plan, freeAt]
    rw [free]
    rfl
  refine (busy.append_right (pool.plan evaluator [])).trans ?_
  rw [← planned]
  exact List.Perm.refl _

theorem schedule_tick (taken : pool.step evaluator (.tick elapsed) = some next) :
    next.schedule evaluator = pool.schedule evaluator := by
  obtain ⟨⟨settled, _, _⟩, rfl⟩ := Run.enabled_eq_some.mp taken
  rcases settled with empty | busy
  · simp only [schedule, plan, empty, List.append_nil, List.zip_nil_left]
    rfl
  · have free : ({ pool with clock := pool.clock + elapsed } : EvalPool).freeAt evaluator =
        pool.freeAt evaluator := by
      refine List.map_congr_left fun worker member => ?_
      cases worker with
      | none => exact absurd member busy
      | some running => rfl
    simp only [schedule, plan, free]
    rfl

/-- The jobs of a sample come last. -/
theorem schedule_onSample (sample : Sample) :
    (pool.onSample sample).schedule evaluator =
      pool.running.map (fun running => (running.task, running.ends evaluator)) ++
        pool.plan evaluator (pool.submitted sample) := by
  rw [onSample, schedule_await, schedule, plan, List.append_nil]
  rfl

theorem map_fst_schedule_onSample (sample : Sample) :
    ((pool.onSample sample).schedule evaluator).map Prod.fst =
      (pool.schedule evaluator).map Prod.fst ++ pool.submitted sample := by
  rw [schedule_onSample, schedule, List.map_append, List.map_append, map_fst_plan, map_fst_plan,
    List.append_nil, List.append_assoc]

theorem step_apply {call : OnSample} {outcome : EvalOutcome}
    (applied : pool.apply call outcome wall = some next) :
    ∃ engine notifications, next = ({ pool with
      engine := engine
      answers := pool.answers ++ [Answer.mk call.first.task outcome] } : EvalPool).await
        notifications call.rest := by
  obtain ⟨result, _, same⟩ := Option.map_eq_some_iff.mp applied
  exact ⟨result.1, call.notifications ++ result.2, same.symm⟩

theorem answers_of_apply {call : OnSample} {outcome : EvalOutcome}
    (applied : pool.apply call outcome wall = some next) :
    next.answers = pool.answers ++ [⟨call.first.task, outcome⟩] ∧ next.tasks = pool.tasks := by
  obtain ⟨engine, notifications, rfl⟩ := step_apply applied
  cases call.rest <;> exact ⟨rfl, rfl⟩

theorem onSample_frame {sample : Sample} :
    (pool.onSample sample).answers = pool.answers ∧
      (pool.onSample sample).workers = pool.workers ∧
      (pool.onSample sample).clock = pool.clock ∧
      (pool.onSample sample).tasks = pool.tasks + (pool.submitted sample).length := by
  unfold onSample
  cases pool.submitted sample <;> exact ⟨rfl, rfl, rfl, rfl⟩

theorem submitted_number (sample : Sample) : (pool.submitted sample).map EvalTask.number =
    List.range' pool.tasks (pool.submitted sample).length := by
  rw [submitted, List.map_map, List.length_map, List.length_zipIdx]
  exact List.zipIdx_map_snd pool.tasks _

theorem start_sound (rules : List CompiledRule) : (start rules).Sound evaluator := by
  have nothing : (start rules).schedule evaluator = [] := rfl
  refine ⟨?_, ?_, fun running member => by cases member⟩
  · rw [nothing]
    exact List.nodup_nil
  · rw [nothing]
    exact fun entry member => by cases member

theorem Sound.await (sound : pool.Sound evaluator) (notifications : List NotifyJob)
    (waiting : List Waiting) : (pool.await notifications waiting).Sound evaluator := by
  cases waiting <;> exact ⟨sound.distinct, sound.numbered, sound.due⟩

theorem Sound.onSample (sound : pool.Sound evaluator) (sample : Sample) :
    (pool.onSample sample).Sound evaluator := by
  obtain ⟨_, workers, clock, tasks⟩ := @onSample_frame pool sample
  have numbers : ((pool.onSample sample).schedule evaluator).map (fun entry => entry.1.number) =
      (pool.schedule evaluator).map (fun entry => entry.1.number) ++
        List.range' pool.tasks (pool.submitted sample).length := by
    have names := congrArg (List.map EvalTask.number)
      (@map_fst_schedule_onSample evaluator pool sample)
    rw [List.map_append, submitted_number, List.map_map, List.map_map] at names
    exact names
  have fresh {number : Nat}
      (member : number ∈ List.range' pool.tasks (pool.submitted sample).length) :
      pool.tasks ≤ number ∧ number < pool.tasks + (pool.submitted sample).length :=
    List.mem_range'_1.mp member
  have known {number : Nat}
      (member : number ∈ (pool.schedule evaluator).map fun entry => entry.1.number) :
      number < pool.tasks := by
    obtain ⟨entry, inside, rfl⟩ := List.mem_map.mp member
    exact sound.numbered entry inside
  refine ⟨?_, fun entry member => ?_, ?_⟩
  · rw [numbers]
    exact sound.distinct.append List.nodup_range' fun number here there =>
      absurd (known here) (fresh there).1.not_gt
  · have inside := List.mem_map_of_mem (f := fun entry : EvalTask × ℕ∞ => entry.1.number) member
    rw [numbers] at inside
    rw [tasks]
    rcases List.mem_append.mp inside with here | there
    · exact (known here).trans_le (Nat.le_add_right _ _)
    · exact (fresh there).2
  · rw [running, workers, clock]
    exact sound.due

theorem Sound.apply {call : OnSample} {outcome : EvalOutcome} (sound : pool.Sound evaluator)
    (applied : pool.apply call outcome wall = some next) : next.Sound evaluator := by
  obtain ⟨engine, notifications, rfl⟩ := step_apply applied
  have answered : ({ pool with
      engine := engine
      answers := pool.answers ++ [Answer.mk call.first.task outcome] } : EvalPool).Sound
        evaluator := ⟨sound.distinct, sound.numbered, sound.due⟩
  exact answered.await notifications call.rest

theorem Sound.step {label : EvalStep} (sound : pool.Sound evaluator)
    (taken : pool.step evaluator label = some next) : next.Sound evaluator := by
  cases label with
  | onSample sample =>
      obtain ⟨_, rfl⟩ := Run.enabled_eq_some.mp taken
      exact sound.onSample sample
  | take worker =>
      have same := schedule_take sound taken
      obtain ⟨task, rest, idle, _, rfl⟩ := step_take taken
      refine ⟨(same.map _).nodup_iff.mpr sound.distinct, ?_, ?_⟩
      · exact fun entry member => sound.numbered entry (same.mem_iff.mp member)
      · intro running member
        rcases List.mem_cons.mp ((running_of_take idle).mem_iff.mp member) with rfl | old
        · exact le_self_add
        · exact sound.due running old
  | finish worker =>
      obtain ⟨running, busy, _, after⟩ := step_finish taken
      have left := schedule_finish busy taken
      subst after
      refine ⟨(List.nodup_cons.mp ((left.map _).nodup_iff.mp sound.distinct)).2, ?_, ?_⟩
      · intro entry member
        exact sound.numbered entry (left.mem_iff.mpr (List.mem_cons_of_mem _ member))
      · intro other member
        exact sound.due other ((running_of_finish busy).mem_iff.mpr (List.mem_cons_of_mem _ member))
  | receive wall =>
      obtain ⟨_, _, _, _, applied⟩ := step_receive taken
      exact sound.apply applied
  | expire wall =>
      obtain ⟨_, _, _, _, applied⟩ := step_expire taken
      exact sound.apply applied
  | tick elapsed =>
      have same := schedule_tick taken
      obtain ⟨⟨_, due, _⟩, rfl⟩ := Run.enabled_eq_some.mp taken
      refine ⟨?_, ?_, due⟩
      · rw [same]
        exact sound.distinct
      · rw [same]
        exact sound.numbered

end EvalPool

end Steps

section Lock

variable {evaluator : Evaluator} {pool next : EvalPool} {handle : Handle} {label : EvalStep}

/-- The jobs that a call waits for, now or later. -/
def EvalPool.awaited (pool : EvalPool) : List EvalTask :=
  (pool.call.map fun call => (call.first :: call.rest).map Waiting.task).getD []

theorem awaited_await (pool : EvalPool) (notifications : List NotifyJob) (waiting : List Waiting) :
    (pool.await notifications waiting).awaited = waiting.map Waiting.task := by
  cases waiting <;> rfl

theorem awaited_of_some {call : OnSample} (here : pool.call = some call) :
    pool.awaited = call.first.task :: call.rest.map Waiting.task := by
  rw [EvalPool.awaited, here]
  rfl

theorem awaited_onSample (sample : Sample) :
    (pool.onSample sample).awaited = pool.submitted sample := by
  rw [EvalPool.onSample, awaited_await, List.map_map]
  exact List.map_id _

theorem awaited_apply {call : OnSample} {outcome : EvalOutcome} {wall : Nat}
    (applied : pool.apply call outcome wall = some next) :
    next.awaited = call.rest.map Waiting.task := by
  obtain ⟨engine, notifications, rfl⟩ := EvalPool.step_apply applied
  exact awaited_await _ notifications call.rest

theorem awaited_finish {worker : Nat} (taken : pool.step evaluator (.finish worker) = some next) :
    next.awaited = pool.awaited := by
  obtain ⟨running, _, _, rfl⟩ := EvalPool.step_finish taken
  cases here : pool.call with
  | none => simp only [EvalPool.awaited, here, Option.map_none]
  | some call =>
      simp only [EvalPool.awaited, here, Option.map_some, OnSample.deliver, List.map_cons,
        List.map_map, Function.comp_def, Waiting.deliver_task]

/-- The engine behind its lock, with the jobs whose outcomes are to come. -/
structure EvalPool.Locks (pool : EvalPool) (handle : Handle) : Prop where
  engine : handle.engine = pool.engine
  pending : handle.pending.map Pending.job = pool.awaited.map EvalTask.job
  clock : handle.clock ≤ pool.clock
  pointed : Pointed handle

namespace EvalPool.Locks

theorem start (rules : List CompiledRule) : (EvalPool.start rules).Locks (.start rules) :=
  ⟨rfl, rfl, le_rfl, Pointed.start rules⟩

theorem onSample (locks : pool.Locks handle) (idle : pool.call = none) (sample : Sample) :
    (pool.onSample sample).Locks (handle.observe sample) := by
  have before := locks.pending
  rw [EvalPool.awaited, idle, Option.map_none, Option.getD_none, List.map_nil,
    List.map_eq_nil_iff] at before
  refine ⟨?_, ?_, ?_, locks.pointed.observed sample⟩
  · rw [EvalPool.onSample, Handle.observe, locks.engine]
    cases pool.submitted sample <;> rfl
  · have observed : (handle.observe sample).pending =
        handle.pending ++ (handle.engine.observe sample).2.map handle.collect := rfl
    rw [awaited_onSample, observed, before, locks.engine, List.nil_append, List.map_map,
      EvalPool.submitted, List.map_map]
    exact (List.map_id _).trans (List.zipIdx_map_fst _ _).symm
  · rw [EvalPool.onSample_frame.2.2.1]
    exact locks.clock

theorem apply {call : OnSample} {outcome : EvalOutcome} {wall : Nat} (locks : pool.Locks handle)
    (here : pool.call = some call) (applied : pool.apply call outcome wall = some next) :
    ∃ after, handle.step (.apply 0 outcome pool.clock wall) = some after ∧ next.Locks after := by
  have pending := locks.pending
  rw [awaited_of_some here, List.map_cons] at pending
  obtain ⟨first, rest, split, job, others⟩ := List.map_eq_cons_iff.mp pending
  have waits : handle.pending[0]? = some first := by rw [split]; rfl
  obtain ⟨result, settled, same⟩ := Option.map_eq_some_iff.mp applied
  have settles : handle.engine.applyEvalResult first.job.idx outcome pool.clock wall =
      some result := by rw [locks.engine, job, settled]
  have after : handle.applyOutcome 0 first outcome pool.clock wall = { handle with
      engine := result.1
      pending := rest
      clock := pool.clock
      log := Handle.logged handle.engine first.job.idx outcome pool.clock wall ++ handle.log } := by
    rw [Handle.applyOutcome, settles, split]
    rfl
  refine ⟨handle.applyOutcome 0 first outcome pool.clock wall, ?_, ?_, ?_, ?_, ?_⟩
  · rw [Handle.step, waits, Option.bind_some]
    exact Run.enabled_eq_some.mpr ⟨⟨locks.pointed.unpoisoned, locks.clock⟩, rfl⟩
  · rw [after, ← same]
    cases call.rest <;> rfl
  · rw [after, awaited_apply applied]
    exact others
  · rw [after, ← same]
    cases call.rest <;> exact le_rfl
  · exact (locks.pointed.applied waits).1

/-- The job that a call waits for has its rule. -/
theorem rule {call : OnSample} (locks : pool.Locks handle) (here : pool.call = some call) :
    ∃ rule, pool.engine.rules[call.first.task.job.idx]? = some rule := by
  have pending := locks.pending
  rw [awaited_of_some here, List.map_cons] at pending
  obtain ⟨first, rest, split, job, _⟩ := List.map_eq_cons_iff.mp pending
  have points := locks.pointed.pending first (by rw [split]; exact List.mem_cons_self)
  obtain ⟨rule, found, _⟩ := Option.map_eq_some_iff.mp points.expr
  rw [locks.engine, job] at found
  exact ⟨rule, found⟩

/-- The pool steps as the lock does, or leaves it alone. -/
theorem step (locks : pool.Locks handle) (taken : pool.step evaluator label = some next) :
    next.Locks handle ∨ ∃ locked after, handle.step locked = some after ∧ next.Locks after := by
  cases label with
  | onSample sample =>
      obtain ⟨idle, rfl⟩ := Run.enabled_eq_some.mp taken
      refine .inr ⟨.observe sample, handle.observe sample, ?_, locks.onSample idle sample⟩
      exact Run.enabled_eq_some.mpr ⟨locks.pointed.unpoisoned, rfl⟩
  | take worker =>
      obtain ⟨_, _, _, _, rfl⟩ := EvalPool.step_take taken
      exact .inl ⟨locks.engine, locks.pending, locks.clock, locks.pointed⟩
  | finish worker =>
      have same := awaited_finish taken
      obtain ⟨_, _, _, rfl⟩ := EvalPool.step_finish taken
      refine .inl ⟨locks.engine, ?_, locks.clock, locks.pointed⟩
      rw [same]
      exact locks.pending
  | receive wall =>
      obtain ⟨_, _, here, _, applied⟩ := EvalPool.step_receive taken
      exact .inr ⟨_, locks.apply here applied⟩
  | expire wall =>
      obtain ⟨_, here, _, _, applied⟩ := EvalPool.step_expire taken
      exact .inr ⟨_, locks.apply here applied⟩
  | tick elapsed =>
      obtain ⟨_, rfl⟩ := Run.enabled_eq_some.mp taken
      refine .inl ⟨locks.engine, locks.pending, ?_, locks.pointed⟩
      exact locks.clock.trans (Nat.le_add_right _ _)

end EvalPool.Locks

/-- Every job that a sample left gets one outcome, in the order of the jobs. -/
theorem answers_in_order {rules : List CompiledRule} {labels : List EvalStep}
    (run : Run.exec (EvalPool.step evaluator) (.start rules) labels = some pool) :
    pool.answers.map (fun answer => answer.task.number) ++ pool.awaited.map EvalTask.number =
      List.range pool.tasks := by
  refine @Run.exec_invariant _ _ _ (fun pool : EvalPool =>
    pool.answers.map (fun answer => answer.task.number) ++ pool.awaited.map EvalTask.number =
      List.range pool.tasks) ?_ _ _ _ run rfl
  intro state label next taken before
  have answered {call : OnSample} {outcome : EvalOutcome} {wall : Nat}
      (here : state.call = some call) (applied : state.apply call outcome wall = some next) :
      next.answers.map (fun answer => answer.task.number) ++ next.awaited.map EvalTask.number =
        List.range next.tasks := by
    obtain ⟨answers, tasks⟩ := EvalPool.answers_of_apply applied
    rw [awaited_of_some here, List.map_cons, List.append_cons] at before
    rw [awaited_apply applied, answers, tasks, List.map_append]
    exact before
  cases label with
  | onSample sample =>
      obtain ⟨idle, rfl⟩ := Run.enabled_eq_some.mp taken
      obtain ⟨answers, _, _, tasks⟩ := @EvalPool.onSample_frame state sample
      rw [EvalPool.awaited, idle, Option.map_none, Option.getD_none, List.map_nil,
        List.append_nil] at before
      rw [awaited_onSample, answers, tasks, before, EvalPool.submitted_number,
        List.range_eq_range', List.range_eq_range', ← List.range'_append_1, Nat.zero_add]
  | take worker =>
      obtain ⟨_, _, _, _, rfl⟩ := EvalPool.step_take taken
      exact before
  | finish worker =>
      have same := awaited_finish taken
      obtain ⟨_, _, _, rfl⟩ := EvalPool.step_finish taken
      rw [same]
      exact before
  | receive wall =>
      obtain ⟨_, _, here, _, applied⟩ := EvalPool.step_receive taken
      exact answered here applied
  | expire wall =>
      obtain ⟨_, here, _, _, applied⟩ := EvalPool.step_expire taken
      exact answered here applied
  | tick elapsed =>
      obtain ⟨_, rfl⟩ := Run.enabled_eq_some.mp taken
      exact before

end Lock

end LinSight.Alerts
