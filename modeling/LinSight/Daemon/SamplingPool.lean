import LinSight.Daemon.Scheduler
import LinSight.Library.Run

set_option autoImplicit false

/-! The pool of threads that run single plugin samples. Time is a count of
nanoseconds; a pool of no threads has a closed job channel. -/

namespace LinSight

open Scheduler (TickItem SampleResult)

/-- The fraction of a decimal with `width` digits, without the zeros at its end. -/
def fractionText (fraction width : Nat) : String :=
  let digits := toString fraction
  let padded := List.replicate (width - digits.length) '0' ++ digits.toList
  let shown := padded.rdropWhile (· = '0')
  if shown.isEmpty then "" else "." ++ String.ofList shown

/-- How a `Duration` is printed for debugging. -/
def debugDuration (nanos : Nat) : String :=
  if 1000000000 ≤ nanos then
    s!"{nanos / 1000000000}{fractionText (nanos % 1000000000) 9}s"
  else if 1000000 ≤ nanos then s!"{nanos / 1000000}{fractionText (nanos % 1000000) 6}ms"
  else if 1000 ≤ nanos then s!"{nanos / 1000}{fractionText (nanos % 1000) 3}µs"
  else s!"{nanos}ns"

/-- `call` counts the calls before this one; the code has its low 64 bits only. -/
structure SamplingJob where
  id : SensorId
  tsMicros : Nat
  callId : Nat
  call : Nat
deriving DecidableEq

structure SamplingResult where
  callId : Nat
  sensor : SensorId
  result : SampleResult
  call : Nat
deriving DecidableEq

/-- A worker took the job of a call for a sensor at a time. -/
structure Taking where
  call : Nat
  sensor : SensorId
  time : Nat
deriving DecidableEq

/-- Where the sampling thread stands: in the loop that seeds the pool, with its
iterations left, before the test of the deadline, or in `recv_timeout`. -/
inductive SamplePhase where
  | seeding (left : Nat)
  | waiting
  | receiving
deriving DecidableEq

/-- A running `SamplingPool::sample`. No step reads `sent`. -/
structure SampleCall where
  number : Nat
  callId : Nat
  plan : List TickItem
  now : Nat
  timeout : Nat
  deadline : Nat
  phase : SamplePhase
  pending : List TickItem
  inFlight : KeyMap SensorId TickItem
  results : List (TickItem × SampleResult)
  sent : List TickItem
deriving DecidableEq

/-- A call that returned `list` at a time. -/
structure Returned where
  call : SampleCall
  list : List (TickItem × SampleResult)
  time : Nat
deriving DecidableEq

/-- `calls`, `produced`, `taken` and `returned` record what happened. -/
structure SamplingPool where
  workers : List (Option SamplingJob)
  jobs : List SamplingJob
  resultQueue : List SamplingResult
  nextCallId : Nat
  clock : Nat
  current : Option SampleCall
  calls : Nat
  produced : List SamplingResult
  taken : List Taking
  returned : List Returned
deriving DecidableEq

inductive PoolStep where
  | sample (plan : List TickItem) (now timeout : Nat)
  | send
  | check
  | receive
  | expire
  | take (worker : Nat)
  | finish (worker : Nat) (outcome : Except PluginError Reading)
  | tick (elapsed : Nat)

/-- The error of an item whose job could not be queued. -/
def poolShutDown : PluginError := .timeout "sampling pool shut down"

/-- The error of an item that was still in flight at the deadline. -/
def sampleLate (timeout : Nat) : PluginError :=
  .timeout s!"sample did not complete within {debugDuration timeout}"

namespace SamplingPool

def new (size : Nat) : SamplingPool where
  workers := List.replicate size none
  jobs := []
  resultQueue := []
  nextCallId := 0
  clock := 0
  current := none
  calls := 0
  produced := []
  taken := []
  returned := []

/-- `sample` up to its first loop. -/
def sample (pool : SamplingPool) (plan : List TickItem) (now timeout : Nat) : SamplingPool :=
  { pool with
    nextCallId := wrappingAdd pool.nextCallId 1
    calls := pool.calls + 1
    current := some {
      number := pool.calls
      callId := pool.nextCallId
      plan := plan
      now := now
      timeout := timeout
      deadline := pool.clock + timeout
      phase := .seeding (max pool.workers.length 1)
      pending := plan
      inFlight := ∅
      results := []
      sent := [] } }

/-- Queue the job of an item; the channel is closed where no worker is left. -/
def dispatch (pool : SamplingPool) (call : SampleCall) (item : TickItem) : SamplingPool :=
  if pool.workers.isEmpty then
    { pool with
      current := some { call with results := call.results ++ [(item, .error poolShutDown)] } }
  else
    { pool with
      jobs := pool.jobs ++ [⟨item.id, call.now, call.callId, call.number⟩]
      current := some { call with
        inFlight := call.inFlight.insert item.id item
        sent := call.sent ++ [item] } }

/-- The next pending item, if there is one, after `call` has moved to `phase`. -/
def dispatchNext (pool : SamplingPool) (call : SampleCall) (phase : SamplePhase) : SamplingPool :=
  match call.pending with
  | [] => { pool with current := some { call with phase := .waiting } }
  | item :: rest => pool.dispatch { call with phase := phase, pending := rest } item

/-- Report what is still in flight as late and leave what is pending. -/
def complete (pool : SamplingPool) (call : SampleCall) : SamplingPool :=
  { pool with
    current := none
    returned := pool.returned ++ [⟨call, call.results ++ call.inFlight.entries.map fun entry =>
      (entry.2, .error (sampleLate call.timeout)), pool.clock⟩] }

/-- One result off the channel. A result of another call is ignored. -/
def accept (pool : SamplingPool) (call : SampleCall) (result : SamplingResult) : SamplingPool :=
  if result.callId ≠ call.callId then { pool with current := some { call with phase := .waiting } }
  else match call.inFlight.lookup result.sensor with
    | none => { pool with current := some { call with phase := .waiting } }
    | some item =>
        pool.dispatchNext { call with
          inFlight := call.inFlight.erase result.sensor
          results := call.results ++ [(item, result.result)] } .waiting

/-- What the worker sends of a job: `sample_to` stamps the reading. -/
def resultOf (job : SamplingJob) (outcome : Except PluginError Reading) : SamplingResult where
  callId := job.callId
  sensor := job.id
  result := outcome.map fun reading => ⟨job.id, job.tsMicros, reading⟩
  call := job.call

def step (pool : SamplingPool) : PoolStep → Option SamplingPool
  | .sample plan now timeout =>
      Run.enabled (pool.current = none) (pool.sample plan now timeout)
  | .send =>
      pool.current.bind fun call =>
        match call.phase with
        | .seeding 0 => some { pool with current := some { call with phase := .waiting } }
        | .seeding (left + 1) => some (pool.dispatchNext call (.seeding left))
        | _ => none
  | .check =>
      pool.current.bind fun call =>
        Run.enabled (call.phase = .waiting)
          (if call.inFlight.entries.isEmpty || decide (call.deadline ≤ pool.clock) then
            pool.complete call
          else { pool with current := some { call with phase := .receiving } })
  | .receive =>
      pool.current.bind fun call =>
        match pool.resultQueue with
        | [] => none
        | result :: rest =>
            Run.enabled (call.phase = .receiving)
              ({ pool with resultQueue := rest }.accept call result)
  | .expire =>
      pool.current.bind fun call =>
        Run.enabled (call.phase = .receiving ∧
            (call.deadline ≤ pool.clock ∨ pool.workers = [] ∧ pool.resultQueue = []))
          (pool.complete call)
  | .take worker =>
      match pool.workers[worker]?, pool.jobs with
      | some none, job :: rest =>
          some { pool with
            workers := pool.workers.set worker (some job)
            jobs := rest
            taken := pool.taken ++ [⟨job.call, job.id, pool.clock⟩] }
      | _, _ => none
  | .finish worker outcome =>
      match pool.workers[worker]? with
      | some (some job) =>
          some { pool with
            workers := pool.workers.set worker none
            resultQueue := pool.resultQueue ++ [resultOf job outcome]
            produced := pool.produced ++ [resultOf job outcome] }
      | _ => none
  | .tick elapsed => some { pool with clock := pool.clock + elapsed }

section Steps

variable {pool next : SamplingPool} {worker : Nat}

theorem step_take (taken : pool.step (.take worker) = some next) :
    ∃ job rest, pool.workers[worker]? = some none ∧ pool.jobs = job :: rest ∧
      next = { pool with
        workers := pool.workers.set worker (some job)
        jobs := rest
        taken := pool.taken ++ [⟨job.call, job.id, pool.clock⟩] } := by
  simp only [step] at taken
  split at taken
  · rename_i job rest idle queued
    exact ⟨job, rest, idle, queued, (Option.some.inj taken).symm⟩
  · cases taken

theorem step_finish {outcome : Except PluginError Reading}
    (taken : pool.step (.finish worker outcome) = some next) :
    ∃ job, pool.workers[worker]? = some (some job) ∧
      next = { pool with
        workers := pool.workers.set worker none
        resultQueue := pool.resultQueue ++ [resultOf job outcome]
        produced := pool.produced ++ [resultOf job outcome] } := by
  simp only [step] at taken
  split at taken
  · rename_i job busy
    exact ⟨job, busy, (Option.some.inj taken).symm⟩
  · cases taken

end Steps

end SamplingPool

end LinSight
