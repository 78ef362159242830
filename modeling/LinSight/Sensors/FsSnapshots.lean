import LinSight.Library.Run
import LinSight.Sensors.FsMounts

set_option autoImplicit false

/-! The snapshot of all mounts: each `statvfs` runs in a thread of its own, and a mount that does
not answer is backed off. -/

namespace LinSight.Fs

/-- In nanoseconds, as all times here. -/
def cacheTtl : Nat := 50000000

def maxConcurrentStatvfs : Nat := 8

def backoffBase : Nat := 1000000000

def backoffMax : Nat := 300000000000

def maxDetachedHandles : Nat := 32

def u32Max : Nat := 4294967295

/-- A `statvfs` call in its thread: how long it takes to answer, and the thread to end; `none` is
a call that hangs. -/
structure Worker where
  answers : Option Nat
  ends : Option Nat
  result : Except PluginError FsStat

/-- What a call of `snapshot_with` meets: when it begins, the time that passes before each of its
looks at the clock, and the worker that each turn of its loop starts. -/
structure Env where
  begins : Nat
  lag : Nat → Nat
  worker : Nat → Worker
  timeout : Nat

structure Clock where
  time : Nat
  looks : Nat

/-- `Instant::now`. -/
def Clock.next (clock : Clock) (env : Env) : Clock :=
  ⟨clock.time + env.lag clock.looks, clock.looks + 1⟩

/-- The state of the plugin; a detached handle stands for the time at which its thread ends. -/
structure Inner where
  mounts : List (String × String)
  cache : Option (Nat × FsStats)
  backoff : KeyMap String Nat
  strikes : KeyMap String Nat
  permits : Nat
  detachedHandles : List (Option Nat)

def Inner.start (mounts : List (String × String)) : Inner where
  mounts := mounts
  cache := none
  backoff := ∅
  strikes := ∅
  permits := maxConcurrentStatvfs
  detachedHandles := []

/-- A started call: when it was started, when it answers and what, and the deadline of its
snapshot. -/
structure Attempt where
  mountpoint : String
  startedAt : Nat
  deadline : Nat
  answerAt : Option Nat
  result : Except PluginError FsStat

/-- What a mount got from the loop. -/
inductive Turn where
  | started (attempt : Attempt)
  | skipped (mountpoint : String)

def Turn.mountpoint : Turn → String
  | started attempt => attempt.mountpoint
  | skipped mountpoint => mountpoint

/-- A mountpoint with what was received for it; `none` is a timeout. -/
abbrev Outcome := String × Option (Except PluginError FsStat)

/-- The variables of the loop, and a record of its turns. -/
structure Loop where
  clock : Clock
  permits : Nat
  detachedHandles : List (Option Nat)
  pending : List Attempt
  outcomes : List Outcome
  turns : List Turn

section Loops

variable (env : Env)

/-- `recv_timeout` with what remains until the deadline. -/
def recvTimeout (clock : Clock) (attempt : Attempt) :
    Option (Except PluginError FsStat) × Clock :=
  let looked := clock.next env
  let remaining := attempt.deadline - looked.time
  let waits := looked.next env
  let last := waits.time + remaining
  match attempt.answerAt with
  | some answer =>
      if answer ≤ last then (some attempt.result, { waits with time := max waits.time answer })
      else (none, { waits with time := last })
  | none => (none, { waits with time := last })

/-- Wait for one call, and give its permit back. -/
def drain (l : Loop) (attempt : Attempt) : Loop :=
  let (outcome, clock) := recvTimeout env l.clock attempt
  { l with
    clock
    permits := min maxConcurrentStatvfs (l.permits + 1)
    outcomes := l.outcomes ++ [(attempt.mountpoint, outcome)] }

def makeRoom (l : Loop) : Loop :=
  if maxConcurrentStatvfs ≤ l.pending.length then
    match l.pending with
    | [] => l
    | first :: rest => drain env { l with pending := rest } first
  else l

/-- One mount; `none` where `acquire` would wait for ever, since no one else gives permits back. -/
def takeTurn (deadline : Nat) (l : Loop) (mountpoint : String) : Option Loop :=
  let l := makeRoom env l
  if maxDetachedHandles ≤ l.detachedHandles.length then
    some { l with
      outcomes := l.outcomes ++ [(mountpoint, none)]
      turns := l.turns ++ [.skipped mountpoint] }
  else if l.permits = 0 then none
  else
    let clock := l.clock.next env
    let worker := env.worker l.turns.length
    let attempt := ⟨mountpoint, clock.time, deadline, worker.answers.map (clock.time + ·),
      worker.result⟩
    some { l with
      clock
      permits := l.permits - 1
      detachedHandles := l.detachedHandles ++ [worker.ends.map (clock.time + ·)]
      pending := l.pending ++ [attempt]
      turns := l.turns ++ [.started attempt] }

/-- The loop over what is still pending. -/
def drainAll : List Attempt → Loop → Loop
  | [], l => l
  | first :: rest, l => drainAll rest (drain env { l with pending := rest } first)

def markBackoff (clock : Clock) (inner : Inner) (mountpoint : String) : Inner × Clock :=
  let strikes := min ((inner.strikes.lookup mountpoint).getD 0 + 1) u32Max
  let factor := 2 ^ min strikes 8
  let backoff := min (backoffBase * factor) backoffMax
  let clock := clock.next env
  ({ inner with
    strikes := inner.strikes.insert mountpoint strikes
    backoff := inner.backoff.insert mountpoint (clock.time + backoff) }, clock)

def clearBackoff (inner : Inner) (mountpoint : String) : Inner :=
  { inner with
    strikes := inner.strikes.erase mountpoint
    backoff := inner.backoff.erase mountpoint }

structure Settled where
  clock : Clock
  inner : Inner
  stats : FsStats

/-- One outcome. -/
def settle (s : Settled) (outcome : Outcome) : Settled :=
  match outcome.2 with
  | some (.ok v) =>
      { s with
        stats := s.stats.insert outcome.1 v
        inner := clearBackoff s.inner outcome.1 }
  | some (.error _) => s
  | none =>
      let (inner, clock) := markBackoff env s.clock s.inner outcome.1
      { s with inner, clock }

end Loops

/-- What a call returns and leaves, with a record of its turns and of the threads that were still
running when they began. -/
structure Report where
  result : Except PluginError FsStats
  inner : Inner
  running : Nat
  turns : List Turn

def allBackedOff : PluginError := .unsupported "all filesystem mounts backed off after timeouts"

def allTimedOut : PluginError := .unsupported "fs snapshot: all available mounts timed out"

/-- The cached snapshot, while it is young. -/
def Inner.cached (inner : Inner) (now : Nat) : Option FsStats :=
  (inner.cache.filter fun cache => now - cache.1 ≤ cacheTtl).map Prod.snd

/-- The mountpoints that are not in back-off. -/
def Inner.available (inner : Inner) (now : Nat) : List String :=
  (inner.mounts.map Prod.fst).filter fun mp => (inner.backoff.lookup mp).all (· ≤ now)

/-- What follows the loop over the mounts. -/
def conclude (inner : Inner) (env : Env) (running : Nat) (l : Loop) : Report :=
  let l := drainAll env l.pending l
  let inner := { inner with permits := l.permits, detachedHandles := l.detachedHandles }
  let s := l.outcomes.foldl (settle env) ⟨l.clock, inner, ∅⟩
  if s.stats.keys.isEmpty then ⟨.error allTimedOut, s.inner, running, l.turns⟩
  else
    let clock := s.clock.next env
    ⟨.ok s.stats, { s.inner with cache := some (clock.time, s.stats) }, running, l.turns⟩

/-- `none` is a call that does not return. -/
def snapshotWith (inner : Inner) (env : Env) : Option Report :=
  let clock := Clock.next ⟨env.begins, 0⟩ env
  match inner.cached clock.time with
  | some stats => some ⟨.ok stats, inner, inner.detachedHandles.length, []⟩
  | none =>
      let clock := clock.next env
      let mounts := inner.available clock.time
      if mounts.isEmpty then
        some ⟨.error allBackedOff, inner, inner.detachedHandles.length, []⟩
      else
        let clock := clock.next env
        let handles := inner.detachedHandles.filter fun ends => !ends.any (· ≤ clock.time)
        let clock := clock.next env
        let deadline := clock.time + env.timeout
        (Run.exec (takeTurn env deadline) ⟨clock, inner.permits, handles, [], [], []⟩ mounts).map
          (conclude inner env handles.length)

/-- The plugin over a sequence of calls. -/
def snapshots (mounts : List (String × String)) (calls : List Env) : Option Inner :=
  Run.exec (fun inner env => (snapshotWith inner env).map Report.inner) (.start mounts) calls

end LinSight.Fs
