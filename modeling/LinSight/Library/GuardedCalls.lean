import Mathlib

set_option autoImplicit false

/-! Calls that may hang, each in a thread of its own: the caller waits for a limited time, backs
off from a key whose calls do not answer, and starts no thread while too many are left behind.
The guard's state is compared with the history of all calls. -/

namespace GuardedCalls

/-- How calls are guarded: the bound on threads, how long to wait, the delay after so many
consecutive strikes, the bound of their counter, and which answers take them back. -/
structure Policy (ρ : Type) where
  cap : Nat
  timeout : Nat
  delay : Nat → Nat
  strikeMax : Nat
  clears : ρ → Bool

/-- One call: when it looks for a back-off, at the threads left behind, starts its thread and is
done; how long its answer takes, and when its thread ends. -/
structure Call (κ ρ : Type) where
  key : κ
  lookAt : Nat
  reapAt : Nat
  startAt : Nat
  doneAt : Nat
  answers : Option Nat
  endsAt : Option Nat
  result : ρ
  look_le : lookAt ≤ reapAt
  reap_le : reapAt ≤ startAt
  start_le : startAt ≤ doneAt

/-- What comes of a call. -/
inductive Verdict (ρ : Type) where
  | backedOff
  | capped
  | missed
  | answered (result : ρ)
deriving DecidableEq

variable {κ ρ : Type}

/-- The answer comes within the timeout. -/
def Call.inTime (policy : Policy ρ) (call : Call κ ρ) : Bool :=
  call.answers.any fun delay => decide (delay ≤ policy.timeout)

/-- A thread with this end still runs. -/
def runs (now : Nat) (endsAt : Option Nat) : Bool :=
  !endsAt.any fun finished => decide (finished ≤ now)

/-- The state of a guard: until when a key is left alone, its strikes, and the ends of the threads
it still has a handle of. -/
structure Guard (κ : Type) where
  backoffUntil : κ → Option Nat
  strikes : κ → Nat
  handles : List (Option Nat)

section Guard

variable [DecidableEq κ] (policy : Policy ρ)

def Guard.start : Guard κ := ⟨fun _ => none, fun _ => 0, []⟩

def Guard.mark (guard : Guard κ) (key : κ) (now : Nat) : Guard κ :=
  let strikes := min (guard.strikes key + 1) policy.strikeMax
  { guard with
    strikes := Function.update guard.strikes key strikes
    backoffUntil := Function.update guard.backoffUntil key (some (now + policy.delay strikes)) }

def Guard.clear (guard : Guard κ) (key : κ) : Guard κ :=
  { guard with
    strikes := Function.update guard.strikes key 0
    backoffUntil := Function.update guard.backoffUntil key none }

def Guard.call (guard : Guard κ) (call : Call κ ρ) : Verdict ρ × Guard κ :=
  if (guard.backoffUntil call.key).any fun retry => decide (call.lookAt < retry) then
    (.backedOff, guard)
  else
    let guard := { guard with handles := guard.handles.filter (runs call.reapAt) }
    if policy.cap ≤ guard.handles.length then (.capped, guard.mark policy call.key call.doneAt)
    else
      let guard := { guard with handles := guard.handles ++ [call.endsAt] }
      if call.inTime policy then
        (.answered call.result,
          if policy.clears call.result then guard.clear call.key else guard)
      else (.missed, guard.mark policy call.key call.doneAt)

/-- The calls with what came of them, from the first to the last. -/
abbrev History (κ ρ : Type) := List (Call κ ρ × Verdict ρ)

end Guard

/-! The same from the history alone. -/

section History

variable [DecidableEq κ] (policy : Policy ρ)

/-- What one call does to the strikes of a key; a strike is the time it was marked at. -/
def strike (key : κ) (strikes : List Nat) (entry : Call κ ρ × Verdict ρ) : List Nat :=
  if entry.1.key = key then
    match entry.2 with
    | .capped | .missed => entry.1.doneAt :: strikes
    | .answered result => if policy.clears result then [] else strikes
    | .backedOff => strikes
  else strikes

/-- The strikes of a key since one of its calls took them back, the last one first. -/
def strikesOf (key : κ) (history : History κ ρ) : List Nat := history.foldl (strike policy key) []

/-- The key is left alone: its last strike is more recent than the delay for all of them. -/
def leftAlone (history : History κ ρ) (key : κ) (now : Nat) : Bool :=
  let strikes := strikesOf policy key history
  strikes.head?.any fun last =>
    decide (now < last + policy.delay (min strikes.length policy.strikeMax))

/-- The call was made: it got a thread. -/
def Verdict.started : Verdict ρ → Bool
  | .missed | .answered _ => true
  | .backedOff | .capped => false

/-- The threads of all calls, as their starts and ends. -/
def threads (history : History κ ρ) : List (Nat × Option Nat) :=
  (history.filter (·.2.started)).map fun entry => (entry.1.startAt, entry.1.endsAt)

/-- The threads that have not ended. -/
def left (history : History κ ρ) (now : Nat) : Nat :=
  (threads history).countP fun thread => runs now thread.2

/-- The threads that exist at an instant. -/
def alive (history : History κ ρ) (now : Nat) : Nat :=
  (threads history).countP fun thread => decide (thread.1 ≤ now) && runs now thread.2

/-- What comes of a call after the history. -/
def verdict (history : History κ ρ) (call : Call κ ρ) : Verdict ρ :=
  if leftAlone policy history call.key call.lookAt then .backedOff
  else if policy.cap ≤ left history call.reapAt then .capped
  else if call.inTime policy then .answered call.result
  else .missed

end History

section Threads

variable {policy : Policy ρ} {history : History κ ρ} {call : Call κ ρ}

theorem runs_mono {early late : Nat} (le : early ≤ late) {endsAt : Option Nat}
    (still : runs late endsAt = true) : runs early endsAt = true := by
  cases endsAt with
  | none => rfl
  | some finished =>
      simp only [runs, Option.any_some, Bool.not_eq_true', decide_eq_false_iff_not] at still ⊢
      omega

theorem threads_concat (entry : Call κ ρ × Verdict ρ) :
    threads (history ++ [entry]) = threads history ++
      if entry.2.started then [(entry.1.startAt, entry.1.endsAt)] else [] := by
  unfold threads
  rw [List.filter_append, List.map_append]
  cases started : entry.2.started <;> simp [started]

theorem left_concat (entry : Call κ ρ × Verdict ρ) (now : Nat) :
    left (history ++ [entry]) now = left history now +
      if entry.2.started && runs now entry.1.endsAt then 1 else 0 := by
  rw [left, threads_concat, List.countP_append]
  cases started : entry.2.started
  · rfl
  · show left history now + _ = _
    cases still : runs now entry.1.endsAt <;> simp [still]

theorem alive_concat (entry : Call κ ρ × Verdict ρ) (now : Nat) :
    alive (history ++ [entry]) now = alive history now +
      if entry.2.started && (decide (entry.1.startAt ≤ now) && runs now entry.1.endsAt) then 1
      else 0 := by
  rw [alive, threads_concat, List.countP_append]
  cases started : entry.2.started
  · rfl
  · show alive history now + _ = _
    cases still : decide (entry.1.startAt ≤ now) && runs now entry.1.endsAt <;> simp [still]

theorem alive_le_left (history : History κ ρ) {early late : Nat} (le : early ≤ late) :
    alive history late ≤ left history early := by
  apply List.countP_mono_left
  intro thread _ living
  exact runs_mono le (Bool.and_eq_true_iff.mp living).2

end Threads

section Follows

variable [DecidableEq κ] {policy : Policy ρ} {history : History κ ρ} {call : Call κ ρ}

theorem started_verdict (started : (verdict policy history call).started = true) :
    left history call.reapAt < policy.cap := by
  unfold verdict at started
  split at started
  · cases started
  · split at started
    · cases started
    · omega

variable (policy) in
/-- One more call keeps the threads within the bound. -/
theorem alive_judged_concat (within : ∀ now, alive history now ≤ policy.cap) (now : Nat) :
    alive (history ++ [(call, verdict policy history call)]) now ≤ policy.cap := by
  rw [alive_concat]
  dsimp only
  split
  · rename_i living
    simp only [Bool.and_eq_true, decide_eq_true_eq] at living
    obtain ⟨started, begun, _⟩ := living
    have room := started_verdict started
    have others := alive_le_left history (call.reap_le.trans begun)
    omega
  · have others := within now
    omega

theorem strikesOf_concat (key : κ) (entry : Call κ ρ × Verdict ρ) :
    strikesOf policy key (history ++ [entry]) =
      strike policy key (strikesOf policy key history) entry := by
  rw [strikesOf, List.foldl_append]
  rfl

/-- The state of a guard that has served the history and is looked at from `now` on. -/
structure Tracks (policy : Policy ρ) (guard : Guard κ) (history : History κ ρ) (now : Nat) :
    Prop where
  strikes : ∀ key, guard.strikes key =
    min (strikesOf policy key history).length policy.strikeMax
  backoff : ∀ key, guard.backoffUntil key = (strikesOf policy key history).head?.map fun last =>
    last + policy.delay (min (strikesOf policy key history).length policy.strikeMax)
  handles : ∀ later, now ≤ later → guard.handles.countP (runs later) = left history later

theorem Tracks.start (policy : Policy ρ) (now : Nat) :
    Tracks policy (Guard.start : Guard κ) [] now :=
  ⟨fun _ => rfl, fun _ => rfl, fun _ _ => rfl⟩

variable {guard : Guard κ} {now : Nat}

theorem Tracks.later (tracks : Tracks policy guard history now) {instant : Nat}
    (after : now ≤ instant) : Tracks policy guard history instant where
  strikes := tracks.strikes
  backoff := tracks.backoff
  handles later le := tracks.handles later (after.trans le)

theorem Tracks.leftAlone (tracks : Tracks policy guard history now) (key : κ) (at_time : Nat) :
    ((guard.backoffUntil key).any fun retry => decide (at_time < retry)) =
      leftAlone policy history key at_time := by
  rw [tracks.backoff, GuardedCalls.leftAlone, Option.any_map]

/-- The strikes of the other keys are as they were. -/
theorem strike_ne {key : κ} {strikes : List Nat} {entry : Call κ ρ × Verdict ρ}
    (other : entry.1.key ≠ key) : strike policy key strikes entry = strikes := by
  rw [strike, if_neg other]

/-- A strike of the call's key. -/
theorem Tracks.mark (tracks : Tracks policy guard history now) {verdict : Verdict ρ}
    (struck : verdict = .capped ∨ verdict = .missed) {handles : List (Option Nat)}
    {after : Nat} (handles_eq : ∀ later, after ≤ later →
      handles.countP (runs later) = left (history ++ [(call, verdict)]) later) :
    Tracks policy ({ guard with handles }.mark policy call.key call.doneAt)
      (history ++ [(call, verdict)]) after := by
  have more : ∀ strikes,
      strike policy call.key strikes (call, verdict) = call.doneAt :: strikes := by
    intro strikes
    rcases struck with rfl | rfl <;> exact if_pos rfl
  constructor
  · intro key
    rw [strikesOf_concat]
    by_cases same : call.key = key
    · subst same
      rw [more]
      simp only [Guard.mark, Function.update_self, tracks.strikes, List.length_cons]
      omega
    · rw [strike_ne same]
      simp only [Guard.mark, Function.update_of_ne (Ne.symm same), tracks.strikes]
  · intro key
    rw [strikesOf_concat]
    by_cases same : call.key = key
    · subst same
      rw [more]
      have length : min (min (strikesOf policy call.key history).length policy.strikeMax + 1)
          policy.strikeMax =
          min ((strikesOf policy call.key history).length + 1) policy.strikeMax := by omega
      simp only [Guard.mark, Function.update_self, tracks.strikes, List.head?_cons,
        Option.map_some, List.length_cons, length]
    · rw [strike_ne same]
      simp only [Guard.mark, Function.update_of_ne (Ne.symm same), tracks.backoff]
  · exact handles_eq

/-- An answer, whether or not it takes the strikes back. -/
theorem Tracks.answer (tracks : Tracks policy guard history now) {handles : List (Option Nat)}
    {after : Nat} (handles_eq : ∀ later, after ≤ later →
      handles.countP (runs later) = left (history ++ [(call, .answered call.result)]) later) :
    Tracks policy (if policy.clears call.result then { guard with handles }.clear call.key
        else { guard with handles })
      (history ++ [(call, .answered call.result)]) after := by
  by_cases clears : policy.clears call.result = true
  · have none_left : ∀ strikes,
        strike policy call.key strikes (call, .answered call.result) = [] := by
      intro strikes
      simp only [strike, ↓reduceIte, clears]
    rw [if_pos clears]
    constructor
    · intro key
      rw [strikesOf_concat]
      by_cases same : call.key = key
      · subst same
        rw [none_left]
        simp only [Guard.clear, Function.update_self, List.length_nil, Nat.zero_min]
      · rw [strike_ne same]
        simp only [Guard.clear, Function.update_of_ne (Ne.symm same), tracks.strikes]
    · intro key
      rw [strikesOf_concat]
      by_cases same : call.key = key
      · subst same
        rw [none_left]
        simp only [Guard.clear, Function.update_self, List.head?_nil, Option.map_none]
      · rw [strike_ne same]
        simp only [Guard.clear, Function.update_of_ne (Ne.symm same), tracks.backoff]
    · exact handles_eq
  · have kept : ∀ key, strikesOf policy key (history ++ [(call, .answered call.result)]) =
        strikesOf policy key history := by
      intro key
      rw [strikesOf_concat]
      simp only [strike, clears, Bool.false_eq_true, ↓reduceIte, ite_self]
    rw [if_neg clears]
    refine ⟨fun key => ?_, fun key => ?_, handles_eq⟩
    · rw [kept]
      exact tracks.strikes key
    · rw [kept]
      exact tracks.backoff key

theorem countP_reaped (handles : List (Option Nat)) {reaped later : Nat} (le : reaped ≤ later) :
    (handles.filter (runs reaped)).countP (runs later) = handles.countP (runs later) := by
  rw [List.countP_filter]
  apply List.countP_congr
  intro endsAt _
  constructor
  · intro both
    exact (Bool.and_eq_true_iff.mp both).1
  · intro still
    rw [still, runs_mono le still]
    rfl

variable (call) in
/-- The guard judges a call as its history does, and tracks the history with the call. -/
theorem Tracks.judge (tracks : Tracks policy guard history now) (later : now ≤ call.lookAt) :
    (guard.call policy call).1 = verdict policy history call ∧
      Tracks policy (guard.call policy call).2
        (history ++ [(call, verdict policy history call)]) call.doneAt := by
  have reaped_length : (guard.handles.filter (runs call.reapAt)).length =
      left history call.reapAt := by
    rw [← List.countP_eq_length_filter]
    exact tracks.handles _ (later.trans call.look_le)
  have reaped : ∀ instant, call.doneAt ≤ instant →
      (guard.handles.filter (runs call.reapAt)).countP (runs instant) = left history instant := by
    intro instant after
    have order := call.look_le.trans (call.reap_le.trans call.start_le)
    rw [countP_reaped guard.handles (call.reap_le.trans (call.start_le.trans after))]
    exact tracks.handles instant (later.trans (order.trans after))
  have spawned : ∀ instant, call.doneAt ≤ instant → ∀ verdict : Verdict ρ,
      verdict.started = true →
      (guard.handles.filter (runs call.reapAt) ++ [call.endsAt]).countP (runs instant) =
        left (history ++ [(call, verdict)]) instant := by
    intro instant after verdict started
    rw [List.countP_append, reaped instant after, left_concat]
    simp only [started, Bool.true_and, List.countP_singleton]
  have unspawned : ∀ instant, call.doneAt ≤ instant → ∀ verdict : Verdict ρ,
      verdict.started = false →
      (guard.handles.filter (runs call.reapAt)).countP (runs instant) =
        left (history ++ [(call, verdict)]) instant := by
    intro instant after verdict idle
    rw [reaped instant after, left_concat]
    simp only [idle, Bool.false_and, Bool.false_eq_true, ↓reduceIte, Nat.add_zero]
  unfold Guard.call GuardedCalls.verdict
  rw [tracks.leftAlone]
  simp only [reaped_length]
  cases alone : GuardedCalls.leftAlone policy history call.key call.lookAt with
  | true =>
      refine ⟨rfl, ⟨fun key => ?_, fun key => ?_, fun instant after => ?_⟩⟩
      · rw [strikesOf_concat]
        simp only [↓reduceIte, strike, ite_self, tracks.strikes]
      · rw [strikesOf_concat]
        simp only [↓reduceIte, strike, ite_self, tracks.backoff]
      · have order := call.look_le.trans (call.reap_le.trans call.start_le)
        rw [left_concat]
        exact tracks.handles instant (later.trans (order.trans after))
  | false =>
      simp only [Bool.false_eq_true, ↓reduceIte]
      by_cases full : policy.cap ≤ left history call.reapAt
      · rw [if_pos full, if_pos full]
        refine ⟨rfl, tracks.mark (.inl rfl) fun instant after => ?_⟩
        exact unspawned instant after .capped rfl
      · rw [if_neg full, if_neg full]
        cases answered : call.inTime policy with
        | true =>
            refine ⟨rfl, tracks.answer fun instant after => ?_⟩
            exact spawned instant after (.answered call.result) rfl
        | false =>
            refine ⟨rfl, tracks.mark (.inr rfl) fun instant after => ?_⟩
            exact spawned instant after .missed rfl

end Follows

end GuardedCalls
