import LinSight.Library.Admission
import LinSight.Library.Run

set_option autoImplicit false

/-! The connections of a tunnel: one loop in `run_server` and in `run_client`, which ends in
`drain`. A permit is part of the task it was taken for. -/

namespace LinSight.Tunnel.Connections

open Admission (Event Holders)

/-- Where a connection stands. A task that is dropped has let its permit go like one that ends. -/
inductive Phase where
  | absent
  | accepted
  | permitted
  | running
  | ended
  | joined
  | dropped
deriving DecidableEq

/-- Where the loop stands; `polled` has found no shutdown and waits for a connection, and the
tasks are aborted after a `deadline`. -/
inductive Loop where
  | selecting
  | polled
  | handling (conn : Nat)
  | draining
  | returned (deadline : Bool)
deriving DecidableEq

structure Endpoint where
  permits : Nat
  signalled : Bool
  loop : Loop
  accepted : Nat
  phase : Nat → Phase

def Endpoint.start (maxConnections : Nat) : Endpoint :=
  ⟨maxConnections, false, .selecting, 0, fun _ => .absent⟩

inductive Label where
  | signal
  /-- `biased`: the shutdown is polled before the listener. -/
  | poll
  /-- The `select` is polled once more. -/
  | wake
  | accept (ok : Bool)
  | tryAcquire
  | spawn
  /-- The task returns or panics. -/
  | finish (conn : Nat)
  | join (conn : Nat)
  | drained
  | deadline
  /-- An aborted task is dropped where it waits. -/
  | cancel (conn : Nat)
deriving DecidableEq

namespace Endpoint

def move (t : Endpoint) (conn : Nat) (after : Phase) : Endpoint :=
  { t with phase := Function.update t.phase conn after }

def inHand (t : Endpoint) : Option (Nat × Phase) :=
  match t.loop with
  | .handling conn => some (conn, t.phase conn)
  | _ => none

/-- The set of tasks is empty. -/
def allJoined (t : Endpoint) : Prop := ∀ conn < t.accepted, t.phase conn ≠ .running ∧
  t.phase conn ≠ .ended

instance (t : Endpoint) : Decidable t.allJoined := inferInstanceAs (Decidable (∀ conn < _, _))

def step (t : Endpoint) : Label → Option Endpoint
  | .signal => some { t with signalled := true }
  | .poll =>
      Run.enabled (t.loop = .selecting)
        { t with loop := if t.signalled then .draining else .polled }
  | .wake => Run.enabled (t.loop = .polled) { t with loop := .selecting }
  | .accept ok =>
      Run.enabled (t.loop = .polled)
        (if ok then
          { t.move t.accepted .accepted with
            loop := .handling t.accepted
            accepted := t.accepted + 1 }
        else { t with loop := .selecting })
  | .tryAcquire =>
      match t.inHand with
      | some (conn, .accepted) =>
          if 0 < t.permits then some { t.move conn .permitted with permits := t.permits - 1 }
          else some { t.move conn .dropped with loop := .selecting }
      | _ => none
  | .spawn =>
      match t.inHand with
      | some (conn, .permitted) => some { t.move conn .running with loop := .selecting }
      | _ => none
  | .finish conn =>
      Run.enabled (t.phase conn = .running)
        { t.move conn .ended with permits := t.permits + 1 }
  | .join conn =>
      Run.enabled (t.loop = .draining ∧ t.phase conn = .ended) (t.move conn .joined)
  | .drained =>
      Run.enabled (t.loop = .draining ∧ t.allJoined) { t with loop := .returned false }
  | .deadline =>
      Run.enabled (t.loop = .draining ∧ ¬ t.allJoined) { t with loop := .returned true }
  | .cancel conn =>
      Run.enabled (t.loop = .returned true ∧ t.phase conn = .running)
        { t.move conn .dropped with permits := t.permits + 1 }

/-- A step as seen at a gate. -/
def events (t : Endpoint) : Label → List (Event Nat)
  | .tryAcquire =>
      match t.inHand with
      | some (conn, _) => if 0 < t.permits then [.enter conn] else [.refuse conn]
      | none => []
  | .finish conn | .cancel conn => [.leave conn]
  | _ => []

end Endpoint

/-- The connection has a permit. -/
def Phase.holds : Phase → Bool
  | .permitted | .running => true
  | .absent | .accepted | .ended | .joined | .dropped => false

def Phase.early : Phase → Bool
  | .accepted | .permitted => true
  | .absent | .running | .ended | .joined | .dropped => false

/-- The tunnel and the gate. -/
structure Matches (maxConnections : Nat) (t : Endpoint) (inside : Finset Nat) : Prop where
  fresh : ∀ conn, t.accepted ≤ conn → t.phase conn = .absent
  early : ∀ conn, (t.phase conn).early = true → t.loop = .handling conn
  holders : Holders Phase.holds t.phase inside
  permits : t.permits + inside.card = maxConnections
  closed : t.loop = .returned false → inside = ∅

variable {maxConnections : Nat} {t next : Endpoint} {inside : Finset Nat}

theorem inHand_eq_some {conn : Nat} {phase : Phase} :
    t.inHand = some (conn, phase) ↔ t.loop = .handling conn ∧ t.phase conn = phase := by
  unfold Endpoint.inHand
  cases t.loop with
  | selecting => simp
  | polled => simp
  | draining => simp
  | returned deadline => simp
  | handling other =>
      simp only [Option.some.injEq, Prod.mk.injEq, Loop.handling.injEq]
      constructor
      · rintro ⟨rfl, same⟩
        exact ⟨rfl, same⟩
      · rintro ⟨rfl, same⟩
        exact ⟨rfl, same⟩

/-- A connection goes on: the one in hand, or one whose task goes on. -/
theorem Matches.move (rel : Matches maxConnections t inside) {conn : Nat} (after : Phase)
    (loop : Loop) (permits : Nat) {inside' : Finset Nat} (present : t.phase conn ≠ .absent)
    (busy : t.loop = .handling conn ∨ loop = t.loop)
    (stays : after.early = true → loop = .handling conn)
    (holders : Holders Phase.holds (Function.update t.phase conn after) inside')
    (count : permits + inside'.card = maxConnections)
    (closed : loop = .returned false → inside' = ∅) :
    Matches maxConnections { t.move conn after with loop, permits } inside' where
  fresh other beyond := by
    have differs : other ≠ conn := fun same => present (rel.fresh conn (same ▸ beyond))
    show Function.update t.phase conn after other = _
    rw [Function.update_of_ne differs]
    exact rel.fresh other beyond
  early other early := by
    change (Function.update t.phase conn after other).early = true at early
    by_cases same : other = conn
    · subst same
      rw [Function.update_self] at early
      exact stays early
    · rw [Function.update_of_ne same] at early
      have handled := rel.early other early
      rcases busy with busy | kept
      · rw [busy, Loop.handling.injEq] at handled
        exact absurd handled.symm same
      · exact kept.trans handled
  holders := holders
  permits := count
  closed := closed

/-- The loop goes on with no connection in hand. -/
theorem Matches.turn (rel : Matches maxConnections t inside) {signalled : Bool} (loop : Loop)
    (idle : ∀ conn, t.loop ≠ .handling conn) (closed : loop = .returned false → inside = ∅) :
    Matches maxConnections { t with signalled, loop } inside where
  fresh := rel.fresh
  early conn early := absurd (rel.early conn early) (idle conn)
  holders := rel.holders
  permits := rel.permits
  closed := closed

theorem unseen (inside : Finset Nat) {seen : List (Event Nat)} (nothing : seen = [])
    (kept : Matches maxConnections next inside) :
    ∃ inside', Run.exec (Admission.pass maxConnections) inside seen = some inside' ∧
      Matches maxConnections next inside' :=
  ⟨inside, nothing ▸ rfl, kept⟩

theorem Matches.accept (rel : Matches maxConnections t inside) (idle : t.loop = .polled) :
    Matches maxConnections
      { t.move t.accepted .accepted with
        loop := .handling t.accepted
        accepted := t.accepted + 1 } inside where
  fresh conn beyond := by
    change t.accepted + 1 ≤ conn at beyond
    show Function.update t.phase t.accepted .accepted conn = .absent
    rw [Function.update_of_ne (by omega)]
    exact rel.fresh conn (by omega)
  early conn early := by
    change (Function.update t.phase t.accepted .accepted conn).early = true at early
    by_cases same : conn = t.accepted
    · rw [same]
    · rw [Function.update_of_ne same] at early
      have busy := rel.early conn early
      rw [idle] at busy
      cases busy
  holders := by
    apply rel.holders.keep
    rw [rel.fresh _ (Nat.le_refl _)]
    rfl
  permits := rel.permits
  closed := nofun

/-- A connection gets one of the permits that nobody has, or there is none. -/
theorem tryAcquire_matches (taken : t.step .tryAcquire = some next)
    (rel : Matches maxConnections t inside) :
    ∃ inside', Run.exec (Admission.pass maxConnections) inside (t.events .tryAcquire) =
      some inside' ∧ Matches maxConnections next inside' := by
  unfold Endpoint.step at taken
  dsimp only at taken
  split at taken
  · rename_i conn here
    obtain ⟨busy, phase⟩ := inHand_eq_some.mp here
    have present : t.phase conn ≠ .absent := by
      rw [phase]
      exact Phase.noConfusion
    have permits := rel.permits
    unfold Endpoint.events
    rw [here]
    split at taken
    · rename_i some_left
      cases taken
      obtain ⟨passed, holders, card⟩ := rel.holders.enter maxConnections conn
        Phase.permitted (by rw [phase]; rfl) rfl (by omega)
      refine ⟨insert conn inside, ?_, ?_⟩
      · simp only [some_left, ↓reduceIte]
        exact Admission.exec_singleton passed
      · apply rel.move .permitted t.loop _ present (.inl busy) (fun _ => busy) holders (by omega)
        intro returned
        rw [busy] at returned
        cases returned
    · rename_i none_left
      cases taken
      refine ⟨inside, ?_, ?_⟩
      · simp only [none_left, ↓reduceIte]
        exact Admission.exec_singleton (Run.enabled_eq_some.mpr ⟨by omega, rfl⟩)
      · exact rel.move .dropped .selecting t.permits present (.inl busy) nofun
          (rel.holders.keep (by rw [phase]; rfl)) permits nofun
  · cases taken

theorem spawn_matches (taken : t.step .spawn = some next) (rel : Matches maxConnections t inside) :
    Matches maxConnections next inside := by
  unfold Endpoint.step at taken
  dsimp only at taken
  split at taken
  · rename_i conn here
    obtain ⟨busy, phase⟩ := inHand_eq_some.mp here
    cases taken
    apply rel.move .running .selecting t.permits ?_ (.inl busy) nofun
      (rel.holders.keep (by rw [phase]; rfl)) rel.permits nofun
    rw [phase]
    exact Phase.noConfusion
  · cases taken

/-- A task lets its permit go. -/
theorem Matches.release (rel : Matches maxConnections t inside) {conn : Nat} {after : Phase}
    (running : t.phase conn = .running) (gone : after.holds = false)
    (settled : after.early = false) :
    ∃ inside', Run.exec (Admission.pass maxConnections) inside [.leave conn] = some inside' ∧
      Matches maxConnections { t.move conn after with permits := t.permits + 1 } inside' := by
  obtain ⟨passed, holders, card⟩ := rel.holders.exit maxConnections conn after
    (by rw [running]; rfl) gone
  have permits := rel.permits
  refine ⟨inside.erase conn, Admission.exec_singleton passed, ?_⟩
  apply rel.move after t.loop _ ?_ (.inr rfl) ?_ holders (by omega)
  · intro returned
    rw [rel.closed returned, Finset.erase_empty]
  · rw [running]
    exact Phase.noConfusion
  · intro early
    rw [settled] at early
    cases early

/-- Where all tasks are joined, nobody has a permit. -/
theorem Matches.empty (rel : Matches maxConnections t inside) (idle : t.loop = .draining)
    (joined : t.allJoined) : inside = ∅ := by
  apply Finset.eq_empty_of_forall_notMem
  intro conn member
  have holds := (rel.holders conn).mp member
  cases phase : t.phase conn with
  | absent | accepted | ended | joined | dropped =>
      rw [phase] at holds
      cases holds
  | permitted =>
      have busy := rel.early conn (by rw [phase]; rfl)
      rw [idle] at busy
      cases busy
  | running =>
      have known : conn < t.accepted := by
        by_contra beyond
        rw [rel.fresh conn (by omega)] at phase
        cases phase
      exact (joined conn known).1 phase

/-- Each step of the tunnel is what the gate allows. -/
theorem step_matches {label : Label} (taken : t.step label = some next)
    (rel : Matches maxConnections t inside) :
    ∃ inside', Run.exec (Admission.pass maxConnections) inside (t.events label) = some inside' ∧
      Matches maxConnections next inside' := by
  cases label with
  | signal =>
      obtain rfl := Option.some.inj taken
      exact unseen inside rfl ⟨rel.fresh, rel.early, rel.holders, rel.permits, rel.closed⟩
  | poll =>
      obtain ⟨idle, rfl⟩ := Run.enabled_eq_some.mp taken
      apply unseen inside rfl
      apply rel.turn
      · intro conn busy
        rw [idle] at busy
        cases busy
      · split <;> exact nofun
  | wake =>
      obtain ⟨idle, rfl⟩ := Run.enabled_eq_some.mp taken
      apply unseen inside rfl
      apply rel.turn .selecting _ nofun
      intro conn busy
      rw [idle] at busy
      cases busy
  | accept ok =>
      obtain ⟨idle, rfl⟩ := Run.enabled_eq_some.mp taken
      apply unseen inside rfl
      split
      · exact rel.accept idle
      · apply rel.turn .selecting _ nofun
        intro conn busy
        rw [idle] at busy
        cases busy
  | tryAcquire => exact tryAcquire_matches taken rel
  | spawn => exact unseen inside rfl (spawn_matches taken rel)
  | finish conn =>
      obtain ⟨running, rfl⟩ := Run.enabled_eq_some.mp taken
      exact rel.release running rfl rfl
  | join conn =>
      obtain ⟨⟨idle, ended⟩, rfl⟩ := Run.enabled_eq_some.mp taken
      apply unseen inside rfl
      apply rel.move .joined t.loop t.permits ?_ (.inr rfl) nofun
        (rel.holders.keep (by rw [ended]; rfl)) rel.permits rel.closed
      rw [ended]
      exact Phase.noConfusion
  | drained =>
      obtain ⟨⟨idle, joined⟩, rfl⟩ := Run.enabled_eq_some.mp taken
      apply unseen inside rfl
      apply rel.turn _ _ (fun _ => rel.empty idle joined)
      intro conn busy
      rw [idle] at busy
      cases busy
  | deadline =>
      obtain ⟨⟨idle, _⟩, rfl⟩ := Run.enabled_eq_some.mp taken
      apply unseen inside rfl
      apply rel.turn (.returned true) _ nofun
      intro conn busy
      rw [idle] at busy
      cases busy
  | cancel conn =>
      obtain ⟨⟨_, running⟩, rfl⟩ := Run.enabled_eq_some.mp taken
      exact rel.release running rfl rfl

theorem Matches.start (maxConnections : Nat) :
    Matches maxConnections (.start maxConnections) ∅ where
  fresh _ _ := rfl
  early := nofun
  holders := Admission.Holders.none Phase.absent rfl
  permits := rfl
  closed := nofun

/-- In whatever order the loop and the tasks take their steps, a tunnel is a gate for its
connections: the permits are those that no connection has, and none is turned away while one is
left. Once the tasks are drained in time, all permits are back. -/
theorem tunnel_is_gate {labels : List Label} {final : Endpoint}
    (run : Run.exec Endpoint.step (.start maxConnections) labels = some final) :
    ∃ inside, Run.exec (Admission.pass maxConnections) ∅
        (Admission.trace Endpoint.step Endpoint.events (.start maxConnections) labels) =
          some inside ∧
      (∀ conn, conn ∈ inside ↔ (final.phase conn).holds = true) ∧
      final.permits + inside.card = maxConnections ∧
      (final.loop = .returned false → inside = ∅ ∧ final.permits = maxConnections) := by
  obtain ⟨inside, seen, rel⟩ := Admission.exec_refines
    (fun _ _ _ _ taken matches_ => step_matches taken matches_) run (Matches.start maxConnections)
  refine ⟨inside, seen, rel.holders, rel.permits, fun returned => ?_⟩
  have permits := rel.permits
  have empty := rel.closed returned
  rw [empty, Finset.card_empty] at permits
  exact ⟨empty, permits⟩

/-- A tunnel for one connection, which turns a second one away and is drained. -/
def oneAtATime : List Label :=
  [.poll, .accept true, .tryAcquire, .spawn, .poll, .accept true, .tryAcquire, .signal, .poll,
    .finish 0, .join 0, .drained]

theorem tunnel_is_gate_oneAtATime : ∃ final,
    Run.exec Endpoint.step (.start 1) oneAtATime = some final ∧ final.permits = 1 := by
  have run : Run.exec Endpoint.step (.start 1) oneAtATime =
      some ((Run.exec Endpoint.step (.start 1) oneAtATime).get (by decide +kernel)) :=
    (Option.some_get _).symm
  obtain ⟨inside, _, _, _, drained⟩ := tunnel_is_gate run
  exact ⟨_, run, (drained (by decide +kernel)).2⟩

end LinSight.Tunnel.Connections
