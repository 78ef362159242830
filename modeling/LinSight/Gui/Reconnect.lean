import LinSight.Library.Run
import Mathlib.Logic.Function.Basic

set_option autoImplicit false

/-! Which client owns which daemon process while the workspace reconnects. -/

namespace LinSight.Gui

inductive Target where
  | localSocket
  | ssh
deriving DecidableEq

/-- A client with the local daemon that it is connected to, if any, and the one that it
spawned. -/
structure DaemonClient where
  daemon : Option Nat
  child : Option Nat
deriving DecidableEq

/-- The local daemon processes, and the clients: the current one, those of reconnects that
have not come to their swap, and those that the last handle is still to be dropped of. -/
structure Hosts where
  running : Nat → Bool
  listening : Option Nat
  spawned : Nat
  client : DaemonClient
  connecting : List DaemonClient
  retired : List DaemonClient

namespace Hosts

/-- `connect_or_spawn` on the local socket, or `connect_ssh`. -/
def connect (h : Hosts) : Target → DaemonClient × Hosts
  | .ssh => (⟨none, none⟩, h)
  | .localSocket =>
      match h.listening with
      | some pid => (⟨some pid, none⟩, h)
      | none => (⟨some h.spawned, some h.spawned⟩, { h with
          running := Function.update h.running h.spawned true
          listening := some h.spawned
          spawned := h.spawned + 1 })

def kill (h : Hosts) (pid : Nat) : Hosts :=
  { h with
    running := Function.update h.running pid false
    listening := if h.listening = some pid then none else h.listening }

/-- `Drop for Client`. -/
def dropClient (h : Hosts) (client : DaemonClient) : Hosts :=
  match client.child with
  | some pid => h.kill pid
  | none => h

/-- With a daemon of the system listening or not, the client connects to its first target. -/
def start (external : Bool) (target : Target) : Hosts :=
  let idle : Hosts := {
    running := fun pid => external && decide (pid = 0)
    listening := if external then some 0 else none
    spawned := 1
    client := ⟨none, none⟩
    connecting := []
    retired := [] }
  { (idle.connect target).2 with client := (idle.connect target).1 }

inductive Event where
  | externalStarts
  | connect (target : Target)
  | swap (i : Nat)
  | fail (i : Nat)
  | drop (i : Nat)

def step (h : Hosts) : Event → Option Hosts
  | .externalStarts =>
      match h.listening with
      | some _ => none
      | none => some { h with
          running := Function.update h.running h.spawned true
          listening := some h.spawned
          spawned := h.spawned + 1 }
  | .connect target => some { (h.connect target).2 with
      connecting := h.connecting ++ [(h.connect target).1] }
  | .swap i => (h.connecting[i]?).map fun new => { h with
      client := new
      connecting := h.connecting.eraseIdx i
      retired := h.retired ++ [h.client] }
  | .fail i => (h.connecting[i]?).map fun new => { h with
      connecting := h.connecting.eraseIdx i
      retired := h.retired ++ [new] }
  | .drop i => (h.retired[i]?).map fun old =>
      { h with retired := h.retired.eraseIdx i }.dropClient old

/-- The daemon that the client is connected to runs; remote ones are not stopped from here. -/
def Runs (h : Hosts) (client : DaemonClient) : Prop :=
  ∀ pid, client.daemon = some pid → h.running pid = true

/-- A client that takes over finds its daemon running, and no client is dropped that owns
the daemon of the current one. -/
def Allowed (h : Hosts) : Event → Prop
  | .swap i => ∀ new, h.connecting[i]? = some new → h.Runs new
  | .drop i => ∀ old, h.retired[i]? = some old → ∀ pid, old.child = some pid →
      h.client.daemon ≠ some pid
  | _ => True

section Steps

variable {h next : Hosts}

theorem runs_spawn {client : DaemonClient} (runs : h.Runs client) (listening : Option Nat)
    (spawned : Nat) (connecting : List DaemonClient) :
    Runs { h with
      running := Function.update h.running h.spawned true
      listening := listening
      spawned := spawned
      connecting := connecting } client := by
  intro pid connected
  by_cases same : pid = h.spawned
  · rw [same]
    exact Function.update_self _ _ _
  · exact (Function.update_of_ne same _ _).trans (runs pid connected)

theorem runs_drop_iff {client old : DaemonClient} (runs : h.Runs client) :
    (h.dropClient old).Runs client ↔ ∀ pid, old.child = some pid → client.daemon ≠ some pid := by
  unfold dropClient
  cases owned : old.child with
  | none => exact iff_of_true runs (fun pid other => by cases other)
  | some child =>
      constructor
      · intro still pid same connected
        cases same
        have stopped := still child connected
        simp only [kill, Function.update_self, Bool.false_eq_true] at stopped
      · intro other pid connected
        have differ : pid ≠ child := fun same => other child rfl (same ▸ connected)
        exact (Function.update_of_ne differ _ _).trans (runs pid connected)

/-- A step leaves the current client with a running daemon exactly where it is allowed. -/
theorem runs_step_iff {event : Event} (taken : h.step event = some next) (runs : h.Runs h.client) :
    next.Runs next.client ↔ h.Allowed event := by
  cases event with
  | externalStarts =>
      simp only [step] at taken
      split at taken
      · cases taken
      · cases taken
        exact iff_of_true (runs_spawn runs _ _ h.connecting) trivial
  | connect target =>
      cases taken
      refine iff_of_true ?_ trivial
      cases target with
      | ssh => exact runs
      | localSocket =>
          unfold connect
          cases h.listening with
          | some pid => exact runs
          | none => exact runs_spawn runs _ _ _
  | swap i =>
      obtain ⟨new, present, same⟩ := Option.map_eq_some_iff.mp taken
      subst same
      constructor
      · intro running other there
        rw [present] at there
        cases there
        exact running
      · intro allowed
        exact allowed new present
  | fail i =>
      obtain ⟨new, present, same⟩ := Option.map_eq_some_iff.mp taken
      subst same
      exact iff_of_true runs trivial
  | drop i =>
      obtain ⟨old, present, same⟩ := Option.map_eq_some_iff.mp taken
      have kept : next.client = h.client := by
        rw [← same]
        unfold dropClient
        cases old.child <;> rfl
      have dropped := @runs_drop_iff { h with retired := h.retired.eraseIdx i } h.client old runs
      rw [kept, ← same, dropped]
      constructor
      · intro other there' there
        rw [present] at there
        cases there
        exact other
      · intro allowed
        exact allowed old present

theorem start_runs (external : Bool) (target : Target) :
    (start external target).Runs (start external target).client := by
  intro pid connected
  cases external <;> cases target <;> simp [start, connect] at connected ⊢
  · rw [← connected]
    simp
  · exact connected.symm

end Steps

section Runs

/-- Over every run of reconnects, from a local or a remote client, with or without a daemon
of the system: the current client's daemon runs in all states exactly where all steps are
allowed. -/
theorem daemon_survives_iff (external : Bool) (target : Target) (events : List Event) :
    (∀ h, Run.Visits step (start external target) events h → h.Runs h.client) ↔
      Run.Always step Allowed (start external target) events := by
  apply @Run.visits_iff_always _ _ _ _ _ (fun _ => True) _ _ (fun _ _ _ _ _ => trivial) ?idle
    (fun _ _ _ taken _ runs => runs_step_iff taken runs) trivial (start_runs external target)
  intro h event disabled
  cases event with
  | swap i =>
      intro new present
      simp [step, present] at disabled
  | drop i =>
      intro old present
      simp [step, present] at disabled
  | externalStarts => trivial
  | connect target => trivial
  | fail i => trivial

/-- The client has spawned the daemon, reconnects to it, and is dropped. -/
theorem reconnect_kills_daemon : ∃ h,
    Run.exec step (start false .localSocket) [.connect .localSocket, .swap 0, .drop 0] = some h ∧
      h.client = ⟨some 1, none⟩ ∧ h.connecting = [] ∧ h.retired = [] ∧ h.running 1 = false := by
  exact ⟨_, rfl, rfl, rfl, rfl, rfl⟩

end Runs

end Hosts

end LinSight.Gui
