import LinSight.Library.Run
import Mathlib.Data.List.Infix

set_option autoImplicit false

/-! One direction of a relay: items come in until their end, go out in their order,
and the way out is closed once, after the end. -/

namespace Channel

variable {α : Type}

inductive Event (α : Type) where
  | receive (items : List α)
  | finish
  | deliver (items : List α)
  | close
deriving DecidableEq

structure State (α : Type) where
  received : List α
  delivered : List α
  ended : Bool
  closed : Bool
deriving DecidableEq

def start : State α := ⟨[], [], false, false⟩

section Step

variable [DecidableEq α]

def step (state : State α) : Event α → Option (State α)
  | .receive items =>
      Run.enabled (state.ended = false) { state with received := state.received ++ items }
  | .finish => Run.enabled (state.ended = false) { state with ended := true }
  | .deliver items =>
      Run.enabled (state.closed = false ∧ state.delivered ++ items <+: state.received)
        { state with delivered := state.delivered ++ items }
  | .close => Run.enabled (state.ended = true ∧ state.closed = false) { state with closed := true }

end Step

def Event.incoming : Event α → List α
  | .receive items => items
  | _ => []

def Event.outgoing : Event α → List α
  | .deliver items => items
  | _ => []

/-- All items that came in. -/
def received (events : List (Event α)) : List α := events.flatMap Event.incoming

/-- All items that went out. -/
def delivered (events : List (Event α)) : List α := events.flatMap Event.outgoing

@[simp] theorem received_append (first second : List (Event α)) :
    received (first ++ second) = received first ++ received second := List.flatMap_append

@[simp] theorem delivered_append (first second : List (Event α)) :
    delivered (first ++ second) = delivered first ++ delivered second := List.flatMap_append

/-- What one event does to the state. -/
structure Advances (state : State α) (event : Event α) (next : State α) : Prop where
  received : next.received = state.received ++ event.incoming
  delivered : next.delivered = state.delivered ++ event.outgoing
  ended : next.ended = true ↔ state.ended = true ∨ event = .finish
  closed : state.closed = true → next.closed = true
  ordered : state.delivered <+: state.received → next.delivered <+: next.received

section Laws

variable [DecidableEq α] {state next : State α} {event : Event α} {events : List (Event α)}

theorem step_spec (taken : step state event = some next) : Advances state event next := by
  cases event with
  | receive items =>
      obtain ⟨_, rfl⟩ := Run.enabled_eq_some.mp taken
      refine ⟨rfl, (List.append_nil _).symm, by simp, id, ?_⟩
      exact fun before => before.trans (List.prefix_append _ items)
  | finish =>
      obtain ⟨_, rfl⟩ := Run.enabled_eq_some.mp taken
      exact ⟨(List.append_nil _).symm, (List.append_nil _).symm, by simp, id, id⟩
  | deliver items =>
      obtain ⟨⟨_, within⟩, rfl⟩ := Run.enabled_eq_some.mp taken
      exact ⟨(List.append_nil _).symm, rfl, by simp, id, fun _ => within⟩
  | close =>
      obtain ⟨_, rfl⟩ := Run.enabled_eq_some.mp taken
      exact ⟨(List.append_nil _).symm, (List.append_nil _).symm, by simp, fun _ => rfl, id⟩

theorem received_of_exec (run : Run.exec step state events = some next) :
    next.received = state.received ++ received events := by
  induction events generalizing state with
  | nil =>
      cases Option.some.inj run
      exact (List.append_nil _).symm
  | cons event rest ih =>
      obtain ⟨middle, taken, remaining⟩ := Run.exec_cons.mp run
      rw [ih remaining, (step_spec taken).received, List.append_assoc]
      rfl

theorem delivered_of_exec (run : Run.exec step state events = some next) :
    next.delivered = state.delivered ++ delivered events := by
  induction events generalizing state with
  | nil =>
      cases Option.some.inj run
      exact (List.append_nil _).symm
  | cons event rest ih =>
      obtain ⟨middle, taken, remaining⟩ := Run.exec_cons.mp run
      rw [ih remaining, (step_spec taken).delivered, List.append_assoc]
      rfl

theorem ended_of_exec (run : Run.exec step state events = some next) :
    next.ended = true ↔ state.ended = true ∨ .finish ∈ events := by
  induction events generalizing state with
  | nil =>
      cases Option.some.inj run
      simp
  | cons event rest ih =>
      obtain ⟨middle, taken, remaining⟩ := Run.exec_cons.mp run
      rw [ih remaining, (step_spec taken).ended, List.mem_cons, or_assoc, @eq_comm _ event]

/-- What has gone out is a prefix of what has come in. -/
theorem delivered_prefix (run : Run.exec step start events = some next) :
    delivered events <+: received events := by
  have within : next.delivered <+: next.received :=
    Run.exec_invariant (fun _ _ _ taken => (step_spec taken).ordered) run List.nil_prefix
  rw [received_of_exec run, delivered_of_exec run] at within
  exact within

/-- A closed channel neither delivers nor closes again. -/
theorem quiet_of_closed (closed : state.closed = true)
    (run : Run.exec step state events = some next) :
    .close ∉ events ∧ ∀ items, .deliver items ∉ events := by
  induction events generalizing state with
  | nil => exact ⟨List.not_mem_nil, fun _ => List.not_mem_nil⟩
  | cons event rest ih =>
      obtain ⟨middle, taken, remaining⟩ := Run.exec_cons.mp run
      obtain ⟨no_close, no_deliver⟩ := ih ((step_spec taken).closed closed) remaining
      simp only [List.mem_cons, not_or]
      refine ⟨⟨?_, no_close⟩, fun items => ⟨?_, no_deliver items⟩⟩
      · rintro rfl
        have still_open := (Run.enabled_eq_some.mp taken).1.2
        rw [closed] at still_open
        cases still_open
      · rintro rfl
        have still_open := (Run.enabled_eq_some.mp taken).1.1
        rw [closed] at still_open
        cases still_open

/-- The channel is closed after its end, once, and nothing goes out behind that. -/
theorem around_close {front back : List (Event α)}
    (run : Run.exec step start (front ++ .close :: back) = some next) :
    .finish ∈ front ∧ .close ∉ back ∧ ∀ items, .deliver items ∉ back := by
  obtain ⟨before, first, second⟩ := Run.exec_append.mp run
  obtain ⟨after, taken, remaining⟩ := Run.exec_cons.mp second
  obtain ⟨⟨ended, _⟩, rfl⟩ := Run.enabled_eq_some.mp taken
  have finished := (ended_of_exec first).mp ended
  refine ⟨finished.resolve_left (by simp [start]), ?_⟩
  exact quiet_of_closed rfl remaining

end Laws

end Channel
