import LinSight.Daemon.Sessions
import LinSight.Gui.Workspace

set_option autoImplicit false

/-! The connection of the workspace as the daemon's own scheduler and session make it. -/

namespace LinSight

section Subscribe

variable {rateHz : Option Ieee.Value} {state : Subscribing} {s : SensorId}

/-- The scheduler knows the sensor. -/
def Scheduler.Offers (scheduler : Scheduler) (s : SensorId) : Prop :=
  ∃ d ∈ scheduler.descriptors, d.id = s

theorem subscribeEach_panicked (panicked : state.panicked = true) (id : SensorId) :
    subscribeEach rateHz state id = state := if_pos panicked

theorem foldl_subscribeEach_panicked (sensors : List SensorId) (panicked : state.panicked = true) :
    sensors.foldl (subscribeEach rateHz) state = state := by
  induction sensors with
  | nil => rfl
  | cons id rest ih => rw [List.foldl_cons, subscribeEach_panicked panicked, ih]

/-- One turn adds the sensor to what the client wants, where the scheduler knows it. -/
theorem wants_subscribeEach {id : SensorId}
    (fine : (subscribeEach rateHz state id).panicked = false) :
    (subscribeEach rateHz state id).session.subscriptions.wants s = true ↔
      state.session.subscriptions.wants s = true ∨ (s = id ∧ state.scheduler.Offers s) := by
  have running : state.panicked = false := by
    cases stopped : state.panicked with
    | false => rfl
    | true =>
        rw [subscribeEach_panicked stopped, stopped] at fine
        exact fine
  unfold subscribeEach at fine ⊢
  rw [running] at fine ⊢
  cases granted : state.scheduler.subscribe id rateHz with
  | none =>
      rw [granted] at fine
      cases fine
  | some answer =>
      cases answer with
      | error e =>
          have unknown : ¬ state.scheduler.Offers id := by
            intro offered
            obtain ⟨d, inside, named⟩ := offered
            unfold Scheduler.subscribe at granted
            cases found : state.scheduler.descriptors.find? (·.id = id) with
            | none => exact List.find?_eq_none.mp found d inside (decide_eq_true named)
            | some descriptor =>
                rw [found] at granted
                obtain ⟨period, _, returned⟩ := Option.bind_eq_some_iff.mp granted
                cases returned
          refine (or_iff_left ?_).symm
          intro both
          exact unknown (both.1 ▸ both.2)
      | ok result =>
          obtain ⟨scheduler, subscription⟩ := result
          obtain ⟨descriptor, found, _, sensor, _⟩ := Scheduler.subscribe_ok granted
          have named := List.find?_some found
          have offered : state.scheduler.Offers id :=
            ⟨descriptor, List.mem_of_find?_eq_some found, of_decide_eq_true named⟩
          by_cases held : state.session.subscriptions.holds subscription = true
          · simp only [held, Bool.false_eq_true, ↓reduceIte]
            refine (or_iff_left_of_imp ?_).symm
            intro both
            rw [both.1, ← sensor]
            exact ClientSubscriptions.wants_of_holds held
          · simp only [held, Bool.false_eq_true, ↓reduceIte]
            show (state.session.subscriptions.insert subscription).wants s = true ↔ _
            rw [ClientSubscriptions.wants_insert, sensor, or_comm]
            apply or_congr_right
            constructor
            · intro same
              exact ⟨same, same ▸ offered⟩
            · exact fun both => both.1

theorem wants_foldl_subscribeEach (sensors : List SensorId)
    (fine : (sensors.foldl (subscribeEach rateHz) state).panicked = false) :
    (sensors.foldl (subscribeEach rateHz) state).session.subscriptions.wants s = true ↔
      state.session.subscriptions.wants s = true ∨ (s ∈ sensors ∧ state.scheduler.Offers s) := by
  induction sensors generalizing state with
  | nil => simp
  | cons id rest ih =>
      rw [List.foldl_cons] at fine ⊢
      have here : (subscribeEach rateHz state id).panicked = false := by
        cases stopped : (subscribeEach rateHz state id).panicked with
        | false => rfl
        | true =>
            rw [foldl_subscribeEach_panicked rest stopped, stopped] at fine
            exact fine
      have known : (subscribeEach rateHz state id).scheduler.Offers s ↔
          state.scheduler.Offers s := by
        simp only [Scheduler.Offers, subscribeEach_descriptors]
      rw [ih fine, wants_subscribeEach here, known, List.mem_cons, or_and_right, or_assoc]

end Subscribe

namespace Gui

/-- The connection says what the daemon offers and what it holds for the client. -/
structure Connection.Of (connection : Connection) (scheduler : Scheduler) (session : Session) :
    Prop where
  offers : ∀ s, s ∈ connection.offers ↔ scheduler.Offers s
  held : ∀ s, s ∈ connection.held ↔ session.subscriptions.wants s = true

section DaemonSide

variable {connection : Connection} {scheduler : Scheduler} {session : Session}

/-- A `Subscribe` frame is what the daemon's loop over its sensors does. -/
theorem Connection.Of.subscribe (made : connection.Of scheduler session)
    (sensors : List SensorId) (rateHz : Option Ieee.Value)
    (fine : (subscribeAll scheduler session sensors rateHz).panicked = false) :
    (connection.receive ⟨true, sensors⟩).Of
      (subscribeAll scheduler session sensors rateHz).scheduler
      (subscribeAll scheduler session sensors rateHz).session where
  offers s := by
    show s ∈ connection.offers ↔ _
    rw [made.offers, Scheduler.Offers, Scheduler.Offers, subscribeAll_descriptors]
  held s := by
    rw [Connection.mem_receive, if_pos rfl, made.held, made.offers]
    exact (wants_foldl_subscribeEach sensors fine).symm

/-- An `Unsubscribe` frame is what the daemon takes out of the session's ledger. -/
theorem Connection.Of.unsubscribe (made : connection.Of scheduler session)
    (sensors : List SensorId) :
    (connection.receive ⟨false, sensors⟩).Of scheduler (session.takeSensors sensors) where
  offers := made.offers
  held s := by
    rw [Connection.mem_receive, if_neg Bool.false_ne_true, made.held]
    exact (ClientSubscriptions.wants_takeSensors sensors).symm

end DaemonSide

end Gui

end LinSight
