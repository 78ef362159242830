import LinSight.Daemon.AnsweredRuns

set_option autoImplicit false

/-! What a duration's text can do to the daemon: read under the scheduler's lock, it is
refused, taken over, or the end of that lock. -/

namespace LinSight.Requests

open Alerts (Overlong optParseDuration parseDuration)

variable {Store Toml : Type} (s : Surroundings Store Toml)

/-- The request was answered with an error. -/
def Refused (before after : Moment Store) (reqId : UInt32) : Prop :=
  ∃ e, after.session.answers = before.session.answers ++ [(reqId, .error e)]

/-- Nothing that the sessions share has changed, and the next request gets the
scheduler's lock. -/
def Untouched (before after : Moment Store) : Prop :=
  after.shared = before.shared ∧ after.shared.schedulerPoisoned = false

/-- The parser returns, and a refused request with the text in it leaves
everything as it was. -/
structure Harmless (text : String) : Prop where
  returns : parseDuration text ≠ none
  refused : ∀ (io : Io) (now : Moment Store) (reqId : UInt32) (name expr : String)
    (forDuration cooldown : Option String) (notify : List String) (enabled : Option Bool),
    forDuration = some text ∨ cooldown = some text →
      let after := (upsertAlert s io now reqId name expr forDuration cooldown notify enabled).1
      Refused now after reqId → Untouched now after

section Handler

variable {s} {io : Io} {now : Moment Store} {reqId : UInt32} {guarded : Bool}
  {result : Except ProtoError ResponsePayload} {next : Outcome}

/-- What a response leaves: a writer that panics, or the session with its answer or
without it. -/
theorem respond_leaves :
    (now.session.writerPoisoned = true ∧
      respond s now reqId guarded result next = now.panic guarded) ∨
    now.session.writerPoisoned = false ∧
      (respond s now reqId guarded result next).1.shared = now.shared ∧
      ((respond s now reqId guarded result next).1.session.answers = now.session.answers ∨
        (respond s now reqId guarded result next).1.session.answers =
          now.session.answers ++ [(reqId, result)]) := by
  cases poisoned : now.session.writerPoisoned with
  | true => exact Or.inl ⟨rfl, by simp [respond, poisoned]⟩
  | false =>
      refine Or.inr ⟨rfl, ?_⟩
      unfold respond
      dsimp only
      rw [if_neg (by simp [poisoned])]
      split
      · exact ⟨rfl, Or.inl rfl⟩
      · exact ⟨rfl, Or.inr rfl⟩

theorem not_refused_of_same {after : Moment Store}
    (same : after.session.answers = now.session.answers) : ¬ Refused now after reqId := by
  rintro ⟨e, grown⟩
  rw [same] at grown
  simp at grown

/-- A response with a payload is no refusal, whatever was shared before it. -/
theorem not_refused_of_reply {shared : Shared Store} {payload : ResponsePayload} :
    ¬ Refused now (reply s { now with shared } reqId guarded payload).1 reqId := by
  rcases @respond_leaves _ _ s { now with shared } reqId guarded (.ok payload) .returned with
    ⟨_, panicked⟩ | ⟨_, _, same | grown⟩
  · rw [reply, panicked]
    exact not_refused_of_same rfl
  · exact not_refused_of_same same
  · rintro ⟨e, other⟩
    rw [reply, grown] at other
    simp at other

/-- An error is the answer of a handler that has changed nothing. -/
theorem upsertAlert_refused (name expr : String) (forDuration cooldown : Option String)
    (notify : List String) (enabled : Option Bool)
    (refused : Refused now
      (upsertAlert s io now reqId name expr forDuration cooldown notify enabled).1 reqId) :
    Untouched now
      (upsertAlert s io now reqId name expr forDuration cooldown notify enabled).1 := by
  unfold upsertAlert at refused ⊢
  cases locked : now.shared.schedulerPoisoned with
  | true =>
      rw [if_pos locked] at refused
      exact absurd refused (not_refused_of_same rfl)
  | false =>
      rw [if_neg (by simp [locked])] at refused ⊢
      split at refused
      · exact absurd refused (not_refused_of_same rfl)
      · rename_i e alerts upserted
        rcases @respond_leaves _ _ s now reqId true (.error e) .returned with
          ⟨_, panicked⟩ | ⟨_, shared, _⟩
        · rw [panicked] at refused
          exact absurd refused (not_refused_of_same rfl)
        · exact ⟨shared, by rw [shared, locked]⟩
      · split at refused
        · exact absurd refused (not_refused_of_same rfl)
        · exact absurd refused not_refused_of_reply

/-- With an engine to configure and free locks, what poisons the scheduler's lock is
an overlong text that the handler gets to. -/
theorem upsertAlert_poisons_iff (name expr : String) (forDuration cooldown : Option String)
    (notify : List String) (enabled : Option Bool)
    (loaded : now.shared.alerts.engine.isSome ∧ now.shared.alerts.configPath.isSome)
    (free : now.shared.schedulerPoisoned = false ∧ now.shared.enginePoisoned = false ∧
      now.session.writerPoisoned = false) :
    (upsertAlert s io now reqId name expr forDuration cooldown notify
        enabled).1.shared.schedulerPoisoned = true ↔
      Overlong forDuration ∨
        (∃ held, optParseDuration forDuration = some (.ok held)) ∧ Overlong cooldown := by
  obtain ⟨engine, configured⟩ := Option.isSome_iff_exists.mp loaded.1
  obtain ⟨path, saved⟩ := Option.isSome_iff_exists.mp loaded.2
  obtain ⟨scheduler, unpoisoned, writer⟩ := free
  have answered (shared : Shared Store) (result : Except ProtoError ResponsePayload) :
      (respond s { now with shared } reqId true result .returned).1.shared = shared := by
    rcases @respond_leaves _ _ s { now with shared } reqId true result .returned with
      ⟨poisoned, _⟩ | ⟨_, same, _⟩
    · rw [writer] at poisoned
      cases poisoned
    · exact same
  simp only [← Alerts.optParseDuration_eq_none_iff, upsertAlert, scheduler, unpoisoned,
    Alerts.AlertsState.upsertAlert, configured, saved, Alerts.AlertEngine.parseAndUpsert]
  have refused (e : ProtoError) :
      (respond s now reqId true (.error e) .returned).1.shared = now.shared :=
    answered now.shared (.error e)
  cases optParseDuration forDuration with
  | none => simp [Moment.panic]
  | some first =>
      cases first with
      | error e => simp [refused, scheduler]
      | ok held =>
          cases optParseDuration cooldown with
          | none => simp [Moment.panic]
          | some second =>
              cases second with
              | error e => simp [refused, scheduler]
              | ok cooled => simp [reply, answered]

end Handler

theorem harmless_iff (text : String) : Harmless s text ↔ ¬ Overlong (some text) := by
  rw [← Alerts.parseDuration_eq_none_iff]
  constructor
  · exact fun harmless => harmless.returns
  · intro returns
    exact ⟨returns, fun io now reqId name expr forDuration cooldown notify enabled _ =>
      upsertAlert_refused name expr forDuration cooldown notify enabled⟩

/-- A text is harmless exactly where it names no more seconds than a duration holds.
One that names more takes the scheduler's lock with it where a request gets to it,
and the loader where the configuration does. -/
theorem bad_duration_iff (text : String) :
    (Harmless s text ↔ ¬ Overlong (some text)) ∧
    (∀ (io : Io) (now : Moment Store) (reqId : UInt32) (name expr : String)
      (forDuration cooldown : Option String) (notify : List String) (enabled : Option Bool),
      now.shared.alerts.engine.isSome ∧ now.shared.alerts.configPath.isSome →
      now.shared.schedulerPoisoned = false ∧ now.shared.enginePoisoned = false ∧
        now.session.writerPoisoned = false →
      ((upsertAlert s io now reqId name expr forDuration cooldown notify
          enabled).1.shared.schedulerPoisoned = true ↔
        Overlong forDuration ∨
          (∃ held, optParseDuration forDuration = some (.ok held)) ∧ Overlong cooldown)) ∧
    ∀ path file, Alerts.AlertEngine.load s.tomlCodec path file = none ↔
      Alerts.OverlongFile s.tomlCodec file := by
  refine ⟨harmless_iff s text, ?_, Alerts.load_eq_none_iff s.tomlCodec⟩
  intro io now reqId name expr forDuration cooldown notify enabled
  exact upsertAlert_poisons_iff name expr forDuration cooldown notify enabled

/-- Nearly a hundred quintillions of seconds. -/
def ages : String := "99999999999999999999s"

/-- A client that holds a rule for so long leaves a lock that no request gets. -/
theorem harmless_fails_ages : ¬ Harmless plain ages ∧
    let after := (upsertAlert plain calm ⟨hot, .new⟩ 7 "hot" "cpu.temp > 90" (some ages) none []
      none).1
    after.shared.schedulerPoisoned = true ∧
      ((getDaemonSettings plain after 8).1.session.answers.map Prod.fst = []) := by
  refine ⟨fun harmless => harmless.returns (by decide +kernel), ?_, ?_⟩
  · decide +kernel
  · decide +kernel

theorem bad_duration_iff_ages :
    (upsertAlert plain calm ⟨hot, .new⟩ 7 "hot" "cpu.temp > 90" (some ages) none []
        none).1.shared.schedulerPoisoned = true ↔
      Overlong (some ages) ∨
        (∃ held, optParseDuration (some ages) = some (.ok held)) ∧ Overlong none :=
  (bad_duration_iff plain ages).2.1 calm ⟨hot, .new⟩ 7 "hot" "cpu.temp > 90" (some ages) none []
    none ⟨rfl, rfl⟩ ⟨rfl, rfl, rfl⟩

end LinSight.Requests
