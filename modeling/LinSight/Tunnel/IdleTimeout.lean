import LinSight.Tunnel.Timed

set_option autoImplicit false

/-! When the tunnel times out, and what could have been moved before. -/

namespace LinSight.Tunnel

section Timed

variable {schedule : Schedule} {limits : Limits} {state next : Timed} {label : Label}
  {labels : List TimedLabel}

theorem step_act : Timed.step schedule limits state (.act label) = some next ↔
    state.allows schedule limits label = true ∧
      ∃ relay, state.relay.step label = some relay ∧ state.after relay = next := by
  simp only [Timed.step]
  split
  · rename_i allowed
    rw [Option.map_eq_some_iff]
    exact (and_iff_right allowed).symm
  · rename_i refused
    simp only [reduceCtorEq, refused, Bool.false_eq_true, false_and]

end Timed

/-- The earlier relay was in the same wait: nothing has been read since, and nothing
was written to the endpoint whose chunk is on its way. -/
structure SameWait (earlier later : Relay) : Prop where
  read : ∀ side, earlier.readCount side = later.readCount side
  written : ∀ source size rest, later.phase = .writing source size rest →
    earlier.writtenCount source = later.writtenCount source

/-- The states before, as far as the wait of the present one goes back. -/
structure History (schedule : Schedule) (visited : Timed → Prop) (state : Timed) : Prop where
  here : visited state
  order : state.since ≤ state.now
  past : ∀ earlier, visited earlier → earlier.now ≤ state.now
  same : ∀ earlier, visited earlier → state.since < earlier.now →
    SameWait earlier.relay state.relay
  ended : ∀ side, state.relay.done side = true → ∃ t ≤ state.since,
    schedule.ended side t = true ∧ state.relay.readCount side = schedule.avail side t
  arrived : ∀ side, state.relay.readCount side ≤ schedule.avail side state.now
  within : ∀ side, state.relay.writtenCount side ≤ schedule.room side state.now
  quiet : state.relay.phase = .selecting → ∀ t, state.since ≤ t → t < state.now →
    ∀ side, state.relay.done side = false → ¬ schedule.Ready state.relay side t
  stalled : ∀ source size rest, state.relay.phase = .writing source size rest →
    ∀ earlier, visited earlier → state.since < earlier.now →
      schedule.room source.other (earlier.now - 1) ≤ earlier.relay.writtenCount source.other
  arrivals : ∀ source size rest, state.relay.phase = .writing source size rest →
    ∀ t, state.since < t → t ≤ state.now → ∃ earlier, visited earlier ∧ earlier.now = t ∧
      earlier.relay.writtenCount source.other ≤ schedule.room source.other (t - 1)

section History

variable {schedule : Schedule} {limits : Limits} {state next : Timed} {label : Label}
  {visited later : Timed → Prop}

theorem history_start (visited : Timed → Prop) (only : ∀ earlier, visited earlier ↔ earlier = .start) :
    History schedule visited Timed.start where
  here := (only _).mpr rfl
  order := le_rfl
  past := by
    intro earlier there
    rw [(only earlier).mp there]
  same := by
    intro earlier there after
    rw [(only earlier).mp there] at after
    exact absurd after (lt_irrefl 0)
  ended := fun side done => absurd done Bool.false_ne_true
  arrived := fun side => Nat.zero_le _
  within := fun side => Nat.zero_le _
  quiet := fun _ t _ before => absurd before (Nat.not_lt_zero t)
  stalled := fun _ _ _ writing => by cases writing
  arrivals := fun _ _ _ writing => by cases writing

/-- Time passes. -/
theorem History.tick (history : History schedule visited state)
    (waits : state.waits schedule limits = true)
    (grows : ∀ earlier, later earlier ↔ visited earlier ∨
      earlier = { state with now := state.now + 1 }) :
    History schedule later { state with now := state.now + 1 } where
  here := (grows _).mpr (.inr rfl)
  order := Nat.le_succ_of_le history.order
  past := by
    intro earlier there
    rcases (grows earlier).mp there with before | rfl
    · exact Nat.le_succ_of_le (history.past earlier before)
    · exact le_rfl
  same := by
    intro earlier there after
    rcases (grows earlier).mp there with before | rfl
    · exact history.same earlier before after
    · exact ⟨fun _ => rfl, fun _ _ _ _ => rfl⟩
  ended := history.ended
  arrived := fun side => (history.arrived side).trans (schedule.avail_mono side (Nat.le_succ _))
  within := fun side => (history.within side).trans (schedule.room_mono side (Nat.le_succ _))
  quiet := by
    intro selecting t since before side unfinished
    change state.relay.phase = .selecting at selecting
    rcases Nat.lt_succ_iff_lt_or_eq.mp before with earlier | rfl
    · exact history.quiet selecting t since earlier side unfinished
    · simp only [Timed.waits, selecting, Bool.and_eq_true, decide_eq_true_eq] at waits
      exact waits.2 side unfinished
  stalled := by
    intro source size rest writing earlier there after
    change state.relay.phase = .writing source size rest at writing
    rcases (grows earlier).mp there with before | rfl
    · exact history.stalled source size rest writing earlier before after
    · simp only [Timed.waits, writing, Bool.and_eq_true, Bool.not_eq_true',
        decide_eq_false_iff_not] at waits
      exact Nat.le_of_not_lt waits.2
  arrivals := by
    intro source size rest writing t since before
    change state.relay.phase = .writing source size rest at writing
    rcases Nat.le_succ_iff.mp before with earlier | rfl
    · obtain ⟨arrived, there, same, low⟩ :=
        history.arrivals source size rest writing t since earlier
      exact ⟨arrived, (grows arrived).mpr (.inl there), same, low⟩
    · exact ⟨_, (grows _).mpr (.inr rfl), rfl, history.within source.other⟩

theorem Steps.reads_of_done {relay after : Relay} (steps : Steps relay label after) {side : Side}
    (done : relay.done side = true) : label.reads side = 0 := by
  cases steps with
  | @readChunk source bytes selecting unfinished nonempty =>
      apply if_neg
      rintro rfl
      rw [done] at unfinished
      cases unfinished
  | readEof | readError | idleExpires | accept | writeError | writeExpires | shutdownEnds => rfl

/-- No step reads more than has come in. -/
theorem History.reads_le (history : History schedule visited state)
    (allowed : state.allows schedule limits label = true) (side : Side) :
    state.relay.readCount side + label.reads side ≤ schedule.avail side state.now := by
  have before := history.arrived side
  cases label with
  | readChunk source bytes =>
      simp only [Timed.allows, decide_eq_true_eq] at allowed
      by_cases same : source = side
      · rw [Label.reads, if_pos same, ← same]
        exact allowed
      · rw [Label.reads, if_neg same]
        exact before
  | readEof | readError | idleExpires | accept | writeError | writeExpires | shutdownEnds =>
      exact before

/-- No step writes more than there is room for. -/
theorem History.writes_le (history : History schedule visited state)
    (allowed : state.allows schedule limits label = true) (side : Side) :
    state.relay.writtenCount side + state.relay.writes side label ≤
      schedule.room side state.now := by
  have before := history.within side
  cases label with
  | accept count =>
      simp only [Timed.allows] at allowed
      unfold Relay.writes
      split at allowed
      · rename_i source size rest writing
        simp only [decide_eq_true_eq] at allowed
        dsimp only
        by_cases same : source.other = side
        · rw [if_pos same, ← same]
          exact allowed
        · rw [if_neg same]
          exact before
      · cases allowed
  | readChunk | readEof | readError | idleExpires | writeError | writeExpires | shutdownEnds =>
      exact before

/-- A finished side has ended on the schedule, and all of it is read. -/
theorem History.ended_act (history : History schedule visited state)
    (allowed : state.allows schedule limits label = true) {relay : Relay}
    (steps : Steps state.relay label relay) {side : Side} (done : relay.done side = true) :
    ∃ t ≤ state.now, schedule.ended side t = true ∧
      relay.readCount side = schedule.avail side t := by
  rcases steps.done done with before | rfl
  · obtain ⟨t, since, ended, whole⟩ := history.ended side before
    refine ⟨t, since.trans history.order, ended, ?_⟩
    rw [steps.readCount, steps.reads_of_done before, Nat.add_zero, whole]
  · simp only [Timed.allows, Bool.and_eq_true, Bool.not_eq_true', decide_eq_false_iff_not] at allowed
    refine ⟨state.now, le_rfl, allowed.1, ?_⟩
    rw [steps.readCount]
    exact le_antisymm (history.arrived side) (Nat.le_of_not_lt allowed.2)

/-- A new wait begins. -/
theorem History.restart (history : History schedule visited state)
    (allowed : state.allows schedule limits label = true) {relay : Relay}
    (steps : Steps state.relay label relay) (fresh : (state.after relay).since = state.now)
    (grows : ∀ earlier, later earlier ↔ visited earlier ∨ earlier = state.after relay) :
    History schedule later (state.after relay) where
  here := (grows _).mpr (.inr rfl)
  order := fresh.le
  past := by
    intro earlier there
    rcases (grows earlier).mp there with before | rfl
    · exact history.past earlier before
    · exact le_rfl
  same := by
    intro earlier there after
    rw [fresh] at after
    rcases (grows earlier).mp there with before | rfl
    · exact absurd after (Nat.not_lt.mpr (history.past earlier before))
    · exact absurd after (lt_irrefl state.now)
  ended := by
    intro side done
    rw [fresh]
    exact history.ended_act allowed steps done
  arrived := by
    intro side
    change relay.readCount side ≤ schedule.avail side state.now
    rw [steps.readCount]
    exact history.reads_le allowed side
  within := by
    intro side
    change relay.writtenCount side ≤ schedule.room side state.now
    rw [steps.writtenCount]
    exact history.writes_le allowed side
  quiet := by
    intro _ t since before
    rw [fresh] at since
    exact absurd before (Nat.not_lt.mpr since)
  stalled := by
    intro source size rest _ earlier there after
    rw [fresh] at after
    rcases (grows earlier).mp there with before | rfl
    · exact absurd after (Nat.not_lt.mpr (history.past earlier before))
    · exact absurd after (lt_irrefl state.now)
  arrivals := by
    intro source size rest _ t since before
    rw [fresh] at since
    exact absurd before (Nat.not_le.mpr since)

/-- A write goes on. -/
theorem History.accept (history : History schedule visited state) {count : Nat}
    (allowed : state.allows schedule limits (.accept count) = true) {relay : Relay}
    (steps : Steps state.relay (.accept count) relay) {source : Side} {size left : Nat}
    {rest pending : List UInt8} (before : state.relay.phase = .writing source size rest)
    (after : relay.phase = .writing source left pending)
    (grows : ∀ earlier, later earlier ↔ visited earlier ∨ earlier = state.after relay) :
    History schedule later (state.after relay) := by
  have since : (state.after relay).since = state.since := by
    simp only [Timed.after, before, after]
  have same_source : ∀ target size rest, relay.phase = .writing target size rest →
      target = source := by
    intro target size rest writing
    rw [after] at writing
    cases writing
    rfl
  have read : ∀ side, relay.readCount side = state.relay.readCount side :=
    fun side => steps.readCount side
  have source_written : relay.writtenCount source = state.relay.writtenCount source := by
    have away : source.other ≠ source := by cases source <;> decide
    rw [steps.writtenCount]
    simp only [Relay.writes, before, if_neg away, Nat.add_zero]
  have target_written : state.relay.writtenCount source.other ≤
      relay.writtenCount source.other := by
    rw [steps.writtenCount]
    exact Nat.le_add_right _ _
  refine ⟨(grows _).mpr (.inr rfl), since.le.trans history.order, ?_, ?_, ?_, ?_, ?_, ?_, ?_, ?_⟩
  · intro earlier there
    rcases (grows earlier).mp there with before | rfl
    · exact history.past earlier before
    · exact le_rfl
  · intro earlier there later_than
    rw [since] at later_than
    rcases (grows earlier).mp there with old | rfl
    · have same := history.same earlier old later_than
      refine ⟨fun side => (same.read side).trans (read side).symm, ?_⟩
      intro target size rest writing
      cases same_source target size rest writing
      exact (same.written source _ _ before).trans source_written.symm
    · exact ⟨fun _ => rfl, fun _ _ _ _ => rfl⟩
  · intro side done
    rw [since]
    have unfinished : state.relay.done side = true :=
      (steps.done done).resolve_right Label.noConfusion
    obtain ⟨t, bound, ended, whole⟩ := history.ended side unfinished
    exact ⟨t, bound, ended, (read side).trans whole⟩
  · intro side
    change relay.readCount side ≤ schedule.avail side state.now
    rw [read]
    exact history.arrived side
  · intro side
    change relay.writtenCount side ≤ schedule.room side state.now
    rw [steps.writtenCount]
    exact history.writes_le allowed side
  · intro selecting
    change relay.phase = .selecting at selecting
    rw [after] at selecting
    cases selecting
  · intro target size rest writing earlier there later_than
    cases same_source target size rest writing
    rw [since] at later_than
    rcases (grows earlier).mp there with old | rfl
    · exact history.stalled source _ _ before earlier old later_than
    · exact (history.stalled source _ _ before state history.here later_than).trans target_written
  · intro target size rest writing t later_than bound
    cases same_source target size rest writing
    rw [since] at later_than
    obtain ⟨arrived, there, same, low⟩ := history.arrivals source _ _ before t later_than bound
    exact ⟨arrived, (grows arrived).mpr (.inl there), same, low⟩

/-- Every step extends the history. -/
theorem History.step {timed : TimedLabel} (history : History schedule visited state)
    (taken : Timed.step schedule limits state timed = some next)
    (grows : ∀ earlier, later earlier ↔ visited earlier ∨ earlier = next) :
    History schedule later next := by
  cases timed with
  | tick =>
      obtain ⟨waits, rfl⟩ := Run.enabled_eq_some.mp taken
      exact history.tick waits grows
  | act label =>
      obtain ⟨allowed, relay, moved, rfl⟩ := step_act.mp taken
      have steps := Steps.of_step moved
      by_cases goes_on : ∃ source size rest target left pending,
          state.relay.phase = .writing source size rest ∧
            relay.phase = .writing target left pending
      · obtain ⟨source, size, rest, target, left, pending, before, after⟩ := goes_on
        obtain ⟨rfl, count, rfl⟩ := steps.writing before after
        exact history.accept allowed steps before after grows
      · apply history.restart allowed steps _ grows
        unfold Timed.after
        split
        · rename_i before after
          exact absurd ⟨_, _, _, _, _, _, before, after⟩ goes_on
        · rfl

theorem history_of_run {labels : List TimedLabel}
    (run : Run.exec (Timed.step schedule limits) .start labels = some state) :
    History schedule (Run.Visits (Timed.step schedule limits) .start labels) state := by
  induction labels using List.reverseRecOn generalizing state with
  | nil =>
      cases Option.some.inj run
      apply history_start
      intro earlier
      constructor
      · rintro ⟨front, initial, run⟩
        rw [List.prefix_nil.mp initial] at run
        exact (Option.some.inj run).symm
      · rintro rfl
        exact Run.Visits.first
  | append_singleton labels label ih =>
      obtain ⟨before, first, last⟩ := Run.exec_append.mp run
      obtain ⟨_, taken, same⟩ := Run.exec_cons.mp last
      cases Option.some.inj same
      apply (ih first).step taken
      intro earlier
      constructor
      · intro there
        rcases Run.visits_concat there with old | new
        · exact .inl old
        · rw [run] at new
          exact .inr (Option.some.inj new).symm
      · rintro (old | rfl)
        · exact old.extend [label]
        · exact Run.Visits.last run

end History

/-- A write that expires has held up nothing: at no moment of the window did the other
direction have bytes and room for them, or the stalled endpoint make room while its
source had more bytes to read. -/
def Harmless (schedule : Schedule) (limits : Limits) (state : Timed) (label : TimedLabel) : Prop :=
  label = .act .writeExpires → ∀ source size rest,
    state.relay.phase = .writing source size rest →
    ∀ t, state.now < t + min limits.idle limits.copyIo → t < state.now →
      ¬ (schedule.Unread state.relay source.other t ∧ schedule.Accepts state.relay source t) ∧
      ¬ (schedule.Unread state.relay source t ∧
        schedule.room source.other (t - 1) < schedule.room source.other t)

/-- If the run has timed out, no byte could be moved in the window before. -/
def ClosesOnlyIdle (schedule : Schedule) (limits : Limits) (labels : List TimedLabel)
    (final : Timed) : Prop :=
  ∀ error, final.relay.phase = .returned (.error error) → error.TimedOut →
    ∀ state, Run.Visits (Timed.step schedule limits) .start labels state →
      final.now < state.now + min limits.idle limits.copyIo → state.now < final.now →
      ¬ schedule.Movable state.relay state.now

section Window

variable {schedule : Schedule} {limits : Limits} {state next earlier : Timed} {label : Label}
  {visited : Timed → Prop}

theorem SameWait.unread {relay other : Relay} (same : SameWait relay other) (side : Side) (t : Nat) :
    schedule.Unread relay side t ↔ schedule.Unread other side t := by
  unfold Schedule.Unread
  rw [same.read]

/-- A finished side has no more to read. -/
theorem History.not_unread_of_done (history : History schedule visited state) {side : Side}
    (done : state.relay.done side = true) {t : Nat} (later : state.since < t) :
    ¬ schedule.Unread state.relay side t := by
  obtain ⟨ending, before, ended, whole⟩ := history.ended side done
  unfold Schedule.Unread
  rw [whole, schedule.settled side ending t (by omega) ended]
  exact lt_irrefl _

/-- Before an idle timer runs out, nothing comes in. -/
theorem History.idle (history : History schedule visited state)
    (selecting : state.relay.phase = .selecting) (expired : state.now = state.since + limits.idle)
    (there : visited earlier)
    (window : state.now < earlier.now + min limits.idle limits.copyIo)
    (before : earlier.now < state.now) : ¬ schedule.Movable earlier.relay earlier.now := by
  have within := Nat.min_le_left limits.idle limits.copyIo
  have later : state.since < earlier.now := by omega
  rintro ⟨side, unread, _⟩
  rw [(history.same earlier there later).unread] at unread
  cases done : state.relay.done side with
  | true => exact history.not_unread_of_done done later unread
  | false => exact history.quiet selecting earlier.now later.le before side done (.inl unread)

/-- Before a write expires, what could be moved shows on the schedule. -/
theorem History.stalled_iff (history : History schedule visited state) {source : Side} {size : Nat}
    {rest : List UInt8} (writing : state.relay.phase = .writing source size rest)
    (expired : state.now = state.since + limits.copyIo) :
    (∀ earlier, visited earlier → state.now < earlier.now + min limits.idle limits.copyIo →
        earlier.now < state.now → ¬ schedule.Movable earlier.relay earlier.now) ↔
      Harmless schedule limits state (.act .writeExpires) := by
  have within := Nat.min_le_right limits.idle limits.copyIo
  constructor
  · rintro still _ own size rest same t window before
    rw [writing] at same
    cases same
    have later : state.since < t := by omega
    obtain ⟨earlier, there, rfl, low⟩ :=
      history.arrivals source _ _ writing t later before.le
    have wait := history.same earlier there later
    have unmoved := still earlier there window before
    refine ⟨?_, ?_⟩
    · rintro ⟨unread, accepts⟩
      refine unmoved ⟨source.other, (wait.unread _ _).mpr unread, ?_⟩
      unfold Schedule.Accepts
      rw [Side.other_other, wait.written source _ _ writing]
      exact accepts
    · rintro ⟨unread, grows⟩
      exact unmoved ⟨source, (wait.unread _ _).mpr unread, low.trans_lt grows⟩
  · rintro harmless earlier there window before ⟨side, unread, accepts⟩
    have later : state.since < earlier.now := by omega
    have wait := history.same earlier there later
    rw [wait.unread] at unread
    obtain ⟨reverse, forward⟩ := harmless rfl source _ _ writing earlier.now window before
    rcases Side.eq_or_eq_other side source with rfl | rfl
    · have full := history.stalled side _ _ writing earlier there later
      exact forward ⟨unread, full.trans_lt accepts⟩
    · unfold Schedule.Accepts at accepts
      rw [Side.other_other, wait.written source _ _ writing] at accepts
      exact reverse ⟨unread, accepts⟩

end Window

section Runs

variable {schedule : Schedule} {limits : Limits} {state next final : Timed}
  {labels : List TimedLabel}

/-- Only timers end the run with `TimedOut`. -/
theorem Steps.timedOut {relay after : Relay} {label : Label} (steps : Steps relay label after)
    {error : CopyError} (returned : after.phase = .returned (.error error))
    (timedOut : error.TimedOut) : label = .writeExpires ∨ ∃ side, label = .idleExpires side := by
  cases steps with
  | readChunk | readEof => cases returned
  | readError | writeError =>
      cases returned
      exact timedOut.elim
  | @idleExpires side => exact .inr ⟨side, rfl⟩
  | @accept source size count rest =>
      unfold Relay.accepted at returned
      split at returned
      · rcases loopHead_phase _ with selecting | ⟨_, _, both⟩
        · rw [selecting] at returned
          cases returned
        · rw [both] at returned
          cases returned
      · cases returned
  | writeExpires => exact .inl rfl
  | shutdownEnds =>
      rcases loopHead_phase relay with selecting | ⟨_, _, both⟩
      · rw [selecting] at returned
        cases returned
      · rw [both] at returned
        cases returned

/-- Once returned, nothing happens. -/
theorem step_of_returned {result : Except CopyError (Nat × Nat)}
    (returned : state.relay.phase = .returned result) (label : TimedLabel) :
    Timed.step schedule limits state label = none := by
  cases label with
  | tick => simp [Timed.step, Timed.waits, returned, Run.enabled]
  | act label => simp [Timed.step, Relay.step, returned]

/-- Before the run returns, no write has expired. -/
theorem always_of_unreturned (run : Run.exec (Timed.step schedule limits) state labels = some final)
    (unreturned : ∀ result, final.relay.phase ≠ .returned result) :
    Run.Always (Timed.step schedule limits) (Harmless schedule limits) state labels := by
  induction labels generalizing state with
  | nil => trivial
  | cons label rest ih =>
      obtain ⟨next, taken, remaining⟩ := Run.exec_cons.mp run
      refine ⟨?_, fun other same => ?_⟩
      · rintro rfl
        obtain ⟨_, relay, moved, rfl⟩ := step_act.mp taken
        cases Steps.of_step moved with
        | writeExpires writing =>
            cases rest with
            | nil =>
                cases Option.some.inj remaining
                exact absurd rfl (unreturned _)
            | cons second rest =>
                obtain ⟨_, impossible, _⟩ := Run.exec_cons.mp remaining
                rw [step_of_returned rfl] at impossible
                cases impossible
      · rw [taken] at same
        cases Option.some.inj same
        exact ih remaining

/-- At the last step of a run, the window is harmless or the step is no expired write. -/
theorem closes_only_idle_last {before : Timed} {last : TimedLabel}
    (run : Run.exec (Timed.step schedule limits) .start labels = some before)
    (taken : Timed.step schedule limits before last = some final) :
    ClosesOnlyIdle schedule limits (labels ++ [last]) final ↔
      Harmless schedule limits before last := by
  have history := history_of_run run
  have whole : Run.exec (Timed.step schedule limits) .start (labels ++ [last]) = some final :=
    Run.exec_append.mpr ⟨before, run, Run.exec_cons.mpr ⟨final, taken, rfl⟩⟩
  cases last with
  | tick =>
      obtain ⟨waits, rfl⟩ := Run.enabled_eq_some.mp taken
      constructor
      · intro _ expires
        cases expires
      · intro _ error returned
        change before.relay.phase = .returned (.error error) at returned
        simp [Timed.waits, returned] at waits
  | act label =>
      obtain ⟨allowed, relay, moved, rfl⟩ := step_act.mp taken
      have steps := Steps.of_step moved
      -- the last state is at the end of the window, not inside it
      have inside : ∀ earlier, Run.Visits (Timed.step schedule limits) .start
          (labels ++ [.act label]) earlier → earlier.now < before.now →
          Run.Visits (Timed.step schedule limits) .start labels earlier := by
        intro earlier there sooner
        rcases Run.visits_concat there with old | new
        · exact old
        · rw [whole] at new
          cases Option.some.inj new
          exact absurd sooner (lt_irrefl before.now)
      by_cases expires : label = .writeExpires
      · subst expires
        cases steps with
        | @writeExpires source size rest writing =>
            simp only [Timed.allows, writing, Bool.and_eq_true, decide_eq_true_eq] at allowed
            rw [← history.stalled_iff writing allowed.1]
            constructor
            · intro closes earlier there window sooner
              exact closes _ rfl trivial earlier (there.extend _) window sooner
            · intro still error _ _ earlier there window sooner
              exact still earlier (inside earlier there sooner) window sooner
      · constructor
        · intro _ same
          cases same
          exact absurd rfl expires
        · intro _ error returned timedOut earlier there window sooner
          obtain ⟨side, rfl⟩ := (steps.timedOut returned timedOut).resolve_left expires
          cases steps with
          | idleExpires selecting unfinished =>
              simp only [Timed.allows, Bool.and_eq_true, decide_eq_true_eq] at allowed
              exact history.idle selecting allowed.1 (inside earlier there sooner) window sooner

/-- The tunnel closes only idle connections where no stalled write holds up the other
direction and no slow one is cut off. -/
theorem closes_only_idle_iff
    (run : Run.exec (Timed.step schedule limits) .start labels = some final) :
    ClosesOnlyIdle schedule limits labels final ↔
      Run.Always (Timed.step schedule limits) (Harmless schedule limits) .start labels := by
  rcases List.eq_nil_or_concat labels with rfl | ⟨front, last, rfl⟩
  · cases Option.some.inj run
    refine ⟨fun _ => trivial, fun _ error returned => ?_⟩
    cases returned
  · rw [List.concat_eq_append] at run ⊢
    obtain ⟨before, first, second⟩ := Run.exec_append.mp run
    obtain ⟨_, taken, same⟩ := Run.exec_cons.mp second
    cases Option.some.inj same
    have unreturned : ∀ result, before.relay.phase ≠ .returned result := by
      intro result returned
      rw [step_of_returned returned] at taken
      cases taken
    rw [closes_only_idle_last first taken, Run.always_concat first]
    exact (and_iff_right (always_of_unreturned first unreturned)).symm

/-- Endpoint `a` has sent two bytes, `b` takes one of them and is silent. -/
def silent : Schedule where
  avail
    | .a, _ => 2
    | .b, _ => 0
  room
    | .a, _ => 1024
    | .b, _ => 1
  ended := fun _ _ => false
  avail_mono := by
    intro side t u order
    cases side <;> exact le_rfl
  room_mono := by
    intro side t u order
    cases side <;> exact le_rfl
  ended_mono := fun _ => monotone_const
  settled := fun _ _ _ _ ended => absurd ended Bool.false_ne_true

/-- The first byte is written, and the write of the second expires. -/
def silentRun : List TimedLabel :=
  [.act (.readChunk .a [7, 8]), .act (.accept 1), .tick, .tick, .act .writeExpires]

theorem closes_only_idle_silent :
    ∃ final, Run.exec (Timed.step silent ⟨3, 2⟩) .start silentRun = some final ∧
      final.relay.phase = .returned (.error .writeTimeout) ∧ final.relay.writtenCount .b = 1 ∧
      ClosesOnlyIdle silent ⟨3, 2⟩ silentRun final := by
  obtain ⟨final, run, returned, written⟩ : ∃ final,
      Run.exec (Timed.step silent ⟨3, 2⟩) .start silentRun = some final ∧
        final.relay.phase = .returned (.error .writeTimeout) ∧
          final.relay.writtenCount .b = 1 := ⟨_, rfl, rfl, rfl⟩
  refine ⟨final, run, returned, written, (closes_only_idle_iff run).mpr ?_⟩
  refine ⟨fun expires => (by cases expires), fun _ first => ?_⟩
  cases first
  refine ⟨fun expires => (by cases expires), fun _ second => ?_⟩
  cases second
  refine ⟨fun expires => (by cases expires), fun _ third => ?_⟩
  cases third
  refine ⟨fun expires => (by cases expires), fun _ fourth => ?_⟩
  cases fourth
  refine ⟨fun _ source size rest writing t _ before => ?_, fun _ _ => trivial⟩
  cases writing
  -- Both bytes of `a` have been read, and `b` has none.
  exact ⟨fun both => Nat.not_lt_zero _ both.1, fun both => Nat.lt_irrefl 2 both.1⟩

/-- Endpoint `b` has stopped reading, `a` has sent a byte, and from the fifth second on
`b` has a byte for `a`. -/
def stuck : Schedule where
  avail
    | .a, _ => 1
    | .b, t => if 5 ≤ t then 1 else 0
  room
    | .a, _ => 1024
    | .b, _ => 0
  ended := fun _ _ => false
  avail_mono := by
    intro side t u order
    cases side with
    | a => exact le_rfl
    | b =>
        dsimp only
        split
        · rw [if_pos (by omega)]
        · exact Nat.zero_le _
  room_mono := by
    intro side t u order
    cases side <;> exact le_rfl
  ended_mono := fun _ => monotone_const
  settled := fun _ _ _ _ ended => absurd ended Bool.false_ne_true

/-- The byte of `a` is read at once, and its write waits for thirty seconds. -/
def stuckRun : List TimedLabel :=
  .act (.readChunk .a [0]) :: List.replicate 30 .tick ++ [.act .writeExpires]

/-- Then the connection is closed, although `a` would have taken the byte of `b` for
twenty-five seconds. -/
theorem stalled_write_closes :
    ∃ final, Run.exec (Timed.step stuck ⟨300, 30⟩) .start stuckRun = some final ∧
      final.relay.phase = .returned (.error .writeTimeout) ∧
      ¬ ClosesOnlyIdle stuck ⟨300, 30⟩ stuckRun final := by
  obtain ⟨final, run, returned, time⟩ : ∃ final,
      Run.exec (Timed.step stuck ⟨300, 30⟩) .start stuckRun = some final ∧
        final.relay.phase = .returned (.error .writeTimeout) ∧ final.now = 30 := ⟨_, rfl, rfl, rfl⟩
  obtain ⟨waiting, visited, clock, movable⟩ : ∃ waiting,
      Run.exec (Timed.step stuck ⟨300, 30⟩) .start (stuckRun.take 11) = some waiting ∧
        waiting.now = 10 ∧ stuck.Movable waiting.relay 10 := by
    refine ⟨_, rfl, rfl, .b, ?_, ?_⟩ <;> decide
  refine ⟨final, run, returned, fun closes => ?_⟩
  refine closes _ returned trivial waiting ⟨_, List.take_prefix 11 stuckRun, visited⟩ ?_ ?_ ?_
  · rw [time, clock]
    decide
  · rw [time, clock]
    decide
  · rw [clock]
    exact movable

end Runs

end LinSight.Tunnel
