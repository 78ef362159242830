import LinSight.Gui.Forwarding

set_option autoImplicit false

/-! A reconnect that fails has changed nothing and forwards nothing, and the next one that
succeeds publishes a new generation. -/

namespace LinSight.Gui

namespace Link

/-- What a reconnect is about, for everyone else. -/
def settings (w : Link) : Nat × Nat × Bool × String × List SensorId × Nat :=
  (w.client, w.connectionGeneration, w.connectionAlive, w.activeTarget, w.subscriptions,
    w.pumpIntervalMs)

/-- The client that the reconnect is for that takes the step. -/
def acting (w : Link) : Event → Option Nat
  | .reconnect _ _ => some w.connected
  | .advance _ => w.attempt.map Attempt.client
  | _ => none

/-- The client's reconnect is past the replay and cannot fail. -/
structure Committed (c : Nat) (w : Link) : Prop where
  known : c < w.connected
  kept : c ∉ w.failed
  attempt : ∀ a ∈ w.attempt, a.client = c → a.stage.uncommitted = false

section Steps

variable {w next : Link} {a : Attempt} {c : Nat} {event : Event}

/-- What only the steps of a reconnect change. -/
theorem kept_by_others (taken : w.step event = some next) (others : w.acting event = none) :
    next.connected = w.connected ∧ next.failed = w.failed ∧ next.attempt = w.attempt ∧
      next.published = w.published := by
  cases event with
  | reconnect target rxTaken => cases others
  | advance accepted =>
      obtain ⟨a, running, _⟩ := Option.map_eq_some_iff.mp taken
      rw [acting, running] at others
      cases others
  | forwardSample i =>
      obtain ⟨f, _, forwarded⟩ := Option.bind_eq_some_iff.mp taken
      unfold forwardSample at forwarded
      split at forwarded
      · obtain ⟨_, rfl⟩ := Run.enabled_eq_some.mp forwarded
        exact ⟨rfl, rfl, rfl, rfl⟩
      · cases forwarded
  | forwardCatalogue i =>
      obtain ⟨f, _, forwarded⟩ := Option.bind_eq_some_iff.mp taken
      unfold forwardCatalogue at forwarded
      split at forwarded
      · obtain ⟨_, rfl⟩ := Run.enabled_eq_some.mp forwarded
        exact ⟨rfl, rfl, rfl, rfl⟩
      · cases forwarded
  | leave i | check i | clear i | leaveCatalogue i =>
      obtain ⟨f, _, moved⟩ := Option.bind_eq_some_iff.mp taken
      obtain ⟨_, rfl⟩ := Run.enabled_eq_some.mp moved
      exact ⟨rfl, rfl, rfl, rfl⟩
  | sample client s | catalogue client infos | disconnect client =>
      obtain ⟨_, rfl⟩ := Run.enabled_eq_some.mp taken
      exact ⟨rfl, rfl, rfl, rfl⟩
  | storeSubscriptions sensors | storePumpInterval ms | closeBridges =>
      cases taken
      exact ⟨rfl, rfl, rfl, rfl⟩

theorem Committed.advance (committed : Committed c w) (running : w.attempt = some a)
    (accepted : Bool) : Committed c (w.advance a accepted) := by
  have before := committed.attempt a running
  have going {stage : ReconnectStage} (later : a.client = c → stage.uncommitted = false) :
      Committed c (w.goOn a stage) :=
    ⟨committed.known, committed.kept, by rintro other ⟨⟩; exact later⟩
  have failing (early : a.stage.uncommitted = true) : Committed c (w.giveUp a.client) := by
    refine ⟨committed.known, ?_, by rintro other ⟨⟩⟩
    rw [giveUp, List.mem_cons, not_or]
    refine ⟨?_, committed.kept⟩
    rintro rfl
    rw [before rfl] at early
    cases early
  unfold Link.advance
  cases stage : a.stage <;> rw [stage] at before failing <;> dsimp only
  case opened => exact going before
  case numbered => exact going before
  case listed => exact going before
  case snapshotted =>
    split
    · exact going before
    · exact failing rfl
  case subscribed =>
    split
    · exact going before
    · exact failing rfl
  case bridging => exact ⟨committed.known, committed.kept, by rintro other ⟨⟩⟩
  all_goals
    exact ⟨committed.known, committed.kept, by rintro other ⟨⟩; exact fun _ => rfl⟩

theorem Committed.step (committed : Committed c w) (taken : w.step event = some next) :
    Committed c next := by
  obtain ⟨known, kept, attempt⟩ := id committed
  cases own : w.acting event with
  | none =>
      obtain ⟨connected, failed, running, _⟩ := kept_by_others taken own
      exact ⟨connected ▸ known, failed ▸ kept, running ▸ attempt⟩
  | some client =>
      cases event with
      | reconnect target rxTaken =>
          obtain ⟨idle, rfl⟩ := Run.enabled_eq_some.mp taken
          have other : c ≠ w.connected := Nat.ne_of_lt known
          have later : c < w.connected + 1 := known.trans (Nat.lt_succ_self _)
          cases rxTaken with
          | true =>
              refine ⟨later, ?_, by rintro a ⟨⟩⟩
              rw [if_pos rfl, giveUp, List.mem_cons, not_or]
              exact ⟨other, kept⟩
          | false =>
              refine ⟨later, kept, ?_⟩
              rintro a ⟨⟩ same
              exact absurd same.symm other
      | advance accepted =>
          obtain ⟨a, running, rfl⟩ := Option.map_eq_some_iff.mp taken
          exact committed.advance running accepted
      | _ => cases own

theorem Committed.run {events : List Event} {final : Link} (committed : Committed c w)
    (run : Run.exec Link.step w events = some final) : Committed c final :=
  Run.exec_invariant (fun _ _ _ taken before => before.step taken) run committed

/-- A step of a reconnect leaves the settings alone, or the reconnect is committed by it. -/
theorem settings_or_committed (sound : w.Sound) (taken : w.step event = some next)
    (own : w.acting event = some c) : next.settings = w.settings ∨ Committed c next := by
  cases event with
  | reconnect target rxTaken =>
      obtain ⟨idle, rfl⟩ := Run.enabled_eq_some.mp taken
      cases rxTaken <;> exact Or.inl rfl
  | advance accepted =>
      obtain ⟨a, running, rfl⟩ := Option.map_eq_some_iff.mp taken
      simp only [acting, running, Option.map_some, Option.some.injEq] at own
      obtain ⟨known, fresh, _⟩ := sound.attempt a running
      rw [own] at known fresh
      unfold Link.advance
      cases stage : a.stage <;> dsimp only
      case snapshotted => split <;> exact Or.inl rfl
      case subscribed => split <;> exact Or.inl rfl
      case replayed => exact Or.inr ⟨known, fresh, by rintro other ⟨⟩; exact fun _ => rfl⟩
      case published => exact Or.inr ⟨known, fresh, by rintro other ⟨⟩; exact fun _ => rfl⟩
      case revived => exact Or.inr ⟨known, fresh, by rintro other ⟨⟩; exact fun _ => rfl⟩
      case bridging => exact Or.inr ⟨known, fresh, by rintro other ⟨⟩⟩
      all_goals exact Or.inl rfl
  | _ => cases own

/-- What a step publishes is newer than everything published, up to the largest `u64`. -/
theorem published_newer {g : Nat} (sound : w.Sound) (taken : w.step event = some next)
    (publishes : next.published = g :: w.published) :
    next.connectionGeneration = g ∧ ∀ p ∈ w.published, p < g ∨ p = u64Max ∧ g = u64Max := by
  have same : w.published ≠ g :: w.published := (List.cons_ne_self g w.published).symm
  cases own : w.acting event with
  | none =>
      rw [(kept_by_others taken own).2.2.2] at publishes
      exact absurd publishes same
  | some client =>
      cases event with
      | reconnect target rxTaken =>
          obtain ⟨_, rfl⟩ := Run.enabled_eq_some.mp taken
          cases rxTaken <;> exact absurd publishes same
      | advance accepted =>
          obtain ⟨a, running, rfl⟩ := Option.map_eq_some_iff.mp taken
          have numbered := (sound.attempt a running).2.2
          unfold Link.advance at publishes ⊢
          cases stage : a.stage <;> rw [stage] at publishes numbered <;> dsimp only at publishes ⊢
          case replayed new =>
            obtain ⟨rfl, _⟩ := List.cons.inj publishes
            refine ⟨rfl, fun p member => ?_⟩
            have old := sound.published p member
            have bounded := sound.bounded
            have next : new = saturatingAdd w.connectionGeneration 1 := numbered
            unfold saturatingAdd at next
            omega
          case snapshotted => split at publishes <;> exact absurd publishes same
          case subscribed => split at publishes <;> exact absurd publishes same
          all_goals exact absurd publishes same
      | _ => cases own

end Steps

section Claims

variable {target : String} {events : List Event} {w : Link}

theorem sampleBridge_not_failed (sound : w.Sound) : ∀ b ∈ w.sampleBridge, b.client ∉ w.failed := by
  intro b member
  obtain ⟨r, routed, same⟩ := sound.sampleBridge b member
  exact same ▸ (sound.routes r routed).2.1

theorem catalogueBridge_not_failed (sound : w.Sound) :
    ∀ b ∈ w.catalogueBridge, b.client ∉ w.failed := by
  intro b member
  obtain ⟨r, routed, same⟩ := sound.catalogueBridge b member
  exact same ▸ (sound.catalogueRoutes r routed).2

/-- The steps of the reconnects that fail change no setting, no item of their clients is in a
bridge, and what is published next is newer, up to the largest `u64`. -/
theorem failed_reconnect_changes_nothing
    (run : Run.exec step (start target) events = some w) :
    (∀ front event back before after c, events = front ++ event :: back →
      Run.exec step (start target) front = some before → before.step event = some after →
      before.acting event = some c → c ∈ w.failed → after.settings = before.settings) ∧
    (∀ b ∈ w.sampleBridge, b.client ∉ w.failed) ∧
    (∀ b ∈ w.catalogueBridge, b.client ∉ w.failed) ∧
    ∀ event next g, w.step event = some next → next.published = g :: w.published →
      next.connectionGeneration = g ∧
        ∀ p ∈ w.published, p < g ∨ p = u64Max ∧ g = u64Max := by
  have sound := sound_of_run run
  refine ⟨?_, sampleBridge_not_failed sound, catalogueBridge_not_failed sound,
    fun event next g taken publishes => published_newer sound taken publishes⟩
  intro front event back before after c split reached taken own gaveUp
  rw [split] at run
  obtain ⟨middle, first, second⟩ := Run.exec_append.mp run
  cases Option.some.inj (reached.symm.trans first)
  obtain ⟨next, again, rest⟩ := Run.exec_cons.mp second
  cases Option.some.inj (taken.symm.trans again)
  rcases settings_or_committed (sound_of_run reached) taken own with same | committed
  · exact same
  · exact absurd gaveUp (committed.run rest).kept

/-- The subscription of the new host is refused; a sample of its client is left where it is. -/
def refused : List Event :=
  [.storeSubscriptions [⟨"cpu.util"⟩], .reconnect "ssh://b" false, .advance true, .advance true,
    .advance true, .sample 1 ⟨⟨"cpu.util"⟩, 8, .counter 1⟩, .sample 0 ⟨⟨"cpu.util"⟩, 9, .counter 2⟩,
    .forwardSample 0, .advance false]

theorem failed_reconnect_changes_nothing_refused :
    ∃ w, Run.exec step (start "local") refused = some w ∧ w.failed = [1] ∧
      w.sampleBridge = [⟨0, 1, ⟨⟨"cpu.util"⟩, 9, .counter 2⟩⟩] ∧
      ∀ b ∈ w.sampleBridge, b.client ∉ w.failed := by
  have run : Run.exec step (start "local") refused = some _ := rfl
  exact ⟨_, run, rfl, rfl, (failed_reconnect_changes_nothing run).2.1⟩

/-- No reconnect is under way and none has anything to replay. -/
structure Bare (w : Link) : Prop where
  attempt : w.attempt = none
  subscriptions : w.subscriptions = []
  pumpIntervalMs : w.pumpIntervalMs = pumpIntervalDefaultMs

def untilReplayed : List Event := .reconnect "local" false :: List.replicate 5 (.advance true)

def reconnected : List Event := untilReplayed ++ List.replicate 6 (.advance true)

theorem Bare.replayed (bare : Bare w) : ∃ ready published,
    Run.exec step w untilReplayed = some ready ∧ ready.step (.advance true) = some published ∧
      ready.published = w.published ∧ published.published =
        saturatingAdd w.connectionGeneration 1 :: w.published := by
  obtain ⟨_, _, _, _, subscriptions, pumpIntervalMs, attempt, _, _, _, _, _, _, _, _, _, _, _⟩ := w
  obtain ⟨rfl, rfl, rfl⟩ := bare
  exact ⟨_, _, rfl, rfl, rfl, rfl⟩

theorem Bare.reconnected (bare : Bare w) : ∃ next,
    Run.exec step w reconnected = some next ∧ Bare next ∧
      next.connectionGeneration = saturatingAdd w.connectionGeneration 1 ∧
      next.published = next.connectionGeneration :: w.published := by
  obtain ⟨_, _, _, _, subscriptions, pumpIntervalMs, attempt, _, _, _, _, _, _, _, _, _, _, _⟩ := w
  obtain ⟨rfl, rfl, rfl⟩ := bare
  exact ⟨_, rfl, ⟨rfl, rfl, rfl⟩, rfl, rfl⟩

theorem reconnected_often (n : Nat) : ∃ events w,
    Run.exec step (start "local") events = some w ∧ Bare w ∧
      w.connectionGeneration = min (1 + n) u64Max ∧ w.connectionGeneration ∈ w.published := by
  induction n with
  | zero => exact ⟨[], _, rfl, ⟨rfl, rfl, rfl⟩, rfl, List.mem_singleton.mpr rfl⟩
  | succ n ih =>
      obtain ⟨events, w, run, bare, generation, _⟩ := ih
      obtain ⟨next, more, still, advanced, published⟩ := bare.reconnected
      refine ⟨events ++ reconnected, next, Run.exec_append.mpr ⟨w, run, more⟩, still, ?_, ?_⟩
      · rw [advanced, generation]
        unfold saturatingAdd
        omega
      · rw [published]
        exact List.mem_cons_self

/-- The largest `u64` is published again. -/
theorem published_not_always_newer :
    ¬ ∀ target events w, Run.exec step (start target) events = some w →
      ∀ event next g, w.step event = some next → next.published = g :: w.published →
        ∀ p ∈ w.published, p < g := by
  intro newer
  obtain ⟨events, w, run, bare, generation, published⟩ := reconnected_often u64Max
  obtain ⟨ready, next, more, taken, kept, publishes⟩ := bare.replayed
  have saturated : w.connectionGeneration = u64Max := by omega
  rw [← kept] at published publishes
  have less := newer "local" (events ++ untilReplayed) ready
    (Run.exec_append.mpr ⟨w, run, more⟩) _ next _ taken publishes _ published
  unfold saturatingAdd at less
  omega

end Claims

end Link

end LinSight.Gui
