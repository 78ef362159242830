import LinSight.Gui.FailedReconnects

set_option autoImplicit false

/-! The alive flag against the forwarder of the published generation. A forwarder reads the
generation and stores the flag in two steps, and a whole reconnect fits between them. -/

namespace LinSight.Gui

namespace Link

/-- The published generation has its sample forwarder. -/
def Started (w : Link) : Prop := ∃ r ∈ w.routes, r.2 = w.connectionGeneration

/-- No sample forwarder of the published generation is in its loop. -/
def Ended (w : Link) : Prop :=
  ∀ f ∈ w.forwarders, f.generation = w.connectionGeneration → f.phase ≠ .receiving

/-- No false is stored while the published generation is being forwarded, and its forwarder
does not start with one. -/
def Timely (w : Link) : Event → Prop
  | .advance _ => ∀ a ∈ w.attempt, ∀ g, a.stage = .swapped g → w.connectionAlive = true
  | .clear i => ∀ f, w.forwarders[i]? = some f → f.phase = .matched → w.Ended
  | _ => True

/-- No generation is published over a false, and none is stored before its forwarder starts. -/
def Watched (w : Link) : Event → Prop
  | .advance _ => ∀ a ∈ w.attempt, ∀ g, a.stage = .replayed g →
      w.connectionAlive = true ∨ g = w.connectionGeneration
  | .clear i => ∀ f, w.forwarders[i]? = some f → f.phase = .matched → w.Started
  | _ => True

section Steps

variable {w next : Link} {event : Event} {i : Nat} {f : SampleForwarder}

/-- The steps that change neither the flag, nor the generation, nor a forwarder. -/
theorem unwatched (taken : w.step event = some next)
    (others : ∀ accepted i, event ≠ .advance accepted ∧ event ≠ .leave i ∧ event ≠ .check i ∧
      event ≠ .clear i) :
    next.connectionAlive = w.connectionAlive ∧
      next.connectionGeneration = w.connectionGeneration ∧ next.forwarders = w.forwarders := by
  cases event with
  | reconnect target rxTaken =>
      obtain ⟨_, rfl⟩ := Run.enabled_eq_some.mp taken
      cases rxTaken <;> exact ⟨rfl, rfl, rfl⟩
  | advance accepted => exact absurd rfl (others accepted 0).1
  | leave i => exact absurd rfl (others true i).2.1
  | check i => exact absurd rfl (others true i).2.2.1
  | clear i => exact absurd rfl (others true i).2.2.2
  | forwardSample i =>
      obtain ⟨f, _, forwarded⟩ := Option.bind_eq_some_iff.mp taken
      unfold forwardSample at forwarded
      split at forwarded
      · obtain ⟨_, rfl⟩ := Run.enabled_eq_some.mp forwarded
        exact ⟨rfl, rfl, rfl⟩
      · cases forwarded
  | forwardCatalogue i =>
      obtain ⟨f, _, forwarded⟩ := Option.bind_eq_some_iff.mp taken
      unfold forwardCatalogue at forwarded
      split at forwarded
      · obtain ⟨_, rfl⟩ := Run.enabled_eq_some.mp forwarded
        exact ⟨rfl, rfl, rfl⟩
      · cases forwarded
  | leaveCatalogue i =>
      obtain ⟨f, _, moved⟩ := Option.bind_eq_some_iff.mp taken
      obtain ⟨_, rfl⟩ := Run.enabled_eq_some.mp moved
      exact ⟨rfl, rfl, rfl⟩
  | sample client s | catalogue client infos | disconnect client =>
      obtain ⟨_, rfl⟩ := Run.enabled_eq_some.mp taken
      exact ⟨rfl, rfl, rfl⟩
  | storeSubscriptions sensors | storePumpInterval ms | closeBridges =>
      cases taken
      exact ⟨rfl, rfl, rfl⟩

theorem started_congr (generation : next.connectionGeneration = w.connectionGeneration)
    (routes : next.routes = w.routes) : next.Started ↔ w.Started := by
  unfold Started
  rw [generation, routes]

theorem ended_congr (generation : next.connectionGeneration = w.connectionGeneration)
    (forwarders : next.forwarders = w.forwarders) : next.Ended ↔ w.Ended := by
  unfold Ended
  rw [generation, forwarders]

theorem Ended.setPhase {phase : ForwarderPhase} (ended : w.Ended) (gone : phase ≠ .receiving) :
    (w.setPhase i f phase).Ended := by
  intro other member same
  rcases List.mem_or_eq_of_mem_set member with old | rfl
  · exact ended other old same
  · exact gone

/-- A forwarder that has left its loop does not count. -/
theorem ended_of_setPhase {phase : ForwarderPhase} (present : w.forwarders[i]? = some f)
    (left : f.phase ≠ .receiving) (ended : (w.setPhase i f phase).Ended) : w.Ended := by
  intro other member same
  obtain ⟨j, at_j⟩ := List.mem_iff_getElem?.mp member
  by_cases here : i = j
  · subst here
    cases Option.some.inj (present.symm.trans at_j)
    exact left
  · refine ended other (List.mem_of_getElem? (i := j) ?_) same
    change (w.forwarders.set i _)[j]? = _
    rw [List.getElem?_set_ne here]
    exact at_j

variable {a : Attempt}

/-- What a step of the reconnect changes of the flag, the generation and the forwarders. -/
theorem advance_cases (sound : w.Sound) (running : w.attempt = some a) (accepted : Bool) :
    (∃ g, a.stage = .replayed g ∧ g = saturatingAdd w.connectionGeneration 1 ∧
      (w.advance a accepted).connectionAlive = w.connectionAlive ∧
      (w.advance a accepted).connectionGeneration = g ∧
      (w.advance a accepted).forwarders = w.forwarders) ∨
    (∃ g, a.stage = .published g ∧ (w.advance a accepted).connectionAlive = true) ∨
    (∃ g, a.stage = .swapped g ∧ g = w.connectionGeneration ∧
      (w.advance a accepted).connectionAlive = w.connectionAlive ∧
      (w.advance a accepted).connectionGeneration = g ∧
      (w.advance a accepted).forwarders = w.forwarders ++ [⟨a.client, g, .receiving⟩]) ∨
    ((∀ g, a.stage ≠ .replayed g ∧ a.stage ≠ .swapped g) ∧
      (w.advance a accepted).connectionAlive = w.connectionAlive ∧
      (w.advance a accepted).connectionGeneration = w.connectionGeneration ∧
      (w.advance a accepted).forwarders = w.forwarders) := by
  have numbered := (sound.attempt a running).2.2
  unfold Link.advance
  cases stage : a.stage <;> rw [stage] at numbered <;> dsimp only
  case replayed g => exact .inl ⟨g, rfl, numbered, rfl, rfl, rfl⟩
  case published g => exact .inr (.inl ⟨g, rfl, rfl⟩)
  case swapped g => exact .inr (.inr (.inl ⟨g, rfl, numbered, rfl, numbered.symm, rfl⟩))
  case snapshotted g subs pumpMs =>
    refine .inr (.inr (.inr ⟨by simp, ?_⟩))
    split <;> exact ⟨rfl, rfl, rfl⟩
  case subscribed g pumpMs =>
    refine .inr (.inr (.inr ⟨by simp, ?_⟩))
    split <;> exact ⟨rfl, rfl, rfl⟩
  all_goals exact .inr (.inr (.inr ⟨by simp, rfl, rfl, rfl⟩))

theorem ended_advance (sound : w.Sound) (running : w.attempt = some a) (accepted : Bool)
    (good : w.connectionAlive = false → w.Ended) :
    ((w.advance a accepted).connectionAlive = false → (w.advance a accepted).Ended) ↔
      ∀ g, a.stage = .swapped g → w.connectionAlive = true := by
  obtain ⟨g, stage, fresh, alive, generation, forwarders⟩ | ⟨g, stage, alive⟩ |
    ⟨g, stage, _, alive, generation, forwarders⟩ | ⟨stage, alive, generation, forwarders⟩ :=
    advance_cases sound running accepted
  · rw [stage, alive]
    refine iff_of_true (fun dead f member same => ?_) (fun _ other => by cases other)
    rw [forwarders] at member
    rw [generation] at same
    have low := (sound.routes _ (List.mem_map_of_mem member)).2.2
    have bounded := sound.bounded
    have saturated : f.generation = w.connectionGeneration := by
      unfold saturatingAdd at fresh
      change f.generation ≤ _ at low
      omega
    exact good dead f member saturated
  · rw [stage, alive]
    exact iff_of_true (fun dead => by cases dead) (fun _ other => by cases other)
  · rw [alive]
    constructor
    · intro ended _ _
      by_contra dead
      refine ended (Bool.eq_false_iff.mpr dead) ⟨a.client, g, .receiving⟩ ?_ generation.symm rfl
      rw [forwarders]
      exact List.mem_append_right _ (List.mem_singleton.mpr rfl)
    · intro timely dead
      rw [timely g stage] at dead
      cases dead
  · rw [alive, ended_congr generation forwarders]
    exact iff_of_true good (fun g other => absurd other (stage g).2)

theorem started_advance (sound : w.Sound) (running : w.attempt = some a) (accepted : Bool)
    (good : w.connectionAlive = false → w.Started) :
    ((w.advance a accepted).connectionAlive = false → (w.advance a accepted).Started) ↔
      ∀ g, a.stage = .replayed g → w.connectionAlive = true ∨ g = w.connectionGeneration := by
  obtain ⟨g, stage, fresh, alive, generation, forwarders⟩ | ⟨g, stage, alive⟩ |
    ⟨g, stage, _, alive, generation, forwarders⟩ | ⟨stage, alive, generation, forwarders⟩ :=
    advance_cases sound running accepted
  · have routes : (w.advance a accepted).routes = w.routes := congrArg (List.map _) forwarders
    rw [alive]
    constructor
    · intro started other same
      rw [stage] at same
      cases same
      cases dead : w.connectionAlive with
      | true => exact .inl rfl
      | false =>
          obtain ⟨r, member, same⟩ := started dead
          rw [routes] at member
          rw [generation] at same
          have low := (sound.routes r member).2.2
          have bounded := sound.bounded
          unfold saturatingAdd at fresh
          exact .inr (by omega)
    · intro watched dead
      obtain alive | same := watched g stage
      · rw [alive] at dead
        cases dead
      · exact (started_congr (generation.trans same) routes).mpr (good dead)
  · rw [stage, alive]
    exact iff_of_true (fun dead => by cases dead) (fun _ other => by cases other)
  · rw [stage]
    refine iff_of_true (fun _ => ⟨(a.client, g), ?_, generation.symm⟩) (fun _ other => by cases other)
    unfold routes
    rw [forwarders, List.map_append]
    exact List.mem_append_right _ (List.mem_singleton.mpr rfl)
  · have routes : (w.advance a accepted).routes = w.routes := congrArg (List.map _) forwarders
    rw [alive, started_congr generation routes]
    exact iff_of_true good (fun g other => absurd other (stage g).1)

/-- What a step does to a state in which false means that the forwarding has ended. -/
theorem ended_step (sound : w.Sound) (taken : w.step event = some next)
    (good : w.connectionAlive = false → w.Ended) :
    (next.connectionAlive = false → next.Ended) ↔ w.Timely event := by
  have plain (others : ∀ accepted i, event ≠ .advance accepted ∧ event ≠ .leave i ∧
      event ≠ .check i ∧ event ≠ .clear i) : next.connectionAlive = false → next.Ended := by
    obtain ⟨alive, generation, forwarders⟩ := unwatched taken others
    rw [alive, ended_congr generation forwarders]
    exact good
  cases event with
  | advance accepted =>
      obtain ⟨a, running, rfl⟩ := Option.map_eq_some_iff.mp taken
      rw [ended_advance sound running accepted good]
      simp only [Timely, running, Option.mem_some_iff, forall_eq']
  | leave i =>
      obtain ⟨f, present, left⟩ := Option.bind_eq_some_iff.mp taken
      obtain ⟨_, rfl⟩ := Run.enabled_eq_some.mp left
      exact iff_true_intro fun dead => (good dead).setPhase (fun h => by cases h)
  | check i =>
      obtain ⟨f, present, checked⟩ := Option.bind_eq_some_iff.mp taken
      obtain ⟨_, rfl⟩ := Run.enabled_eq_some.mp checked
      refine iff_true_intro fun dead => (good dead).setPhase ?_
      split <;> exact (fun h => by cases h)
  | clear i =>
      obtain ⟨f, present, cleared⟩ := Option.bind_eq_some_iff.mp taken
      obtain ⟨matched, rfl⟩ := Run.enabled_eq_some.mp cleared
      have left : f.phase ≠ .receiving := by rw [matched]; exact (fun h => by cases h)
      constructor
      · intro ended other same _
        exact ended_of_setPhase present left (ended rfl)
      · intro timely _
        exact (timely f present matched).setPhase (fun h => by cases h)
  | _ => exact iff_true_intro (plain fun _ _ => by simp)

/-- What a step does to a state in which false means that the forwarding has been started. -/
theorem started_step (sound : w.Sound) (taken : w.step event = some next)
    (good : w.connectionAlive = false → w.Started) :
    (next.connectionAlive = false → next.Started) ↔ w.Watched event := by
  have plain (others : ∀ accepted i, event ≠ .advance accepted ∧ event ≠ .leave i ∧
      event ≠ .check i ∧ event ≠ .clear i) : next.connectionAlive = false → next.Started := by
    obtain ⟨alive, generation, forwarders⟩ := unwatched taken others
    rw [alive, started_congr generation (congrArg (List.map _) forwarders)]
    exact good
  cases event with
  | advance accepted =>
      obtain ⟨a, running, rfl⟩ := Option.map_eq_some_iff.mp taken
      rw [started_advance sound running accepted good]
      simp only [Watched, running, Option.mem_some_iff, forall_eq']
  | leave i =>
      obtain ⟨f, present, left⟩ := Option.bind_eq_some_iff.mp taken
      obtain ⟨_, rfl⟩ := Run.enabled_eq_some.mp left
      have same : (w.setPhase i f .left).Started ↔ w.Started :=
        started_congr rfl (routes_setPhase present .left)
      exact iff_true_intro fun dead => same.mpr (good dead)
  | check i =>
      obtain ⟨f, present, checked⟩ := Option.bind_eq_some_iff.mp taken
      obtain ⟨_, same⟩ := Run.enabled_eq_some.mp checked
      have started : next.Started ↔ w.Started := by
        rw [← same]
        exact started_congr rfl (routes_setPhase present _)
      rw [started, ← same]
      exact iff_true_intro good
  | clear i =>
      obtain ⟨f, present, cleared⟩ := Option.bind_eq_some_iff.mp taken
      obtain ⟨matched, rfl⟩ := Run.enabled_eq_some.mp cleared
      have same : Started { w.setPhase i f .done with connectionAlive := false } ↔ w.Started :=
        started_congr rfl (routes_setPhase present .done)
      constructor
      · intro started other _ _
        exact same.mp (started rfl)
      · intro watched _
        exact same.mpr (watched f present matched)
  | _ => exact iff_true_intro (plain fun _ _ => by simp)

end Steps

section Claims

/-- What is not there where a step of the reconnect or a store of false is not enabled. -/
theorem idle_cases {w : Link} {event : Event} (idle : w.step event = none) :
    (∀ accepted, event = .advance accepted → w.attempt = none) ∧
      ∀ i, event = .clear i → ∀ f, w.forwarders[i]? = some f → f.phase ≠ .matched := by
  constructor
  · rintro accepted rfl
    exact Option.map_eq_none_iff.mp idle
  · rintro i rfl f present matched
    rw [step, present, Option.bind_some, Run.enabled, if_pos matched] at idle
    cases idle

theorem timely_of_idle {w : Link} {event : Event} (idle : w.step event = none) : w.Timely event := by
  obtain ⟨attempts, clears⟩ := idle_cases idle
  cases event with
  | advance accepted =>
      intro a running
      rw [attempts accepted rfl] at running
      cases running
  | clear i =>
      intro f present matched
      exact absurd matched (clears i rfl f present)
  | _ => trivial

theorem watched_of_idle {w : Link} {event : Event} (idle : w.step event = none) :
    w.Watched event := by
  obtain ⟨attempts, clears⟩ := idle_cases idle
  cases event with
  | advance accepted =>
      intro a running
      rw [attempts accepted rfl] at running
      cases running
  | clear i =>
      intro f present matched
      exact absurd matched (clears i rfl f present)
  | _ => trivial

/-- False means that the forwarder of the published generation has left its loop, in the runs
that store no false late; and that it was started before, in those that also watch it. -/
theorem alive_flag_iff (target : String) (events : List Event) :
    ((∀ w, Run.Visits step (start target) events w → w.connectionAlive = false → w.Ended) ↔
      Run.Always step Timely (start target) events) ∧
    ((∀ w, Run.Visits step (start target) events w → w.connectionAlive = false →
        w.Started ∧ w.Ended) ↔
      Run.Always step Timely (start target) events ∧
        Run.Always step Watched (start target) events) := by
  have alive : (start target).connectionAlive ≠ false := by exact (fun h => by cases h)
  have ended : (∀ w, Run.Visits step (start target) events w → w.connectionAlive = false →
      w.Ended) ↔ Run.Always step Timely (start target) events :=
    Run.visits_iff_always (fun _ _ _ taken sound => Sound.step sound taken)
      (fun _ _ => timely_of_idle) (fun _ _ _ taken sound good => ended_step sound taken good)
      (start_sound target) (fun dead => absurd dead alive)
  have started : (∀ w, Run.Visits step (start target) events w → w.connectionAlive = false →
      w.Started) ↔ Run.Always step Watched (start target) events :=
    Run.visits_iff_always (fun _ _ _ taken sound => Sound.step sound taken)
      (fun _ _ => watched_of_idle) (fun _ _ _ taken sound good => started_step sound taken good)
      (start_sound target) (fun dead => absurd dead alive)
  refine ⟨ended, ?_⟩
  rw [← ended, ← started]
  constructor
  · intro both
    exact ⟨fun w visited dead => (both w visited dead).2,
      fun w visited dead => (both w visited dead).1⟩
  · rintro ⟨left, begun⟩ w visited dead
    exact ⟨begun w visited dead, left w visited dead⟩

/-- The old forwarder reads its generation, a reconnect completes, and then it stores false. -/
def overtaken : List Event :=
  [.disconnect 0, .leave 0, .check 0] ++ reconnected ++ [.clear 0]

theorem alive_flag_overtaken :
    ¬ ∀ w, Run.Visits step (start "local") overtaken w → w.connectionAlive = false → w.Ended := by
  intro ended
  have run : Run.exec step (start "local") overtaken = some _ := rfl
  exact ended _ (Run.Visits.last run) rfl ⟨1, 2, .receiving⟩
    (List.mem_cons_of_mem _ (List.mem_singleton.mpr rfl)) rfl rfl

end Claims

end Link

end LinSight.Gui
