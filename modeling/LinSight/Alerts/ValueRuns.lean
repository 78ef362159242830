import LinSight.Alerts.Retention

set_option autoImplicit false

/-! The latest values and the evaluation context over whole runs of the handle. -/

namespace LinSight.Alerts

/-- The value that a step observes for the sensor. -/
def HandleStep.observes (id : String) : HandleStep → Option Ieee.Value
  | .observe sample => if sample.sensor.asStr = id then alertValue sample.reading else none
  | _ => none

/-- The latest scalar or counter that a run observes for the sensor. -/
def latest (id : String) (labels : List HandleStep) : Option Ieee.Value :=
  labels.reverse.findSome? (HandleStep.observes id)

section Latest

variable {id : String} {label : HandleStep} {value : Ieee.Value}

@[simp] theorem latest_nil (id : String) : latest id [] = none := rfl

@[simp] theorem latest_singleton (id : String) (label : HandleStep) :
    latest id [label] = label.observes id := by
  cases observed : label.observes id <;> simp [latest, observed]

theorem latest_append (id : String) (front back : List HandleStep) :
    latest id (front ++ back) = (latest id back).or (latest id front) := by
  simp only [latest, List.reverse_append, List.findSome?_append]

theorem latest_append_of_isSome {front back : List HandleStep} (seen : (latest id back).isSome) :
    latest id (front ++ back) = latest id back := by
  obtain ⟨value, found⟩ := Option.isSome_iff_exists.mp seen
  rw [latest_append, found, Option.some_or]

theorem observes_eq_some : label.observes id = some value ↔
    ∃ sample, label = .observe sample ∧ sample.sensor.asStr = id ∧
      alertValue sample.reading = some value := by
  cases label with
  | observe sample =>
      simp only [HandleStep.observes, Option.ite_none_right_eq_some]
      constructor
      · intro found
        exact ⟨sample, rfl, found⟩
      · rintro ⟨_, same, found⟩
        cases same
        exact found
  | apply waiting outcome now wall => simp [HandleStep.observes]
  | upsertRule name expr forDuration cooldown notify enabled now => simp [HandleStep.observes]
  | deleteRule name => simp [HandleStep.observes]

end Latest

namespace AlertEngine

variable {engine : AlertEngine} {sample : Sample} {value : Ieee.Value}

theorem lookup_observe_values_self (numeric : alertValue sample.reading = some value) :
    (engine.observe sample).1.values.lookup sample.sensor.asStr = some value := by
  rw [observe_of_numeric numeric]
  exact AList.lookup_insert _

/-- A new sensor finds room, or stands beside referenced ones only. -/
theorem length_observe_le (absent : sample.sensor.asStr ∉ engine.values)
    (numeric : alertValue sample.reading = some value) :
    (engine.observe sample).1.values.entries.length ≤
      max valuesCap (engine.referenced.toFinset.card + 1) := by
  by_cases below : engine.values.entries.length < valuesCap
  · rw [length_observe_of_new absent below numeric]
    exact le_max_of_le_left below
  · apply le_max_of_le_right
    have among : ∀ id ∈ (engine.observe sample).1.values,
        id ∈ sample.sensor.asStr :: engine.referenced.dedup := by
      intro id present
      rcases mem_observe_of_full absent (Nat.le_of_not_lt below) numeric present
        with rfl | ⟨_, referenced⟩
      · exact List.mem_cons_self
      · exact List.mem_cons_of_mem _ (List.mem_dedup.mpr referenced)
    rw [List.card_toFinset]
    exact length_le_of_known among

end AlertEngine

namespace Handle

section Step

variable {handle next : Handle} {label : HandleStep} {id : String} {value : Ieee.Value}

/-- What a step observes is stored. -/
theorem lookup_of_observes (taken : Handle.step handle label = some next)
    (observed : label.observes id = some value) : next.engine.values.lookup id = some value := by
  obtain ⟨sample, rfl, rfl, numeric⟩ := observes_eq_some.mp observed
  obtain ⟨_, rfl⟩ := Run.enabled_eq_some.mp taken
  exact AlertEngine.lookup_observe_values_self numeric

/-- What a step does not observe is stored only where it was before. -/
theorem lookup_of_not_observes (taken : Handle.step handle label = some next)
    (other : label.observes id = none) (found : next.engine.values.lookup id = some value) :
    handle.engine.values.lookup id = some value := by
  rcases step_values_cases taken with ⟨sample, rfl, same⟩ | ⟨_, values, _⟩
  · rw [same] at found
    rcases AlertEngine.lookup_observe_values found with ⟨rfl, numeric⟩ | before
    · have observed := observes_eq_some.mpr ⟨sample, rfl, rfl, numeric⟩
      rw [other] at observed
      cases observed
    · exact before
  · rwa [values] at found

/-- The value of a referenced sensor stays. -/
theorem mem_values_of_referenced (taken : Handle.step handle label = some next)
    (referenced : id ∈ handle.engine.referenced) (present : id ∈ handle.engine.values) :
    id ∈ next.engine.values := by
  rcases step_values_cases taken with ⟨sample, _, same⟩ | ⟨_, values, _⟩
  · rw [same]
    exact AlertEngine.mem_observe_of_mem present (Or.inl referenced)
  · rwa [values]

end Step

/-- The sensor is referenced wherever the run passes after its first part. -/
def ReferencedSince (start : Handle) (front back : List HandleStep) (id : String) : Prop :=
  ∀ middle visited, Run.exec Handle.step start front = some middle →
    Run.Visits Handle.step middle back visited → id ∈ visited.engine.referenced

section Run

variable {rules : List CompiledRule} {labels : List HandleStep} {start handle : Handle}
  {id : String} {value : Ieee.Value}

/-- Along a run that references it throughout, a sensor that has a value, or gets one,
has one at the end. -/
theorem mem_values_of_run {middle : Handle} {back : List HandleStep}
    (run : Run.exec Handle.step middle back = some handle)
    (referenced : ∀ visited, Run.Visits Handle.step middle back visited →
      id ∈ visited.engine.referenced)
    (present : id ∈ middle.engine.values ∨ (latest id back).isSome) :
    id ∈ handle.engine.values := by
  induction back generalizing middle with
  | nil =>
      cases Option.some.inj run
      exact present.resolve_right (by simp)
  | cons label rest ih =>
      obtain ⟨next, taken, remaining⟩ := Run.exec_cons.mp run
      apply ih remaining
      · exact fun visited later => referenced visited (Run.Visits.cons taken later)
      · rcases present with before | seen
        · exact Or.inl (mem_values_of_referenced taken (referenced middle Run.Visits.first) before)
        · rw [← List.singleton_append, latest_append, Option.isSome_or, Bool.or_eq_true,
            latest_singleton] at seen
          rcases seen with later | first
          · exact Or.inr later
          · obtain ⟨value, observed⟩ := Option.isSome_iff_exists.mp first
            exact Or.inl (KeyMap.mem_of_lookup (lookup_of_observes taken observed))

/-- Every stored value is the latest one observed. -/
theorem latest_of_lookup (run : Run.exec Handle.step (Handle.start rules) labels = some handle)
    (found : handle.engine.values.lookup id = some value) : latest id labels = some value := by
  induction labels using List.reverseRecOn generalizing handle value with
  | nil =>
      cases Option.some.inj run
      cases found
  | append_singleton labels label ih =>
      obtain ⟨before, run, last⟩ := Run.exec_append.mp run
      obtain ⟨_, taken, same⟩ := Run.exec_cons.mp last
      cases Option.some.inj same
      rw [latest_append, latest_singleton]
      cases observed : label.observes id with
      | some seen =>
          have stored := lookup_of_observes taken observed
          rw [found] at stored
          rw [stored, Option.some_or]
      | none => exact ih run (lookup_of_not_observes taken observed found)

/-- Variables are the rewritten names of the sensors with values, one each. -/
theorem lookup_ctx_iff (run : Run.exec Handle.step (Handle.start rules) labels = some handle)
    (distinct : Set.InjOn rewriteDots {id | (latest id labels).isSome}) (name : String) :
    handle.engine.ctx.lookup name = some value ↔
      ∃ id, rewriteDots id = name ∧ handle.engine.values.lookup id = some value := by
  have binds := Handle.reaches_bindsValues ⟨labels, run⟩
  have seen : ∀ id ∈ handle.engine.values, (latest id labels).isSome := by
    intro id present
    obtain ⟨value, found⟩ := KeyMap.exists_lookup present
    rw [latest_of_lookup run found]
    rfl
  constructor
  · exact binds.sourced name value
  · rintro ⟨id, rfl, found⟩
    have present := KeyMap.mem_of_lookup found
    rw [← found]
    apply binds.lookup
    intro other among same
    exact distinct (seen other among) (seen id present) same

theorem lookup_eq_latest {front back : List HandleStep}
    (run : Run.exec Handle.step (Handle.start rules) (front ++ back) = some handle)
    (referenced : ReferencedSince (Handle.start rules) front back id)
    (seen : (latest id back).isSome) : handle.engine.values.lookup id = latest id back := by
  obtain ⟨middle, first, second⟩ := Run.exec_append.mp run
  have present := mem_values_of_run second (fun visited => referenced middle visited first)
    (Or.inr seen)
  obtain ⟨value, found⟩ := KeyMap.exists_lookup present
  rw [found, ← latest_of_lookup run found, latest_append_of_isSome seen]

end Run

/-- An observation that adds a sensor leaves the map within its cap, or the sensor
beside referenced ones only. -/
theorem length_le_of_added {handle next : Handle} {sample : Sample}
    (taken : Handle.step handle (.observe sample) = some next)
    (absent : sample.sensor.asStr ∉ handle.engine.values)
    (added : sample.sensor.asStr ∈ next.engine.values) :
    next.engine.values.entries.length ≤
      max valuesCap (handle.engine.referenced.toFinset.card + 1) := by
  obtain ⟨_, rfl⟩ := Run.enabled_eq_some.mp taken
  cases numeric : alertValue sample.reading with
  | some value => exact AlertEngine.length_observe_le absent numeric
  | none =>
      change sample.sensor.asStr ∈ (handle.engine.observe sample).1.values at added
      rw [AlertEngine.observe_of_other numeric] at added
      exact absurd added absent

theorem values_and_context_in_step {rules : List CompiledRule} {labels : List HandleStep}
    {handle : Handle} (run : Run.exec Handle.step (Handle.start rules) labels = some handle)
    (distinct : Set.InjOn rewriteDots {id | (latest id labels).isSome}) :
    (∀ name value, handle.engine.ctx.lookup name = some value ↔
      ∃ id, rewriteDots id = name ∧ handle.engine.values.lookup id = some value) ∧
    (∀ id value, handle.engine.values.lookup id = some value → latest id labels = some value) ∧
    (∀ id front back, labels = front ++ back →
      ReferencedSince (Handle.start rules) front back id → (latest id back).isSome →
      handle.engine.values.lookup id = latest id back) ∧
    (∀ sample next, Handle.step handle (.observe sample) = some next →
      sample.sensor.asStr ∉ handle.engine.values → sample.sensor.asStr ∈ next.engine.values →
      next.engine.values.entries.length ≤
        max valuesCap (handle.engine.referenced.toFinset.card + 1)) := by
  refine ⟨fun name value => lookup_ctx_iff run distinct name, ?_, ?_, ?_⟩
  · exact fun id value found => latest_of_lookup run found
  · rintro id front back rfl referenced seen
    exact lookup_eq_latest run referenced seen
  · exact fun sample next taken absent added => length_le_of_added taken absent added

/-- A rule is stored, then its sensor and another one are observed. -/
def hotRun : List HandleStep :=
  [.upsertRule "hot" "cpu.temp > 80" 0 0 [] none 0,
    .observe (scalarSample "cpu.temp" (.finite 85)), .observe (scalarSample "cpu.load" (.finite 1))]

theorem mem_of_latest_hotRun {id : String} (seen : (latest id hotRun).isSome) :
    id = "cpu.temp" ∨ id = "cpu.load" := by
  by_contra neither
  obtain ⟨first, second⟩ := not_or.mp neither
  simp [hotRun, latest, HandleStep.observes, scalarSample, Ne.symm first, Ne.symm second] at seen

theorem values_and_context_in_step_hotRun :
    ∃ handle, Run.exec Handle.step (Handle.start []) hotRun = some handle ∧
      (∀ value, handle.engine.ctx.lookup "cpu__load" = some value ↔
        ∃ id, rewriteDots id = "cpu__load" ∧ handle.engine.values.lookup id = some value) ∧
      handle.engine.values.lookup "cpu.temp" = some (.finite 85) := by
  have distinct : Set.InjOn rewriteDots {id | (latest id hotRun).isSome} := by
    intro one first two second same
    rcases mem_of_latest_hotRun first with rfl | rfl <;>
      rcases mem_of_latest_hotRun second with rfl | rfl
    · rfl
    · exact absurd same (by decide)
    · exact absurd same (by decide)
    · rfl
  obtain ⟨handle, run⟩ : ∃ handle, Run.exec Handle.step (Handle.start []) hotRun = some handle :=
    ⟨_, rfl⟩
  obtain ⟨context, _, kept, _⟩ := values_and_context_in_step run distinct
  refine ⟨handle, run, context "cpu__load", ?_⟩
  apply kept "cpu.temp" (hotRun.take 1) (hotRun.drop 1) rfl
  · intro middle visited first visits
    cases Option.some.inj first
    rcases Run.visits_cons visits with rfl | ⟨next, taken, later⟩
    · decide
    · cases Option.some.inj taken
      rcases Run.visits_cons later with rfl | ⟨next, taken, last⟩
      · decide
      · cases Option.some.inj taken
        obtain ⟨front, initial, run⟩ := last
        rw [List.prefix_nil.mp initial] at run
        cases Option.some.inj run
        decide
  · decide

end Handle

end LinSight.Alerts
