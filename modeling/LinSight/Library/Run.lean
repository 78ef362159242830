import Mathlib.Init

set_option autoImplicit false

/-! Finite runs of a labelled transition function; `none` marks a label that is
not enabled in the state. -/

namespace Run

variable {σ α : Type}

/-- Take the labels one after another. -/
def exec (step : σ → α → Option σ) : σ → List α → Option σ
  | state, [] => some state
  | state, label :: rest => (step state label).bind fun next => exec step next rest

/-- The step to `next` where the guard holds. -/
def enabled (guard : Prop) [Decidable guard] (next : σ) : Option σ :=
  if guard then some next else none

/-- A state that some run leads to. -/
def Reaches (step : σ → α → Option σ) (start state : σ) : Prop :=
  ∃ labels, exec step start labels = some state

theorem Reaches.of_isSome {step : σ → α → Option σ} {start : σ} {labels : List α}
    (ran : (exec step start labels).isSome = true) :
    Reaches step start ((exec step start labels).get ran) :=
  ⟨labels, (Option.some_get ran).symm⟩

/-- Every label of the run meets `allowed` in the state it is taken in. -/
def Always (step : σ → α → Option σ) (allowed : σ → α → Prop) : σ → List α → Prop
  | _, [] => True
  | state, label :: rest => allowed state label ∧
      ∀ next, step state label = some next → Always step allowed next rest

/-- A state that the run passes through, its first and last included. -/
def Visits (step : σ → α → Option σ) (start : σ) (labels : List α) (state : σ) : Prop :=
  ∃ front, front <+: labels ∧ exec step start front = some state

@[simp] theorem enabled_eq_some {guard : Prop} [Decidable guard] {state next : σ} :
    enabled guard state = some next ↔ guard ∧ state = next := by
  unfold enabled
  split
  · rename_i holds
    simp only [holds, true_and, Option.some.injEq]
  · rename_i fails
    simp only [fails, false_and, reduceCtorEq]

@[simp] theorem exec_nil (step : σ → α → Option σ) (state : σ) :
    exec step state [] = some state := rfl

theorem exec_cons {step : σ → α → Option σ} {state final : σ} {label : α} {rest : List α} :
    exec step state (label :: rest) = some final ↔
      ∃ next, step state label = some next ∧ exec step next rest = some final :=
  Option.bind_eq_some_iff

theorem exec_append {step : σ → α → Option σ} {state final : σ} {front back : List α} :
    exec step state (front ++ back) = some final ↔
      ∃ middle, exec step state front = some middle ∧ exec step middle back = some final := by
  induction front generalizing state with
  | nil => simp
  | cons label rest ih =>
      simp only [List.cons_append, exec_cons, ih]
      constructor
      · rintro ⟨next, taken, middle, first, second⟩
        exact ⟨middle, ⟨next, taken, first⟩, second⟩
      · rintro ⟨middle, ⟨next, taken, first⟩, second⟩
        exact ⟨next, taken, middle, first, second⟩

/-- What every step preserves, every run preserves. -/
theorem exec_invariant {step : σ → α → Option σ} {inv : σ → Prop}
    (preserved : ∀ state label next, step state label = some next → inv state → inv next)
    {start final : σ} {labels : List α} (run : exec step start labels = some final)
    (initial : inv start) : inv final := by
  induction labels generalizing start with
  | nil => exact Option.some.inj run ▸ initial
  | cons label rest ih =>
      obtain ⟨next, taken, remaining⟩ := exec_cons.mp run
      exact ih remaining (preserved start label next taken initial)

theorem Reaches.invariant {step : σ → α → Option σ} {inv : σ → Prop}
    (preserved : ∀ state label next, step state label = some next → inv state → inv next)
    {start state : σ} (reached : Reaches step start state) (initial : inv start) : inv state := by
  obtain ⟨labels, run⟩ := reached
  exact exec_invariant preserved run initial

theorem Reaches.step {step : σ → α → Option σ} {start state next : σ} {label : α}
    (reached : Reaches step start state) (taken : step state label = some next) :
    Reaches step start next := by
  obtain ⟨labels, run⟩ := reached
  exact ⟨labels ++ [label], exec_append.mpr ⟨state, run, exec_cons.mpr ⟨next, taken, rfl⟩⟩⟩

theorem Always.of_forall {step : σ → α → Option σ} {allowed : σ → α → Prop} {labels : List α}
    (each : ∀ label ∈ labels, ∀ state, allowed state label) (start : σ) :
    Always step allowed start labels := by
  induction labels generalizing start with
  | nil => trivial
  | cons label rest ih =>
      refine ⟨each label List.mem_cons_self start, fun next _ => ?_⟩
      exact ih (fun other member => each other (List.mem_cons_of_mem _ member)) next

theorem Always.and {step : σ → α → Option σ} {first second : σ → α → Prop} {labels : List α}
    {start : σ} (one : Always step first start labels) (two : Always step second start labels) :
    Always step (fun state label => first state label ∧ second state label) start labels := by
  induction labels generalizing start with
  | nil => trivial
  | cons label rest ih =>
      refine ⟨⟨one.1, two.1⟩, fun next taken => ?_⟩
      exact ih (one.2 next taken) (two.2 next taken)

/-- A condition on the whole run is one on its front and on its last step. -/
theorem always_concat {step : σ → α → Option σ} {allowed : σ → α → Prop} {front : List α}
    {label : α} {start middle : σ} (run : exec step start front = some middle) :
    Always step allowed start (front ++ [label]) ↔
      Always step allowed start front ∧ allowed middle label := by
  induction front generalizing start with
  | nil =>
      cases Option.some.inj run
      exact ⟨fun always => ⟨trivial, always.1⟩, fun both => ⟨both.2, fun _ _ => trivial⟩⟩
  | cons first rest ih =>
      obtain ⟨next, taken, remaining⟩ := exec_cons.mp run
      constructor
      · rintro ⟨here, later⟩
        obtain ⟨kept, last⟩ := (ih remaining).mp (later next taken)
        refine ⟨⟨here, fun other same => ?_⟩, last⟩
        rw [taken] at same
        exact Option.some.inj same ▸ kept
      · rintro ⟨⟨here, kept⟩, last⟩
        refine ⟨here, fun other same => ?_⟩
        rw [taken] at same
        exact Option.some.inj same ▸ (ih remaining).mpr ⟨kept next taken, last⟩

/-- Where an invariant makes two conditions one, a run meets both or neither. -/
theorem always_iff_of_invariant {step : σ → α → Option σ} {inv : σ → Prop}
    {first second : σ → α → Prop}
    (preserved : ∀ state label next, step state label = some next → inv state → inv next)
    (same : ∀ state label, inv state → (first state label ↔ second state label))
    {start : σ} {labels : List α} (initial : inv start) :
    Always step first start labels ↔ Always step second start labels := by
  induction labels generalizing start with
  | nil => exact Iff.rfl
  | cons label rest ih =>
      refine and_congr (same start label initial) ?_
      refine forall_congr' fun next => forall_congr' fun taken => ?_
      exact ih (preserved start label next taken initial)

/-- Evaluate a test along a run. -/
def check (step : σ → α → Option σ) (test : σ → α → Bool) : σ → List α → Bool
  | _, [] => true
  | state, label :: rest =>
      test state label && (step state label).all fun next => check step test next rest

/-- A test that implies `allowed` establishes it along a concrete run. -/
theorem Always.of_check {step : σ → α → Option σ} {allowed : σ → α → Prop} {test : σ → α → Bool}
    (sound : ∀ state label, test state label = true → allowed state label) {labels : List α}
    {start : σ} (passed : check step test start labels = true) :
    Always step allowed start labels := by
  induction labels generalizing start with
  | nil => trivial
  | cons label rest ih =>
      obtain ⟨here, later⟩ := (Bool.and_eq_true _ _).mp passed
      refine ⟨sound start label here, fun next taken => ih ?_⟩
      rw [taken] at later
      exact later

/-- What every allowed step preserves, every run of allowed steps preserves. -/
theorem exec_invariant_of_always {step : σ → α → Option σ} (inv : σ → Prop)
    {allowed : σ → α → Prop}
    (preserved : ∀ state label next, step state label = some next → allowed state label →
      inv state → inv next)
    {start final : σ} {labels : List α} (run : exec step start labels = some final)
    (always : Always step allowed start labels) (initial : inv start) : inv final := by
  induction labels generalizing start with
  | nil => exact Option.some.inj run ▸ initial
  | cons label rest ih =>
      obtain ⟨next, taken, remaining⟩ := exec_cons.mp run
      exact ih remaining (always.2 next taken)
        (preserved start label next taken always.1 initial)

section Visits

variable {step : σ → α → Option σ} {start state : σ} {label : α} {rest labels : List α}

theorem Visits.first : Visits step start labels start := ⟨[], List.nil_prefix, rfl⟩

theorem Visits.cons {next : σ} (taken : step start label = some next)
    (visited : Visits step next rest state) : Visits step start (label :: rest) state := by
  obtain ⟨front, initial, run⟩ := visited
  exact ⟨label :: front, List.cons_prefix_cons.mpr ⟨rfl, initial⟩,
    exec_cons.mpr ⟨next, taken, run⟩⟩

theorem visits_cons (visited : Visits step start (label :: rest) state) :
    state = start ∨ ∃ next, step start label = some next ∧ Visits step next rest state := by
  obtain ⟨front, initial, run⟩ := visited
  cases front with
  | nil => exact .inl (Option.some.inj run).symm
  | cons first front =>
      obtain ⟨rfl, shorter⟩ := List.cons_prefix_cons.mp initial
      obtain ⟨next, taken, run⟩ := exec_cons.mp run
      exact .inr ⟨next, taken, front, shorter, run⟩

theorem Visits.last (run : exec step start labels = some state) : Visits step start labels state :=
  ⟨labels, List.prefix_rfl, run⟩

theorem Visits.extend (visited : Visits step start labels state) (more : List α) :
    Visits step start (labels ++ more) state := by
  obtain ⟨front, initial, run⟩ := visited
  exact ⟨front, initial.trans (List.prefix_append labels more), run⟩

theorem visits_concat (visited : Visits step start (labels ++ [label]) state) :
    Visits step start labels state ∨ exec step start (labels ++ [label]) = some state := by
  obtain ⟨front, initial, run⟩ := visited
  rcases List.prefix_concat_iff.mp initial with rfl | shorter
  · exact .inr run
  · exact .inl ⟨front, shorter, run⟩

/-- Where the allowed steps are those that keep a property, the runs of allowed steps
are those that keep it. -/
theorem visits_iff_always {inv good : σ → Prop} {allowed : σ → α → Prop}
    (preserved : ∀ state label next, step state label = some next → inv state → inv next)
    (idle : ∀ state label, step state label = none → allowed state label)
    (exact_step : ∀ state label next, step state label = some next → inv state → good state →
      (good next ↔ allowed state label))
    (invariant : inv start) (initial : good start) :
    (∀ state, Visits step start labels state → good state) ↔
      Always step allowed start labels := by
  induction labels generalizing start with
  | nil =>
      constructor
      · intro _
        trivial
      · intro _ state visited
        obtain ⟨front, prefix_nil, run⟩ := visited
        rw [List.prefix_nil.mp prefix_nil] at run
        exact Option.some.inj run ▸ initial
  | cons label rest ih =>
      constructor
      · intro all
        constructor
        · cases taken : step start label with
          | none => exact idle start label taken
          | some next =>
              apply (exact_step start label next taken invariant initial).mp
              exact all next (Visits.cons taken Visits.first)
        · intro next taken
          have kept := all next (Visits.cons taken Visits.first)
          apply (ih (preserved start label next taken invariant) kept).mp
          intro state visited
          exact all state (Visits.cons taken visited)
      · intro always state visited
        rcases visits_cons visited with rfl | ⟨next, taken, later⟩
        · exact initial
        · have kept := (exact_step start label next taken invariant initial).mpr always.1
          have rest_kept := (ih (preserved start label next taken invariant) kept).mpr
          exact rest_kept (always.2 next taken) state later

/-- Where the settled states of a run are good and the steps into the others keep a state good,
all states of the run are good. -/
theorem visits_of_settled {settled good : σ → Prop}
    (keep : ∀ state label next, step state label = some next → good state → ¬ settled next →
      good next)
    (initial : good start)
    (all : ∀ state, Visits step start labels state → settled state → good state) :
    ∀ state, Visits step start labels state → good state := by
  induction labels generalizing start with
  | nil =>
      rintro state ⟨front, prefix_nil, run⟩
      rw [List.prefix_nil.mp prefix_nil] at run
      exact Option.some.inj run ▸ initial
  | cons label rest ih =>
      intro state visited
      rcases visits_cons visited with rfl | ⟨next, taken, later⟩
      · exact initial
      · have kept : good next := by
          by_cases reached : settled next
          · exact all next (Visits.cons taken Visits.first) reached
          · exact keep start label next taken initial reached
        exact ih kept (fun state visited => all state (Visits.cons taken visited)) state later

end Visits

section Since

variable {step : σ → α → Option σ} {mark allowed : σ → α → Prop}

/-- Some step of the run meets `mark`, and every step behind it is allowed. -/
def Since (step : σ → α → Option σ) (mark allowed : σ → α → Prop) : σ → List α → Prop
  | _, [] => False
  | state, label :: rest => ∃ next, step state label = some next ∧
      (mark state label ∧ Always step allowed next rest ∨ Since step mark allowed next rest)

/-- What each step either keeps, if it is allowed, or establishes, if it meets `mark`, holds at the
end of a run where nothing spoils it behind the start or behind the last step that meets `mark`. -/
theorem exec_iff_since (good : σ → Prop)
    (exact_step : ∀ state label next, step state label = some next →
      (good next ↔ good state ∧ allowed state label ∨ mark state label))
    {start final : σ} {labels : List α} (run : exec step start labels = some final) :
    good final ↔ good start ∧ Always step allowed start labels ∨
      Since step mark allowed start labels := by
  induction labels generalizing start with
  | nil =>
      cases Option.some.inj run
      exact ⟨fun holds => .inl ⟨holds, trivial⟩, fun either => either.elim (·.1) False.elim⟩
  | cons label rest ih =>
      obtain ⟨next, taken, remaining⟩ := exec_cons.mp run
      have one (other : σ) (same : step start label = some other) : other = next :=
        Option.some.inj (same.symm.trans taken)
      rw [ih remaining, exact_step start label next taken]
      constructor
      · rintro (⟨⟨holds, permitted⟩ | marked, later⟩ | since)
        · exact .inl ⟨holds, permitted, fun other same => one other same ▸ later⟩
        · exact .inr ⟨next, taken, .inl ⟨marked, later⟩⟩
        · exact .inr ⟨next, taken, .inr since⟩
      · rintro (⟨holds, permitted, later⟩ | ⟨other, same, ⟨marked, later⟩ | since⟩)
        · exact .inl ⟨.inl ⟨holds, permitted⟩, later next taken⟩
        · exact .inl ⟨.inr marked, one other same ▸ later⟩
        · exact .inr (one other same ▸ since)

end Since

/-- Where the allowed steps keep a state fine, the others doom it and no step saves it again,
a run ends in a fine state where all its steps are allowed, and else in a doomed one. -/
theorem exec_fine_or_doomed {step : σ → α → Option σ} {fine doomed : σ → Prop}
    {allowed : σ → α → Prop}
    (keep : ∀ state label next, step state label = some next → fine state →
      allowed state label → fine next)
    (fall : ∀ state label next, step state label = some next → fine state →
      ¬ allowed state label → doomed next)
    (stay : ∀ state label next, step state label = some next → doomed state → doomed next)
    {start final : σ} {labels : List α} (run : exec step start labels = some final)
    (initial : fine start) :
    Always step allowed start labels ∧ fine final ∨
      ¬ Always step allowed start labels ∧ doomed final := by
  induction labels generalizing start with
  | nil => exact .inl ⟨trivial, Option.some.inj run ▸ initial⟩
  | cons label rest ih =>
      obtain ⟨next, taken, remaining⟩ := exec_cons.mp run
      by_cases permitted : allowed start label
      · have always_iff : Always step allowed start (label :: rest) ↔
            Always step allowed next rest := by
          refine ⟨fun always => always.2 next taken, fun always => ⟨permitted, ?_⟩⟩
          intro other same
          rw [taken, Option.some.injEq] at same
          exact same ▸ always
        rw [always_iff]
        exact ih remaining (keep start label next taken initial permitted)
      · refine .inr ⟨fun always => permitted always.1, ?_⟩
        exact exec_invariant stay remaining (fall start label next taken initial permitted)

end Run
