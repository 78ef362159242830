import LinSight.Alerts.Handle

set_option autoImplicit false

/-! The evaluation context beside the map of latest values. -/

namespace LinSight.Alerts

/-- Every sensor with a value has a variable, and every variable holds the value of
a sensor of its name. Two sensors may share a variable. -/
structure Bound (values : KeyMap String Ieee.Value) (ctx : Context) : Prop where
  defined : ∀ id, id ∈ values → rewriteDots id ∈ ctx
  sourced : ∀ name value, ctx.lookup name = some value →
    ∃ id, rewriteDots id = name ∧ values.lookup id = some value

/-- No other sensor with a value has the rewritten name of `name`. -/
def Unshared (values : KeyMap String Ieee.Value) (name : String) : Prop :=
  ∀ id, id ∈ values → rewriteDots id = rewriteDots name → id = name

section Bound

variable {values : KeyMap String Ieee.Value} {ctx : Context}

theorem Bound.lookup (bound : Bound values ctx) {name : String} (unshared : Unshared values name) :
    ctx.lookup (rewriteDots name) = values.lookup name := by
  cases found : ctx.lookup (rewriteDots name) with
  | some value =>
      obtain ⟨id, same, stored⟩ := bound.sourced _ _ found
      have identical := unshared id (KeyMap.mem_of_lookup stored) same
      rw [← identical, stored]
  | none =>
      have absent : name ∉ values := by
        intro present
        have defined := AList.lookup_isSome.mpr (bound.defined name present)
        rw [found] at defined
        cases defined
      exact (AList.lookup_eq_none.mpr absent).symm

theorem Bound.empty : Bound ∅ ∅ := by
  refine ⟨?_, ?_⟩
  · intro id present
    exact absurd present (AList.notMem_empty id)
  · intro name value found
    cases found

/-- Binding a sensor's value writes both maps alike. -/
theorem Bound.bind (bound : Bound values ctx) (id : String) (value : Ieee.Value) :
    Bound (values.insert id value) (ctx.insert (rewriteDots id) value) := by
  refine ⟨?_, ?_⟩
  · intro other present
    rw [AList.mem_insert] at present ⊢
    rcases present with rfl | before
    · exact Or.inl rfl
    · exact Or.inr (bound.defined other before)
  · intro name stored found
    rw [KeyMap.lookup_insert_eq] at found
    split at found
    · rename_i same
      exact ⟨id, same.symm, by rw [AList.lookup_insert, found]⟩
    · rename_i differs
      obtain ⟨other, named, kept⟩ := bound.sourced name stored found
      refine ⟨other, named, ?_⟩
      have other_ne : other ≠ id := by
        rintro rfl
        exact differs named.symm
      rw [AList.lookup_insert_ne other_ne, kept]

/-- Entries bound one after another: each is defined, and what is bound is one of
them or was bound before. -/
theorem foldl_insert_dots (entries : List (Sigma fun _ : String => Ieee.Value)) (ctx : Context) :
    let bound := entries.foldl (fun ctx entry => ctx.insert (rewriteDots entry.1) entry.2) ctx
    (∀ name ∈ ctx, name ∈ bound) ∧ (∀ entry ∈ entries, rewriteDots entry.1 ∈ bound) ∧
      ∀ name value, bound.lookup name = some value →
        (∃ entry ∈ entries, rewriteDots entry.1 = name ∧ entry.2 = value) ∨
          ctx.lookup name = some value := by
  have present (name : String) (found : (∃ entry ∈ entries, rewriteDots entry.1 = name) ∨
      name ∈ ctx) := @KeyMap.mem_foldl_insert String Ieee.Value _ (Sigma fun _ => Ieee.Value)
    (fun entry => rewriteDots entry.1) (fun entry => entry.2) entries ctx name found
  refine ⟨fun name before => present name (.inr before),
    fun entry member => present _ (.inl ⟨entry, member, rfl⟩), fun name value found => ?_⟩
  exact @KeyMap.of_lookup_foldl_insert String Ieee.Value _ (Sigma fun _ => Ieee.Value)
    (fun entry => rewriteDots entry.1) (fun entry => entry.2) entries ctx name value found

theorem Bound.rebuilt (values : KeyMap String Ieee.Value) :
    Bound values (AlertEngine.rebuiltContext values) := by
  obtain ⟨_, defined, sourced⟩ := foldl_insert_dots values.entries ∅
  refine ⟨?_, ?_⟩
  · intro id present
    obtain ⟨value, stored⟩ := KeyMap.exists_lookup present
    exact defined ⟨id, value⟩ ((KeyMap.mem_entries_iff values id value).mpr stored)
  · intro name value found
    rcases sourced name value found with ⟨entry, member, named, same⟩ | none_before
    · refine ⟨entry.1, named, ?_⟩
      rw [← KeyMap.mem_entries_iff, ← same]
      exact member
    · cases none_before

end Bound

namespace AlertEngine

variable {engine : AlertEngine}

def BindsValues (engine : AlertEngine) : Prop := Bound engine.values engine.ctx

theorem BindsValues.prune (binds : engine.BindsValues) :
    engine.pruneUnreferencedValues.BindsValues := by
  simp only [BindsValues, pruneUnreferencedValues]
  split
  · exact Bound.rebuilt _
  · rename_i all_kept
    have same : KeyMap.retain (fun id _ => engine.referenced.contains id) engine.values =
        engine.values := by
      apply AList.ext
      exact List.Sublist.eq_of_length_le List.filter_sublist (Nat.le_of_not_lt all_kept)
    simp only [same]
    exact binds

theorem BindsValues.observe (binds : engine.BindsValues) (sample : Sample) :
    (engine.observe sample).1.BindsValues := by
  unfold AlertEngine.observe
  split
  · exact binds
  · rename_i value _
    have room : (engine.makeRoom sample.sensor.asStr).BindsValues := by
      unfold makeRoom
      split
      · exact binds.prune
      · exact binds
    exact Bound.bind room sample.sensor.asStr value

/-- A stored value is the one observed or was stored before. -/
theorem lookup_observe_values {sample : Sample} {id : String} {value : Ieee.Value}
    (found : (engine.observe sample).1.values.lookup id = some value) :
    (id = sample.sensor.asStr ∧ alertValue sample.reading = some value) ∨
      engine.values.lookup id = some value := by
  unfold AlertEngine.observe at found
  split at found
  · exact Or.inr found
  · rename_i observed reading
    simp only [bind, KeyMap.lookup_insert_eq] at found
    split at found
    · rename_i same
      exact Or.inl ⟨same, reading.trans found⟩
    · right
      simp only [makeRoom, pruneUnreferencedValues] at found
      split at found
      · have kept : (KeyMap.retain (fun id _ => engine.referenced.contains id)
            engine.values).lookup id = some value := by
          split at found <;> exact found
        rw [KeyMap.lookup_retain, Option.filter_eq_some_iff] at kept
        exact kept.1
      · exact found

/-- Only the observed sensor gets a value that it did not have. -/
theorem mem_observe_values {sample : Sample} {id : String}
    (present : id ∈ (engine.observe sample).1.values) :
    id = sample.sensor.asStr ∨ id ∈ engine.values := by
  obtain ⟨value, found⟩ := KeyMap.exists_lookup present
  rcases lookup_observe_values found with ⟨same, _⟩ | before
  · exact Or.inl same
  · exact Or.inr (KeyMap.mem_of_lookup before)

end AlertEngine

section Observed

/-- The engine after samples observed one after another. -/
def AlertEngine.observed (engine : AlertEngine) (samples : List Sample) : AlertEngine :=
  samples.foldl (fun engine sample => (engine.observe sample).1) engine

def observeAll (rules : List CompiledRule) (samples : List Sample) : AlertEngine :=
  (AlertEngine.new rules).observed samples

theorem observeAll_append (rules : List CompiledRule) (samples : List Sample) (sample : Sample) :
    observeAll rules (samples ++ [sample]) = ((observeAll rules samples).observe sample).1 := by
  simp [observeAll, AlertEngine.observed]

theorem observeAll_bindsValues (rules : List CompiledRule) (samples : List Sample) :
    (observeAll rules samples).BindsValues := by
  induction samples using List.reverseRecOn with
  | nil => exact Bound.empty
  | append_singleton samples sample ih =>
      rw [observeAll_append]
      exact ih.observe sample

/-- Every stored value was observed. -/
theorem lookup_observeAll {rules : List CompiledRule} {samples : List Sample} {id : String}
    {value : Ieee.Value} (found : (observeAll rules samples).values.lookup id = some value) :
    ∃ sample ∈ samples, sample.sensor.asStr = id ∧ alertValue sample.reading = some value := by
  induction samples using List.reverseRecOn with
  | nil => cases found
  | append_singleton samples sample ih =>
      rw [observeAll_append] at found
      rcases AlertEngine.lookup_observe_values found with ⟨same, reading⟩ | before
      · exact ⟨sample, List.mem_append_right _ List.mem_cons_self, same.symm, reading⟩
      · obtain ⟨earlier, member, named, reading⟩ := ih before
        exact ⟨earlier, List.mem_append_left _ member, named, reading⟩

/-- Only sensors that were observed have values. -/
theorem mem_observeAll {rules : List CompiledRule} {samples : List Sample} {id : String}
    (present : id ∈ (observeAll rules samples).values) :
    ∃ sample ∈ samples, sample.sensor.asStr = id := by
  obtain ⟨value, found⟩ := KeyMap.exists_lookup present
  obtain ⟨sample, member, named, _⟩ := lookup_observeAll found
  exact ⟨sample, member, named⟩

def scalarSample (id : String) (value : Ieee.Value) : Sample := ⟨⟨id⟩, 0, .scalar value⟩

/-- With room for it, a scalar sample is bound and nothing else changes. -/
theorem observe_scalar {engine : AlertEngine} (id : String) (value : Ieee.Value)
    (room : engine.values.entries.length < valuesCap) :
    (engine.observe (scalarSample id value)).1 = engine.bind id value := by
  have full : ¬ (id ∉ engine.values ∧ valuesCap ≤ engine.values.entries.length) := by omega
  simp only [AlertEngine.observe, scalarSample, alertValue, AlertEngine.makeRoom, full, ↓reduceIte]

theorem observeAll_single (id : String) (value : Ieee.Value) :
    observeAll [] [scalarSample id value] = (AlertEngine.new []).bind id value :=
  observe_scalar id value (by decide)

theorem observeAll_pair (first second : String) (one two : Ieee.Value) :
    observeAll [] [scalarSample first one, scalarSample second two] =
      ((AlertEngine.new []).bind first one).bind second two := by
  change ((observeAll [] [scalarSample first one]).observe (scalarSample second two)).1 = _
  rw [observeAll_single]
  apply observe_scalar
  change 1 < 4096
  omega

end Observed

/-- Only an observation writes values or variables. -/
theorem Handle.step_values_cases {handle next : Handle} {label : HandleStep}
    (taken : Handle.step handle label = some next) :
    (∃ sample, label = .observe sample ∧ next.engine = (handle.engine.observe sample).1) ∨
      (∀ sample, label ≠ .observe sample) ∧ next.engine.values = handle.engine.values ∧
        next.engine.ctx = handle.engine.ctx := by
  cases label with
  | observe sample =>
      obtain ⟨_, rfl⟩ := Run.enabled_eq_some.mp taken
      exact Or.inl ⟨sample, rfl, rfl⟩
  | apply waiting outcome now wall =>
      right
      obtain ⟨pending, _, enabled⟩ := Option.bind_eq_some_iff.mp taken
      obtain ⟨_, rfl⟩ := Run.enabled_eq_some.mp enabled
      refine ⟨fun _ => HandleStep.noConfusion, ?_⟩
      cases found : handle.engine.rules[pending.job.idx]? with
      | none =>
          rw [Handle.applyOutcome_of_missing found]
          exact ⟨rfl, rfl⟩
      | some rule =>
          rw [Handle.applyOutcome_of_found found]
          exact ⟨AlertEngine.settled_values, AlertEngine.settled_ctx⟩
  | upsertRule name expr forDuration cooldown notify enabled now =>
      right
      obtain ⟨_, rfl⟩ := Run.enabled_eq_some.mp taken
      refine ⟨fun _ => HandleStep.noConfusion, ?_⟩
      simp only [Handle.upsertRule]
      split <;> simp
  | deleteRule name =>
      right
      obtain ⟨_, rfl⟩ := Run.enabled_eq_some.mp taken
      exact ⟨fun _ => HandleStep.noConfusion, rfl, rfl⟩

theorem Handle.step_bindsValues {handle next : Handle} {label : HandleStep}
    (taken : Handle.step handle label = some next) (binds : handle.engine.BindsValues) :
    next.engine.BindsValues := by
  rcases Handle.step_values_cases taken with ⟨sample, _, same⟩ | ⟨_, values, ctx⟩
  · rw [same]
    exact binds.observe sample
  · rw [AlertEngine.BindsValues, values, ctx]
    exact binds

/-- In every state that the handle reaches, variables hold the values of sensors. -/
theorem Handle.reaches_bindsValues {rules : List CompiledRule} {handle : Handle}
    (reached : Run.Reaches Handle.step (Handle.start rules) handle) :
    handle.engine.BindsValues :=
  reached.invariant (fun _ _ _ taken => Handle.step_bindsValues taken) Bound.empty

end LinSight.Alerts
