import LinSight.Alerts.Handle

set_option autoImplicit false

/-! Jobs carry a position in the rule list, and edits land before their outcomes. -/

namespace LinSight.Alerts

/-- No deletion takes a rule at the position of a waiting job or before it, and no
upsert changes the expression of the rule there. -/
def EditsSafely (handle : Handle) : HandleStep → Prop
  | .deleteRule name => ∀ pending ∈ handle.pending,
      ∀ rule ∈ handle.engine.rules.take (pending.job.idx + 1), rule.name ≠ name
  | .upsertRule name expr _ _ _ _ _ => ∀ pending ∈ handle.pending,
      handle.engine.rules.findIdx? (·.name = name) = some pending.job.idx → pending.expr = expr
  | _ => True

instance (handle : Handle) : (label : HandleStep) → Decidable (EditsSafely handle label)
  | .deleteRule _ => inferInstanceAs (Decidable (∀ pending ∈ handle.pending, _))
  | .upsertRule _ _ _ _ _ _ _ => inferInstanceAs (Decidable (∀ pending ∈ handle.pending, _))
  | .observe _ | .apply _ _ _ _ => .isTrue trivial

/-- The outcome of a job goes to the rule it was computed for, or nowhere. -/
structure AppliesToOwner (before : Handle) (pending : Pending) (outcome : EvalOutcome)
    (now : Nat) (after : Handle) : Prop where
  survives : after.poisoned = false
  owned : pending.intact = true → ∃ position rule,
    before.ids[position]? = some pending.owner ∧
    before.engine.rules[position]? = some rule ∧ rule.expr = pending.expr ∧
    after.engine.rules = before.engine.rules.set position (rule.settle outcome now).1 ∧
    ∀ event ∈ after.engine.events, event ∈ before.engine.events ∨ event.rule = rule.name
  dropped : pending.intact = false → after.engine = before.engine

/-- A waiting job still points at the rule it came from. -/
structure Pending.Points (handle : Handle) (pending : Pending) : Prop where
  intact : pending.intact = true
  owner : handle.ids[pending.job.idx]? = some pending.owner
  expr : (handle.engine.rules[pending.job.idx]?).map CompiledRule.expr = some pending.expr

/-- Every waiting job points at its rule, and the rules' numbers tell them apart. -/
structure Pointed (handle : Handle) : Prop where
  unpoisoned : handle.poisoned = false
  aligned : handle.ids.length = handle.engine.rules.length
  distinct : handle.ids.Nodup
  numbered : ∀ id ∈ handle.ids, id < handle.nextId
  pending : ∀ pending ∈ handle.pending, pending.Points handle

section Prefix

variable {α : Type} {keep : α → Bool} {entries : List α} {position : Nat}

/-- A filter that keeps a whole prefix keeps its positions. -/
theorem getElem?_filter_of_kept
    (kept : ∀ entry ∈ entries.take (position + 1), keep entry = true) :
    (entries.filter keep)[position]? = entries[position]? := by
  induction entries generalizing position with
  | nil => rfl
  | cons entry rest ih =>
      rw [List.take_succ_cons] at kept
      have first := kept entry List.mem_cons_self
      rw [List.filter_cons_of_pos first]
      cases position with
      | zero => rfl
      | succ position =>
          simp only [List.getElem?_cons_succ]
          exact ih fun other member => kept other (List.mem_cons_of_mem _ member)

end Prefix

variable {handle next : Handle}

/-- A job is that of an enabled rule that mentions the sensor. -/
theorem mem_jobsFor_iff {engine : AlertEngine} {id : String} {job : EvalJob} :
    job ∈ engine.jobsFor id ↔ ∃ rule, engine.rules[job.idx]? = some rule ∧
      rule.enabled = true ∧ id ∈ rule.referencedSensors ∧
      job = ⟨job.idx, rule.rewrittenExpr, engine.ctx⟩ := by
  unfold AlertEngine.jobsFor
  rw [List.mem_filterMap]
  constructor
  · rintro ⟨⟨rule, idx⟩, numbered, made⟩
    have there := List.mem_zipIdx_iff_getElem?.mp numbered
    simp only [Option.ite_none_right_eq_some, Option.some.injEq, Bool.and_eq_true,
      List.contains_iff_mem] at made
    obtain ⟨⟨enabled, mentions⟩, rfl⟩ := made
    exact ⟨rule, there, enabled, mentions, rfl⟩
  · rintro ⟨rule, there, enabled, mentions, same⟩
    refine ⟨(rule, job.idx), List.mem_zipIdx_iff_getElem?.mpr there, ?_⟩
    simp only [enabled, List.contains_iff_mem.mpr mentions, Bool.and_self, ↓reduceIte]
    exact congrArg some same.symm

theorem mem_jobsFor {engine : AlertEngine} {id : String} {job : EvalJob}
    (member : job ∈ engine.jobsFor id) :
    ∃ rule, engine.rules[job.idx]? = some rule ∧ rule.rewrittenExpr = job.rewrittenExpr := by
  obtain ⟨rule, there, _, _, same⟩ := mem_jobsFor_iff.mp member
  rw [same]
  exact ⟨rule, there, rfl⟩

theorem mem_observe {engine : AlertEngine} {sample : Sample} {job : EvalJob}
    (member : job ∈ (engine.observe sample).2) :
    ∃ rule, engine.rules[job.idx]? = some rule ∧ rule.rewrittenExpr = job.rewrittenExpr := by
  rw [← (observe_frame engine sample).1]
  unfold AlertEngine.observe at member ⊢
  split at member
  · cases member
  · exact mem_jobsFor member

namespace Pointed

theorem start (rules : List CompiledRule) : Pointed (Handle.start rules) where
  unpoisoned := rfl
  aligned := List.length_range
  distinct := List.nodup_range
  numbered := fun _ member => List.mem_range.mp member
  pending := by
    intro pending member
    cases member

theorem observed (pointed : Pointed handle) (sample : Sample) :
    Pointed (handle.observe sample) := by
  have rules := (observe_frame handle.engine sample).1
  refine ⟨pointed.unpoisoned, ?_, pointed.distinct, pointed.numbered, ?_⟩
  · exact pointed.aligned.trans (congrArg List.length rules.symm)
  · intro pending member
    rcases List.mem_append.mp member with before | collected
    · have points := pointed.pending pending before
      exact ⟨points.intact, points.owner, rules.symm ▸ points.expr⟩
    · obtain ⟨job, made, rfl⟩ := List.mem_map.mp collected
      obtain ⟨rule, found, _⟩ := mem_observe made
      have inside : job.idx < handle.ids.length := by
        rw [pointed.aligned]
        exact (List.getElem?_eq_some_iff.mp found).1
      refine ⟨rfl, ?_, ?_⟩
      · simp [Handle.observe, Handle.collect, inside]
      · simp only [Handle.observe, rules, Handle.collect, found]
        rfl

theorem applied (pointed : Pointed handle) {waiting now wall : Nat} {pending : Pending}
    {outcome : EvalOutcome} (waits : handle.pending[waiting]? = some pending) :
    Pointed (handle.applyOutcome waiting pending outcome now wall) ∧
      AppliesToOwner handle pending outcome now
        (handle.applyOutcome waiting pending outcome now wall) := by
  have points := pointed.pending pending (List.mem_of_getElem? waits)
  obtain ⟨rule, found, expr⟩ := Option.map_eq_some_iff.mp points.expr
  rw [Handle.applyOutcome_of_found found]
  constructor
  · refine ⟨pointed.unpoisoned, ?_, pointed.distinct, pointed.numbered, ?_⟩
    · simp [pointed.aligned]
    · intro other member
      have still := pointed.pending other (List.mem_of_mem_eraseIdx member)
      refine ⟨still.intact, still.owner, ?_⟩
      have kept : (rule.settle outcome now).1.expr = rule.expr := by rw [settle_settings]
      rw [AlertEngine.settled_rules, ← List.getElem?_map, map_set_of_same found kept,
        List.getElem?_map]
      exact still.expr
  · refine ⟨pointed.unpoisoned, fun _ => ?_, fun broken => ?_⟩
    · refine ⟨pending.job.idx, rule, points.owner, found, expr, AlertEngine.settled_rules, ?_⟩
      exact fun event member => AlertEngine.mem_settled_events member
    · rw [points.intact] at broken
      cases broken

theorem upserted (pointed : Pointed handle) {name expr : String} {forDuration cooldown now : Nat}
    {notify : List String} {enabled : Option Bool}
    (safe : EditsSafely handle (.upsertRule name expr forDuration cooldown notify enabled now)) :
    Pointed (handle.upsertRule name expr forDuration cooldown notify enabled now) := by
  cases first : handle.engine.rules.findIdx? (·.name = name) with
  | some position =>
      obtain ⟨rule, found, _⟩ := findIdx?_name_some first
      simp only [Handle.upsertRule, first, upsertRule_of_some first found]
      refine ⟨pointed.unpoisoned, ?_, pointed.distinct, pointed.numbered, ?_⟩
      · simp [pointed.aligned]
      · intro mapped member
        obtain ⟨pending, waiting, rfl⟩ := List.mem_map.mp member
        have points := pointed.pending pending waiting
        by_cases here : pending.job.idx = position
        · have same : pending.expr = expr := safe pending waiting (here ▸ first)
          rw [if_neg (fun changed => changed.2 same)]
          refine ⟨points.intact, points.owner, ?_⟩
          have inside := (List.getElem?_eq_some_iff.mp found).1
          rw [here, List.getElem?_set_self inside, same]
          rfl
        · have other : ¬ (handle.ids[position]? = some pending.owner ∧ pending.expr ≠ expr) := by
            rintro ⟨equal, _⟩
            have inside := (List.getElem?_eq_some_iff.mp points.owner).1
            have same := points.owner.trans equal.symm
            exact here ((List.getElem?_inj inside pointed.distinct).mp same)
          rw [if_neg other]
          refine ⟨points.intact, points.owner, ?_⟩
          rw [List.getElem?_set_ne (fun equal => here equal.symm)]
          exact points.expr
  | none =>
      simp only [Handle.upsertRule, first, upsertRule_of_none first]
      refine ⟨pointed.unpoisoned, ?_, ?_, ?_, ?_⟩
      · simp [pointed.aligned]
      · refine List.nodup_append.mpr ⟨pointed.distinct, List.nodup_singleton _, ?_⟩
        intro id member new added
        have below := pointed.numbered id member
        have fresh := List.mem_singleton.mp added
        omega
      · intro id member
        rcases List.mem_append.mp member with before | added
        · exact Nat.lt_succ_of_lt (pointed.numbered id before)
        · rw [List.mem_singleton.mp added]
          exact Nat.lt_succ_self _
      · intro pending waiting
        have points := pointed.pending pending waiting
        have inside_ids := (List.getElem?_eq_some_iff.mp points.owner).1
        have inside_rules := pointed.aligned ▸ inside_ids
        refine ⟨points.intact, ?_, ?_⟩
        · rw [List.getElem?_append_left inside_ids]
          exact points.owner
        · rw [List.getElem?_append_left inside_rules]
          exact points.expr

/-- The numbers kept stand where the rules kept stand. -/
theorem keptIds_aligned (pointed : Pointed handle) (name : String) :
    (Handle.keptIds handle.engine.rules handle.ids name).length =
      (handle.engine.rules.filter (·.name ≠ name)).length := by
  have rules : (handle.engine.rules.zip handle.ids).map Prod.fst = handle.engine.rules :=
    List.map_fst_zip (Nat.le_of_eq pointed.aligned.symm)
  rw [Handle.keptIds, List.length_map]
  conv_rhs => rw [← rules, List.filter_map, List.length_map]
  rfl

theorem keptIds_sublist (pointed : Pointed handle) (name : String) :
    (Handle.keptIds handle.engine.rules handle.ids name).Sublist handle.ids := by
  have ids : (handle.engine.rules.zip handle.ids).map Prod.snd = handle.ids :=
    List.map_snd_zip (Nat.le_of_eq pointed.aligned)
  have kept : ((handle.engine.rules.zip handle.ids).filter fun entry =>
      entry.1.name ≠ name).Sublist (handle.engine.rules.zip handle.ids) := List.filter_sublist
  have mapped := kept.map Prod.snd
  rw [ids] at mapped
  exact mapped

theorem getElem?_keptIds (pointed : Pointed handle) {name : String} {position : Nat}
    (before : ∀ rule ∈ handle.engine.rules.take (position + 1), rule.name ≠ name) :
    (Handle.keptIds handle.engine.rules handle.ids name)[position]? = handle.ids[position]? := by
  have ids : (handle.engine.rules.zip handle.ids).map Prod.snd = handle.ids :=
    List.map_snd_zip (Nat.le_of_eq pointed.aligned)
  have kept : ∀ entry ∈ (handle.engine.rules.zip handle.ids).take (position + 1),
      decide (entry.1.name ≠ name) = true := by
    intro entry member
    rw [List.zip, List.take_zipWith] at member
    exact decide_eq_true (before entry.1 (List.of_mem_zip member).1)
  rw [Handle.keptIds, List.getElem?_map, getElem?_filter_of_kept kept, ← List.getElem?_map, ids]

theorem deleted (pointed : Pointed handle) {name : String}
    (safe : EditsSafely handle (.deleteRule name)) : Pointed (handle.deleteRule name) := by
  have sublist := pointed.keptIds_sublist name
  refine ⟨pointed.unpoisoned, pointed.keptIds_aligned name, pointed.distinct.sublist sublist,
    fun id member => pointed.numbered id (sublist.subset member), ?_⟩
  intro mapped member
  obtain ⟨pending, waiting, rfl⟩ := List.mem_map.mp member
  have points := pointed.pending pending waiting
  have before := safe pending waiting
  have owner : (Handle.keptIds handle.engine.rules handle.ids name)[pending.job.idx]? =
      some pending.owner := (pointed.getElem?_keptIds before).trans points.owner
  have kept : ∀ rule ∈ handle.engine.rules.take (pending.job.idx + 1),
      decide (rule.name ≠ name) = true := fun rule inside => decide_eq_true (before rule inside)
  refine ⟨?_, owner, ?_⟩
  · simp [points.intact, List.mem_of_getElem? owner]
  · change ((handle.engine.rules.filter (·.name ≠ name))[pending.job.idx]?).map _ = _
    rw [getElem?_filter_of_kept kept]
    exact points.expr

theorem step {label : HandleStep} (pointed : Pointed handle)
    (taken : handle.step label = some next) (safe : EditsSafely handle label) :
    Pointed next := by
  cases label with
  | observe sample =>
      obtain ⟨_, rfl⟩ := Run.enabled_eq_some.mp taken
      exact pointed.observed sample
  | apply waiting outcome now wall =>
      obtain ⟨pending, waits, enabled⟩ := Option.bind_eq_some_iff.mp taken
      obtain ⟨_, rfl⟩ := Run.enabled_eq_some.mp enabled
      exact (pointed.applied waits).1
  | upsertRule name expr forDuration cooldown notify enabled now =>
      obtain ⟨_, rfl⟩ := Run.enabled_eq_some.mp taken
      exact pointed.upserted safe
  | deleteRule name =>
      obtain ⟨_, rfl⟩ := Run.enabled_eq_some.mp taken
      exact pointed.deleted safe

end Pointed

/-- In every run whose edits spare the waiting jobs, no outcome is indexed past the
end of the rules, and each changes its own rule and records its events only. -/
theorem outcomes_reach_owner {rules : List CompiledRule} {steps : List HandleStep}
    {handle : Handle} (run : Run.exec Handle.step (Handle.start rules) steps = some handle)
    (safe : Run.Always Handle.step EditsSafely (Handle.start rules) steps) :
    handle.poisoned = false ∧ handle.ids.length = handle.engine.rules.length ∧
    handle.ids.Nodup ∧
    ∀ waiting pending outcome now wall next, handle.pending[waiting]? = some pending →
      handle.step (.apply waiting outcome now wall) = some next →
      AppliesToOwner handle pending outcome now next := by
  have pointed : Pointed handle := Run.exec_invariant_of_always Pointed
    (fun _ _ _ taken allowed before => before.step taken allowed) run safe (Pointed.start rules)
  refine ⟨pointed.unpoisoned, pointed.aligned, pointed.distinct, ?_⟩
  intro waiting pending outcome now wall next waits taken
  obtain ⟨same, found, enabled⟩ := Option.bind_eq_some_iff.mp taken
  obtain ⟨_, rfl⟩ := Run.enabled_eq_some.mp enabled
  cases waits.symm.trans found
  exact (pointed.applied waits).2

/-- Two rules on one sensor. -/
def utilRules : List CompiledRule :=
  [compileRule "warm" "cpu.util > 50" 0 0 [] none, compileRule "hot" "cpu.util > 80" 0 0 [] none]

def cpuSample : Sample := ⟨⟨"cpu.util"⟩, 0, .scalar (.finite 90)⟩

/-- With both jobs waiting, a rule is added, the second one is changed but for its
expression, and the added one is deleted. -/
def sparingEdits : List HandleStep :=
  [.observe cpuSample, .upsertRule "late" "cpu.util > 95" 0 0 [] none 5,
    .apply 0 (.ok true) 10 0, .upsertRule "hot" "cpu.util > 80" 1000 0 ["desktop"] none 15,
    .deleteRule "late"]

theorem outcomes_reach_owner_sparing :
    ∃ handle pending next,
      Run.exec Handle.step (Handle.start utilRules) sparingEdits = some handle ∧
      handle.pending[0]? = some pending ∧ pending.owner = 1 ∧
      handle.step (.apply 0 (.ok true) 20 1) = some next ∧
      AppliesToOwner handle pending (.ok true) 20 next := by
  have ran : (Run.exec Handle.step (Handle.start utilRules) sparingEdits).isSome = true := by
    decide +kernel
  have waits : (Option.get _ ran).pending[0]?.isSome = true := by decide +kernel +revert
  have owner : (Option.get _ waits).owner = 1 := by decide +kernel +revert
  have taken : ((Option.get _ ran).step (.apply 0 (.ok true) 20 1)).isSome = true := by
    decide +kernel +revert
  have safe : Run.Always Handle.step EditsSafely (Handle.start utilRules) sparingEdits :=
    Run.Always.of_check (fun _ _ => of_decide_eq_true) (by decide +kernel)
  have run := (Option.some_get ran).symm
  have waiting := (Option.some_get waits).symm
  have applied := (Option.some_get taken).symm
  exact ⟨_, _, _, run, waiting, owner, applied,
    (outcomes_reach_owner run safe).2.2.2 _ _ _ _ _ _ waiting applied⟩

/-- Both jobs wait while the first rule is deleted: the outcome of its job changes the
second rule, and the outcome of the second rule's job is indexed past the end. -/
theorem outcome_misses_owner :
    ∃ handle, Run.exec Handle.step (Handle.start utilRules)
        [.observe cpuSample, .deleteRule "warm"] = some handle ∧
      (∃ pending next, handle.pending[0]? = some pending ∧
        handle.step (.apply 0 (.ok true) 20 1) = some next ∧
        ¬ AppliesToOwner handle pending (.ok true) 20 next) ∧
      (∃ pending next, handle.pending[1]? = some pending ∧
        handle.step (.apply 1 (.ok true) 20 1) = some next ∧ next.poisoned = true) := by
  have ran : (Run.exec Handle.step (Handle.start utilRules)
      [.observe cpuSample, .deleteRule "warm"]).isSome = true := by decide +kernel
  have first : (Option.get _ ran).pending[0]?.isSome = true := by decide +kernel +revert
  have broken : (Option.get _ first).intact = false := by decide +kernel +revert
  have second : (Option.get _ ran).pending[1]?.isSome = true := by decide +kernel +revert
  have changes : ((Option.get _ ran).step (.apply 0 (.ok true) 20 1)).isSome = true := by
    decide +kernel +revert
  have changed : (Option.get _ changes).engine ≠ (Option.get _ ran).engine := by
    decide +kernel +revert
  have panics : ((Option.get _ ran).step (.apply 1 (.ok true) 20 1)).isSome = true := by
    decide +kernel +revert
  have poisoned : (Option.get _ panics).poisoned = true := by decide +kernel +revert
  refine ⟨_, (Option.some_get ran).symm,
    ⟨_, _, (Option.some_get first).symm, (Option.some_get changes).symm, ?_⟩,
    ⟨_, _, (Option.some_get second).symm, (Option.some_get panics).symm, poisoned⟩⟩
  intro applies
  exact changed (applies.dropped broken)

end LinSight.Alerts
