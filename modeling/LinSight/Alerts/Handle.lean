import LinSight.Alerts.StateMachine

set_option autoImplicit false

/-! The steps that the clones of an engine handle take under its lock, in any
order. `on_sample` is one `observe` and later one `apply` for each of its jobs. -/

namespace LinSight.Alerts

/-- A job whose outcome is not applied yet. Which rule it came from, what that
rule's expression was, and whether the rule still is there with it, is recorded
for the laws; no step reads it. -/
structure Pending where
  job : EvalJob
  owner : Nat
  expr : String
  intact : Bool
deriving DecidableEq

structure LoggedEvent where
  event : AlertEvent
  time : Nat
  cooldown : Nat
deriving DecidableEq

inductive LogEntry where
  | event (logged : LoggedEvent)
  | deleted (name : String)
deriving DecidableEq

/-- The engine behind its lock. `clock` is the time of the latest step, `log` every
event recorded and every name deleted, newest first, and `ids` tells the rules
apart: a rule keeps its number while it exists. -/
structure Handle where
  engine : AlertEngine
  poisoned : Bool
  pending : List Pending
  clock : Nat
  log : List LogEntry
  ids : List Nat
  nextId : Nat
deriving DecidableEq

inductive HandleStep where
  | observe (sample : Sample)
  | apply (waiting : Nat) (outcome : EvalOutcome) (now wall : Nat)
  | upsertRule (name expr : String) (forDuration cooldown : Nat) (notify : List String)
      (enabled : Option Bool) (now : Nat)
  | deleteRule (name : String)

namespace Handle

def start (rules : List CompiledRule) : Handle where
  engine := .new rules
  poisoned := false
  pending := []
  clock := 0
  log := []
  ids := List.range rules.length
  nextId := rules.length

/-- The events an outcome records, as the log keeps them. -/
def logged (engine : AlertEngine) (idx : Nat) (outcome : EvalOutcome) (now wall : Nat) :
    List LogEntry :=
  match engine.rules[idx]? with
  | none => []
  | some rule =>
      ((rule.settle outcome now).2.map fun kind =>
        LogEntry.event ⟨⟨rule.name, wall, kind⟩, now, rule.cooldown⟩).toList

def collect (handle : Handle) (job : EvalJob) : Pending where
  job := job
  owner := (handle.ids[job.idx]?).getD 0
  expr := ((handle.engine.rules[job.idx]?).map CompiledRule.expr).getD ""
  intact := true

def observe (handle : Handle) (sample : Sample) : Handle :=
  let (engine, jobs) := handle.engine.observe sample
  { handle with engine := engine, pending := handle.pending ++ jobs.map handle.collect }

/-- Apply the outcome of a job; a panic under the lock poisons it. -/
def applyOutcome (handle : Handle) (waiting : Nat) (pending : Pending) (outcome : EvalOutcome)
    (now wall : Nat) : Handle :=
  match handle.engine.applyEvalResult pending.job.idx outcome now wall with
  | none => { handle with poisoned := true }
  | some (engine, _) =>
      { handle with
        engine := engine
        pending := handle.pending.eraseIdx waiting
        clock := now
        log := logged handle.engine pending.job.idx outcome now wall ++ handle.log }

def upsertRule (handle : Handle) (name expr : String) (forDuration cooldown : Nat)
    (notify : List String) (enabled : Option Bool) (now : Nat) : Handle :=
  let engine := handle.engine.upsertRule name expr forDuration cooldown notify enabled
  match handle.engine.rules.findIdx? (·.name = name) with
  | some position =>
      { handle with
        engine := engine
        clock := now
        pending := handle.pending.map fun pending =>
          if handle.ids[position]? = some pending.owner ∧ pending.expr ≠ expr then
            { pending with intact := false }
          else pending }
  | none =>
      { handle with
        engine := engine
        clock := now
        ids := handle.ids ++ [handle.nextId]
        nextId := handle.nextId + 1 }

/-- The numbers of the rules that a deletion of the name leaves. -/
def keptIds (rules : List CompiledRule) (ids : List Nat) (name : String) : List Nat :=
  ((rules.zip ids).filter fun entry => entry.1.name ≠ name).map Prod.snd

def deleteRule (handle : Handle) (name : String) : Handle :=
  let kept := keptIds handle.engine.rules handle.ids name
  { handle with
    engine := (handle.engine.deleteRule name).1
    log := .deleted name :: handle.log
    ids := kept
    pending := handle.pending.map fun pending =>
      { pending with intact := pending.intact && kept.contains pending.owner } }

/-- One locked step; `none` where there is no such job, time would run backwards or
the lock is poisoned. -/
def step (handle : Handle) : HandleStep → Option Handle
  | .observe sample => Run.enabled (handle.poisoned = false) (handle.observe sample)
  | .apply waiting outcome now wall =>
      (handle.pending[waiting]?).bind fun pending =>
        Run.enabled (handle.poisoned = false ∧ handle.clock ≤ now)
          (handle.applyOutcome waiting pending outcome now wall)
  | .upsertRule name expr forDuration cooldown notify enabled now =>
      Run.enabled (handle.poisoned = false ∧ handle.clock ≤ now)
        (handle.upsertRule name expr forDuration cooldown notify enabled now)
  | .deleteRule name => Run.enabled (handle.poisoned = false) (handle.deleteRule name)

end Handle

section Rules

/-- Replacing an entry by one with the same image keeps the images. -/
theorem map_set_of_same {α β : Type} {f : α → β} {entries : List α} {position : Nat}
    {stored updated : α} (found : entries[position]? = some stored) (same : f updated = f stored) :
    (entries.set position updated).map f = entries.map f := by
  obtain ⟨inside, rfl⟩ := List.getElem?_eq_some_iff.mp found
  have inside_images : position < (entries.map f).length := by simpa using inside
  have image : (entries.map f)[position] = f entries[position] := List.getElem_map f
  rw [List.map_set, same, ← image]
  exact List.set_getElem_self inside_images

variable {rules : List CompiledRule} {name : String} {update : CompiledRule → CompiledRule}
  {position : Nat} {rule : CompiledRule}

/-- The first rule of a name stands where the search for it ends. -/
theorem updateFirst_eq_set (first : rules.findIdx? (·.name = name) = some position)
    (found : rules[position]? = some rule) :
    AlertEngine.updateFirst name update rules = rules.set position (update rule) := by
  induction rules generalizing position with
  | nil => cases found
  | cons head rest ih =>
      rw [List.findIdx?_cons] at first
      by_cases named : head.name = name
      · simp only [named, decide_true, ↓reduceIte, Option.some.injEq] at first
        subst first
        cases found
        simp only [AlertEngine.updateFirst, named, ↓reduceIte, List.set_cons_zero]
      · simp only [named, decide_false, Bool.false_eq_true, ↓reduceIte,
          Option.map_eq_some_iff] at first
        obtain ⟨before, first, rfl⟩ := first
        simp only [AlertEngine.updateFirst, named, ↓reduceIte, List.set_cons_succ]
        rw [ih first found]

theorem findIdx?_name_none (missing : rules.findIdx? (·.name = name) = none) :
    rules.any (·.name = name) = false := by
  rw [List.findIdx?_eq_none_iff] at missing
  simpa using missing

theorem findIdx?_name_some (first : rules.findIdx? (·.name = name) = some position) :
    ∃ rule, rules[position]? = some rule ∧ rule.name = name := by
  obtain ⟨inside, named, _⟩ := List.findIdx?_eq_some_iff_getElem.mp first
  exact ⟨rules[position], List.getElem?_eq_getElem inside, of_decide_eq_true named⟩

end Rules

section Steps

variable {engine : AlertEngine} {name expr : String} {forDuration cooldown : Nat}
  {notify : List String} {enabled : Option Bool} {position : Nat} {rule : CompiledRule}

theorem upsertRule_of_some (first : engine.rules.findIdx? (·.name = name) = some position)
    (found : engine.rules[position]? = some rule) :
    engine.upsertRule name expr forDuration cooldown notify enabled =
      { engine with
        rules := engine.rules.set position
          (AlertEngine.overwriteRule expr forDuration cooldown notify enabled rule) } := by
  obtain ⟨stored, there, named⟩ := findIdx?_name_some first
  have present : engine.rules.any (·.name = name) = true := by
    rw [List.any_eq_true]
    exact ⟨stored, List.mem_of_getElem? there, decide_eq_true named⟩
  rw [AlertEngine.upsertRule, if_pos present, updateFirst_eq_set first found]

theorem upsertRule_of_none (missing : engine.rules.findIdx? (·.name = name) = none) :
    engine.upsertRule name expr forDuration cooldown notify enabled =
      { engine with
        rules := engine.rules ++
          [compileRule name expr forDuration cooldown notify enabled] } := by
  rw [AlertEngine.upsertRule, findIdx?_name_none missing]
  rfl

theorem observe_frame (engine : AlertEngine) (sample : Sample) :
    (engine.observe sample).1.rules = engine.rules ∧
      (engine.observe sample).1.events = engine.events := by
  have room : (engine.makeRoom sample.sensor.asStr).rules = engine.rules ∧
      (engine.makeRoom sample.sensor.asStr).events = engine.events := by
    simp only [AlertEngine.makeRoom, AlertEngine.pruneUnreferencedValues]
    split
    · split <;> exact ⟨rfl, rfl⟩
    · exact ⟨rfl, rfl⟩
  unfold AlertEngine.observe
  split
  · exact ⟨rfl, rfl⟩
  · exact room

namespace Handle

variable {handle : Handle} {waiting now wall : Nat} {pending : Pending} {outcome : EvalOutcome}

/-- An outcome for a rule that exists leaves the settled rule and its event. -/
theorem applyOutcome_of_found (found : handle.engine.rules[pending.job.idx]? = some rule) :
    handle.applyOutcome waiting pending outcome now wall =
      { handle with
        engine := handle.engine.settled pending.job.idx rule outcome now wall
        pending := handle.pending.eraseIdx waiting
        clock := now
        log := logged handle.engine pending.job.idx outcome now wall ++ handle.log } := by
  have applied := @AlertEngine.applyEvalResult_of_found handle.engine pending.job.idx now wall
    outcome rule found
  obtain ⟨result, returned, after⟩ := Option.map_eq_some_iff.mp applied
  simp only [applyOutcome, returned, ← after]

theorem applyOutcome_of_missing (missing : handle.engine.rules[pending.job.idx]? = none) :
    handle.applyOutcome waiting pending outcome now wall = { handle with poisoned := true } := by
  simp only [applyOutcome, AlertEngine.applyEvalResult, missing]

theorem logged_of_found {idx : Nat} (found : engine.rules[idx]? = some rule) :
    logged engine idx outcome now wall = ((rule.settle outcome now).2.map fun kind =>
      LogEntry.event ⟨⟨rule.name, wall, kind⟩, now, rule.cooldown⟩).toList := by
  simp only [logged, found]

end Handle

end Steps

end LinSight.Alerts
