import LinSight.Library.KeyMap
import LinSight.Core.Types

set_option autoImplicit false

/-! The alert engine behind its lock. Durations and instants are counts of
nanoseconds. The tree of a parsed expression never outlives one evaluation, so an
evaluation context is its map of variables. -/

namespace LinSight.Alerts

def maxExprLen : Nat := 4096

/-- Number of alert events kept in the ring buffer. -/
def eventCapacity : Nat := 512

def valuesCap : Nat := 4096

inductive AlertEventKind where
  | fired
  | cleared
deriving DecidableEq

structure AlertEvent where
  rule : String
  tsMicros : Nat
  kind : AlertEventKind
deriving DecidableEq

inductive EvalOutcome where
  | ok (truthy : Bool)
  | err (error : String)
  | timeout
  | panic
deriving DecidableEq

inductive NotifyJob where
  | desktop (name expr : String)
  | exec (name target : String) (argv : List String)
deriving DecidableEq

/-- The variables of an `evalexpr` context, all of them floats. -/
abbrev Context := KeyMap String Ieee.Value

structure EvalJob where
  idx : Nat
  rewrittenExpr : String
  ctx : Context
deriving DecidableEq

structure CompiledRule where
  name : String
  expr : String
  rewrittenExpr : String
  forDuration : Nat
  cooldown : Nat
  notify : List String
  enabled : Bool
  triggeredAt : Option Nat
  fired : Bool
  lastFiredAt : Option Nat
  referencedSensors : List String
deriving DecidableEq

structure AlertEngine where
  rules : List CompiledRule
  values : KeyMap String Ieee.Value
  ctx : Context
  events : List AlertEvent
deriving DecidableEq

/-- `str::replace('.', "__")`: dots may not occur in a variable's name. -/
def rewriteDots (text : String) : String := replaceChar '.' "__" text

section References

def pushIfSensorToken (token : List Char) (out : List String) : List String :=
  if !token.contains '.' then out
  else if !(token.head?.any Char.isAlpha) then out
  else out ++ [String.ofList token]

/-- The dotted tokens of an expression that start with a letter, sorted and
without repetitions. -/
def extractSensorRefs (expr : String) : List String :=
  let (current, out) := expr.toList.foldl
    (fun (current, out) c =>
      if c.isAlphanum || c = '.' || c = '_' then (current ++ [c], out)
      else ([], pushIfSensorToken current out))
    ([], [])
  ((pushIfSensorToken current out).insertionSort (· ≤ ·)).destutter (· ≠ ·)

end References

section Notifications

/-- Where `shellSplit` stands between two characters. -/
inductive ShellMode where
  | plain
  | single
  | double

/-- The characters a backslash escapes inside double quotes. -/
def doubleQuoteEscapes : List Char := "\\\"$`".toList

/-- One character at a time, with the arguments so far, the current one and
whether one has begun. -/
def shellLoop (argv : List String) (current : List Char) (inToken : Bool) :
    ShellMode → List Char → Except String (List String)
  | .plain, [] => .ok (if inToken then argv ++ [String.ofList current] else argv)
  | .plain, '\\' :: [] => .error "trailing backslash"
  | .plain, '\\' :: ch :: rest => shellLoop argv (current ++ [ch]) true .plain rest
  | .plain, c :: rest =>
      if c = ' ' || c = '\t' || c = '\n' then
        if inToken then shellLoop (argv ++ [String.ofList current]) [] false .plain rest
        else shellLoop argv current false .plain rest
      else if c = '\'' then shellLoop argv current true .single rest
      else if c = '"' then shellLoop argv current true .double rest
      else shellLoop argv (current ++ [c]) true .plain rest
  | .single, [] => .error "unterminated single quote"
  | .single, c :: rest =>
      if c = '\'' then shellLoop argv current inToken .plain rest
      else shellLoop argv (current ++ [c]) inToken .single rest
  | .double, [] => .error "unterminated double quote"
  | .double, '\\' :: [] => .error "unterminated escape in double quote"
  | .double, '\\' :: ch :: rest =>
      if doubleQuoteEscapes.contains ch then shellLoop argv (current ++ [ch]) inToken .double rest
      else shellLoop argv (current ++ ['\\', ch]) inToken .double rest
  | .double, c :: rest =>
      if c = '"' then shellLoop argv current inToken .plain rest
      else shellLoop argv (current ++ [c]) inToken .double rest

def shellSplit (input : String) : Except String (List String) :=
  shellLoop [] [] false .plain input.toList

/-- The job of one notify target. Webhooks are posted at once and leave no job. -/
def targetJob (name expr target : String) : Option NotifyJob :=
  if target = "desktop" then some (.desktop name expr)
  else match target.dropPrefix? "exec:" with
    | none => none
    | some cmd =>
        match shellSplit cmd.toString with
        | .ok [] => none
        | .ok argv => some (.exec name target argv)
        | .error _ => none

def buildNotifications (name expr : String) (notify : List String) : List NotifyJob :=
  notify.filterMap (targetJob name expr)

end Notifications

/-- `Reading` as the float the engine binds. -/
def alertValue : Reading → Option Ieee.Value
  | .scalar v => some v
  | .counter v => some (Ieee.binary64.round v)
  | _ => none

/-- The state of a rule after an outcome, and the event it records. -/
def CompiledRule.settle (rule : CompiledRule) (outcome : EvalOutcome) (now : Nat) :
    CompiledRule × Option AlertEventKind :=
  match outcome with
  | .err _ | .timeout | .panic => (rule, none)
  | .ok true =>
      let newTriggeredAt := rule.triggeredAt.getD now
      let triggered := { rule with triggeredAt := some newTriggeredAt }
      if !rule.fired && decide (rule.forDuration ≤ now - newTriggeredAt) then
        let withinCooldown := rule.lastFiredAt.any fun last => decide (now - last < rule.cooldown)
        if withinCooldown then (triggered, none)
        else ({ triggered with fired := true, lastFiredAt := some now }, some .fired)
      else (triggered, none)
  | .ok false =>
      ({ rule with triggeredAt := none, fired := false },
        if rule.fired then some .cleared else none)

/-- A true outcome at `now` may be recorded as a firing. -/
structure CompiledRule.MayFire (rule : CompiledRule) (now : Nat) : Prop where
  unfired : rule.fired = false
  held : rule.forDuration ≤ now - rule.triggeredAt.getD now
  cooled : ∀ last, rule.lastFiredAt = some last → rule.cooldown ≤ now - last

section Settle

variable {rule : CompiledRule} {outcome : EvalOutcome} {now : Nat}

theorem settle_inert (inert : ∀ truthy, outcome ≠ .ok truthy) :
    rule.settle outcome now = (rule, none) := by
  cases outcome with
  | ok truthy => exact absurd rfl (inert truthy)
  | err error => rfl
  | timeout => rfl
  | panic => rfl

theorem settle_fires (mayFire : rule.MayFire now) :
    rule.settle (.ok true) now =
      ({ rule with
          triggeredAt := some (rule.triggeredAt.getD now), fired := true, lastFiredAt := some now },
        some .fired) := by
  have outside : (rule.lastFiredAt.any fun last => decide (now - last < rule.cooldown)) = false := by
    cases recent : rule.lastFiredAt with
    | none => rfl
    | some last =>
        have apart := mayFire.cooled last recent
        simp only [Option.any_some, decide_eq_false_iff_not]
        omega
  simp [CompiledRule.settle, mayFire.unfired, mayFire.held, outside]

theorem settle_waits (waits : ¬ rule.MayFire now) :
    rule.settle (.ok true) now =
      ({ rule with triggeredAt := some (rule.triggeredAt.getD now) }, none) := by
  simp only [CompiledRule.settle]
  split
  · rename_i ready
    split
    · rfl
    · rename_i outside
      simp only [Bool.and_eq_true, Bool.not_eq_true', decide_eq_true_eq] at ready
      refine absurd ⟨ready.1, ready.2, fun last recent => ?_⟩ waits
      simp only [recent, Option.any_some, decide_eq_true_eq] at outside
      omega
  · rfl

/-- An outcome writes no setting of the rule. -/
theorem settle_settings (rule : CompiledRule) (outcome : EvalOutcome) (now : Nat) :
    (rule.settle outcome now).1 =
      { rule with
        triggeredAt := (rule.settle outcome now).1.triggeredAt
        fired := (rule.settle outcome now).1.fired
        lastFiredAt := (rule.settle outcome now).1.lastFiredAt } := by
  by_cases inert : ∀ truthy, outcome ≠ .ok truthy
  · rw [settle_inert inert]
  · obtain ⟨truthy, rfl⟩ := not_forall_not.mp inert
    cases truthy with
    | false => rfl
    | true =>
        by_cases mayFire : rule.MayFire now
        · rw [settle_fires mayFire]
        · rw [settle_waits mayFire]

theorem settle_false : rule.settle (.ok false) now =
    ({ rule with triggeredAt := none, fired := false },
      if rule.fired then some .cleared else none) := rfl

theorem settle_fired_iff :
    (rule.settle outcome now).2 = some .fired ↔ outcome = .ok true ∧ rule.MayFire now := by
  constructor
  · intro fires
    by_cases inert : ∀ truthy, outcome ≠ .ok truthy
    · rw [settle_inert inert] at fires
      cases fires
    · obtain ⟨truthy, rfl⟩ := not_forall_not.mp inert
      cases truthy with
      | false =>
          rw [settle_false] at fires
          split at fires <;> simp at fires
      | true =>
          by_cases mayFire : rule.MayFire now
          · exact ⟨rfl, mayFire⟩
          · rw [settle_waits mayFire] at fires
            cases fires
  · rintro ⟨rfl, mayFire⟩
    rw [settle_fires mayFire]

theorem settle_cleared_iff :
    (rule.settle outcome now).2 = some .cleared ↔ outcome = .ok false ∧ rule.fired = true := by
  constructor
  · intro clears
    by_cases inert : ∀ truthy, outcome ≠ .ok truthy
    · rw [settle_inert inert] at clears
      cases clears
    · obtain ⟨truthy, rfl⟩ := not_forall_not.mp inert
      cases truthy with
      | false =>
          rw [settle_false] at clears
          split at clears
          · rename_i fired
            exact ⟨rfl, fired⟩
          · cases clears
      | true =>
          by_cases mayFire : rule.MayFire now
          · rw [settle_fires mayFire] at clears
            cases clears
          · rw [settle_waits mayFire] at clears
            cases clears
  · rintro ⟨rfl, fired⟩
    rw [settle_false, if_pos fired]

end Settle

/-- A rule as `load` and `upsert_rule` compile it. -/
def compileRule (name expr : String) (forDuration cooldown : Nat) (notify : List String)
    (enabled : Option Bool) : CompiledRule where
  name := name
  expr := expr
  rewrittenExpr := rewriteDots expr
  forDuration := forDuration
  cooldown := cooldown
  notify := notify
  enabled := enabled.getD true
  triggeredAt := none
  fired := false
  lastFiredAt := none
  referencedSensors := extractSensorRefs expr

/-- A rule that was never evaluated. -/
def CompiledRule.Fresh (rule : CompiledRule) : Prop :=
  rule.triggeredAt = none ∧ rule.fired = false ∧ rule.lastFiredAt = none

namespace AlertEngine

def new (rules : List CompiledRule) : AlertEngine := ⟨rules, ∅, ∅, []⟩

/-- Sensors that some rule mentions. -/
def referenced (engine : AlertEngine) : List String :=
  engine.rules.flatMap CompiledRule.referencedSensors

/-- The context that binds every stored value under its rewritten name. -/
def rebuiltContext (values : KeyMap String Ieee.Value) : Context :=
  values.entries.foldl (fun ctx entry => ctx.insert (rewriteDots entry.1) entry.2) ∅

def pruneUnreferencedValues (engine : AlertEngine) : AlertEngine :=
  let values := KeyMap.retain (fun id _ => engine.referenced.contains id) engine.values
  if values.entries.length < engine.values.entries.length then
    { engine with values := values, ctx := rebuiltContext values }
  else { engine with values := values }

/-- The engine that has room for the sensor's value. -/
def makeRoom (engine : AlertEngine) (id : String) : AlertEngine :=
  if id ∉ engine.values ∧ valuesCap ≤ engine.values.entries.length then
    engine.pruneUnreferencedValues
  else engine

def bind (engine : AlertEngine) (id : String) (value : Ieee.Value) : AlertEngine :=
  { engine with
    values := engine.values.insert id value
    ctx := engine.ctx.insert (rewriteDots id) value }

/-- The jobs of the enabled rules that mention the sensor. -/
def jobsFor (engine : AlertEngine) (id : String) : List EvalJob :=
  engine.rules.zipIdx.filterMap fun (rule, idx) =>
    if rule.enabled && rule.referencedSensors.contains id then
      some ⟨idx, rule.rewrittenExpr, engine.ctx⟩
    else none

def observe (engine : AlertEngine) (sample : Sample) : AlertEngine × List EvalJob :=
  match alertValue sample.reading with
  | none => (engine, [])
  | some value =>
      let id := sample.sensor.asStr
      let bound := (engine.makeRoom id).bind id value
      (bound, bound.jobsFor id)

/-- Newest first; a full buffer gives up its oldest event. -/
def pushEvent (engine : AlertEngine) (event : AlertEvent) : AlertEngine :=
  let kept := if engine.events.length = eventCapacity then engine.events.dropLast
    else engine.events
  { engine with events := event :: kept }

/-- `none` is the panic of an index past the end of the rule list. -/
def applyEvalResult (engine : AlertEngine) (idx : Nat) (outcome : EvalOutcome) (now wall : Nat) :
    Option (AlertEngine × List NotifyJob) :=
  match engine.rules[idx]? with
  | none => none
  | some rule =>
      let (settled, emitted) := rule.settle outcome now
      let engine := { engine with rules := engine.rules.set idx settled }
      match emitted with
      | none => some (engine, [])
      | some kind =>
          some (engine.pushEvent ⟨rule.name, wall, kind⟩,
            if kind = .fired then buildNotifications rule.name rule.expr rule.notify else [])

/-- Update the first rule of the name. -/
def updateFirst (name : String) (update : CompiledRule → CompiledRule) :
    List CompiledRule → List CompiledRule
  | [] => []
  | rule :: rest =>
      if rule.name = name then update rule :: rest else rule :: updateFirst name update rest

/-- The fields of an existing rule that an upsert overwrites. -/
def overwriteRule (expr : String) (forDuration cooldown : Nat) (notify : List String)
    (enabled : Option Bool) (existing : CompiledRule) : CompiledRule :=
  { existing with
    expr := expr
    rewrittenExpr := rewriteDots expr
    notify := notify
    referencedSensors := extractSensorRefs expr
    forDuration := forDuration
    cooldown := cooldown
    enabled := enabled.getD existing.enabled
    triggeredAt := none
    fired := false
    lastFiredAt := none }

/-- The part of `upsert_rule` under the lock, with the durations parsed. -/
def upsertRule (engine : AlertEngine) (name expr : String) (forDuration cooldown : Nat)
    (notify : List String) (enabled : Option Bool) : AlertEngine :=
  if engine.rules.any (·.name = name) then
    { engine with
      rules := updateFirst name (overwriteRule expr forDuration cooldown notify enabled)
        engine.rules }
  else
    { engine with
      rules := engine.rules ++ [compileRule name expr forDuration cooldown notify enabled] }

def deleteRule (engine : AlertEngine) (name : String) : AlertEngine × Bool :=
  let kept := engine.rules.filter (·.name ≠ name)
  ({ engine with rules := kept }, decide (kept.length < engine.rules.length))

section ApplyEvalResult

variable {engine : AlertEngine} {idx now wall : Nat} {outcome : EvalOutcome} {rule : CompiledRule}

/-- The ring holds the newest events of a log before the push and after it. -/
theorem pushEvent_events {log : List AlertEvent} (event : AlertEvent)
    (ring : engine.events = log.take eventCapacity) :
    (engine.pushEvent event).events = (event :: log).take eventCapacity := by
  have capacity : eventCapacity = 511 + 1 := rfl
  simp only [pushEvent, ring, List.length_take, capacity, List.take_succ_cons]
  congr 1
  split
  · rename_i full
    rw [List.dropLast_eq_take, List.length_take, full, Nat.add_sub_cancel, List.take_take]
    congr 1
  · rename_i room
    rw [List.take_of_length_le (by omega), List.take_of_length_le (by omega)]

/-- The engine after one outcome for a rule: the settled rule, and its event in the ring. -/
def settled (engine : AlertEngine) (idx : Nat) (rule : CompiledRule) (outcome : EvalOutcome)
    (now wall : Nat) : AlertEngine :=
  let stored := { engine with rules := engine.rules.set idx (rule.settle outcome now).1 }
  match (rule.settle outcome now).2 with
  | none => stored
  | some kind => stored.pushEvent ⟨rule.name, wall, kind⟩

theorem applyEvalResult_of_found (found : engine.rules[idx]? = some rule) :
    (engine.applyEvalResult idx outcome now wall).map Prod.fst =
      some (engine.settled idx rule outcome now wall) := by
  simp only [applyEvalResult, found, settled]
  split
  · rw [Option.map_some]
  · rw [Option.map_some]

@[simp] theorem settled_rules : (engine.settled idx rule outcome now wall).rules =
    engine.rules.set idx (rule.settle outcome now).1 := by
  unfold settled
  split <;> rfl

@[simp] theorem settled_values : (engine.settled idx rule outcome now wall).values =
    engine.values := by
  unfold settled
  split <;> rfl

@[simp] theorem settled_ctx : (engine.settled idx rule outcome now wall).ctx = engine.ctx := by
  unfold settled
  split <;> rfl

theorem settled_events {log : List AlertEvent} (ring : engine.events = log.take eventCapacity) :
    (engine.settled idx rule outcome now wall).events =
      (((rule.settle outcome now).2.map (AlertEvent.mk rule.name wall)).toList ++ log).take
        eventCapacity := by
  unfold settled
  split
  · rename_i silent
    simpa only [silent, Option.map_none, Option.toList_none, List.nil_append] using ring
  · rename_i kind emits
    simp only [emits, Option.map_some, Option.toList_some, List.cons_append, List.nil_append]
    exact pushEvent_events _ ring

theorem mem_settled_events {event : AlertEvent}
    (member : event ∈ (engine.settled idx rule outcome now wall).events) :
    event ∈ engine.events ∨ event.rule = rule.name := by
  unfold settled at member
  split at member
  · exact Or.inl member
  · rcases List.mem_cons.mp member with pushed | kept
    · exact Or.inr (congrArg AlertEvent.rule pushed)
    · left
      split at kept
      · exact List.mem_of_mem_dropLast kept
      · exact kept

theorem settled_inert (found : engine.rules[idx]? = some rule)
    (inert : ∀ truthy, outcome ≠ .ok truthy) :
    engine.settled idx rule outcome now wall = engine := by
  obtain ⟨inside, same⟩ := List.getElem?_eq_some_iff.mp found
  subst same
  simp only [settled, settle_inert inert, List.set_getElem_self]

end ApplyEvalResult

@[simp] theorem upsertRule_values (engine : AlertEngine) (name expr : String)
    (forDuration cooldown : Nat) (notify : List String) (enabled : Option Bool) :
    (engine.upsertRule name expr forDuration cooldown notify enabled).values = engine.values := by
  unfold upsertRule
  split <;> rfl

@[simp] theorem upsertRule_ctx (engine : AlertEngine) (name expr : String)
    (forDuration cooldown : Nat) (notify : List String) (enabled : Option Bool) :
    (engine.upsertRule name expr forDuration cooldown notify enabled).ctx = engine.ctx := by
  unfold upsertRule
  split <;> rfl

end AlertEngine
end LinSight.Alerts
