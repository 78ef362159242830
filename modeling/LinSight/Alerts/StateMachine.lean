import LinSight.Library.Run
import LinSight.Alerts.Engine

set_option autoImplicit false

/-! What a rule remembers is a function of the calls that evaluated it. -/

namespace LinSight.Alerts

/-- Arguments of one call of `applyEvalResult`, with the wall clock it reads. -/
structure EvalCall where
  idx : Nat
  outcome : EvalOutcome
  now : Nat
  wall : Nat
deriving DecidableEq

/-- A call that was made and the event it recorded. -/
structure Turn where
  call : EvalCall
  recorded : Option AlertEvent
deriving DecidableEq

def Turn.kind (turn : Turn) : Option AlertEventKind := turn.recorded.map AlertEvent.kind

/-- The event that the call records. -/
def AlertEngine.recorded (engine : AlertEngine) (call : EvalCall) : Option AlertEvent :=
  engine.rules[call.idx]?.bind fun rule =>
    (rule.settle call.outcome call.now).2.map (AlertEvent.mk rule.name call.wall)

/-- An engine and the calls made on it, newest first. -/
structure Traced where
  engine : AlertEngine
  turns : List Turn
deriving DecidableEq

namespace Traced

def start (engine : AlertEngine) : Traced := ⟨engine, []⟩

def step (traced : Traced) (call : EvalCall) : Option Traced :=
  (traced.engine.applyEvalResult call.idx call.outcome call.now call.wall).map fun applied =>
    ⟨applied.1, ⟨call, traced.engine.recorded call⟩ :: traced.turns⟩

end Traced

section History

/-! Lists of turns are newest first. -/

def ofRule (idx : Nat) (turns : List Turn) : List Turn := turns.filter (·.call.idx = idx)

def sinceFalse (past : List Turn) : List Turn := past.takeWhile (·.call.outcome ≠ .ok false)

/-- When the first true outcome since the last false one came. -/
def firstTrue (past : List Turn) : Option Nat :=
  ((sinceFalse past).filter (·.call.outcome = .ok true)).getLast?.map (·.call.now)

def previousFired (past : List Turn) : Option Nat :=
  (past.find? (·.kind = some .fired)).map (·.call.now)

/-- When a call on a rule with this past is to record `Fired`. -/
structure FiresAt (rule : CompiledRule) (past : List Turn) (call : EvalCall) : Prop where
  truthy : call.outcome = .ok true
  unfired : ∀ turn ∈ sinceFalse past, turn.kind ≠ some .fired
  held : (firstTrue past).getD call.now + rule.forDuration ≤ call.now
  cooled : ∀ last, previousFired past = some last → last + rule.cooldown ≤ call.now

/-- When a call on a rule with this past is to record `Cleared`. -/
structure ClearsAt (past : List Turn) (call : EvalCall) : Prop where
  falsy : call.outcome = .ok false
  fired : ∃ turn ∈ sinceFalse past, turn.kind = some .fired

/-- The calls on a rule record what they are to record. -/
def Lawful (rule : CompiledRule) : List Turn → Prop
  | [] => True
  | turn :: past =>
      (turn.kind = some .fired ↔ FiresAt rule past turn.call) ∧
      (turn.kind = some .cleared ↔ ClearsAt past turn.call) ∧
      (∀ event, turn.recorded = some event →
        event.rule = rule.name ∧ event.tsMicros = turn.call.wall) ∧
      Lawful rule past

/-- `Fired` comes first and after `Cleared`, `Cleared` after `Fired`; newest first. -/
def Alternates : List AlertEventKind → Prop
  | [] => True
  | kind :: earlier =>
      kind = (if earlier.head? = some .fired then .cleared else .fired) ∧ Alternates earlier

/-- The rule as its past has left it. -/
def remembered (rule : CompiledRule) (past : List Turn) : CompiledRule :=
  { rule with
    triggeredAt := firstTrue past
    fired := (sinceFalse past).any (·.kind = some .fired)
    lastFiredAt := previousFired past }

end History

variable {rule : CompiledRule} {past : List Turn} {call : EvalCall} {turn : Turn}

theorem CompiledRule.Fresh.remembered (fresh : rule.Fresh) : rule = remembered rule [] := by
  obtain ⟨triggered, unfired, never⟩ := fresh
  cases rule
  simp_all [Alerts.remembered, firstTrue, sinceFalse, previousFired]

theorem sinceFalse_cons (differs : turn.call.outcome ≠ .ok false) :
    sinceFalse (turn :: past) = turn :: sinceFalse past := by
  simp [sinceFalse, differs]

theorem sinceFalse_cons_false (falsy : turn.call.outcome = .ok false) :
    sinceFalse (turn :: past) = [] := by
  simp [sinceFalse, falsy]

theorem previousFired_cons (silent : turn.kind ≠ some .fired) :
    previousFired (turn :: past) = previousFired past := by
  simp [previousFired, silent]

theorem previousFired_cons_fired (fired : turn.kind = some .fired) :
    previousFired (turn :: past) = some turn.call.now := by
  simp [previousFired, fired]

theorem firstTrue_cons (truthy : turn.call.outcome = .ok true) :
    firstTrue (turn :: past) = some ((firstTrue past).getD turn.call.now) := by
  have differs : turn.call.outcome ≠ .ok false := by simp [truthy]
  simp only [firstTrue, sinceFalse_cons differs, List.filter_cons, truthy, decide_true, ↓reduceIte,
    List.getLast?_cons, Option.map_some]
  cases ((sinceFalse past).filter (·.call.outcome = .ok true)).getLast? <;> rfl

theorem firstTrue_cons_other (other : ∀ truthy, turn.call.outcome ≠ .ok truthy) :
    firstTrue (turn :: past) = firstTrue past := by
  simp [firstTrue, sinceFalse_cons (other false), other true]

theorem firstTrue_le {bound start : Nat} (ordered : ∀ turn ∈ past, turn.call.now ≤ bound)
    (first : firstTrue past = some start) : start ≤ bound := by
  obtain ⟨turn, last, rfl⟩ := Option.map_eq_some_iff.mp first
  have member := List.mem_of_getLast? last
  have inside := (List.takeWhile_sublist _).subset (List.mem_filter.mp member).1
  exact ordered turn inside

theorem previousFired_le {bound last : Nat} (ordered : ∀ turn ∈ past, turn.call.now ≤ bound)
    (fired : previousFired past = some last) : last ≤ bound := by
  obtain ⟨turn, found, rfl⟩ := Option.map_eq_some_iff.mp fired
  exact ordered turn (List.mem_of_find?_eq_some found)

/-- The next state of a rule is what its longer past has left. -/
theorem settle_remembered
    (records : turn.kind = ((remembered rule past).settle turn.call.outcome turn.call.now).2) :
    ((remembered rule past).settle turn.call.outcome turn.call.now).1 =
      remembered rule (turn :: past) := by
  by_cases inert : ∀ truthy, turn.call.outcome ≠ .ok truthy
  · rw [settle_inert inert] at records ⊢
    have silent : turn.kind ≠ some .fired := by simp [records]
    simp [remembered, firstTrue_cons_other inert, sinceFalse_cons (inert false),
      previousFired_cons silent, silent]
  · obtain ⟨truthy, outcome⟩ := not_forall_not.mp inert
    rw [outcome] at records ⊢
    cases truthy with
    | false =>
        have silent : turn.kind ≠ some .fired := by
          rw [records]
          simp only [CompiledRule.settle]
          split <;> simp
        simp [CompiledRule.settle, remembered, firstTrue, sinceFalse_cons_false outcome,
          previousFired_cons silent]
    | true =>
        have differs : turn.call.outcome ≠ .ok false := by simp [outcome]
        by_cases mayFire : (remembered rule past).MayFire turn.call.now
        · rw [settle_fires mayFire] at records ⊢
          simp [remembered, firstTrue_cons outcome, sinceFalse_cons differs, records,
            previousFired_cons_fired records]
        · rw [settle_waits mayFire] at records ⊢
          have silent : turn.kind ≠ some .fired := by simp [records]
          simp [remembered, firstTrue_cons outcome, sinceFalse_cons differs, silent,
            previousFired_cons silent]

/-- With the times in order, what a rule remembers tells when it fires. -/
theorem fires_iff (ordered : ∀ turn ∈ past, turn.call.now ≤ call.now) :
    ((remembered rule past).settle call.outcome call.now).2 = some .fired ↔
      FiresAt rule past call := by
  have start_le : (firstTrue past).getD call.now ≤ call.now := by
    cases first : firstTrue past with
    | none => exact Nat.le_refl _
    | some start => exact firstTrue_le ordered first
  rw [settle_fired_iff]
  constructor
  · rintro ⟨truthy, mayFire⟩
    have held : rule.forDuration ≤ call.now - (firstTrue past).getD call.now := mayFire.held
    have unfired := mayFire.unfired
    simp only [remembered, List.any_eq_false, decide_eq_true_eq] at unfired
    refine ⟨truthy, unfired, by omega, fun last fired => ?_⟩
    have apart : rule.cooldown ≤ call.now - last := mayFire.cooled last fired
    have before := previousFired_le ordered fired
    omega
  · intro fires
    have held := fires.held
    refine ⟨fires.truthy, ?_, ?_, fun last fired => ?_⟩
    · simpa [remembered] using fires.unfired
    · change rule.forDuration ≤ call.now - (firstTrue past).getD call.now
      omega
    · have apart := fires.cooled last fired
      change rule.cooldown ≤ call.now - last
      omega

theorem clears_iff :
    ((remembered rule past).settle call.outcome call.now).2 = some .cleared ↔
      ClearsAt past call := by
  rw [settle_cleared_iff]
  have fired_iff : (remembered rule past).fired = true ↔
      ∃ turn ∈ sinceFalse past, turn.kind = some .fired := by simp [remembered]
  rw [fired_iff]
  exact ⟨fun ⟨falsy, fired⟩ => ⟨falsy, fired⟩, fun clears => ⟨clears.falsy, clears.fired⟩⟩

namespace AlertEngine

/-- One call touches no rule but its own; without a boolean it touches nothing. -/
structure Isolated (before after : AlertEngine) (call : EvalCall) : Prop where
  others : ∀ other, other ≠ call.idx → after.rules[other]? = before.rules[other]?
  inert : (∀ truthy, call.outcome ≠ .ok truthy) → after = before

theorem settled_isolated {engine : AlertEngine} {rule : CompiledRule} {call : EvalCall}
    (found : engine.rules[call.idx]? = some rule) :
    engine.Isolated (engine.settled call.idx rule call.outcome call.now call.wall) call := by
  refine ⟨fun other differs => ?_, settled_inert found⟩
  rw [settled_rules]
  exact List.getElem?_set_ne differs.symm

end AlertEngine

namespace Traced

variable {engine : AlertEngine} {traced next : Traced}

/-- A call in range is made, and leaves the settled rule and its event. -/
theorem step_of_found (found : traced.engine.rules[call.idx]? = some rule) :
    traced.step call = some
      ⟨traced.engine.settled call.idx rule call.outcome call.now call.wall,
        ⟨call, (rule.settle call.outcome call.now).2.map (AlertEvent.mk rule.name call.wall)⟩ ::
          traced.turns⟩ := by
  have applied := @AlertEngine.applyEvalResult_of_found traced.engine call.idx call.now call.wall
    call.outcome rule found
  obtain ⟨result, returned, after⟩ := Option.map_eq_some_iff.mp applied
  have recorded : traced.engine.recorded call =
      (rule.settle call.outcome call.now).2.map (AlertEvent.mk rule.name call.wall) := by
    simp only [AlertEngine.recorded, found, Option.bind_some]
  simp only [step, returned, Option.map_some, recorded, ← after]

theorem ofRule_cons (idx : Nat) (turn : Turn) (turns : List Turn) :
    ofRule idx (turn :: turns) =
      if turn.call.idx = idx then turn :: ofRule idx turns else ofRule idx turns := by
  simp [ofRule, List.filter_cons]

theorem mem_of_ofRule {idx : Nat} {turns : List Turn} (member : turn ∈ ofRule idx turns) :
    turn ∈ turns := List.mem_of_mem_filter member

/-- Every rule is what its own calls have left of it, these obey the law of the
rule, and the ring holds the newest events. -/
structure Follows (engine : AlertEngine) (traced : Traced) : Prop where
  rules : ∀ idx, traced.engine.rules[idx]? =
    (engine.rules[idx]?).map fun rule => remembered rule (ofRule idx traced.turns)
  lawful : ∀ idx rule, engine.rules[idx]? = some rule → Lawful rule (ofRule idx traced.turns)
  ring : traced.engine.events = (traced.turns.filterMap Turn.recorded).take eventCapacity

theorem Follows.start (fresh : ∀ rule ∈ engine.rules, rule.Fresh) (silent : engine.events = []) :
    Follows engine (start engine) := by
  refine ⟨fun idx => ?_, fun _ _ _ => trivial, silent⟩
  cases found : engine.rules[idx]? with
  | none => exact found
  | some rule =>
      have same := (fresh rule (List.mem_of_getElem? found)).remembered
      simpa only [Option.map_some, ofRule, Traced.start, List.filter_nil, ← same] using found

/-- A call in range that comes no earlier than the calls before it keeps the law. -/
theorem Follows.step (follows : Follows engine traced) (inside : call.idx < engine.rules.length)
    (ordered : ∀ turn ∈ traced.turns, turn.call.now ≤ call.now) :
    ∃ next turn, traced.step call = some next ∧ Follows engine next ∧
      next.turns = turn :: traced.turns ∧ turn.call = call := by
  have original : engine.rules[call.idx]? = some engine.rules[call.idx] :=
    List.getElem?_eq_getElem inside
  generalize engine.rules[call.idx] = rule at original
  let past := ofRule call.idx traced.turns
  have found : traced.engine.rules[call.idx]? = some (remembered rule past) := by
    rw [follows.rules, original, Option.map_some]
  have past_ordered : ∀ turn ∈ past, turn.call.now ≤ call.now :=
    fun turn member => ordered turn (mem_of_ofRule member)
  let turn : Turn := ⟨call, ((remembered rule past).settle call.outcome call.now).2.map
    (AlertEvent.mk rule.name call.wall)⟩
  have records : turn.kind = ((remembered rule past).settle call.outcome call.now).2 := by
    simp only [Turn.kind, turn, Option.map_map, Function.comp_def, Option.map_id']
  refine ⟨_, turn, step_of_found found, ⟨?_, ?_, ?_⟩, rfl, rfl⟩
  · intro idx
    rw [AlertEngine.settled_rules, ofRule_cons]
    by_cases same : call.idx = idx
    · subst same
      have stored : call.idx < traced.engine.rules.length := (List.getElem?_eq_some_iff.mp found).1
      rw [List.getElem?_set_self stored, original, Option.map_some, if_pos rfl]
      exact congrArg some (settle_remembered records)
    · rw [List.getElem?_set_ne same, follows.rules, if_neg same]
  · intro idx known_rule known
    rw [ofRule_cons]
    by_cases same : call.idx = idx
    · subst same
      rw [original] at known
      cases known
      rw [if_pos rfl]
      refine ⟨?_, ?_, ?_, follows.lawful call.idx rule original⟩
      · have fires := @fires_iff rule past call past_ordered
        rw [← records] at fires
        exact fires
      · have clears := @clears_iff rule past call
        rw [← records] at clears
        exact clears
      · intro event recorded
        obtain ⟨kind, _, rfl⟩ := Option.map_eq_some_iff.mp recorded
        exact ⟨rfl, rfl⟩
    · rw [if_neg same]
      exact follows.lawful idx known_rule known
  · rw [AlertEngine.settled_events follows.ring]
    have longer : (turn :: traced.turns).filterMap Turn.recorded =
        turn.recorded.toList ++ traced.turns.filterMap Turn.recorded := by
      rw [List.filterMap_cons]
      cases turn.recorded <;> rfl
    exact congrArg (List.take eventCapacity) longer.symm

/-- Calls in range whose times do not decrease run to the end and keep the law. -/
theorem Follows.exec (follows : Follows engine traced) {calls : List EvalCall}
    (inRange : ∀ call ∈ calls, call.idx < engine.rules.length)
    (later : ∀ turn ∈ traced.turns, ∀ call ∈ calls, turn.call.now ≤ call.now)
    (ordered : calls.Pairwise fun first second => first.now ≤ second.now) :
    ∃ final, Run.exec Traced.step traced calls = some final ∧ Follows engine final ∧
      final.turns.map Turn.call = calls.reverse ++ traced.turns.map Turn.call := by
  induction calls generalizing traced with
  | nil => exact ⟨traced, rfl, follows, rfl⟩
  | cons call rest ih =>
      obtain ⟨next, turn, taken, kept, longer, evaluates⟩ :=
        follows.step (inRange call List.mem_cons_self)
          (fun turn member => later turn member call List.mem_cons_self)
      obtain ⟨first, ordered_rest⟩ := List.pairwise_cons.mp ordered
      have later_rest : ∀ turn ∈ next.turns, ∀ call ∈ rest, turn.call.now ≤ call.now := by
        intro earlier member other inside
        rw [longer] at member
        rcases List.mem_cons.mp member with same | before
        · rw [same, evaluates]
          exact first other inside
        · exact later earlier before other (List.mem_cons_of_mem _ inside)
      obtain ⟨final, remaining, lawful, turns⟩ :=
        ih kept (fun other inside => inRange other (List.mem_cons_of_mem _ inside)) later_rest
          ordered_rest
      refine ⟨final, Run.exec_cons.mpr ⟨next, taken, remaining⟩, lawful, ?_⟩
      simp [turns, longer, evaluates]

end Traced

/-- The last event of a rule is `Fired` exactly while it has fired since its last
false outcome, so its events alternate. -/
theorem Lawful.alternates {rule : CompiledRule} {past : List Turn} (lawful : Lawful rule past) :
    Alternates (past.filterMap Turn.kind) ∧
      ((past.filterMap Turn.kind).head? = some .fired ↔
        ∃ turn ∈ sinceFalse past, turn.kind = some .fired) := by
  induction past with
  | nil => simp [Alternates, sinceFalse]
  | cons turn past ih =>
      obtain ⟨fires, clears, _, earlier⟩ := lawful
      obtain ⟨alternating, last⟩ := ih earlier
      rw [List.filterMap_cons]
      cases kind : turn.kind with
      | none =>
          by_cases falsy : turn.call.outcome = .ok false
          · have quiet : ¬ ∃ turn ∈ sinceFalse past, turn.kind = some .fired := by
              intro fired
              have cleared := clears.mpr ⟨falsy, fired⟩
              rw [kind] at cleared
              cases cleared
            refine ⟨alternating, ?_⟩
            rw [last, sinceFalse_cons_false falsy]
            simpa using quiet
          · refine ⟨alternating, ?_⟩
            rw [last, sinceFalse_cons falsy]
            simp [kind]
      | some event =>
          cases event with
          | fired =>
              have law := fires.mp kind
              have differs : turn.call.outcome ≠ .ok false := by simp [law.truthy]
              have quiet : (past.filterMap Turn.kind).head? ≠ some .fired := by
                intro fired
                obtain ⟨other, member, same⟩ := last.mp fired
                exact law.unfired other member same
              refine ⟨⟨(if_neg quiet).symm, alternating⟩, ?_⟩
              rw [sinceFalse_cons differs]
              simp [kind]
          | cleared =>
              have law := clears.mp kind
              have fired := last.mpr law.fired
              refine ⟨⟨(if_pos fired).symm, alternating⟩, ?_⟩
              rw [sinceFalse_cons_false law.falsy]
              simp

theorem Traced.step_isolated {traced next : Traced} (taken : traced.step call = some next) :
    traced.engine.Isolated next.engine call := by
  cases found : traced.engine.rules[call.idx]? with
  | none =>
      simp [Traced.step, AlertEngine.applyEvalResult, found] at taken
  | some rule =>
      rw [Traced.step_of_found found] at taken
      cases taken
      exact AlertEngine.settled_isolated found

/-- For every run of calls with times in order on rules never evaluated before:
each call records what the history of its rule says, the events of a rule
alternate, the ring holds the newest events, and a call touches only its rule. -/
theorem alerts_follow_history (engine : AlertEngine) (fresh : ∀ rule ∈ engine.rules, rule.Fresh)
    (silent : engine.events = []) (calls : List EvalCall)
    (inRange : ∀ call ∈ calls, call.idx < engine.rules.length)
    (ordered : calls.Pairwise fun first second => first.now ≤ second.now) :
    ∃ final, Run.exec Traced.step (Traced.start engine) calls = some final ∧
      final.turns.map Turn.call = calls.reverse ∧
      (∀ idx rule, engine.rules[idx]? = some rule → Lawful rule (ofRule idx final.turns) ∧
        Alternates ((ofRule idx final.turns).filterMap Turn.kind)) ∧
      final.engine.events = (final.turns.filterMap Turn.recorded).take eventCapacity ∧
      ∀ traced call next, Traced.step traced call = some next →
        traced.engine.Isolated next.engine call := by
  have none_before : ∀ turn ∈ (Traced.start engine).turns, ∀ call ∈ calls,
      turn.call.now ≤ call.now := by
    intro turn member
    cases member
  obtain ⟨final, ran, follows, made⟩ :=
    (Traced.Follows.start fresh silent).exec inRange none_before ordered
  refine ⟨final, ran, ?_, ?_, follows.ring, ?_⟩
  · simpa [Traced.start] using made
  · intro idx rule known
    have lawful := follows.lawful idx rule known
    exact ⟨lawful, lawful.alternates.1⟩
  · intro traced call next taken
    exact Traced.step_isolated taken

/-- Two rules that wait one second and rest five. -/
def sampleEngine : AlertEngine :=
  .new [compileRule "busy" "cpu.util > 50" 1000 5000 ["desktop"] none,
    compileRule "hot" "xe.gpu1.temp_c > 85" 1000 5000 [] none]

/-- The first rule fires, clears, rests and fires again, past an error. -/
def sampleCalls : List EvalCall :=
  [⟨0, .ok true, 0, 0⟩, ⟨1, .ok true, 500, 1⟩, ⟨0, .ok true, 1000, 2⟩, ⟨0, .timeout, 1500, 3⟩,
    ⟨0, .ok false, 2000, 4⟩, ⟨0, .ok true, 3000, 5⟩, ⟨0, .ok true, 4500, 6⟩,
    ⟨0, .ok true, 6000, 7⟩]

theorem alerts_follow_history_sample :
    ∃ final, Run.exec Traced.step (Traced.start sampleEngine) sampleCalls = some final ∧
      Alternates ((ofRule 0 final.turns).filterMap Turn.kind) ∧
      final.engine.events = [⟨"busy", 7, .fired⟩, ⟨"busy", 4, .cleared⟩, ⟨"busy", 2, .fired⟩] := by
  have fresh : ∀ rule ∈ sampleEngine.rules, rule.Fresh := by
    intro rule member
    rcases List.mem_cons.mp member with rfl | member
    · exact ⟨rfl, rfl, rfl⟩
    · cases List.mem_singleton.mp member
      exact ⟨rfl, rfl, rfl⟩
  obtain ⟨final, ran, _, lawful, _, _⟩ :=
    alerts_follow_history sampleEngine fresh rfl sampleCalls (by decide) (by decide)
  have events : (Run.exec Traced.step (Traced.start sampleEngine) sampleCalls).map
      (·.engine.events) =
        some [⟨"busy", 7, .fired⟩, ⟨"busy", 4, .cleared⟩, ⟨"busy", 2, .fired⟩] := by
    decide +kernel
  rw [ran] at events
  exact ⟨final, ran, (lawful 0 _ rfl).2, Option.some.inj events⟩

end LinSight.Alerts
