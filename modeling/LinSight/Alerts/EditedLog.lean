import LinSight.Alerts.Handle

set_option autoImplicit false

/-! The log of a rule's events, while evaluations and edits write its state. -/

namespace LinSight.Alerts

/-- The events recorded for a name since it last came to exist, newest first. -/
def lifeEvents (name : String) : List LogEntry → List LoggedEvent
  | [] => []
  | .deleted gone :: earlier => if gone = name then [] else lifeEvents name earlier
  | .event logged :: earlier =>
      if logged.event.rule = name then logged :: lifeEvents name earlier
      else lifeEvents name earlier

def LoggedEvent.kind (logged : LoggedEvent) : AlertEventKind := logged.event.kind

def LogEntry.event? : LogEntry → Option AlertEvent
  | .event logged => some logged.event
  | .deleted _ => none

/-- Two firings are as far apart as the cooldown at the later one asks. -/
def Spaced (events : List LoggedEvent) : Prop :=
  events.Pairwise fun newer older =>
    newer.kind = .fired → older.kind = .fired → older.time + newer.cooldown ≤ newer.time

/-- When the newest firing of a log was. -/
def lastFired (events : List LoggedEvent) : Option Nat :=
  (events.find? (·.kind = .fired)).map LoggedEvent.time

/-- The edit finds its rule not fired, and a hold that starts with it ends no
earlier than the cooldown of the last firing. -/
def EditsQuietly (handle : Handle) : HandleStep → Prop
  | .upsertRule name _ forDuration cooldown _ _ now =>
      ∀ rule ∈ handle.engine.rules, rule.name = name → rule.fired = false ∧
        ∀ last ∈ lastFired (lifeEvents name handle.log), last + cooldown ≤ now + forDuration
  | _ => True

instance (handle : Handle) : (label : HandleStep) → Decidable (EditsQuietly handle label)
  | .upsertRule name _ _ _ _ _ _ =>
      inferInstanceAs (Decidable (∀ rule ∈ handle.engine.rules, rule.name = name → _ ∧ _))
  | .observe _ | .apply _ _ _ _ | .deleteRule _ => .isTrue trivial

/-- The state of a rule agrees with the events that are on record for it. -/
structure RuleLog (rule : CompiledRule) (events : List LoggedEvent) (clock : Nat) : Prop where
  alternates : Alternates (events.map LoggedEvent.kind)
  spaced : Spaced events
  descending : events.Pairwise fun newer older => older.time ≤ newer.time
  past : ∀ logged ∈ events, logged.time ≤ clock
  fired_iff : rule.fired = true ↔ (events.map LoggedEvent.kind).head? = some .fired
  triggered : ∀ start, rule.triggeredAt = some start → start ≤ clock
  rests : ∀ last, lastFired events = some last →
    rule.lastFiredAt = some last ∨
      last + rule.cooldown ≤ rule.triggeredAt.getD clock + rule.forDuration

variable {rule : CompiledRule} {events : List LoggedEvent} {clock now wall : Nat}
  {outcome : EvalOutcome}

/-- A rule that did not fire yet, and no events. -/
theorem RuleLog.empty (triggered : rule.triggeredAt = none) (unfired : rule.fired = false) :
    RuleLog rule [] clock := by
  refine ⟨trivial, List.Pairwise.nil, List.Pairwise.nil, ?_, ?_, ?_, ?_⟩
  · intro logged member
    cases member
  · simp [unfired]
  · simp [triggered]
  · intro last fired
    cases fired

theorem RuleLog.later (log : RuleLog rule events clock) (later : clock ≤ now) :
    RuleLog rule events now := by
  refine { log with past := ?_, triggered := ?_, rests := ?_ }
  · intro logged member
    have before := log.past logged member
    omega
  · intro start triggered
    have before := log.triggered start triggered
    omega
  · intro last fired
    rcases log.rests last fired with same | rested
    · exact Or.inl same
    · right
      cases triggered : rule.triggeredAt with
      | none =>
          simp only [triggered, Option.getD_none] at rested ⊢
          omega
      | some start =>
          simp only [triggered, Option.getD_some] at rested ⊢
          exact rested

/-- The newest firing is no older than any other. -/
theorem le_lastFired (descending : events.Pairwise fun newer older => older.time ≤ newer.time)
    {logged : LoggedEvent} (member : logged ∈ events) (fired : logged.kind = .fired) :
    ∃ last, lastFired events = some last ∧ logged.time ≤ last := by
  induction events with
  | nil => cases member
  | cons newest earlier ih =>
      obtain ⟨first, rest⟩ := List.pairwise_cons.mp descending
      by_cases newest_fired : newest.kind = .fired
      · refine ⟨newest.time, by simp [lastFired, newest_fired], ?_⟩
        rcases List.mem_cons.mp member with same | before
        · rw [same]
        · exact first logged before
      · rcases List.mem_cons.mp member with same | before
        · exact absurd (same ▸ fired) newest_fired
        · obtain ⟨last, found, le⟩ := ih rest before
          refine ⟨last, ?_, le⟩
          simpa [lastFired, newest_fired] using found

theorem lastFired_le (past : ∀ logged ∈ events, logged.time ≤ clock) {last : Nat}
    (fired : lastFired events = some last) : last ≤ clock := by
  obtain ⟨logged, found, rfl⟩ := Option.map_eq_some_iff.mp fired
  exact past logged (List.mem_of_find?_eq_some found)

/-- A rule that may fire is past the cooldown of its last firing on record. -/
theorem RuleLog.cooled (log : RuleLog rule events clock) (later : clock ≤ now)
    (mayFire : rule.MayFire now) {last : Nat} (fired : lastFired events = some last) :
    last + rule.cooldown ≤ now := by
  have before := lastFired_le log.past fired
  have held := mayFire.held
  rcases log.rests last fired with same | rested
  · have apart := mayFire.cooled last same
    omega
  · cases triggered : rule.triggeredAt with
    | none =>
        simp only [triggered, Option.getD_none] at rested held
        omega
    | some start =>
        have begun := log.triggered start triggered
        simp only [triggered, Option.getD_some] at rested held
        omega

/-- The log of a rule that fires. -/
theorem RuleLog.fires (log : RuleLog rule events clock) (later : clock ≤ now)
    (mayFire : rule.MayFire now) :
    RuleLog
      { rule with
        triggeredAt := some (rule.triggeredAt.getD now), fired := true, lastFiredAt := some now }
      (⟨⟨rule.name, wall, .fired⟩, now, rule.cooldown⟩ :: events) now where
  alternates := by
    have quiet : (events.map LoggedEvent.kind).head? ≠ some .fired := by
      intro fired
      have unfired := mayFire.unfired
      rw [log.fired_iff.mpr fired] at unfired
      cases unfired
    exact ⟨(if_neg quiet).symm, log.alternates⟩
  spaced := by
    refine List.pairwise_cons.mpr ⟨fun older member _ fired => ?_, log.spaced⟩
    obtain ⟨last, found, le⟩ := le_lastFired log.descending member fired
    have cooled := log.cooled later mayFire found
    change older.time + rule.cooldown ≤ now
    omega
  descending := by
    refine List.pairwise_cons.mpr ⟨fun older member => ?_, log.descending⟩
    have before := log.past older member
    exact Nat.le_trans before later
  past := by
    intro logged member
    rcases List.mem_cons.mp member with same | before
    · rw [same]
    · exact Nat.le_trans (log.past logged before) later
  fired_iff := by simp [LoggedEvent.kind]
  triggered := by
    intro start triggered
    cases triggered
    cases found : rule.triggeredAt with
    | none => exact Nat.le_refl now
    | some start => exact Nat.le_trans (log.triggered start found) later
  rests := by
    intro last fired
    left
    simpa [lastFired, LoggedEvent.kind] using fired

/-- The log of a rule whose true outcome is not recorded. -/
theorem RuleLog.waits (log : RuleLog rule events clock) (later : clock ≤ now) :
    RuleLog { rule with triggeredAt := some (rule.triggeredAt.getD now) } events now := by
  have kept := log.later later
  refine { kept with triggered := ?_, rests := ?_ }
  · intro start triggered
    cases triggered
    cases found : rule.triggeredAt with
    | none => exact Nat.le_refl now
    | some start => exact kept.triggered start found
  · exact kept.rests

/-- The log of a rule that is found false. -/
theorem RuleLog.clears (log : RuleLog rule events clock) (later : clock ≤ now) :
    RuleLog { rule with triggeredAt := none, fired := false }
      (((if rule.fired then some AlertEventKind.cleared else none).map fun kind =>
        LoggedEvent.mk ⟨rule.name, wall, kind⟩ now rule.cooldown).toList ++ events) now := by
  have kept := log.later later
  have rests : ∀ last, lastFired events = some last →
      rule.lastFiredAt = some last ∨ last + rule.cooldown ≤ now + rule.forDuration := by
    intro last fired
    rcases log.rests last fired with same | rested
    · exact Or.inl same
    · right
      cases triggered : rule.triggeredAt with
      | none =>
          simp only [triggered, Option.getD_none] at rested
          omega
      | some start =>
          have begun := kept.triggered start triggered
          simp only [triggered, Option.getD_some] at rested
          omega
  cases fired : rule.fired with
  | false =>
      have quiet : (events.map LoggedEvent.kind).head? ≠ some .fired := by
        intro newest
        rw [log.fired_iff.mpr newest] at fired
        cases fired
      refine { kept with fired_iff := ?_, triggered := ?_, rests := rests }
      · simpa using quiet
      · intro start triggered
        cases triggered
  | true =>
      have newest := log.fired_iff.mp fired
      refine ⟨⟨(if_pos newest).symm, log.alternates⟩, ?_, ?_, ?_, ?_, ?_, ?_⟩
      · refine List.pairwise_cons.mpr ⟨fun older member cleared => ?_, log.spaced⟩
        cases cleared
      · exact List.pairwise_cons.mpr ⟨kept.past, log.descending⟩
      · intro logged member
        rcases List.mem_cons.mp member with same | before
        · rw [same]
        · exact kept.past logged before
      · simp [LoggedEvent.kind]
      · intro start triggered
        cases triggered
      · intro last found
        apply rests last
        simpa [lastFired, LoggedEvent.kind] using found

/-- A rule's log and state stay in agreement through every outcome. -/
theorem RuleLog.settle (log : RuleLog rule events clock) (later : clock ≤ now)
    (outcome : EvalOutcome) (wall : Nat) :
    RuleLog (rule.settle outcome now).1
      (((rule.settle outcome now).2.map fun kind =>
        LoggedEvent.mk ⟨rule.name, wall, kind⟩ now rule.cooldown).toList ++ events) now := by
  by_cases inert : ∀ truthy, outcome ≠ .ok truthy
  · rw [settle_inert inert]
    exact log.later later
  · obtain ⟨truthy, rfl⟩ := not_forall_not.mp inert
    cases truthy with
    | false => exact log.clears later
    | true =>
        by_cases mayFire : rule.MayFire now
        · rw [settle_fires mayFire]
          exact log.fires later mayFire
        · rw [settle_waits mayFire]
          exact log.waits later

/-- The rules' names differ, every rule agrees with its log, a name without a rule
has none, and the ring holds the newest events. -/
structure Logged (handle : Handle) : Prop where
  names : (handle.engine.rules.map CompiledRule.name).Nodup
  rules : ∀ rule ∈ handle.engine.rules,
    RuleLog rule (lifeEvents rule.name handle.log) handle.clock
  gone : ∀ name, name ∉ handle.engine.rules.map CompiledRule.name →
    lifeEvents name handle.log = []
  ring : handle.engine.events = (handle.log.filterMap LogEntry.event?).take eventCapacity

namespace Logged

variable {handle next : Handle} {name : String}

theorem start {rules : List CompiledRule} (fresh : ∀ rule ∈ rules, rule.Fresh)
    (distinct : (rules.map CompiledRule.name).Nodup) : Logged (Handle.start rules) := by
  refine ⟨distinct, ?_, fun _ _ => rfl, rfl⟩
  intro rule member
  obtain ⟨triggered, unfired, _⟩ := fresh rule member
  exact RuleLog.empty triggered unfired

/-- A rule is replaced under its name, and only its log grows. -/
theorem replaced (logged : Logged handle) {position : Nat} {rule updated : CompiledRule}
    (found : handle.engine.rules[position]? = some rule)
    (stored : next.engine.rules = handle.engine.rules.set position updated)
    (same : updated.name = rule.name) (later : handle.clock ≤ next.clock)
    (own : RuleLog updated (lifeEvents rule.name next.log) next.clock)
    (others : ∀ name, name ≠ rule.name → lifeEvents name next.log = lifeEvents name handle.log)
    (ring : next.engine.events = (next.log.filterMap LogEntry.event?).take eventCapacity) :
    Logged next := by
  have inside := (List.getElem?_eq_some_iff.mp found).1
  have names : next.engine.rules.map CompiledRule.name =
      handle.engine.rules.map CompiledRule.name := by
    rw [stored, map_set_of_same found same]
  have distinct : (next.engine.rules.map CompiledRule.name).Nodup := names ▸ logged.names
  have updated_there : updated ∈ next.engine.rules := by
    rw [stored]
    exact List.mem_set inside updated
  refine ⟨distinct, ?_, ?_, ring⟩
  · intro other member
    by_cases named : other.name = rule.name
    · have identical : other = updated :=
        List.inj_on_of_nodup_map distinct member updated_there (named.trans same.symm)
      rw [identical, same]
      exact own
    · rw [others other.name named]
      rw [stored] at member
      rcases List.mem_or_eq_of_mem_set member with before | identical
      · exact (logged.rules other before).later later
      · exact absurd (identical ▸ same) named
  · intro name absent
    rw [names] at absent
    have differs : name ≠ rule.name := by
      intro equal
      apply absent
      rw [equal]
      exact List.mem_map_of_mem (List.mem_of_getElem? found)
    rw [others name differs]
    exact logged.gone name absent

theorem lifeEvents_logged {engine : AlertEngine} {idx : Nat} {rule : CompiledRule}
    (found : engine.rules[idx]? = some rule) (outcome : EvalOutcome) (now wall : Nat)
    (log : List LogEntry) (name : String) :
    lifeEvents name (Handle.logged engine idx outcome now wall ++ log) =
      (if rule.name = name then ((rule.settle outcome now).2.map fun kind =>
        LoggedEvent.mk ⟨rule.name, wall, kind⟩ now rule.cooldown).toList else []) ++
        lifeEvents name log := by
  rw [Handle.logged_of_found found]
  cases (rule.settle outcome now).2 with
  | none => simp
  | some kind =>
      simp only [Option.map_some, Option.toList_some, List.cons_append, List.nil_append, lifeEvents]
      split <;> simp

theorem applied (logged : Logged handle) {waiting now : Nat} {pending : Pending}
    (outcome : EvalOutcome) (wall : Nat) (later : handle.clock ≤ now) :
    Logged (handle.applyOutcome waiting pending outcome now wall) := by
  cases found : handle.engine.rules[pending.job.idx]? with
  | none =>
      rw [Handle.applyOutcome_of_missing found]
      exact ⟨logged.names, logged.rules, logged.gone, logged.ring⟩
  | some rule =>
      rw [Handle.applyOutcome_of_found found]
      have own := (logged.rules rule (List.mem_of_getElem? found)).settle later outcome wall
      refine logged.replaced found AlertEngine.settled_rules ?_ later ?_ ?_ ?_
      · rw [settle_settings]
      · rw [lifeEvents_logged found, if_pos rfl]
        exact own
      · intro name differs
        rw [lifeEvents_logged found, if_neg differs.symm, List.nil_append]
      · rw [AlertEngine.settled_events logged.ring, Handle.logged_of_found found,
          List.filterMap_append]
        cases (rule.settle outcome now).2 <;> rfl

/-- An edit that meets its condition starts the rule over without breaking its log. -/
theorem upserted (logged : Logged handle) {name expr : String} {forDuration cooldown now : Nat}
    {notify : List String} {enabled : Option Bool} (later : handle.clock ≤ now)
    (quiet : EditsQuietly handle
      (.upsertRule name expr forDuration cooldown notify enabled now)) :
    Logged (handle.upsertRule name expr forDuration cooldown notify enabled now) := by
  cases first : handle.engine.rules.findIdx? (·.name = name) with
  | some position =>
      obtain ⟨rule, found, named⟩ := findIdx?_name_some first
      have member := List.mem_of_getElem? found
      obtain ⟨unfired, rested⟩ := quiet rule member named
      have log := (logged.rules rule member).later later
      simp only [Handle.upsertRule, first, upsertRule_of_some first found]
      refine logged.replaced found rfl rfl later ?_ (fun _ _ => rfl) logged.ring
      refine ⟨log.alternates, log.spaced, log.descending, log.past, ?_, ?_, ?_⟩
      · rw [← log.fired_iff, unfired]
        rfl
      · intro start triggered
        cases triggered
      · intro last fired
        rw [named] at fired
        exact Or.inr (rested last fired)
  | none =>
      have absent : name ∉ handle.engine.rules.map CompiledRule.name := by
        intro member
        obtain ⟨rule, there, named⟩ := List.mem_map.mp member
        have differs := List.findIdx?_eq_none_iff.mp first rule there
        exact of_decide_eq_false differs named
      simp only [Handle.upsertRule, first, upsertRule_of_none first]
      refine ⟨?_, ?_, ?_, logged.ring⟩
      · simp only [List.map_append, List.map_cons, List.map_nil, compileRule]
        refine List.nodup_append.mpr ⟨logged.names, List.nodup_singleton name, ?_⟩
        intro other member new added equal
        have fresh := List.mem_singleton.mp added
        exact absent (fresh ▸ equal ▸ member)
      · intro rule member
        rcases List.mem_append.mp member with before | added
        · exact (logged.rules rule before).later later
        · cases List.mem_singleton.mp added
          simp only [compileRule, logged.gone name absent]
          exact RuleLog.empty rfl rfl
      · intro other missing
        apply logged.gone other
        intro member
        apply missing
        simp only [List.map_append]
        exact List.mem_append_left _ member

theorem deleted (logged : Logged handle) (name : String) :
    Logged (handle.deleteRule name) := by
  have kept_subset : ∀ rule, rule ∈ (handle.engine.rules.filter (·.name ≠ name)) ↔
      rule ∈ handle.engine.rules ∧ rule.name ≠ name := by simp
  refine ⟨?_, ?_, ?_, logged.ring⟩
  · exact logged.names.sublist (List.filter_sublist.map CompiledRule.name)
  · intro rule member
    obtain ⟨there, differs⟩ := (kept_subset rule).mp member
    have log := logged.rules rule there
    simpa [Handle.deleteRule, lifeEvents, differs.symm] using log
  · intro other missing
    simp only [Handle.deleteRule, lifeEvents]
    split
    · rfl
    · rename_i differs
      apply logged.gone other
      intro member
      obtain ⟨rule, there, named⟩ := List.mem_map.mp member
      apply missing
      have stays : rule.name ≠ name := by
        rw [named]
        exact fun equal => differs equal.symm
      exact List.mem_map.mpr ⟨rule, (kept_subset rule).mpr ⟨there, stays⟩, named⟩

theorem step {label : HandleStep} (logged : Logged handle)
    (taken : handle.step label = some next) (quiet : EditsQuietly handle label) :
    Logged next := by
  cases label with
  | observe sample =>
      obtain ⟨_, rfl⟩ := Run.enabled_eq_some.mp taken
      obtain ⟨rules, events⟩ := observe_frame handle.engine sample
      refine ⟨?_, ?_, ?_, ?_⟩
      · exact rules.symm ▸ logged.names
      · exact rules.symm ▸ logged.rules
      · exact rules.symm ▸ logged.gone
      · exact events.trans logged.ring
  | apply waiting outcome now wall =>
      obtain ⟨pending, _, enabled⟩ := Option.bind_eq_some_iff.mp taken
      obtain ⟨⟨_, later⟩, rfl⟩ := Run.enabled_eq_some.mp enabled
      exact logged.applied outcome wall later
  | upsertRule name expr forDuration cooldown notify enabled now =>
      obtain ⟨⟨_, later⟩, rfl⟩ := Run.enabled_eq_some.mp taken
      exact logged.upserted later quiet
  | deleteRule name =>
      obtain ⟨_, rfl⟩ := Run.enabled_eq_some.mp taken
      exact logged.deleted name

theorem lawful (logged : Logged handle) (name : String) :
    Alternates ((lifeEvents name handle.log).map LoggedEvent.kind) ∧
      Spaced (lifeEvents name handle.log) := by
  by_cases present : name ∈ handle.engine.rules.map CompiledRule.name
  · obtain ⟨rule, there, named⟩ := List.mem_map.mp present
    have log := logged.rules rule there
    rw [named] at log
    exact ⟨log.alternates, log.spaced⟩
  · rw [logged.gone name present]
    exact ⟨trivial, List.Pairwise.nil⟩

end Logged

/-- In every run whose edits find their rule not fired and past its cooldown, on
rules with distinct names, the events of every name alternate and its firings are
a cooldown apart. -/
theorem edited_log_alternates {rules : List CompiledRule} (fresh : ∀ rule ∈ rules, rule.Fresh)
    (distinct : (rules.map CompiledRule.name).Nodup) {steps : List HandleStep} {handle : Handle}
    (run : Run.exec Handle.step (Handle.start rules) steps = some handle)
    (quiet : Run.Always Handle.step EditsQuietly (Handle.start rules) steps) :
    (∀ name, Alternates ((lifeEvents name handle.log).map LoggedEvent.kind) ∧
      Spaced (lifeEvents name handle.log)) ∧
    handle.engine.events = (handle.log.filterMap LogEntry.event?).take eventCapacity := by
  have logged : Logged handle := Run.exec_invariant_of_always Logged
    (fun _ _ _ taken allowed before => before.step taken allowed) run quiet
    (Logged.start fresh distinct)
  exact ⟨logged.lawful, logged.ring⟩

/-- A rule that rests five seconds, evaluated, edited after its rest, evaluated
again, deleted and added anew. -/
def busyRule : CompiledRule := compileRule "busy" "cpu.util > 50" 0 5000 ["desktop"] none

def utilSample : Sample := ⟨⟨"cpu.util"⟩, 0, .scalar (.finite 90)⟩

def quietEdits : List HandleStep :=
  [.observe utilSample, .apply 0 (.ok true) 10 0, .observe utilSample,
    .apply 0 (.ok false) 100 1, .upsertRule "busy" "cpu.util > 60" 0 4000 [] none 4500,
    .observe utilSample, .apply 0 (.ok true) 4600 2, .deleteRule "busy",
    .upsertRule "busy" "cpu.util > 50" 0 5000 [] none 4700, .observe utilSample,
    .apply 0 (.ok true) 4800 3]

theorem edited_log_alternates_quiet :
    ∃ handle, Run.exec Handle.step (Handle.start [busyRule]) quietEdits = some handle ∧
      Alternates ((lifeEvents "busy" handle.log).map LoggedEvent.kind) ∧
      handle.engine.events.map AlertEvent.tsMicros = [3, 2, 1, 0] := by
  have ran : (Run.exec Handle.step (Handle.start [busyRule]) quietEdits).isSome = true := by
    decide +kernel
  have fresh : ∀ rule ∈ [busyRule], rule.Fresh := by
    intro rule member
    cases List.mem_singleton.mp member
    exact ⟨rfl, rfl, rfl⟩
  have quiet : Run.Always Handle.step EditsQuietly (Handle.start [busyRule]) quietEdits :=
    Run.Always.of_check (fun handle label => of_decide_eq_true) (by decide +kernel)
  have stamps : (Option.get _ ran).engine.events.map AlertEvent.tsMicros = [3, 2, 1, 0] := by
    decide +kernel +revert
  have exec := (Option.some_get ran).symm
  exact ⟨_, exec, ((edited_log_alternates fresh (by decide) exec quiet).1 "busy").1, stamps⟩

/-- The rule fires, an edit that changes nothing starts it over, and it fires again:
without having cleared, and within its rest. -/
theorem edit_repeats_fired :
    ∃ handle, Run.exec Handle.step (Handle.start [busyRule])
        [.observe utilSample, .apply 0 (.ok true) 10 0,
          .upsertRule "busy" "cpu.util > 50" 0 5000 ["desktop"] none 20,
          .observe utilSample, .apply 0 (.ok true) 30 1] = some handle ∧
      ¬ Alternates ((lifeEvents "busy" handle.log).map LoggedEvent.kind) ∧
      ¬ Spaced (lifeEvents "busy" handle.log) := by
  have ran : (Run.exec Handle.step (Handle.start [busyRule])
      [.observe utilSample, .apply 0 (.ok true) 10 0,
        .upsertRule "busy" "cpu.util > 50" 0 5000 ["desktop"] none 20,
        .observe utilSample, .apply 0 (.ok true) 30 1]).isSome = true := by
    decide +kernel
  refine ⟨_, (Option.some_get ran).symm, ?_⟩
  have events : lifeEvents "busy" (Option.get _ ran).log =
      [⟨⟨"busy", 1, .fired⟩, 30, 5000⟩, ⟨⟨"busy", 0, .fired⟩, 10, 5000⟩] := by
    decide +kernel +revert
  rw [events]
  constructor
  · intro alternates
    cases alternates.1
  · intro spaced
    have apart := (List.pairwise_cons.mp spaced).1 _ List.mem_cons_self rfl rfl
    exact absurd apart (by decide)

end LinSight.Alerts
