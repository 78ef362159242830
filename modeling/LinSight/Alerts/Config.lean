import LinSight.Alerts.DurationRoundTrip
import LinSight.Alerts.Engine
import LinSight.Library.Fallible
import LinSight.Library.Run

set_option autoImplicit false

/-! The alert configuration: loading it, editing the rules and saving it. -/

namespace LinSight.Alerts

open DebugText (Message)

structure RuleConfig where
  name : String
  expr : String
  forDuration : Option String
  cooldown : Option String
  notify : List String
  enabled : Option Bool
deriving DecidableEq

structure AlertsConfig where
  rules : List RuleConfig
deriving DecidableEq

/-- The TOML text of a configuration. -/
structure TomlCodec (Text : Type) where
  toString : AlertsConfig → Except String Text
  fromStr : Text → Except String AlertsConfig

/-- What a configuration file says about a rule. -/
structure RuleSettings where
  name : String
  expr : String
  forDuration : Nat
  cooldown : Nat
  notify : List String
  enabled : Bool
deriving DecidableEq

def CompiledRule.settings (r : CompiledRule) : RuleSettings :=
  ⟨r.name, r.expr, r.forDuration, r.cooldown, r.notify, r.enabled⟩

/-- `none` is the panic of a duration's parser. -/
def loadRule (r : RuleConfig) : Option (Except String CompiledRule) :=
  match optParseDuration r.forDuration with
  | none => none
  | some (.error _) => some (.error ("rule " ++ r.name ++ ": bad `for`"))
  | some (.ok forDuration) =>
      match optParseDuration r.cooldown with
      | none => none
      | some (.error _) => some (.error ("rule " ++ r.name ++ ": bad `cooldown`"))
      | some (.ok cooldown) =>
          some (.ok (compileRule r.name r.expr forDuration cooldown r.notify r.enabled))

/-- The first rule that cannot be loaded ends the loop. -/
def loadRules : List RuleConfig → Option (Except String (List CompiledRule))
  | [] => some (.ok [])
  | r :: rest =>
      match loadRule r with
      | none => none
      | some (.error e) => some (.error e)
      | some (.ok compiled) => (loadRules rest).map (·.map (compiled :: ·))

/-- The rule in the configuration that is saved. -/
def CompiledRule.config (r : CompiledRule) : RuleConfig where
  name := r.name
  expr := r.expr
  forDuration := optFormatDuration r.forDuration
  cooldown := optFormatDuration r.cooldown
  notify := r.notify
  enabled := if r.enabled then none else some false

namespace AlertEngine

section Codec

variable {Text : Type} (codec : TomlCodec Text)

/-- `file` is `none` where the file cannot be read. -/
def load (path : String) (file : Option Text) : Option (Except String AlertEngine) :=
  match file with
  | none => some (.error ("read " ++ path))
  | some content =>
      match codec.fromStr content with
      | .error _ => some (.error ("parse " ++ path))
      | .ok config => (loadRules config.rules).map (·.map .new)

/-- The configuration that `save_config` takes under the lock. -/
def config (engine : AlertEngine) : AlertsConfig := ⟨engine.rules.map CompiledRule.config⟩

/-- The text that `save_config` writes. -/
def configText (engine : AlertEngine) : Except String Text :=
  (codec.toString engine.config).mapError ("serialize: " ++ ·)

end Codec

/-- `upsert_rule` with the texts of the durations, which it parses before it takes the
lock. -/
def parseAndUpsert (engine : AlertEngine) (name expr : String)
    (forDuration cooldown : Option String) (notify : List String) (enabled : Option Bool) :
    Option (Except Message AlertEngine) :=
  match optParseDuration forDuration with
  | none => none
  | some (.error e) => some (.error e)
  | some (.ok forDuration) =>
      match optParseDuration cooldown with
      | none => none
      | some (.error e) => some (.error e)
      | some (.ok cooldown) =>
          some (.ok (engine.upsertRule name expr forDuration cooldown notify enabled))

end AlertEngine

inductive ConfigEdit where
  | upsertRule (name expr : String) (forDuration cooldown : Option String)
      (notify : List String) (enabled : Option Bool)
  | deleteRule (name : String)

/-- A successful edit of the rules. -/
def AlertEngine.edit (engine : AlertEngine) : ConfigEdit → Option AlertEngine
  | .upsertRule name expr forDuration cooldown notify enabled =>
      match engine.parseAndUpsert name expr forDuration cooldown notify enabled with
      | some (.ok edited) => some edited
      | _ => none
  | .deleteRule name => some (engine.deleteRule name).1

/-- Both durations of the rule come from texts. -/
structure CompiledRule.Written (r : CompiledRule) : Prop where
  forDuration : Readable r.forDuration
  cooldown : Readable r.cooldown

/-- Both durations of the rule outlive their texts. -/
structure CompiledRule.Kept (r : CompiledRule) : Prop where
  forDuration : Alerts.Kept r.forDuration
  cooldown : Alerts.Kept r.cooldown

section Load

theorem loadRule_ok {r : RuleConfig} {compiled : CompiledRule}
    (loaded : loadRule r = some (.ok compiled)) :
    ∃ forDuration cooldown, optParseDuration r.forDuration = some (.ok forDuration) ∧
      optParseDuration r.cooldown = some (.ok cooldown) ∧
      compiled = compileRule r.name r.expr forDuration cooldown r.notify r.enabled := by
  unfold loadRule at loaded
  split at loaded
  · cases loaded
  · cases loaded
  · rename_i forDuration held
    split at loaded
    · cases loaded
    · cases loaded
    · rename_i cooldown cooled
      cases loaded
      exact ⟨forDuration, cooldown, held, cooled, rfl⟩

theorem loadRules_cons_ok {r : RuleConfig} {rest : List RuleConfig}
    {compiled : List CompiledRule} (loaded : loadRules (r :: rest) = some (.ok compiled)) :
    ∃ first others, loadRule r = some (.ok first) ∧ loadRules rest = some (.ok others) ∧
      compiled = first :: others := by
  simp only [loadRules] at loaded
  split at loaded
  · cases loaded
  · cases loaded
  · rename_i first head
    cases tail : loadRules rest with
    | none =>
      rw [tail] at loaded
      cases loaded
    | some result =>
      rw [tail] at loaded
      cases result with
      | error e => cases loaded
      | ok others =>
        cases loaded
        exact ⟨first, others, head, rfl, rfl⟩

theorem loadRules_written {rules : List RuleConfig} {compiled : List CompiledRule}
    (loaded : loadRules rules = some (.ok compiled)) : ∀ r ∈ compiled, r.Written := by
  induction rules generalizing compiled with
  | nil =>
    cases loaded
    intro r member
    cases member
  | cons r rest ih =>
    obtain ⟨first, others, head, tail, rfl⟩ := loadRules_cons_ok loaded
    obtain ⟨forDuration, cooldown, held, cooled, rfl⟩ := loadRule_ok head
    intro rule member
    rcases List.mem_cons.mp member with rfl | later
    · exact ⟨⟨_, held⟩, ⟨_, cooled⟩⟩
    · exact ih tail rule later

theorem load_ok {Text : Type} {codec : TomlCodec Text} {path : String} {file : Option Text}
    {engine : AlertEngine} (loaded : AlertEngine.load codec path file = some (.ok engine)) :
    ∃ content config, file = some content ∧ codec.fromStr content = .ok config ∧
      loadRules config.rules = some (.ok engine.rules) := by
  unfold AlertEngine.load at loaded
  split at loaded
  · cases loaded
  · rename_i content
    split at loaded
    · cases loaded
    · rename_i config parsed
      cases rules : loadRules config.rules with
      | none =>
        rw [rules] at loaded
        cases loaded
      | some result =>
        rw [rules] at loaded
        cases result with
        | error e => cases loaded
        | ok compiled =>
          cases loaded
          exact ⟨content, config, rfl, parsed, rules⟩

end Load

section Edit

variable {engine : AlertEngine}

theorem mem_updateFirst {name : String} {update : CompiledRule → CompiledRule}
    {rules : List CompiledRule} {r : CompiledRule}
    (member : r ∈ AlertEngine.updateFirst name update rules) :
    r ∈ rules ∨ ∃ old ∈ rules, r = update old := by
  induction rules with
  | nil => cases member
  | cons first rest ih =>
    unfold AlertEngine.updateFirst at member
    split at member
    · rcases List.mem_cons.mp member with updated | later
      · exact .inr ⟨first, List.mem_cons_self, updated⟩
      · exact .inl (List.mem_cons_of_mem first later)
    · rcases List.mem_cons.mp member with same | later
      · exact .inl (same ▸ List.mem_cons_self)
      · rcases ih later with kept | ⟨old, inside, updated⟩
        · exact .inl (List.mem_cons_of_mem first kept)
        · exact .inr ⟨old, List.mem_cons_of_mem first inside, updated⟩

theorem mem_upsertRule {name expr : String} {forDuration cooldown : Nat} {notify : List String}
    {enabled : Option Bool} {r : CompiledRule}
    (member : r ∈ (engine.upsertRule name expr forDuration cooldown notify enabled).rules) :
    r ∈ engine.rules ∨ r.forDuration = forDuration ∧ r.cooldown = cooldown := by
  unfold AlertEngine.upsertRule at member
  split at member
  · rcases mem_updateFirst member with kept | ⟨old, inside, updated⟩
    · exact .inl kept
    · exact .inr ⟨by rw [updated]; rfl, by rw [updated]; rfl⟩
  · rcases List.mem_append.mp member with kept | added
    · exact .inl kept
    · rw [List.mem_singleton.mp added]
      exact .inr ⟨rfl, rfl⟩

theorem parseAndUpsert_ok {name expr : String} {forDuration cooldown : Option String}
    {notify : List String} {enabled : Option Bool} {edited : AlertEngine}
    (done : engine.parseAndUpsert name expr forDuration cooldown notify enabled =
      some (.ok edited)) :
    ∃ held cooled, optParseDuration forDuration = some (.ok held) ∧
      optParseDuration cooldown = some (.ok cooled) ∧
      edited = engine.upsertRule name expr held cooled notify enabled := by
  unfold AlertEngine.parseAndUpsert at done
  split at done
  · cases done
  · cases done
  · rename_i held forRead
    split at done
    · cases done
    · cases done
    · rename_i cooled cooldownRead
      cases done
      exact ⟨held, cooled, forRead, cooldownRead, rfl⟩

theorem edit_written {edit : ConfigEdit} {edited : AlertEngine}
    (written : ∀ r ∈ engine.rules, r.Written) (done : engine.edit edit = some edited) :
    ∀ r ∈ edited.rules, r.Written := by
  cases edit with
  | upsertRule name expr forDuration cooldown notify enabled =>
    simp only [AlertEngine.edit] at done
    split at done
    · rename_i result upserted
      cases done
      obtain ⟨held, cooled, forRead, cooldownRead, rfl⟩ := parseAndUpsert_ok upserted
      intro r member
      rcases mem_upsertRule member with kept | ⟨forSame, cooldownSame⟩
      · exact written r kept
      · exact ⟨⟨_, forSame ▸ forRead⟩, ⟨_, cooldownSame ▸ cooldownRead⟩⟩
    · cases done
  | deleteRule name =>
    cases done
    intro r member
    exact written r (List.mem_filter.mp member).1

end Edit

section RoundTrip

theorem loadRule_config_iff {r : CompiledRule} (written : r.Written) :
    (∃ again, loadRule r.config = some (.ok again) ∧ again.settings = r.settings) ↔ r.Kept := by
  constructor
  · intro reloaded
    obtain ⟨again, loaded, same⟩ := reloaded
    obtain ⟨forDuration, cooldown, forRead, cooldownRead, rfl⟩ := loadRule_ok loaded
    have forSame : forDuration = r.forDuration := congrArg RuleSettings.forDuration same
    have cooldownSame : cooldown = r.cooldown := congrArg RuleSettings.cooldown same
    rw [forSame] at forRead
    rw [cooldownSame] at cooldownRead
    exact ⟨(duration_roundTrip_iff written.forDuration).mp forRead,
      (duration_roundTrip_iff written.cooldown).mp cooldownRead⟩
  · intro kept
    have forRead := (duration_roundTrip_iff written.forDuration).mpr kept.forDuration
    have cooldownRead := (duration_roundTrip_iff written.cooldown).mpr kept.cooldown
    refine ⟨compileRule r.name r.expr r.forDuration r.cooldown r.notify r.config.enabled, ?_, ?_⟩
    · unfold loadRule
      simp only [CompiledRule.config, forRead, cooldownRead]
    · have enabled : r.config.enabled.getD true = r.enabled := by
        unfold CompiledRule.config
        cases r.enabled <;> rfl
      simp only [CompiledRule.settings, compileRule, enabled]

theorem loadRules_config_iff {rules : List CompiledRule} (written : ∀ r ∈ rules, r.Written) :
    (∃ again, loadRules (rules.map CompiledRule.config) = some (.ok again) ∧
        again.map CompiledRule.settings = rules.map CompiledRule.settings) ↔
      ∀ r ∈ rules, r.Kept := by
  induction rules with
  | nil =>
    constructor
    · intro _ r member
      cases member
    · intro _
      exact ⟨[], rfl, rfl⟩
  | cons r rest ih =>
    have first := loadRule_config_iff (written r List.mem_cons_self)
    have others := ih fun rule member => written rule (List.mem_cons_of_mem r member)
    constructor
    · intro reloaded
      obtain ⟨again, loaded, same⟩ := reloaded
      obtain ⟨head, tail, headLoaded, tailLoaded, rfl⟩ := loadRules_cons_ok loaded
      rw [List.map_cons, List.map_cons, List.cons.injEq] at same
      have firstKept := first.mp ⟨head, headLoaded, same.1⟩
      have othersKept := others.mp ⟨tail, tailLoaded, same.2⟩
      intro rule member
      rcases List.mem_cons.mp member with rfl | later
      · exact firstKept
      · exact othersKept rule later
    · intro kept
      obtain ⟨head, headLoaded, headSame⟩ := first.mpr (kept r List.mem_cons_self)
      obtain ⟨tail, tailLoaded, tailSame⟩ :=
        others.mpr fun rule member => kept rule (List.mem_cons_of_mem r member)
      refine ⟨head :: tail, ?_, ?_⟩
      · simp only [List.map_cons, loadRules, headLoaded, tailLoaded, Option.map_some]
        rfl
      · rw [List.map_cons, List.map_cons, headSame, tailSame]

variable {Text : Type} {codec : TomlCodec Text}

/-- What the engine saves is loaded as the same rules in the same order. -/
def AlertEngine.RoundTrips (codec : TomlCodec Text) (path : String) (engine : AlertEngine) :
    Prop :=
  ∃ text again, engine.configText codec = .ok text ∧
    AlertEngine.load codec path (some text) = some (.ok again) ∧
    again.rules.map CompiledRule.settings = engine.rules.map CompiledRule.settings

theorem roundTrips_iff {engine : AlertEngine} {path : String}
    (faithful : ∀ config, ∃ text, codec.toString config = .ok text ∧
      codec.fromStr text = .ok config)
    (written : ∀ r ∈ engine.rules, r.Written) :
    engine.RoundTrips codec path ↔ ∀ r ∈ engine.rules, r.Kept := by
  rw [← loadRules_config_iff written]
  obtain ⟨text, encoded, decoded⟩ := faithful engine.config
  have saved : engine.configText codec = .ok text := by
    rw [AlertEngine.configText, encoded]
    rfl
  constructor
  · intro roundTrips
    obtain ⟨text', again, saved', loaded, same⟩ := roundTrips
    rw [saved] at saved'
    cases saved'
    obtain ⟨content, config, present, parsed, rules⟩ := load_ok loaded
    cases present
    rw [decoded] at parsed
    cases parsed
    exact ⟨again.rules, rules, same⟩
  · intro reloaded
    obtain ⟨again, loaded, same⟩ := reloaded
    refine ⟨text, .new again, saved, ?_, same⟩
    have rules : loadRules engine.config.rules = some (.ok again) := loaded
    simp only [AlertEngine.load, decoded, rules, Option.map_some]
    rfl

/-- After loading any file and any successful edits, the configuration keeps the rules
exactly when every duration outlives its text. -/
theorem config_keeps_rules_iff
    (faithful : ∀ config, ∃ text, codec.toString config = .ok text ∧
      codec.fromStr text = .ok config)
    {path : String} {file : Option Text} {start engine : AlertEngine} {edits : List ConfigEdit}
    (loaded : AlertEngine.load codec path file = some (.ok start))
    (ran : Run.exec AlertEngine.edit start edits = some engine) :
    engine.RoundTrips codec path ↔ ∀ r ∈ engine.rules, r.Kept := by
  obtain ⟨content, config, present, parsed, rules⟩ := load_ok loaded
  apply roundTrips_iff faithful
  have preserved : ∀ (before : AlertEngine) (edit : ConfigEdit) (after : AlertEngine),
      before.edit edit = some after → (∀ r ∈ before.rules, r.Written) →
        ∀ r ∈ after.rules, r.Written :=
    fun _ _ _ done written => edit_written written done
  exact Run.exec_invariant preserved ran (loadRules_written rules)

section Examples

def plainToml : TomlCodec AlertsConfig := ⟨.ok, .ok⟩

def hotRule (forDuration : String) : ConfigEdit :=
  .upsertRule "hot" "cpu.temp > 90" (some forDuration) none ["desktop"] none

theorem config_keeps_rules_minutes : ∃ start engine : AlertEngine,
    AlertEngine.load plainToml "alerts.toml" (some ⟨[]⟩) = some (.ok start) ∧
      Run.exec AlertEngine.edit start [hotRule "1.5m"] = some engine ∧
      engine.RoundTrips plainToml "alerts.toml" := by
  have loaded : AlertEngine.load plainToml "alerts.toml" (some ⟨[]⟩) = some (.ok (.new [])) := rfl
  have ran : (Run.exec AlertEngine.edit (.new []) [hotRule "1.5m"]).map
      (fun engine => engine.rules.map fun r => (r.forDuration, r.cooldown)) =
      some [(90 * nanosPerSec, 0)] := by
    decide +kernel
  obtain ⟨engine, final, durations⟩ := Option.map_eq_some_iff.mp ran
  refine ⟨.new [], engine, loaded, final, ?_⟩
  apply (config_keeps_rules_iff (fun config => ⟨config, rfl, rfl⟩) loaded final).mpr
  intro r member
  have listed := List.mem_map_of_mem (f := fun r => (r.forDuration, r.cooldown)) member
  rw [durations, List.mem_singleton, Prod.mk.injEq] at listed
  exact ⟨by rw [listed.1]; decide, by rw [listed.2]; decide⟩

/-- A rule that was held for a millisecond and a half is loaded with one millisecond. -/
theorem fraction_of_milli_lost : ¬ ∀ (start engine : AlertEngine) (edits : List ConfigEdit),
    AlertEngine.load plainToml "alerts.toml" (some ⟨[]⟩) = some (.ok start) →
      Run.exec AlertEngine.edit start edits = some engine →
      engine.RoundTrips plainToml "alerts.toml" := by
  intro always
  have ran : (Run.exec AlertEngine.edit (.new []) [hotRule "1.5ms"]).map
      (fun engine => (engine.rules.map (·.forDuration),
        ((AlertEngine.load plainToml "alerts.toml" (some engine.config)).bind
          Except.toOption).map fun again => again.rules.map (·.forDuration))) =
      some ([1500000], some [1000000]) := by
    decide +kernel
  obtain ⟨engine, final, durations⟩ := Option.map_eq_some_iff.mp ran
  obtain ⟨text, again, saved, loaded, same⟩ := always (.new []) engine _ rfl final
  cases saved
  rw [Prod.mk.injEq, loaded] at durations
  have held : again.rules.map (·.forDuration) = [1000000] := Option.some.inj durations.2
  have kept := congrArg (List.map RuleSettings.forDuration) same
  simp only [List.map_map] at kept
  have different : [1000000] = [1500000] := held.symm.trans (kept.trans durations.1)
  revert different
  decide

end Examples

end RoundTrip

end LinSight.Alerts
