import LinSight.Alerts.Handle
import LinSight.Alerts.SaveConfig
import LinSight.Core.Hardware
import LinSight.Daemon.Requests
import LinSight.Library.Words

set_option autoImplicit false

/-! Editing an alert: from the listed rule over the page's fields and `AlertModel::upsert` to
the rule that the engine holds afterwards. -/

namespace LinSight.Gui

open Alerts (AlertEngine AlertsState CompiledRule RuleSettings SaveIo TomlCodec optParseDuration
  optFormatDuration)

/-- The white space and line ends of JavaScript. -/
def isJsSpace (c : Char) : Bool := (isWhitespace c && c != '\u0085') || c == '\uFEFF'

/-- `String.prototype.trim`. -/
def jsTrim (s : String) : String := String.ofList (Words.trim isJsSpace s.toList)

/-- What the user changed of a listed rule, as texts of the fields. The edit dialog trims its
fields, and the switch sends what is listed. -/
structure AlertEdit where
  dialog : Bool
  expr : Option String
  notify : Option String
  cooldown : Option String
  enabled : Option Bool

/-- The arguments of `AlertModel::upsert`. -/
structure UpsertArgs where
  name : String
  expr : String
  notify : String
  enabledState : Int
  cooldown : String

namespace AlertEdit

/-- A field as it is sent. -/
def field (edit : AlertEdit) (text : String) : String :=
  if edit.dialog then jsTrim text else text

def enabledState (edit : AlertEdit) : Int :=
  match edit.enabled with
  | none => 0
  | some true => 1
  | some false => -1

/-- The dialog sends nothing without a name and an expression. -/
def args (edit : AlertEdit) (listed : AlertRuleJson) : Option UpsertArgs :=
  let name := edit.field listed.name
  let expr := edit.field (edit.expr.getD listed.expr)
  if edit.dialog && (name.isEmpty || expr.isEmpty) then none
  else some ⟨name, expr, edit.field (edit.notify.getD (", ".intercalate listed.notify)),
    edit.enabledState, edit.field (edit.cooldown.getD (listed.cooldown.getD ""))⟩

end AlertEdit

/-- The list of `AlertModel::upsert` behind the commas. -/
def notifyList (notify : String) : List String :=
  ((notify.toList.splitOn ',').map fun piece => trim (String.ofList piece)).filter
    fun s => !s.toList.isEmpty

def cooldownOption (s : String) : Option String :=
  if (trim s).toList.isEmpty then none else some s

def enabledOption : Int → Option Bool
  | 1 => some true
  | -1 => some false
  | _ => none

/-- `AlertModel::upsert` and the daemon's answer. The duration is never sent. -/
def UpsertArgs.send {Text : Type} (codec : TomlCodec Text) (asBytes : Text → List UInt8)
    (io : SaveIo) (state : AlertsState) (args : UpsertArgs) :
    Option (Except ProtoError ResponsePayload × AlertsState) :=
  state.upsertAlert codec asBytes io args.name args.expr none (cooldownOption args.cooldown)
    (notifyList args.notify) (enabledOption args.enabledState)

/-- The cooldown that is meant; `none` where the text typed for it is no duration. -/
def AlertEdit.cooldownOf (edit : AlertEdit) (r : CompiledRule) : Option Nat :=
  match edit.cooldown with
  | none => some r.cooldown
  | some text =>
      match optParseDuration (cooldownOption (edit.field text)) with
      | some (.ok cooldown) => some cooldown
      | _ => none

/-- The settings with the new values of what was changed and the rule's own of the rest. -/
def AlertEdit.edited (edit : AlertEdit) (r : CompiledRule) : Option RuleSettings :=
  (edit.cooldownOf r).map fun cooldown => {
    name := r.name
    expr := (edit.expr.map edit.field).getD r.expr
    forDuration := r.forDuration
    cooldown := cooldown
    notify := (edit.notify.map fun text => notifyList (edit.field text)).getD r.notify
    enabled := edit.enabled.getD r.enabled }

/-- The rule in place `i` has the edited settings, and the others are as they were. -/
structure EditsOnly (before after : List CompiledRule) (i : Nat) (edited : RuleSettings) :
    Prop where
  others : ∀ k, k ≠ i → after[k]? = before[k]?
  rule : (after[i]?).map CompiledRule.settings = some edited

/-- The edit is all that the upsert changes of the rules. -/
def EditLands (engine : AlertEngine) (i : Nat) (edited : RuleSettings)
    (result : Option (Except ProtoError ResponsePayload × AlertsState)) : Prop :=
  ∃ response next after, result = some (response, next) ∧ next.engine = some after ∧
    EditsOnly engine.rules after.rules i edited

/-- The rule has no duration, and what was left alone reads back from the page's texts. -/
structure AlertEdit.ReadsBack (edit : AlertEdit) (r : CompiledRule) (cooldown : Nat) : Prop where
  forDuration : r.forDuration = 0
  expr : edit.expr = none → edit.field r.expr = r.expr
  notify : edit.notify = none → notifyList (edit.field (", ".intercalate r.notify)) = r.notify
  cooldown : edit.cooldown = none → cooldown = r.cooldown

/-- When an edit lands: the name leads to the rule and the rest reads back, or else nothing was
to be changed and nothing is. -/
def EditKept (state : AlertsState) (engine : AlertEngine) (i : Nat) (r : CompiledRule)
    (edit : AlertEdit) (args : UpsertArgs) (edited : RuleSettings) : Prop :=
  if state.configPath = none then edited = r.settings
  else
    match optParseDuration (cooldownOption args.cooldown) with
    | none => False
    | some (.error _) => edited = r.settings
    | some (.ok cooldown) =>
        match engine.rules.findIdx? (·.name = args.name) with
        | none => False
        | some j =>
            if j = i then edit.ReadsBack r cooldown
            else edited = r.settings ∧ ∀ other, engine.rules[j]? = some other →
              AlertEngine.overwriteRule args.expr 0 cooldown (notifyList args.notify)
                (enabledOption args.enabledState) other = other

section Lists

variable {before : List CompiledRule} {i : Nat} {r : CompiledRule} {edited : RuleSettings}

theorem editsOnly_self_iff (found : before[i]? = some r) :
    EditsOnly before before i edited ↔ edited = r.settings := by
  constructor
  · intro only
    have rule := only.rule
    rw [found, Option.map_some, Option.some.injEq] at rule
    exact rule.symm
  · rintro rfl
    exact ⟨fun _ _ => rfl, by rw [found, Option.map_some]⟩

theorem editsOnly_set_iff (found : before[i]? = some r) (changed : CompiledRule) :
    EditsOnly before (before.set i changed) i edited ↔ changed.settings = edited := by
  have inside : i < before.length := (List.getElem?_eq_some_iff.mp found).1
  have there : (before.set i changed)[i]? = some changed := List.getElem?_set_self inside
  constructor
  · intro only
    have rule := only.rule
    rw [there, Option.map_some, Option.some.injEq] at rule
    exact rule
  · rintro rfl
    refine ⟨fun k apart => List.getElem?_set_ne apart.symm, ?_⟩
    rw [there, Option.map_some]

theorem editsOnly_set_ne_iff (found : before[i]? = some r) {j : Nat} (apart : j ≠ i)
    {other : CompiledRule} (stored : before[j]? = some other) (changed : CompiledRule) :
    EditsOnly before (before.set j changed) i edited ↔
      edited = r.settings ∧ changed = other := by
  have inside : j < before.length := (List.getElem?_eq_some_iff.mp stored).1
  have there : (before.set j changed)[j]? = some changed := List.getElem?_set_self inside
  have here : (before.set j changed)[i]? = some r := by
    rw [List.getElem?_set_ne apart, found]
  constructor
  · intro only
    have rule := only.rule
    have kept := only.others j apart
    rw [here, Option.map_some, Option.some.injEq] at rule
    rw [there, stored, Option.some.injEq] at kept
    exact ⟨rule.symm, kept⟩
  · rintro ⟨rfl, rfl⟩
    refine ⟨fun k _ => ?_, by rw [here, Option.map_some]⟩
    by_cases same : k = j
    · rw [same, there, stored]
    · rw [List.getElem?_set_ne (Ne.symm same)]

/-- A rule more is a change. -/
theorem not_editsOnly_append (found : before[i]? = some r) (added : CompiledRule) :
    ¬ EditsOnly before (before ++ [added]) i edited := by
  intro only
  have inside : i < before.length := (List.getElem?_eq_some_iff.mp found).1
  have new := only.others before.length (Nat.ne_of_gt inside)
  rw [List.getElem?_append_right le_rfl, Nat.sub_self, List.getElem?_eq_none le_rfl] at new
  cases new

end Lists

theorem enabledOption_enabledState (edit : AlertEdit) :
    enabledOption edit.enabledState = edit.enabled := by
  unfold AlertEdit.enabledState
  rcases edit.enabled with _ | _ | _ <;> rfl

/-- An entry of a notify list that survives the commas. -/
structure PlainEntry (entry : String) : Prop where
  filled : entry.toList ≠ []
  whole : ',' ∉ entry.toList
  trimmed : trim entry = entry

theorem plainEntry_of_mem {notify entry : String} (member : entry ∈ notifyList notify) :
    PlainEntry entry := by
  obtain ⟨listed, filled⟩ := List.mem_filter.mp member
  obtain ⟨piece, split, rfl⟩ := List.mem_map.mp listed
  refine ⟨by simpa using filled, fun comma => ?_, trim_idempotent _⟩
  have inside : (trim (String.ofList piece)).toList.Subset piece := by
    unfold trim
    rw [String.toList_ofList, String.toList_ofList]
    exact ((List.rdropWhile_prefix _ _).sublist.trans (List.dropWhile_suffix _).sublist).subset
  exact Words.not_mem_of_mem_splitOn split (inside comma)

/-- A blank in front does not count. -/
theorem trim_cons_blank (text : List Char) :
    trim (String.ofList (' ' :: text)) = trim (String.ofList text) := by
  unfold trim
  rw [String.toList_ofList, String.toList_ofList, List.dropWhile_cons_of_pos (by decide)]

/-- The pieces of a joined list: all but the first have the blank behind the comma. -/
theorem splitOn_join (first : String) (rest : List String)
    (whole : ∀ entry ∈ first :: rest, ',' ∉ entry.toList) :
    (", ".intercalate (first :: rest)).toList.splitOn ',' =
      first.toList :: rest.map fun entry => ' ' :: entry.toList := by
  induction rest generalizing first with
  | nil =>
      rw [String.intercalate_singleton]
      exact List.splitOn_eq_singleton (whole first List.mem_cons_self)
  | cons second rest ih =>
      have later := ih second fun entry member => whole entry (List.mem_cons_of_mem _ member)
      have text : (", ".intercalate (first :: second :: rest)).toList =
          first.toList ++ ',' :: ' ' :: (", ".intercalate (second :: rest)).toList := by
        rw [String.intercalate_cons_cons, String.toList_append, String.toList_append,
          List.append_assoc]
        rfl
      have blank : (' ' :: (", ".intercalate (second :: rest)).toList).splitOn ',' =
          (' ' :: second.toList) :: rest.map fun entry => ' ' :: entry.toList := by
        rw [List.splitOn_cons_eq_if_modifyHead, if_neg (by decide), later, List.modifyHead_cons]
      rw [text, List.splitOn_append_cons_self_of_not_mem (whole first List.mem_cons_self), blank,
        List.map_cons]

/-- A list reads back from its text exactly where its entries are plain. -/
theorem notifyList_join_iff (entries : List String) :
    notifyList (", ".intercalate entries) = entries ↔ ∀ entry ∈ entries, PlainEntry entry := by
  constructor
  · intro same entry member
    rw [← same] at member
    exact plainEntry_of_mem member
  · intro plain
    cases entries with
    | nil => rfl
    | cons first rest =>
      have trims : ((first.toList :: rest.map fun entry => ' ' :: entry.toList).map fun piece =>
          trim (String.ofList piece)) = first :: rest := by
        rw [List.map_cons, List.map_map, String.ofList_toList,
          (plain first List.mem_cons_self).trimmed]
        congr 1
        conv_rhs => rw [← List.map_id rest]
        apply List.map_congr_left
        intro entry member
        rw [Function.comp_apply, trim_cons_blank, String.ofList_toList]
        exact (plain entry (List.mem_cons_of_mem _ member)).trimmed
      rw [notifyList, splitOn_join first rest fun entry member => (plain entry member).whole, trims]
      rw [List.filter_eq_self]
      intro entry member
      simpa using (plain entry member).filled

/-- What the daemon overwrites is what was meant just where the rule reads back. -/
theorem settings_overwriteRule_iff {edit : AlertEdit} {r : CompiledRule} {args : UpsertArgs}
    {edited : RuleSettings} {cooldown : Nat} (sent : edit.args (Requests.ruleJson r) = some args)
    (valued : edit.edited r = some edited)
    (parsed : optParseDuration (cooldownOption args.cooldown) = some (.ok cooldown)) :
    (AlertEngine.overwriteRule args.expr 0 cooldown (notifyList args.notify)
        (enabledOption args.enabledState) r).settings = edited ↔
      edit.ReadsBack r cooldown := by
  unfold AlertEdit.args at sent
  dsimp only at sent
  split at sent
  · cases sent
  · cases sent
    obtain ⟨meant, typed, rfl⟩ := Option.map_eq_some_iff.mp valued
    have expr : edit.field (edit.expr.getD r.expr) = (edit.expr.map edit.field).getD r.expr ↔
        (edit.expr = none → edit.field r.expr = r.expr) := by
      cases edit.expr <;> simp
    have notify : notifyList (edit.field (edit.notify.getD (", ".intercalate r.notify))) =
        (edit.notify.map fun text => notifyList (edit.field text)).getD r.notify ↔
        (edit.notify = none →
          notifyList (edit.field (", ".intercalate r.notify)) = r.notify) := by
      cases edit.notify <;> simp
    have cooled : cooldown = meant ↔ (edit.cooldown = none → cooldown = r.cooldown) := by
      unfold AlertEdit.cooldownOf at typed
      cases given : edit.cooldown with
      | none =>
          rw [given] at typed
          cases typed
          simp
      | some text =>
          rw [given] at typed parsed
          dsimp only [Option.getD_some] at typed parsed
          rw [parsed] at typed
          cases typed
          simp
    rw [enabledOption_enabledState]
    simp only [AlertEngine.overwriteRule, CompiledRule.settings, Requests.ruleJson,
      RuleSettings.mk.injEq, true_and, and_true]
    rw [expr, notify, cooled]
    constructor
    · rintro ⟨text, none_held, time, list⟩
      exact ⟨none_held.symm, text, list, time⟩
    · rintro ⟨none_held, text, list, time⟩
      exact ⟨text, none_held.symm, time, list⟩

/-- An upsert changes only what was edited exactly where the edit is kept. -/
theorem editLands_iff {Text : Type} (codec : TomlCodec Text) (asBytes : Text → List UInt8)
    (io : SaveIo) {state : AlertsState} {engine : AlertEngine} {i : Nat} {r : CompiledRule}
    {edit : AlertEdit} {args : UpsertArgs} {edited : RuleSettings}
    (loaded : state.engine = some engine) (found : engine.rules[i]? = some r)
    (sent : edit.args (Requests.ruleJson r) = some args) (valued : edit.edited r = some edited) :
    EditLands engine i edited (args.send codec asBytes io state) ↔
      EditKept state engine i r edit args edited := by
  have lands {response : Except ProtoError ResponsePayload} {next : AlertsState}
      {after : AlertEngine} (held : next.engine = some after) :
      EditLands engine i edited (some (response, next)) ↔
        EditsOnly engine.rules after.rules i edited := by
    constructor
    · rintro ⟨_, _, _, same, there, only⟩
      cases same
      cases held.symm.trans there
      exact only
    · exact fun only => ⟨response, next, after, rfl, held, only⟩
  unfold UpsertArgs.send AlertsState.upsertAlert EditKept
  simp only [loaded]
  cases configured : state.configPath with
  | none =>
      rw [if_pos rfl, lands loaded]
      exact editsOnly_self_iff found
  | some path =>
      rw [if_neg (Option.some_ne_none path)]
      dsimp only
      unfold AlertEngine.parseAndUpsert
      have zero : optParseDuration none = some (.ok 0) := rfl
      simp only [zero]
      cases parsed : optParseDuration (cooldownOption args.cooldown) with
      | none =>
          refine iff_of_false (fun landed => ?_) id
          obtain ⟨_, _, _, wrong, _⟩ := landed
          cases wrong
      | some outcome =>
          cases outcome with
          | error e =>
              dsimp only
              rw [lands loaded]
              exact editsOnly_self_iff found
          | ok cooldown =>
              dsimp only
              rw [lands rfl]
              cases first : engine.rules.findIdx? (·.name = args.name) with
              | none =>
                  rw [Alerts.upsertRule_of_none first]
                  exact iff_of_false (not_editsOnly_append found _) id
              | some j =>
                  obtain ⟨other, stored, _⟩ := Alerts.findIdx?_name_some first
                  rw [Alerts.upsertRule_of_some first stored]
                  dsimp only
                  by_cases same : j = i
                  · subst same
                    cases stored.symm.trans found
                    rw [if_pos rfl, editsOnly_set_iff found]
                    exact settings_overwriteRule_iff sent valued parsed
                  · rw [if_neg same, editsOnly_set_ne_iff found same stored]
                    refine and_congr_right fun _ => ⟨fun kept other' stored' => ?_, fun kept => ?_⟩
                    · cases stored.symm.trans stored'
                      exact kept
                    · exact kept other stored

/-- A rule with a duration: thirty seconds over ninety degrees. -/
def heldRule : CompiledRule :=
  Alerts.compileRule "hot" "cpu.temp > 90" 30000000000 0 ["desktop"] none

def heldState (forDuration : Nat) : AlertsState where
  engine := some (.new [{ heldRule with forDuration }])
  configPath := some "alerts.toml"
  file := none

/-- The switch of a rule, turned off. -/
def switchOff : AlertEdit := ⟨false, none, none, none, some false⟩

def switchOffArgs : UpsertArgs := ⟨"hot", "cpu.temp > 90", "desktop", -1, ""⟩

theorem editLands_instant :
    EditLands (.new [{ heldRule with forDuration := 0 }]) 0
      ⟨"hot", "cpu.temp > 90", 0, 0, ["desktop"], false⟩
      (switchOffArgs.send Alerts.emptyToml Alerts.utf8 ⟨none, none, none⟩ (heldState 0)) := by
  have found : (AlertEngine.new [{ heldRule with forDuration := 0 }]).rules[0]? =
      some { heldRule with forDuration := 0 } := rfl
  have sent : switchOff.args (Requests.ruleJson { heldRule with forDuration := 0 }) =
      some switchOffArgs := by rfl
  have kept : EditKept (heldState 0) (.new [{ heldRule with forDuration := 0 }]) 0
      { heldRule with forDuration := 0 } switchOff switchOffArgs
      ⟨"hot", "cpu.temp > 90", 0, 0, ["desktop"], false⟩ := by
    refine ⟨rfl, fun _ => rfl, fun _ => ?_, fun _ => rfl⟩
    apply (notifyList_join_iff ["desktop"]).mpr
    intro entry member
    rw [List.mem_singleton.mp member]
    exact ⟨by decide, by decide, by decide +kernel⟩
  exact (editLands_iff Alerts.emptyToml Alerts.utf8 ⟨none, none, none⟩ rfl found sent rfl).mpr kept

/-- Turning a rule off drops its duration. -/
theorem editLands_held :
    ¬ EditLands (.new [heldRule]) 0
      ⟨"hot", "cpu.temp > 90", 30000000000, 0, ["desktop"], false⟩
      (switchOffArgs.send Alerts.emptyToml Alerts.utf8 ⟨none, none, none⟩
        (heldState 30000000000)) := by
  rintro ⟨response, next, after, answered, held, only⟩
  have rules : (next.engine.map fun after => after.rules.map (·.forDuration)) = some [0] := by
    have computed : ((switchOffArgs.send Alerts.emptyToml Alerts.utf8 ⟨none, none, none⟩
        (heldState 30000000000)).bind fun answer =>
          answer.2.engine.map fun after => after.rules.map (·.forDuration)) = some [0] := by
      decide +kernel
    rw [answered] at computed
    exact computed
  rw [held, Option.map_some, Option.some.injEq] at rules
  have kept := only.rule
  cases first : after.rules with
  | nil =>
      rw [first] at rules
      cases rules
  | cons r rest =>
      rw [first] at rules kept
      have same := congrArg RuleSettings.forDuration (Option.some.inj kept)
      have zero : r.forDuration = 0 := (List.cons.inj rules).1
      exact absurd (zero.symm.trans same) (by decide)

end LinSight.Gui
