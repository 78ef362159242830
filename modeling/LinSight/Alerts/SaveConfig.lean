import LinSight.Alerts.Config
import LinSight.Protocol.Messages

set_option autoImplicit false

/-! Saving the alert configuration, and the two requests that do so. -/

namespace LinSight.Alerts

/-- How the calls of one save fail. A write that fails got some bytes into the file
before. -/
structure SaveIo where
  openError : Option String
  writeError : Option (Nat × String)
  chmodError : Option String
deriving DecidableEq

/-- The alert engine of a scheduler, the path that its rules are saved under and the bytes
of the file there. -/
structure AlertsState where
  engine : Option AlertEngine
  configPath : Option String
  file : Option (List UInt8)
deriving DecidableEq

section Save

variable {Text : Type} (codec : TomlCodec Text) (asBytes : Text → List UInt8)

/-- `save_config` on what the file holds. Opening truncates the file. -/
def AlertEngine.saveConfig (engine : AlertEngine) (io : SaveIo) (file : Option (List UInt8)) :
    Except String PUnit.{1} × Option (List UInt8) :=
  match engine.configText codec with
  | .error e => (.error e, file)
  | .ok text =>
      match io.openError with
      | some e => (.error ("open: " ++ e), file)
      | none =>
          match io.writeError.filter fun fault => decide (fault.1 < (asBytes text).length) with
          | some (written, e) => (.error ("write: " ++ e), some ((asBytes text).take written))
          | none =>
              match io.chmodError with
              | some e => (.error ("chmod: " ++ e), some (asBytes text))
              | none => (.ok ⟨⟩, some (asBytes text))

/-- The `UpsertAlert` request; `none` is a panic. The failure of a save is only logged. -/
def AlertsState.upsertAlert (state : AlertsState) (io : SaveIo) (name expr : String)
    (forDuration cooldown : Option String) (notify : List String) (enabled : Option Bool) :
    Option (Except ProtoError ResponsePayload × AlertsState) :=
  match state.engine with
  | none => some (.error ⟨.internal, "alert engine not loaded"⟩, state)
  | some engine =>
      match state.configPath with
      | none => some (.error ⟨.internal, "alerts not configured"⟩, state)
      | some _ =>
          match engine.parseAndUpsert name expr forDuration cooldown notify enabled with
          | none => none
          | some (.error e) => some (.error ⟨.internal, "upsert failed: " ++ e⟩, state)
          | some (.ok edited) =>
              let saved := edited.saveConfig codec asBytes io state.file
              some (.ok (.alertUpserted name), { state with engine := edited, file := saved.2 })

/-- The `DeleteAlert` request. -/
def AlertsState.deleteAlert (state : AlertsState) (io : SaveIo) (name : String) :
    Except ProtoError ResponsePayload × AlertsState :=
  match state.engine with
  | none => (.error ⟨.internal, "alert engine not loaded"⟩, state)
  | some engine =>
      match state.configPath with
      | none => (.error ⟨.internal, "alerts not configured"⟩, state)
      | some _ =>
          let (edited, found) := engine.deleteRule name
          if found then
            let saved := edited.saveConfig codec asBytes io state.file
            (.ok (.alertDeleted name), { state with engine := edited, file := saved.2 })
          else
            (.error ⟨.alertNotFound, s!"rule '{name}' not found"⟩,
              { state with engine := edited })

/-- The file holds the complete configuration of the engine. -/
def AlertEngine.HeldBy (engine : AlertEngine) (file : Option (List UInt8)) : Prop :=
  ∃ text, engine.configText codec = .ok text ∧ file = some (asBytes text)

/-- The write fails before the last byte, in a file that did not already hold just the
bytes before. -/
def SaveIo.Tears (io : SaveIo) (engine : AlertEngine) (file : Option (List UInt8)) : Prop :=
  io.openError = none ∧ ∃ text written e, engine.configText codec = .ok text ∧
    io.writeError = some (written, e) ∧ written < (asBytes text).length ∧
    file ≠ some ((asBytes text).take written)

/-- Everything was written, or the file could not be opened and held the same already. -/
def SaveIo.Stores (io : SaveIo) (engine : AlertEngine) (file : Option (List UInt8)) : Prop :=
  ∃ text, engine.configText codec = .ok text ∧
    if io.openError = none then
      ∀ written e, io.writeError = some (written, e) → (asBytes text).length ≤ written
    else file = some (asBytes text)

variable {codec asBytes} {engine : AlertEngine} {io : SaveIo} {file : Option (List UInt8)}
  {text : Text}

/-- What a save leaves in the file, by the call that fails. -/
theorem saveConfig_cases (codec : TomlCodec Text) (asBytes : Text → List UInt8)
    (engine : AlertEngine) (io : SaveIo) (file : Option (List UInt8)) :
    (∃ e, engine.configText codec = .error e ∧
        (engine.saveConfig codec asBytes io file).2 = file) ∨
      ∃ text, engine.configText codec = .ok text ∧
        (io.openError ≠ none ∧ (engine.saveConfig codec asBytes io file).2 = file ∨
          io.openError = none ∧
            ((∃ written e, io.writeError = some (written, e) ∧
                written < (asBytes text).length ∧
                (engine.saveConfig codec asBytes io file).2 =
                  some ((asBytes text).take written)) ∨
              (∀ written e, io.writeError = some (written, e) →
                (asBytes text).length ≤ written) ∧
                (engine.saveConfig codec asBytes io file).2 = some (asBytes text))) := by
  cases encoded : engine.configText codec with
  | error e =>
    left
    exact ⟨e, rfl, by simp only [AlertEngine.saveConfig, encoded]⟩
  | ok text =>
    right
    refine ⟨text, rfl, ?_⟩
    cases opened : io.openError with
    | some e =>
      left
      exact ⟨by simp, by simp only [AlertEngine.saveConfig, encoded, opened]⟩
    | none =>
      right
      refine ⟨rfl, ?_⟩
      cases failed : io.writeError.filter fun fault =>
          decide (fault.1 < (asBytes text).length) with
      | some fault =>
        left
        obtain ⟨written, below⟩ := Option.filter_eq_some_iff.mp failed
        refine ⟨fault.1, fault.2, written, of_decide_eq_true below, ?_⟩
        simp only [AlertEngine.saveConfig, encoded, opened, failed]
      | none =>
        right
        constructor
        · intro written e fault
          rw [Option.filter_eq_none_iff] at failed
          have reached := failed (written, e) fault
          rw [decide_eq_true_eq] at reached
          omega
        · simp only [AlertEngine.saveConfig, encoded, opened, failed]
          split <;> rfl

/-- A torn file is neither the old one nor the new one. -/
theorem saveConfig_intact_iff :
    ((engine.saveConfig codec asBytes io file).2 = file ∨
        engine.HeldBy codec asBytes (engine.saveConfig codec asBytes io file).2) ↔
      ¬ io.Tears codec asBytes engine file := by
  rcases saveConfig_cases codec asBytes engine io file with
    ⟨e, failed, kept⟩ | ⟨text, encoded, ⟨closed, kept⟩ | ⟨opened, torn | ⟨written, stored⟩⟩⟩
  · constructor
    · intro _ tears
      obtain ⟨_, text, _, _, encoded, _⟩ := tears
      rw [failed] at encoded
      cases encoded
    · intro _
      exact .inl kept
  · constructor
    · intro _ tears
      exact closed tears.1
    · intro _
      exact .inl kept
  · obtain ⟨written, e, failed, short, left_over⟩ := torn
    rw [left_over]
    constructor
    · intro intact tears
      obtain ⟨_, text', written', e', encoded', failed', _, different⟩ := tears
      rw [encoded] at encoded'
      cases encoded'
      rw [failed] at failed'
      cases failed'
      rcases intact with same | held
      · exact different same.symm
      · obtain ⟨text', encoded', same⟩ := held
        rw [encoded] at encoded'
        cases encoded'
        have length := congrArg List.length (Option.some.inj same)
        rw [List.length_take] at length
        omega
    · intro untorn
      left
      by_contra different
      apply untorn
      exact ⟨opened, text, written, e, encoded, failed, short, fun same => different same.symm⟩
  · constructor
    · intro _ tears
      obtain ⟨_, text', n, e, encoded', failed, short, _⟩ := tears
      rw [encoded] at encoded'
      cases encoded'
      have bound := written n e failed
      omega
    · intro _
      exact .inr ⟨text, encoded, stored⟩

theorem saveConfig_held_iff :
    engine.HeldBy codec asBytes (engine.saveConfig codec asBytes io file).2 ↔
      io.Stores codec asBytes engine file := by
  rcases saveConfig_cases codec asBytes engine io file with
    ⟨e, failed, kept⟩ | ⟨text, encoded, outcome⟩
  · constructor
    · intro held
      obtain ⟨text, encoded, _⟩ := held
      rw [failed] at encoded
      cases encoded
    · intro stores
      obtain ⟨text, encoded, _⟩ := stores
      rw [failed] at encoded
      cases encoded
  · have held : ∀ after, engine.HeldBy codec asBytes after ↔ after = some (asBytes text) := by
      intro after
      constructor
      · intro held
        obtain ⟨text', encoded', same⟩ := held
        rw [encoded] at encoded'
        cases encoded'
        exact same
      · intro same
        exact ⟨text, encoded, same⟩
    have stores : io.Stores codec asBytes engine file ↔
        if io.openError = none then
          ∀ written e, io.writeError = some (written, e) → (asBytes text).length ≤ written
        else file = some (asBytes text) := by
      constructor
      · intro stores
        obtain ⟨text', encoded', stored⟩ := stores
        rw [encoded] at encoded'
        cases encoded'
        exact stored
      · intro stored
        exact ⟨text, encoded, stored⟩
    rw [held, stores]
    rcases outcome with ⟨closed, kept⟩ | ⟨opened, torn | ⟨written, stored⟩⟩
    · rw [if_neg closed, kept]
    · obtain ⟨written, e, failed, short, left_over⟩ := torn
      rw [if_pos opened, left_over]
      constructor
      · intro same
        have length := congrArg List.length (Option.some.inj same)
        rw [List.length_take] at length
        omega
      · intro complete
        have bound := complete written e failed
        omega
    · rw [if_pos opened, stored]
      exact ⟨fun _ => written, fun _ => rfl⟩

end Save

section Requests

variable {Text : Type} {codec : TomlCodec Text} {asBytes : Text → List UInt8}

/-- The state whose rules a request edits and saves. -/
def AlertsState.Edits (state : AlertsState) (edit : ConfigEdit) (edited : AlertEngine) : Prop :=
  ∃ engine, state.engine = some engine ∧ state.configPath.isSome ∧
    engine.edit edit = some edited

def AlertsState.HasRule (state : AlertsState) (name : String) : Prop :=
  ∃ engine, state.engine = some engine ∧ ∃ r ∈ engine.rules, r.name = name

/-- The state after an edit whose save went as it did. -/
def AlertsState.saved (state : AlertsState) (codec : TomlCodec Text)
    (asBytes : Text → List UInt8) (io : SaveIo) (edited : AlertEngine) : AlertsState :=
  { state with
    engine := edited
    file := (edited.saveConfig codec asBytes io state.file).2 }

/-- The file holds the complete configuration of the rules in force. -/
def AlertsState.Holds (state : AlertsState) (codec : TomlCodec Text)
    (asBytes : Text → List UInt8) : Prop :=
  ∃ engine, state.engine = some engine ∧ engine.HeldBy codec asBytes state.file

theorem saved_holds_iff {state : AlertsState} {io : SaveIo} {edited : AlertEngine} :
    (state.saved codec asBytes io edited).Holds codec asBytes ↔
      io.Stores codec asBytes edited state.file := by
  rw [← saveConfig_held_iff]
  constructor
  · intro holds
    obtain ⟨engine, same, held⟩ := holds
    cases same
    exact held
  · intro held
    exact ⟨edited, rfl, held⟩

theorem upsertAlert_acknowledged_iff {state next : AlertsState} {io : SaveIo}
    {name expr : String} {forDuration cooldown : Option String} {notify : List String}
    {enabled : Option Bool} :
    state.upsertAlert codec asBytes io name expr forDuration cooldown notify enabled =
        some (.ok (.alertUpserted name), next) ↔
      ∃ edited, state.Edits (.upsertRule name expr forDuration cooldown notify enabled) edited ∧
        next = state.saved codec asBytes io edited := by
  constructor
  · intro answered
    unfold AlertsState.upsertAlert at answered
    split at answered
    · cases answered
    · rename_i engine loaded
      split at answered
      · cases answered
      · rename_i path configured
        split at answered
        · cases answered
        · cases answered
        · rename_i edited upserted
          cases answered
          refine ⟨edited, ⟨engine, loaded, by rw [configured]; rfl, ?_⟩, rfl⟩
          simp only [AlertEngine.edit, upserted]
  · intro edits
    obtain ⟨edited, ⟨engine, loaded, configured, done⟩, rfl⟩ := edits
    obtain ⟨path, configured⟩ := Option.isSome_iff_exists.mp configured
    simp only [AlertEngine.edit] at done
    split at done
    · rename_i result upserted
      cases done
      simp only [AlertsState.upsertAlert, loaded, configured, upserted, AlertsState.saved]
    · cases done

theorem deleteRule_found_iff {engine : AlertEngine} {name : String} :
    (engine.deleteRule name).2 = true ↔ ∃ r ∈ engine.rules, r.name = name := by
  simp only [AlertEngine.deleteRule, decide_eq_true_eq, List.length_filter_lt_length_iff_exists,
    ne_eq, not_not]

theorem deleteAlert_acknowledged_iff {state next : AlertsState} {io : SaveIo} {name : String} :
    state.deleteAlert codec asBytes io name = (.ok (.alertDeleted name), next) ↔
      state.HasRule name ∧ ∃ edited, state.Edits (.deleteRule name) edited ∧
        next = state.saved codec asBytes io edited := by
  constructor
  · intro answered
    unfold AlertsState.deleteAlert at answered
    split at answered
    · cases answered
    · rename_i engine loaded
      split at answered
      · cases answered
      · rename_i path configured
        dsimp only at answered
        split at answered
        · rename_i found
          cases answered
          refine ⟨⟨engine, loaded, deleteRule_found_iff.mp found⟩, _,
            ⟨engine, loaded, by rw [configured]; rfl, rfl⟩, rfl⟩
        · cases answered
  · intro edits
    obtain ⟨⟨engine', loaded', found⟩, edited, ⟨engine, loaded, configured, done⟩, rfl⟩ := edits
    obtain ⟨path, configured⟩ := Option.isSome_iff_exists.mp configured
    rw [loaded] at loaded'
    cases loaded'
    cases done
    have removed := deleteRule_found_iff.mpr found
    simp only [AlertsState.deleteAlert, loaded, configured, removed, if_true, AlertsState.saved]

/-- A failed save leaves the old or the new configuration unless the write tore the file.
Both requests are acknowledged although the file does not hold the new one, unless the
save stored it. -/
theorem failed_save_iff (codec : TomlCodec Text) (asBytes : Text → List UInt8) (io : SaveIo) :
    (∀ (engine : AlertEngine) (file : Option (List UInt8)),
      (engine.saveConfig codec asBytes io file).2 = file ∨
          engine.HeldBy codec asBytes (engine.saveConfig codec asBytes io file).2 ↔
        ¬ io.Tears codec asBytes engine file) ∧
    (∀ (state : AlertsState) (name expr : String) (forDuration cooldown : Option String)
        (notify : List String) (enabled : Option Bool),
      (∀ next,
          state.upsertAlert codec asBytes io name expr forDuration cooldown notify enabled =
            some (.ok (.alertUpserted name), next) → next.Holds codec asBytes) ↔
        ∀ edited,
          state.Edits (.upsertRule name expr forDuration cooldown notify enabled) edited →
            io.Stores codec asBytes edited state.file) ∧
    ∀ (state : AlertsState) (name : String),
      (∀ next, state.deleteAlert codec asBytes io name = (.ok (.alertDeleted name), next) →
          next.Holds codec asBytes) ↔
        (state.HasRule name → ∀ edited, state.Edits (.deleteRule name) edited →
          io.Stores codec asBytes edited state.file) := by
  refine ⟨fun _ _ => saveConfig_intact_iff, ?_, ?_⟩
  · intro state name expr forDuration cooldown notify enabled
    constructor
    · intro holds edited edits
      exact saved_holds_iff.mp
        (holds _ (upsertAlert_acknowledged_iff.mpr ⟨edited, edits, rfl⟩))
    · intro stores next answered
      obtain ⟨edited, edits, rfl⟩ := upsertAlert_acknowledged_iff.mp answered
      exact saved_holds_iff.mpr (stores edited edits)
  · intro state name
    constructor
    · intro holds found edited edits
      exact saved_holds_iff.mp
        (holds _ (deleteAlert_acknowledged_iff.mpr ⟨found, edited, edits, rfl⟩))
    · intro stores next answered
      obtain ⟨found, edited, edits, rfl⟩ := deleteAlert_acknowledged_iff.mp answered
      exact saved_holds_iff.mpr (stores found edited edits)

/-- The TOML text of a configuration without rules. -/
def emptyToml : TomlCodec String := ⟨fun _ => .ok "rule = []\n", fun _ => .ok ⟨[]⟩⟩

def utf8 (text : String) : List UInt8 := text.toUTF8.data.toList

def hotState : AlertsState where
  engine := some (.new [compileRule "hot" "cpu.temp > 90" 0 0 [] none])
  configPath := some "alerts.toml"
  file := some (utf8
    "[[rule]]\nname = \"hot\"\nexpr = \"cpu.temp > 90\"\nnotify = []\n")

def diskFull : SaveIo := ⟨none, some (0, "No space left on device"), none⟩

/-- On a full disk the deletion of the last rule empties the file and is acknowledged. -/
theorem full_disk_loses_config : ∃ next,
    hotState.deleteAlert emptyToml utf8 diskFull "hot" = (.ok (.alertDeleted "hot"), next) ∧
      next.file = some [] ∧ hotState.file ≠ some [] ∧ ¬ next.Holds emptyToml utf8 := by
  have answered : (hotState.deleteAlert emptyToml utf8 diskFull "hot").1.toOption =
      some (.alertDeleted "hot") := by
    decide +kernel
  have emptied : (hotState.deleteAlert emptyToml utf8 diskFull "hot").2.file = some [] := by
    decide +kernel
  generalize ran : hotState.deleteAlert emptyToml utf8 diskFull "hot" = outcome
    at answered emptied
  obtain ⟨result, next⟩ := outcome
  cases result with
  | error e => cases answered
  | ok payload =>
    cases answered
    refine ⟨next, rfl, emptied, by decide +kernel, ?_⟩
    intro holds
    obtain ⟨engine, _, text, encoded, same⟩ := holds
    cases encoded
    rw [emptied] at same
    revert same
    decide +kernel

end Requests

end LinSight.Alerts
