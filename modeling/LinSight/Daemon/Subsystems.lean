import LinSight.Daemon.Requests
import LinSight.Library.Run

set_option autoImplicit false

/-! The history and alert subsystems under their toggles: who holds a clone of which history
writer, and which writer threads have the database open. -/

namespace LinSight

/-- What the rest of the daemon sees of an alert engine. A writer is named by its number. -/
structure EventSink where
  eventWriter : Option Nat
deriving DecidableEq

structure Subsystems where
  history : Option Nat
  historyDbPath : Option String
  alerts : Option EventSink
  alertsConfigPath : Option String
  /-- `history_writer_clone`, a local of `run`. -/
  runClone : Option Nat
  /-- An RPC handler has the scheduler's lock, and in it a handle of the engine. -/
  handler : Bool
  /-- The writers whose threads have the database open. -/
  threads : List Nat
  spawned : Nat
deriving DecidableEq

namespace Subsystems

/-- A call that panics leaves the scheduler's lock poisoned, and no call comes after it. -/
inductive Step where
  | toggleHistory (enable : Bool) (spawned : Except String String)
  | toggleAlerts (enable : Bool) (loaded : Except String String)
  | takeHandle
  | dropHandle
  | exit (writer : Nat)

/-- Every clone of a `HistoryWriter`. -/
def clones (s : Subsystems) : List Nat :=
  s.runClone.toList ++ s.history.toList ++ (s.alerts.bind EventSink.eventWriter).toList

/-- The number of the next writer. -/
def fresh (s : Subsystems) : Nat := s.spawned

def spawn (s : Subsystems) : Subsystems :=
  { s with threads := s.fresh :: s.threads, spawned := s.spawned + 1 }

/-- `spawned` is the database that `history::spawn` opens, or its error. -/
def toggleHistory (s : Subsystems) (enable : Bool) (spawned : Except String String) :
    Except String PUnit.{1} × Subsystems :=
  if enable then
    if s.history.isSome then (.ok ⟨⟩, s)
    else
      match spawned with
      | .ok dbPath =>
          let writer := s.fresh
          (.ok ⟨⟩, { s.spawn with
            alerts := s.alerts.map fun _ => ⟨some writer⟩
            history := some writer
            historyDbPath := some dbPath })
      | .error e => (.error s!"history spawn failed: {e}", s)
  else
    (.ok ⟨⟩, { s with
      alerts := s.alerts.map fun _ => ⟨none⟩
      history := none
      historyDbPath := none })

/-- `loaded` is the file that `AlertEngine::load` reads, or its error. -/
def toggleAlerts (s : Subsystems) (enable : Bool) (loaded : Except String String) :
    Except String PUnit.{1} × Subsystems :=
  if enable then
    if s.alerts.isSome then (.ok ⟨⟩, s)
    else
      match loaded with
      | .ok tomlPath =>
          (.ok ⟨⟩, { s with alerts := some ⟨s.history⟩, alertsConfigPath := some tomlPath })
      | .error e => (.error s!"alert load failed: {e}", s)
  else (.ok ⟨⟩, { s with alerts := none, alertsConfigPath := none })

/-- A writer's channel disconnects with the last clone. -/
def Disconnected (s : Subsystems) (writer : Nat) : Prop := writer ∉ s.clones

instance (s : Subsystems) (writer : Nat) : Decidable (s.Disconnected writer) :=
  inferInstanceAs (Decidable (writer ∉ s.clones))

/-- The toggles and the handles of the engine are behind the scheduler's lock. -/
def step (s : Subsystems) : Step → Option Subsystems
  | .toggleHistory enable spawned =>
      Run.enabled (s.handler = false) (s.toggleHistory enable spawned).2
  | .toggleAlerts enable loaded =>
      Run.enabled (s.handler = false) (s.toggleAlerts enable loaded).2
  | .takeHandle =>
      Run.enabled (s.handler = false ∧ s.alerts.isSome = true) { s with handler := true }
  | .dropHandle => Run.enabled (s.handler = true) { s with handler := false }
  | .exit writer =>
      Run.enabled (writer ∈ s.threads ∧ s.Disconnected writer)
        { s with threads := s.threads.erase writer }

/-- Nothing is enabled yet. -/
def off : Subsystems where
  history := none
  historyDbPath := none
  alerts := none
  alertsConfigPath := none
  runClone := none
  handler := false
  threads := []
  spawned := 0

/-- `LINSIGHT_HISTORY` at the start of `run`. -/
def startHistory : Option (Except String String) → Subsystems
  | some (.ok dbPath) => { off.spawn with
      runClone := some off.fresh
      history := some off.fresh
      historyDbPath := some dbPath }
  | some (.error _) | none => off

/-- What `run` sets up; an outcome is `none` where the subsystem's variable is not set. -/
def setUp (history alerts : Option (Except String String)) : Subsystems :=
  let s := startHistory history
  match alerts with
  | some (.ok tomlPath) =>
      { s with alerts := some ⟨s.runClone⟩, alertsConfigPath := some tomlPath }
  | some (.error _) | none => s

/-- What every run keeps. -/
structure Synced (s : Subsystems) : Prop where
  eventWriter : ∀ engine, s.alerts = some engine → engine.eventWriter = s.history
  historyDbPath : s.historyDbPath.isSome = s.history.isSome
  alertsConfigPath : s.alertsConfigPath.isSome = s.alerts.isSome

/-- A call that fails changes nothing, every clone is of the scheduler's writer, and so the
thread of a disabled writer can exit. -/
structure Consistent (s : Subsystems) : Prop extends s.Synced where
  failedHistory : ∀ enable spawned e, (s.toggleHistory enable spawned).1 = .error e →
    (s.toggleHistory enable spawned).2 = s
  failedAlerts : ∀ enable loaded e, (s.toggleAlerts enable loaded).1 = .error e →
    (s.toggleAlerts enable loaded).2 = s
  current : ∀ writer ∈ s.clones, s.history = some writer
  exits : ∀ writer ∈ s.threads, s.history ≠ some writer → s.step (.exit writer) ≠ none
  alone : s.threads.length ≤ 1

/-- No call disables history while `run` has a clone of its writer, or enables it while a writer
thread still has the database open. -/
def Clean (s : Subsystems) : Step → Prop
  | .toggleHistory false _ =>
      s.handler = false → ∀ writer, s.history = some writer → s.runClone ≠ some writer
  | .toggleHistory true (.ok _) => s.handler = false → s.history = none → s.threads = []
  | _ => True

section Toggles

variable {s next : Subsystems}

@[simp] theorem mem_clones (writer : Nat) :
    writer ∈ s.clones ↔ s.runClone = some writer ∨ s.history = some writer ∨
      ∃ engine, s.alerts = some engine ∧ engine.eventWriter = some writer := by
  simp only [clones, List.append_assoc, List.mem_append, Option.mem_toList,
    Option.bind_eq_some_iff]

/-- What a history toggle can do. -/
theorem toggleHistory_cases (enable : Bool) (spawned : Except String String) :
    (s.toggleHistory enable spawned).2 = s ∧
        ((enable = true ∧ s.history.isSome = true) ∨ ∃ e, enable = true ∧ spawned = .error e) ∨
      (∃ dbPath, enable = true ∧ spawned = .ok dbPath ∧ s.history = none ∧
        s.toggleHistory enable spawned = (.ok ⟨⟩, { s.spawn with
          alerts := s.alerts.map fun _ => ⟨some s.fresh⟩
          history := some s.fresh
          historyDbPath := some dbPath })) ∨
      enable = false ∧ s.toggleHistory enable spawned = (.ok ⟨⟩, { s with
        alerts := s.alerts.map fun _ => ⟨none⟩
        history := none
        historyDbPath := none }) := by
  cases enable with
  | false => exact .inr (.inr ⟨rfl, rfl⟩)
  | true =>
      cases running : s.history with
      | some writer =>
          refine .inl ⟨?_, .inl ⟨rfl, rfl⟩⟩
          simp only [toggleHistory, running, Option.isSome_some, ↓reduceIte]
      | none =>
          cases spawned with
          | error e =>
              refine .inl ⟨?_, .inr ⟨e, rfl, rfl⟩⟩
              simp only [toggleHistory, running, Option.isSome_none, Bool.false_eq_true,
                ↓reduceIte]
          | ok dbPath =>
              refine .inr (.inl ⟨dbPath, rfl, rfl, rfl, ?_⟩)
              simp only [toggleHistory, running, Option.isSome_none, Bool.false_eq_true,
                ↓reduceIte]

/-- What an alerts toggle can do. -/
theorem toggleAlerts_cases (enable : Bool) (loaded : Except String String) :
    (s.toggleAlerts enable loaded).2 = s ∨
      (∃ tomlPath, s.toggleAlerts enable loaded = (.ok ⟨⟩, { s with
        alerts := some ⟨s.history⟩
        alertsConfigPath := some tomlPath })) ∨
      s.toggleAlerts enable loaded = (.ok ⟨⟩, { s with
        alerts := none
        alertsConfigPath := none }) := by
  cases enable with
  | false => exact .inr (.inr rfl)
  | true =>
      cases running : s.alerts with
      | some engine =>
          refine .inl ?_
          simp only [toggleAlerts, running, Option.isSome_some, ↓reduceIte]
      | none =>
          cases loaded with
          | error e =>
              refine .inl ?_
              simp only [toggleAlerts, running, Option.isSome_none, Bool.false_eq_true, ↓reduceIte]
          | ok tomlPath =>
              refine .inr (.inl ⟨tomlPath, ?_⟩)
              simp only [toggleAlerts, running, Option.isSome_none, Bool.false_eq_true, ↓reduceIte]

/-- An alerts toggle leaves the writer and its threads alone. -/
theorem toggleAlerts_frame (s : Subsystems) (enable : Bool) (loaded : Except String String) :
    (s.toggleAlerts enable loaded).2.history = s.history ∧
      (s.toggleAlerts enable loaded).2.runClone = s.runClone ∧
      (s.toggleAlerts enable loaded).2.threads = s.threads := by
  rcases toggleAlerts_cases (s := s) enable loaded with same | ⟨tomlPath, same⟩ | same
  · rw [same]
    exact ⟨rfl, rfl, rfl⟩
  · rw [same]
    exact ⟨rfl, rfl, rfl⟩
  · rw [same]
    exact ⟨rfl, rfl, rfl⟩

theorem setUp_synced (history alerts : Option (Except String String)) :
    (setUp history alerts).Synced := by
  rcases history with _ | _ | dbPath <;> rcases alerts with _ | _ | tomlPath <;>
    exact ⟨fun engine running => by cases running <;> rfl, rfl, rfl⟩

theorem Synced.step (synced : s.Synced) {label : Step} (taken : s.step label = some next) :
    next.Synced := by
  cases label with
  | toggleHistory enable spawned =>
      obtain ⟨_, rfl⟩ := Run.enabled_eq_some.mp taken
      rcases toggleHistory_cases (s := s) enable spawned with
        ⟨same, _⟩ | ⟨dbPath, _, _, _, same⟩ | ⟨_, same⟩ <;> rw [same]
      · exact synced
      · refine ⟨fun engine running => ?_, rfl, synced.alertsConfigPath.trans Option.isSome_map.symm⟩
        obtain ⟨_, _, rfl⟩ := Option.map_eq_some_iff.mp running
        rfl
      · refine ⟨fun engine running => ?_, rfl, synced.alertsConfigPath.trans Option.isSome_map.symm⟩
        obtain ⟨_, _, rfl⟩ := Option.map_eq_some_iff.mp running
        rfl
  | toggleAlerts enable loaded =>
      obtain ⟨_, rfl⟩ := Run.enabled_eq_some.mp taken
      rcases toggleAlerts_cases (s := s) enable loaded with same | ⟨tomlPath, same⟩ | same <;>
        rw [same]
      · exact synced
      · exact ⟨by rintro engine ⟨⟩; rfl, synced.historyDbPath, rfl⟩
      · exact ⟨by rintro engine ⟨⟩, synced.historyDbPath, rfl⟩
  | takeHandle | dropHandle | exit =>
      obtain ⟨_, rfl⟩ := Run.enabled_eq_some.mp taken
      exact ⟨synced.eventWriter, synced.historyDbPath, synced.alertsConfigPath⟩

/-- A toggle that fails returns before it changes anything. -/
theorem toggleHistory_failed {enable : Bool} {spawned : Except String String} {e : String}
    (failed : (s.toggleHistory enable spawned).1 = .error e) :
    (s.toggleHistory enable spawned).2 = s := by
  rcases toggleHistory_cases (s := s) enable spawned with
    ⟨same, _⟩ | ⟨dbPath, _, _, _, done⟩ | ⟨_, done⟩
  · exact same
  · rw [done] at failed
    cases failed
  · rw [done] at failed
    cases failed

theorem toggleAlerts_failed {enable : Bool} {loaded : Except String String} {e : String}
    (failed : (s.toggleAlerts enable loaded).1 = .error e) :
    (s.toggleAlerts enable loaded).2 = s := by
  rcases toggleAlerts_cases (s := s) enable loaded with same | ⟨tomlPath, done⟩ | done
  · exact same
  · rw [done] at failed
    cases failed
  · rw [done] at failed
    cases failed

/-- Where no clone is of another writer, the threads of the others can exit. -/
theorem Synced.consistent (synced : s.Synced)
    (current : ∀ writer ∈ s.clones, s.history = some writer) (alone : s.threads.length ≤ 1) :
    s.Consistent where
  toSynced := synced
  failedHistory _ _ _ := toggleHistory_failed
  failedAlerts _ _ _ := toggleAlerts_failed
  current := current
  exits writer running other := by
    have disconnected : s.Disconnected writer := fun held => other (current writer held)
    simp only [Subsystems.step, Run.enabled, running, disconnected, and_self, ↓reduceIte]
    exact Option.some_ne_none _
  alone := alone

/-- The engine's clone is of the current writer, and so only the clone of `run` can be of
another. -/
theorem Synced.current_iff (synced : s.Synced) :
    (∀ writer ∈ s.clones, s.history = some writer) ↔
      ∀ writer, s.runClone = some writer → s.history = some writer := by
  refine ⟨fun current writer held => current writer (mem_clones writer |>.mpr (.inl held)), ?_⟩
  intro own writer held
  rcases mem_clones writer |>.mp held with kept | kept | ⟨engine, running, kept⟩
  · exact own writer kept
  · exact kept
  · rw [← synced.eventWriter engine running, kept]

/-- A step leaves consistent subsystems so just where it is clean. -/
theorem step_consistent_iff {label : Step} (taken : s.step label = some next)
    (consistent : s.Consistent) : next.Consistent ↔ s.Clean label := by
  have after := consistent.toSynced.step taken
  have own := consistent.toSynced.current_iff.mp consistent.current
  cases label with
  | toggleHistory enable spawned =>
      obtain ⟨unlocked, rfl⟩ := Run.enabled_eq_some.mp taken
      rcases toggleHistory_cases (s := s) enable spawned with
        ⟨same, idle⟩ | ⟨dbPath, rfl, rfl, stopped, done⟩ | ⟨rfl, done⟩
      · rw [same]
        refine iff_of_true consistent ?_
        rcases idle with ⟨rfl, running⟩ | ⟨e, rfl, rfl⟩
        · cases spawned with
          | error e => exact trivial
          | ok dbPath =>
              intro _ stopped
              rw [stopped] at running
              cases running
        · exact trivial
      · rw [done] at after ⊢
        constructor
        · intro kept _ _
          have one := kept.alone
          simp only [spawn, List.length_cons] at one
          exact List.length_eq_zero_iff.mp (by omega)
        · intro clean
          refine after.consistent (after.current_iff.mpr fun writer held => ?_) ?_
          · have kept := own writer held
            rw [stopped] at kept
            cases kept
          · simp only [spawn, clean unlocked stopped, List.length_cons, List.length_nil, le_refl]
      · rw [done] at after ⊢
        constructor
        · intro kept _ writer _ held
          have current := after.current_iff.mp kept.current writer held
          cases current
        · intro clean
          refine after.consistent (after.current_iff.mpr fun writer held => ?_) consistent.alone
          exact absurd held (clean unlocked writer (own writer held))
  | toggleAlerts enable loaded =>
      obtain ⟨_, rfl⟩ := Run.enabled_eq_some.mp taken
      obtain ⟨history, runClone, threads⟩ := s.toggleAlerts_frame enable loaded
      refine iff_of_true (after.consistent (after.current_iff.mpr ?_) ?_) trivial
      · rw [history, runClone]
        exact own
      · rw [threads]
        exact consistent.alone
  | takeHandle | dropHandle =>
      obtain ⟨_, rfl⟩ := Run.enabled_eq_some.mp taken
      exact iff_of_true (after.consistent (after.current_iff.mpr own) consistent.alone) trivial
  | exit writer =>
      obtain ⟨_, rfl⟩ := Run.enabled_eq_some.mp taken
      refine iff_of_true (after.consistent (after.current_iff.mpr own) ?_) trivial
      exact (List.length_erase_le ..).trans consistent.alone

/-- No toggle runs beside a handler. -/
theorem clean_of_none {label : Step} (stuck : s.step label = none) : s.Clean label := by
  cases label with
  | toggleHistory enable spawned =>
      have locked : ¬ s.handler = false := fun free => by
        simp only [Subsystems.step, Run.enabled, free, ↓reduceIte] at stuck
        cases stuck
      cases enable with
      | false => exact fun free => absurd free locked
      | true =>
          cases spawned with
          | error e => exact trivial
          | ok dbPath => exact fun free => absurd free locked
  | _ => exact trivial

/-- No toggle leaves a handler behind. -/
theorem clean_of_handler {label : Step} (taken : s.step label = some next)
    (locked : ¬ next.handler = false) : s.Clean label := by
  cases label with
  | toggleHistory enable spawned =>
      obtain ⟨unlocked, rfl⟩ := Run.enabled_eq_some.mp taken
      refine absurd ?_ locked
      rcases toggleHistory_cases (s := s) enable spawned with
        ⟨same, _⟩ | ⟨dbPath, _, _, _, same⟩ | ⟨_, same⟩ <;> rw [same] <;> exact unlocked
  | _ => exact trivial

theorem setUp_consistent (history alerts : Option (Except String String)) :
    (setUp history alerts).Consistent := by
  refine (setUp_synced history alerts).consistent
    ((setUp_synced history alerts).current_iff.mpr ?_) ?_ <;>
    rcases history with _ | _ | dbPath <;> rcases alerts with _ | _ | tomlPath
  all_goals first
    | exact Nat.zero_le 1
    | exact le_refl 1
    | (intro writer held; exact held)

end Toggles

section Requests

open Requests

variable {Store Toml : Type} {s : Subsystems} {shared next : Shared Store} {io : Io}
  {answer : Except String PUnit.{1}}

/-- What the handlers of the requests see of the subsystems. -/
structure Mirrors (s : Subsystems) (shared : Shared Store) : Prop where
  history : shared.history = s.history.isSome
  historyDb : shared.historyDb.isSome = s.historyDbPath.isSome
  engine : shared.alerts.engine.isSome = s.alerts.isSome
  configPath : shared.alerts.configPath = s.alertsConfigPath

/-- A history toggle answers a request as it does here, and goes on to mirror the subsystems. -/
theorem Mirrors.toggleHistory (mirrors : s.Mirrors shared) {enable : Bool}
    (toggled : Shared.toggleHistory io shared enable = some (answer, next)) (dbPath : String) :
    (s.toggleHistory enable (io.historySpawn.map fun _ => dbPath)).1 = answer ∧
      (s.toggleHistory enable (io.historySpawn.map fun _ => dbPath)).2.Mirrors next := by
  unfold Shared.toggleHistory at toggled
  unfold Subsystems.toggleHistory
  dsimp only at toggled
  rw [mirrors.history] at toggled
  cases enable with
  | false =>
      rw [if_neg Bool.false_ne_true] at toggled ⊢
      split at toggled
      · cases toggled
      · cases toggled
        exact ⟨rfl, rfl, rfl, mirrors.engine.trans Option.isSome_map.symm, mirrors.configPath⟩
  | true =>
      rw [if_pos rfl] at toggled ⊢
      split at toggled
      · rename_i running
        cases toggled
        rw [if_pos running]
        exact ⟨rfl, mirrors⟩
      · rename_i stopped
        rw [if_neg stopped]
        cases opened : io.historySpawn with
        | error e =>
            rw [opened] at toggled
            cases toggled
            exact ⟨rfl, mirrors⟩
        | ok db =>
            rw [opened] at toggled
            dsimp only at toggled
            split at toggled
            · cases toggled
            · cases toggled
              exact ⟨rfl, rfl, rfl, mirrors.engine.trans Option.isSome_map.symm,
                mirrors.configPath⟩

theorem Mirrors.toggleAlerts (surroundings : Surroundings Store Toml) (mirrors : s.Mirrors shared)
    {enable : Bool}
    (toggled : Shared.toggleAlerts surroundings io shared enable = some (answer, next)) :
    ∃ loaded : Except String String, (s.toggleAlerts enable loaded).1 = answer ∧
      (s.toggleAlerts enable loaded).2.Mirrors next := by
  unfold Shared.toggleAlerts at toggled
  unfold Subsystems.toggleAlerts
  dsimp only at toggled
  rw [mirrors.engine] at toggled
  cases enable with
  | false =>
      rw [if_neg Bool.false_ne_true] at toggled
      cases toggled
      exact ⟨.ok "", rfl, mirrors.history, mirrors.historyDb, rfl, rfl⟩
  | true =>
      rw [if_pos rfl] at toggled
      split at toggled
      · rename_i running
        cases toggled
        refine ⟨.ok "", ?_⟩
        rw [if_pos rfl, if_pos running]
        exact ⟨rfl, mirrors⟩
      · rename_i stopped
        split at toggled
        · cases toggled
        · rename_i e _
          cases toggled
          refine ⟨.error e, ?_⟩
          rw [if_pos rfl, if_neg stopped]
          exact ⟨rfl, mirrors⟩
        · split at toggled
          · cases toggled
          · cases toggled
            refine ⟨.ok surroundings.alertsConfigPath, ?_⟩
            rw [if_pos rfl, if_neg stopped]
            exact ⟨rfl, mirrors.history, mirrors.historyDb, rfl, rfl⟩

end Requests

end Subsystems

/-- Where no handler has a handle of the alert engine, the subsystems are consistent, in exactly
the runs that disable history only while `run` has no clone of its writer, and enable it only
while no writer thread has the database open. -/
theorem toggles_consistent_iff (history alerts : Option (Except String String))
    (labels : List Subsystems.Step) :
    (∀ s, Run.Visits Subsystems.step (Subsystems.setUp history alerts) labels s →
      s.handler = false → s.Consistent) ↔
      Run.Always Subsystems.step Subsystems.Clean (Subsystems.setUp history alerts) labels := by
  have initial := Subsystems.setUp_consistent history alerts
  have kept (s : Subsystems) (label : Subsystems.Step) (next : Subsystems)
      (taken : s.step label = some next) (consistent : s.Consistent)
      (locked : ¬ next.handler = false) : next.Consistent :=
    (Subsystems.step_consistent_iff taken consistent).mpr (Subsystems.clean_of_handler taken locked)
  rw [← Run.visits_iff_always (fun _ _ _ _ _ => trivial) (fun _ _ => Subsystems.clean_of_none)
    (fun _ _ _ taken _ => Subsystems.step_consistent_iff taken) trivial initial]
  exact ⟨Run.visits_of_settled kept initial, fun all s visited _ => all s visited⟩

/-- The clone of `run` keeps the disabled writer's thread alive under the next one. -/
theorem disabled_writer_keeps_thread : ∃ s,
    Run.exec Subsystems.step (Subsystems.setUp (some (.ok "history.db")) none)
      [.toggleHistory false (.ok "history.db"), .toggleHistory true (.ok "history.db")] = some s ∧
    s.handler = false ∧ s.history = some 1 ∧ 0 ∈ s.clones ∧ s.threads = [1, 0] ∧
    s.step (.exit 0) = none :=
  ⟨_, rfl, rfl, rfl, by decide, rfl, rfl⟩

end LinSight
