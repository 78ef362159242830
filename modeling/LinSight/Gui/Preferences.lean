import LinSight.Daemon.Requests
import LinSight.Gui.Dashboards
import LinSight.Gui.Tiles

set_option autoImplicit false

/-! The preferences: what the settings page shows, what `preferences.json` holds, and the interval
at which the daemon sends samples. -/

namespace LinSight.Gui

open Requests (pumpIntervalMinMs pumpIntervalMaxMs)

/-- The ids of `THEMES`. -/
def themeIds : List String :=
  ["system", "light", "dark", "oled-black", "gentle-gecko", "black-knight", "diamond", "dreams",
    "paranoid", "red-velvet", "subspace", "tiefling", "vibes"]

/-- The id of `theme_by_id`. -/
def themeById (id : String) : String := (themeIds.find? fun t => t = id).getD "system"

def validStartWorkspaces : List String :=
  ["overview", "gpus", "storage", "network", "hardware", "processes", "alerts"]

def validProcessColumns : List String := ["pid", "name", "cpu", "mem", "rss", "threads", "state"]

def validatedProcessSortColumn (column : Option String) : String :=
  match column with
  | some c => if c ∈ validProcessColumns then c else "cpu"
  | none => "cpu"

def isValidStartPage (key : String) : Bool :=
  if key ∈ validStartWorkspaces then true
  else
    match stripPrefix "dashboard:" key with
    | some slug => isValidSlug slug
    | none => false

structure ProcessTablePrefs where
  sortColumn : Option String
  sortDescending : Option Bool
  filterText : Option String
deriving DecidableEq

structure PreferencesFile where
  schemaVersion : UInt32
  theme : String
  activeDashboard : Option String
  startPage : String
  sampleIntervalMs : UInt32
  sparklines : Bool
  processTable : ProcessTablePrefs
deriving DecidableEq

def PreferencesFile.default : PreferencesFile where
  schemaVersion := 1
  theme := "system"
  activeDashboard := none
  startPage := "overview"
  sampleIntervalMs := 150
  sparklines := true
  processTable := ⟨none, none, none⟩

/-- `preferences.json`. -/
inductive PrefsDisk where
  | missing
  | unreadable
  | malformed
  | saved (p : PreferencesFile)
deriving DecidableEq

/-- A malformed file is renamed. -/
def loadPrefs : PrefsDisk → PreferencesFile × PrefsDisk
  | .saved p => (p, .saved p)
  | .malformed => (.default, .missing)
  | .missing => (.default, .missing)
  | .unreadable => (.default, .unreadable)

structure PreferencesModel where
  theme : String
  activeDashboard : String
  startPage : String
  sampleIntervalMs : Int
  sparklines : Bool
  processTableSortColumn : String
  processTableSortDescending : Bool
  processTableFilterText : String
deriving DecidableEq

/-- `as i32`. -/
def asI32 (n : UInt32) : Int := if n.toNat < 2 ^ 31 then n.toNat else n.toNat - 2 ^ 32

/-- A string that is empty is no string. -/
def nonEmpty (text : String) : Option String := if text = "" then none else some text

/-- A value in the range of the protocol. -/
def clampInterval (ms : Nat) : Nat := min (max ms pumpIntervalMinMs) pumpIntervalMaxMs

/-- What the user chooses. -/
inductive Choice where
  | theme (id : String)
  | activeDashboard (slug : String)
  | startPage (key : String)
  | sampleIntervalMs (ms : Int)
  | sparklines (enabled : Bool)
  | processTableSort (column : String) (descending : Bool)
  | processTableFilter (text : String)

namespace PreferencesModel

def ofFile (p : PreferencesFile) : PreferencesModel where
  theme := p.theme
  activeDashboard := p.activeDashboard.getD ""
  startPage := p.startPage
  sampleIntervalMs := asI32 p.sampleIntervalMs
  sparklines := p.sparklines
  processTableSortColumn := validatedProcessSortColumn p.processTable.sortColumn
  processTableSortDescending := p.processTable.sortDescending.getD true
  processTableFilterText := p.processTable.filterText.getD ""

def snapshot (m : PreferencesModel) : PreferencesFile where
  schemaVersion := 1
  theme := m.theme
  activeDashboard := nonEmpty m.activeDashboard
  startPage := m.startPage
  sampleIntervalMs := UInt32.ofNat (max m.sampleIntervalMs 0).toNat
  sparklines := m.sparklines
  processTable :=
    ⟨nonEmpty m.processTableSortColumn, some m.processTableSortDescending,
      nonEmpty m.processTableFilterText⟩

def apply (m : PreferencesModel) : Choice → PreferencesModel
  | .theme id => { m with theme := themeById id }
  | .activeDashboard slug => { m with activeDashboard := slug }
  | .startPage key => { m with startPage := if isValidStartPage key then key else "overview" }
  | .sampleIntervalMs ms => { m with sampleIntervalMs := clampInterval (max ms 0).toNat }
  | .sparklines enabled => { m with sparklines := enabled }
  | .processTableSort column descending => { m with
      processTableSortColumn := validatedProcessSortColumn (some column)
      processTableSortDescending := descending }
  | .processTableFilter text => { m with processTableFilterText := text }

end PreferencesModel

/-- What becomes of a request for an interval: it is answered, it is carried out and the answer
does not come in time, or it is not carried out (or not sent). -/
inductive RpcFate where
  | answered
  | lost
  | failed
deriving DecidableEq

/-- The settings page, the file, the interval that the workspace replays and the one at which the
daemon sends to the current connection. -/
structure Settings where
  model : PreferencesModel
  disk : PrefsDisk
  pumpIntervalMs : Nat
  tick : Nat

inductive SettingsEvent where
  | choose (choice : Choice) (saved : Bool) (fate : RpcFate)
  | reload
  | reconnect (subscribed : Bool) (fate : RpcFate)

namespace Settings

open PreferencesModel (ofFile)

/-- The interval of the file, as the daemon takes it. -/
def persisted (disk : PrefsDisk) : Nat :=
  clampInterval (loadPrefs disk).1.sampleIntervalMs.toNat

/-- LinSight starts and asks for the interval of the file. The workspace hears of an answer only;
a request that fails leaves a warning and both ends at the default. -/
def opened (disk : PrefsDisk) (first : RpcFate) : Settings where
  model := ofFile (loadPrefs disk).1
  disk := (loadPrefs disk).2
  pumpIntervalMs := if first = .answered then persisted disk else Requests.pumpIntervalDefaultMs
  tick := if first = .failed then Requests.pumpIntervalDefaultMs else persisted disk

/-- A new interval goes to the client of the workspace, which does not hear of it. -/
def pushed (s : Settings) (choice : Choice) (fate : RpcFate) : Nat :=
  match choice with
  | .sampleIntervalMs ms => if fate = .failed then s.tick else clampInterval (max ms 0).toNat
  | _ => s.tick

def choose (s : Settings) (choice : Choice) (saved : Bool) (fate : RpcFate) : Settings :=
  let model := s.model.apply choice
  { s with
    model
    disk := if saved then .saved model.snapshot else s.disk
    tick := s.pushed choice fate }

def reload (s : Settings) : Settings :=
  { s with model := ofFile (loadPrefs s.disk).1, disk := (loadPrefs s.disk).2 }

/-- The new connection takes the subscriptions and the interval, where there is one to replay. -/
def Replays (s : Settings) (subscribed : Bool) (fate : RpcFate) : Prop :=
  subscribed = true ∧ (s.pumpIntervalMs = Requests.pumpIntervalDefaultMs ∨ fate = .answered)

instance (s : Settings) (subscribed : Bool) (fate : RpcFate) :
    Decidable (s.Replays subscribed fate) :=
  inferInstanceAs (Decidable (_ ∧ _))

/-- A connection begins with the default; where a replay fails the old one stays. -/
def reconnect (s : Settings) (subscribed : Bool) (fate : RpcFate) : Settings :=
  if s.Replays subscribed fate then
    if s.pumpIntervalMs = Requests.pumpIntervalDefaultMs then
      { s with tick := Requests.pumpIntervalDefaultMs }
    else { s with tick := clampInterval s.pumpIntervalMs }
  else s

def step (s : Settings) : SettingsEvent → Option Settings
  | .choose choice saved fate => some (s.choose choice saved fate)
  | .reload => some s.reload
  | .reconnect subscribed fate => some (s.reconnect subscribed fate)

end Settings

theorem validatedProcessSortColumn_mem (column : Option String) :
    validatedProcessSortColumn column ∈ validProcessColumns := by
  unfold validatedProcessSortColumn
  cases column with
  | none => decide
  | some c =>
      dsimp only
      split
      · rename_i known
        exact known
      · decide

theorem getD_nonEmpty (text : String) : (nonEmpty text).getD "" = text := by
  unfold nonEmpty
  split
  · rename_i empty
    exact empty.symm
  · rfl

theorem validated_nonEmpty {column : String} (known : column ∈ validProcessColumns) :
    validatedProcessSortColumn (nonEmpty column) = column := by
  have filled : column ≠ "" := by
    intro empty
    rw [empty] at known
    exact absurd known (by decide)
  rw [nonEmpty, if_neg filled]
  exact if_pos known

theorem asI32_lt (n : UInt32) : asI32 n < 2 ^ 31 := by
  have bound := n.toNat_lt
  unfold asI32
  split <;> omega

theorem asI32_snapshot {ms : Int} (small : ms < 2 ^ 31) :
    asI32 (UInt32.ofNat (max ms 0).toNat) = max ms 0 := by
  have bound : (max ms 0).toNat < 2 ^ 31 := by omega
  have same : (UInt32.ofNat (max ms 0).toNat).toNat = (max ms 0).toNat :=
    UInt32.toNat_ofNat_of_lt' (Nat.lt_trans bound (by decide))
  rw [asI32, same, if_pos bound]
  omega

theorem clampInterval_range (ms : Nat) :
    pumpIntervalMinMs ≤ clampInterval ms ∧ clampInterval ms ≤ pumpIntervalMaxMs := by
  unfold clampInterval pumpIntervalMinMs pumpIntervalMaxMs
  omega

theorem clampInterval_idempotent (ms : Nat) :
    clampInterval (clampInterval ms) = clampInterval ms := by
  unfold clampInterval pumpIntervalMinMs pumpIntervalMaxMs
  omega

theorem loadPrefs_again (disk : PrefsDisk) :
    (loadPrefs (loadPrefs disk).2).1 = (loadPrefs disk).1 := by
  cases disk <;> rfl

namespace PreferencesModel

/-- What no choice and no file brings into the page. -/
structure Sound (m : PreferencesModel) : Prop where
  column : m.processTableSortColumn ∈ validProcessColumns
  interval : m.sampleIntervalMs < 2 ^ 31

theorem ofFile_sound (p : PreferencesFile) : (ofFile p).Sound where
  column := validatedProcessSortColumn_mem p.processTable.sortColumn
  interval := asI32_lt p.sampleIntervalMs

theorem Sound.apply {m : PreferencesModel} (sound : m.Sound) (choice : Choice) :
    (m.apply choice).Sound := by
  cases choice with
  | sampleIntervalMs ms =>
      have range := clampInterval_range (max ms 0).toNat
      have top : pumpIntervalMaxMs = 1000 := rfl
      refine ⟨sound.column, ?_⟩
      show (clampInterval (max ms 0).toNat : Int) < 2 ^ 31
      omega
  | processTableSort column descending =>
      exact ⟨validatedProcessSortColumn_mem (some column), sound.interval⟩
  | _ => exact ⟨sound.column, sound.interval⟩

/-- A page that is saved is read back as it was, but for an interval below zero. -/
theorem ofFile_snapshot_iff {m : PreferencesModel} (sound : m.Sound) :
    ofFile m.snapshot = m ↔ 0 ≤ m.sampleIntervalMs := by
  have interval := asI32_snapshot sound.interval
  have column := validated_nonEmpty sound.column
  constructor
  · intro same
    have ms := congrArg PreferencesModel.sampleIntervalMs same
    change asI32 (UInt32.ofNat (max m.sampleIntervalMs 0).toNat) = m.sampleIntervalMs at ms
    omega
  · intro nonneg
    obtain ⟨theme, dashboard, page, ms, sparklines, sort, descending, filter⟩ := m
    simp only [ofFile, snapshot, getD_nonEmpty, Option.getD_some, mk.injEq, true_and]
    dsimp only at interval column nonneg
    exact ⟨by omega, column, trivial⟩

/-- A theme, a start page and an interval of those there are. -/
structure Valid (m : PreferencesModel) : Prop where
  theme : m.theme ∈ themeIds
  startPage : isValidStartPage m.startPage = true
  low : pumpIntervalMinMs ≤ m.sampleIntervalMs
  high : m.sampleIntervalMs ≤ pumpIntervalMaxMs

theorem themeById_mem (id : String) : themeById id ∈ themeIds := by
  unfold themeById
  cases found : themeIds.find? fun t => t = id with
  | none => decide
  | some t => exact List.mem_of_find?_eq_some found

theorem Valid.apply {m : PreferencesModel} (valid : m.Valid) (choice : Choice) :
    (m.apply choice).Valid := by
  cases choice with
  | theme id => exact ⟨themeById_mem id, valid.startPage, valid.low, valid.high⟩
  | startPage key =>
      refine ⟨valid.theme, ?_, valid.low, valid.high⟩
      show isValidStartPage (if isValidStartPage key then key else "overview") = true
      split
      · rename_i known
        exact known
      · decide
  | sampleIntervalMs ms =>
      have range := clampInterval_range (max ms 0).toNat
      exact ⟨valid.theme, valid.startPage, Int.ofNat_le.mpr range.1, Int.ofNat_le.mpr range.2⟩
  | _ => exact ⟨valid.theme, valid.startPage, valid.low, valid.high⟩

end PreferencesModel

namespace Settings

open PreferencesModel (ofFile)

/-- What a page shows that is opened now. -/
def reopened (s : Settings) : PreferencesModel := ofFile (loadPrefs s.disk).1

/-- A choice is saved with an interval that is not below zero, or not saved and no change. -/
def Stored (s : Settings) : SettingsEvent → Prop
  | .choose choice true _ => 0 ≤ (s.model.apply choice).sampleIntervalMs
  | .choose choice false _ => s.model.apply choice = s.model
  | .reload => True
  | .reconnect _ _ => True

/-- A new interval is carried out, a reload finds the one that is shown, and a connection that is
made again replays the one that is shown. -/
def Pumped (s : Settings) : SettingsEvent → Prop
  | .choose (.sampleIntervalMs ms) _ fate =>
      fate = .failed → s.tick = clampInterval (max ms 0).toNat
  | .choose _ _ _ => True
  | .reload => s.reopened.sampleIntervalMs = s.model.sampleIntervalMs
  | .reconnect subscribed fate => s.Replays subscribed fate →
      s.model.sampleIntervalMs = s.pumpIntervalMs

/-- A reconnect changes at most the interval at which the daemon sends. -/
theorem reconnect_frame (s : Settings) (subscribed : Bool) (fate : RpcFate) :
    (s.reconnect subscribed fate).model = s.model ∧
      (s.reconnect subscribed fate).disk = s.disk ∧
      (s.reconnect subscribed fate).pumpIntervalMs = s.pumpIntervalMs := by
  unfold reconnect
  split_ifs <;> exact ⟨rfl, rfl, rfl⟩

theorem step_model {s next : Settings} {event : SettingsEvent}
    (taken : s.step event = some next) :
    (∃ choice, next.model = s.model.apply choice) ∨ next.model = s.reopened ∨
      next.model = s.model := by
  cases event with
  | choose choice saved fate =>
      cases Option.some.inj taken
      exact .inl ⟨choice, rfl⟩
  | reload =>
      cases Option.some.inj taken
      exact .inr (.inl rfl)
  | reconnect subscribed fate =>
      cases Option.some.inj taken
      exact .inr (.inr (s.reconnect_frame subscribed fate).1)

theorem step_sound (s : Settings) (event : SettingsEvent) (next : Settings)
    (taken : s.step event = some next) (sound : s.model.Sound) : next.model.Sound := by
  rcases step_model taken with ⟨choice, same⟩ | same | same
  · exact same ▸ sound.apply choice
  · exact same ▸ PreferencesModel.ofFile_sound _
  · exact same ▸ sound

/-- After a step a page that is opened shows the choice that was saved, or what it showed. -/
theorem step_reopened {s next : Settings} {event : SettingsEvent}
    (taken : s.step event = some next) :
    (∃ choice fate, event = .choose choice true fate ∧
        next.reopened = ofFile (s.model.apply choice).snapshot) ∨
      next.reopened = s.reopened := by
  cases event with
  | choose choice saved fate =>
      cases Option.some.inj taken
      cases saved with
      | true => exact .inl ⟨choice, fate, rfl, rfl⟩
      | false => exact .inr rfl
  | reload =>
      cases Option.some.inj taken
      exact .inr (congrArg ofFile (loadPrefs_again s.disk))
  | reconnect subscribed fate =>
      cases Option.some.inj taken
      have same := (s.reconnect_frame subscribed fate).2.1
      exact .inr (congrArg (fun disk => ofFile (loadPrefs disk).1) same)

theorem step_stored_iff (s : Settings) (event : SettingsEvent) (next : Settings)
    (taken : s.step event = some next) (sound : s.model.Sound) (same : s.reopened = s.model) :
    next.reopened = next.model ↔ s.Stored event := by
  cases event with
  | choose choice saved fate =>
      cases Option.some.inj taken
      cases saved with
      | true => exact PreferencesModel.ofFile_snapshot_iff (sound.apply choice)
      | false =>
          show s.reopened = s.model.apply choice ↔ s.model.apply choice = s.model
          rw [same]
          exact eq_comm
  | reload =>
      cases Option.some.inj taken
      exact iff_of_true (congrArg ofFile (loadPrefs_again s.disk)) trivial
  | reconnect subscribed fate =>
      cases Option.some.inj taken
      obtain ⟨model, disk, _⟩ := s.reconnect_frame subscribed fate
      refine iff_of_true ?_ trivial
      rw [model, ← same, reopened, disk, reopened]

theorem step_valid (s : Settings) (event : SettingsEvent) (next : Settings)
    (taken : s.step event = some next)
    (valid : s.model.Sound ∧ s.model.Valid ∧ s.reopened.Valid) :
    next.model.Sound ∧ next.model.Valid ∧ next.reopened.Valid := by
  refine ⟨step_sound s event next taken valid.1, ?_, ?_⟩
  · rcases step_model taken with ⟨choice, same⟩ | same | same
    · exact same ▸ valid.2.1.apply choice
    · exact same ▸ valid.2.2
    · exact same ▸ valid.2.1
  · rcases step_reopened taken with ⟨choice, fate, rfl, same⟩ | same
    · have chosen := valid.2.1.apply choice
      have low : (50 : Int) ≤ (s.model.apply choice).sampleIntervalMs := chosen.low
      rw [same, (PreferencesModel.ofFile_snapshot_iff (valid.1.apply choice)).mpr (by omega)]
      exact chosen
    · exact same ▸ valid.2.2

/-- The page that is opened after a restart shows what was shown, in all states, where each choice
is saved; what the page shows is in range in all states if the file of the start was. -/
theorem preferences_survive (disk : PrefsDisk) (first : RpcFate) (events : List SettingsEvent) :
    ((∀ s, Run.Visits step (opened disk first) events s → s.reopened = s.model) ↔
        Run.Always step Stored (opened disk first) events) ∧
      ((∀ s, Run.Visits step (opened disk first) events s → s.model.Valid) ↔
        (ofFile (loadPrefs disk).1).Valid) := by
  have sound : (opened disk first).model.Sound := PreferencesModel.ofFile_sound _
  have again : (opened disk first).reopened = (opened disk first).model :=
    congrArg ofFile (loadPrefs_again disk)
  constructor
  · apply Run.visits_iff_always step_sound _ step_stored_iff sound again
    intro s event stuck
    cases event <;> cases stuck
  · constructor
    · intro all
      exact all (opened disk first) Run.Visits.first
    · intro valid s visited
      obtain ⟨front, initial, run⟩ := visited
      exact (Run.exec_invariant step_valid run ⟨sound, valid, again ▸ valid⟩).2.1

theorem step_pumpInterval (s : Settings) (event : SettingsEvent) (next : Settings)
    (taken : s.step event = some next) : next.pumpIntervalMs = s.pumpIntervalMs := by
  cases event with
  | choose choice saved fate => exact (congrArg pumpIntervalMs (Option.some.inj taken)).symm
  | reload => exact (congrArg pumpIntervalMs (Option.some.inj taken)).symm
  | reconnect subscribed fate =>
      cases Option.some.inj taken
      exact (s.reconnect_frame subscribed fate).2.2

theorem visits_pumpInterval {start s : Settings} {events : List SettingsEvent}
    (visited : Run.Visits step start events s) : s.pumpIntervalMs = start.pumpIntervalMs := by
  obtain ⟨front, _, run⟩ := visited
  have kept : ∀ state event next, step state event = some next →
      state.pumpIntervalMs = start.pumpIntervalMs →
        next.pumpIntervalMs = start.pumpIntervalMs := by
    intro state event next taken same
    exact (step_pumpInterval state event next taken).trans same
  exact Run.exec_invariant kept run rfl

theorem step_clamped (s : Settings) (event : SettingsEvent) (next : Settings)
    (taken : s.step event = some next)
    (clamped : clampInterval s.pumpIntervalMs = s.pumpIntervalMs) :
    clampInterval next.pumpIntervalMs = next.pumpIntervalMs := by
  rw [step_pumpInterval s event next taken]
  exact clamped

theorem reconnect_tick {s : Settings} {subscribed : Bool} {fate : RpcFate}
    (clamped : clampInterval s.pumpIntervalMs = s.pumpIntervalMs)
    (replays : s.Replays subscribed fate) :
    (s.reconnect subscribed fate).tick = s.pumpIntervalMs := by
  rw [reconnect, if_pos replays]
  split_ifs with byDefault
  · exact byDefault.symm
  · exact clamped

theorem choose_pumped_iff {s : Settings} {choice : Choice} {saved : Bool} {fate : RpcFate}
    (same : (s.tick : Int) = s.model.sampleIntervalMs) :
    (s.pushed choice fate : Int) = (s.model.apply choice).sampleIntervalMs ↔
      s.Pumped (.choose choice saved fate) := by
  cases choice with
  | sampleIntervalMs ms =>
      show ((if fate = .failed then s.tick else clampInterval (max ms 0).toNat : Nat) : Int) =
        (clampInterval (max ms 0).toNat : Nat) ↔
          (fate = .failed → s.tick = clampInterval (max ms 0).toNat)
      rw [Int.natCast_inj]
      split_ifs with lost
      · exact ⟨fun equal _ => equal, fun equal => equal lost⟩
      · exact iff_of_true rfl fun failed => absurd failed lost
  | _ => exact iff_of_true same trivial

theorem step_pumped_iff (s : Settings) (event : SettingsEvent) (next : Settings)
    (taken : s.step event = some next)
    (clamped : clampInterval s.pumpIntervalMs = s.pumpIntervalMs)
    (same : (s.tick : Int) = s.model.sampleIntervalMs) :
    (next.tick : Int) = next.model.sampleIntervalMs ↔ s.Pumped event := by
  cases event with
  | choose choice saved fate =>
      cases Option.some.inj taken
      exact choose_pumped_iff same
  | reload =>
      cases Option.some.inj taken
      show (s.tick : Int) = s.reopened.sampleIntervalMs ↔
        s.reopened.sampleIntervalMs = s.model.sampleIntervalMs
      rw [same]
      exact eq_comm
  | reconnect subscribed fate =>
      cases Option.some.inj taken
      rw [(s.reconnect_frame subscribed fate).1]
      show ((s.reconnect subscribed fate).tick : Int) = s.model.sampleIntervalMs ↔
        (s.Replays subscribed fate → s.model.sampleIntervalMs = s.pumpIntervalMs)
      by_cases replays : s.Replays subscribed fate
      · rw [reconnect_tick clamped replays]
        exact ⟨fun equal _ => equal.symm, fun shown => (shown replays).symm⟩
      · rw [reconnect, if_neg replays]
        exact iff_of_true same fun replayed => absurd replayed replays

/-- The request of the start, if it was carried out, asked for the interval that is shown; if not,
the default is shown. -/
def OpensRight (disk : PrefsDisk) (first : RpcFate) : Prop :=
  if first = .failed then
    (loadPrefs disk).1.sampleIntervalMs.toNat = Requests.pumpIntervalDefaultMs
  else
    pumpIntervalMinMs ≤ (loadPrefs disk).1.sampleIntervalMs.toNat ∧
      (loadPrefs disk).1.sampleIntervalMs.toNat ≤ pumpIntervalMaxMs

theorem opened_shows_iff (disk : PrefsDisk) (first : RpcFate) :
    ((opened disk first).tick : Int) = (opened disk first).model.sampleIntervalMs ↔
      OpensRight disk first := by
  have bound := (loadPrefs disk).1.sampleIntervalMs.toNat_lt
  show ((if first = .failed then Requests.pumpIntervalDefaultMs else persisted disk : Nat) : Int) =
    asI32 (loadPrefs disk).1.sampleIntervalMs ↔ _
  unfold OpensRight persisted clampInterval asI32
  unfold Requests.pumpIntervalDefaultMs pumpIntervalMinMs pumpIntervalMaxMs
  split_ifs <;> omega

theorem opened_clamped (disk : PrefsDisk) (first : RpcFate) :
    clampInterval (opened disk first).pumpIntervalMs = (opened disk first).pumpIntervalMs := by
  unfold opened
  dsimp only
  split_ifs
  · exact clampInterval_idempotent _
  · rfl

/-- The daemon sends at the interval that is shown, in all states, where the start and each new
interval come through and no reload or reconnect takes them back; a reconnect goes back to the
interval that was answered at the start. -/
theorem interval_pumped_iff (disk : PrefsDisk) (first : RpcFate) (events : List SettingsEvent) :
    ((∀ s, Run.Visits step (opened disk first) events s →
        (s.tick : Int) = s.model.sampleIntervalMs) ↔
      OpensRight disk first ∧ Run.Always step Pumped (opened disk first) events) ∧
    ∀ s subscribed fate, Run.Visits step (opened disk first) events s →
      s.Replays subscribed fate →
        (s.reconnect subscribed fate).tick =
          if first = .answered then persisted disk else Requests.pumpIntervalDefaultMs := by
  have clamped := opened_clamped disk first
  have idle : ∀ s event, step s event = none → Pumped s event := by
    intro s event stuck
    cases event <;> cases stuck
  constructor
  · rw [← opened_shows_iff disk first]
    constructor
    · intro all
      have shown := all (opened disk first) Run.Visits.first
      refine ⟨shown, ?_⟩
      exact (Run.visits_iff_always step_clamped idle step_pumped_iff clamped shown).mp all
    · intro both
      exact (Run.visits_iff_always step_clamped idle step_pumped_iff clamped both.1).mpr both.2
  · intro s subscribed fate visited replays
    have kept := visits_pumpInterval visited
    rw [reconnect_tick (kept ▸ clamped) replays]
    exact kept

-- A choice of 200 ms that the daemon takes is shown still when a reconnect has undone it.
example :
    let disk := PrefsDisk.saved { PreferencesFile.default with sampleIntervalMs := 500 }
    let events := [.choose (.sampleIntervalMs 200) true .answered, .reconnect true .answered]
    (Run.exec step (opened disk .answered) events).map
        (fun s => (s.tick, s.model.sampleIntervalMs)) = some (500, 200) := by decide

end Settings

end LinSight.Gui
