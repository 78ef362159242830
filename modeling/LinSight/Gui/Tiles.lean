import LinSight.Library.Run
import LinSight.Protocol.Messages

set_option autoImplicit false

/-! The tile state of the overview and the pump that applies samples to it. How a reading is
written out is a parameter. -/

namespace LinSight.Gui

structure TileJson where
  id : String
  category : String
  device : Option String
  name : String
  deviceLabel : Option String
  parentDevice : Option String
  value : String
  kind : String
  unit : String
  sparkline : List Ieee.Value
  rows : List TableRow
  lastRawValue : Nat
  lastTsMicros : Nat
deriving DecidableEq

structure SampleState where
  tiles : KeyMap String TileJson
  idOrder : List String
  units : KeyMap String LinSight.Unit
  staticIds : List String
  dirty : List String

/-- `format_reading_with_rows`. -/
abbrev Format := SensorId → Reading → LinSight.Unit → Bool → String × List TableRow

def serializeCategory : Category → String
  | .cpu => "cpu"
  | .gpu => "gpu"
  | .memory => "memory"
  | .storage => "storage"
  | .network => "network"
  | .custom => "custom"

def serializeKind : SensorKind → String
  | .scalar => "scalar"
  | .counter => "counter"
  | .table => "table"
  | .state => "state"

def unitSymbol : LinSight.Unit → String
  | .percent => "%"
  | .celsius => "°C"
  | .bytes => "B"
  | .bytesPerSec => "B/s"
  | .hertz => "Hz"
  | .watts => "W"
  | .volts => "V"
  | .rpm => "rpm"
  | .count => ""
  | .custom symbol => symbol

def deviceLabelFor (info : SensorInfo) : Option String :=
  info.deviceLabel.filter fun label => !label.toList.isEmpty

/-- `str::strip_prefix`. -/
def stripPrefix (front text : String) : Option String :=
  if front.toList.isPrefixOf text.toList then
    some (String.ofList (text.toList.drop front.toList.length))
  else none

def parentDeviceFor (info : SensorInfo) : Option String :=
  info.tags.findSome? (stripPrefix "parent:")

def freshTile (info : SensorInfo) : TileJson where
  id := info.id.asStr
  category := serializeCategory info.category
  device := info.deviceId
  name := info.displayName
  deviceLabel := deviceLabelFor info
  parentDevice := parentDeviceFor info
  value := "…"
  kind := serializeKind info.kind
  unit := unitSymbol info.unit
  sparkline := []
  rows := []
  lastRawValue := 0
  lastTsMicros := 0

def buildSampleState (sensorInfos : List SensorInfo) : SampleState where
  tiles := sensorInfos.foldl (fun tiles info => tiles.insert info.id.asStr (freshTile info)) ∅
  idOrder := sensorInfos.map fun info => info.id.asStr
  units := sensorInfos.foldl (fun units info => units.insert info.id.asStr info.unit) ∅
  staticIds := sensorInfos.foldl (fun ids info =>
    if staticTag ∈ info.tags then ids.insert info.id.asStr else ids) []
  dirty := []

def sparklineMaxPoints : Nat := 30

def pushSparkline (sparkline : List Ieee.Value) (v : Ieee.Value) : List Ieee.Value :=
  let pushed := sparkline ++ [v]
  if sparklineMaxPoints < pushed.length then pushed.drop 1 else pushed

section Samples

variable (format : Format)

/-- The tile after a sample of its sensor. -/
def sampledTile (state : SampleState) (sample : Sample) (tile : TileJson) : TileJson :=
  let sensorId := sample.sensor.asStr
  let unit := (state.units.lookup sensorId).getD .count
  let text := format sample.sensor sample.reading unit (decide (sensorId ∈ state.staticIds))
  { tile with
    value := text.1
    rows := text.2
    lastTsMicros := sample.tsMicros
    lastRawValue := match sample.reading with
      | .counter v => v
      | _ => tile.lastRawValue
    sparkline := match sample.reading with
      | .scalar v => pushSparkline tile.sparkline v
      | _ => tile.sparkline }

def applySample (state : SampleState) (sample : Sample) : SampleState :=
  match state.tiles.lookup sample.sensor.asStr with
  | some tile => { state with
      tiles := state.tiles.insert sample.sensor.asStr (sampledTile format state sample tile)
      dirty := state.dirty.insert sample.sensor.asStr }
  | none => state

end Samples

/-- What `serde` writes of a tile; the last raw value and timestamp are skipped. -/
structure ShownTile where
  id : String
  category : String
  device : Option String
  name : String
  deviceLabel : Option String
  parentDevice : Option String
  value : String
  kind : String
  unit : String
  sparkline : List Ieee.Value
  rows : List TableRow
deriving DecidableEq

def TileJson.shown (tile : TileJson) : ShownTile :=
  ⟨tile.id, tile.category, tile.device, tile.name, tile.deviceLabel, tile.parentDevice,
    tile.value, tile.kind, tile.unit, tile.sparkline, tile.rows⟩

/-- The text of a JSON array stands for its tiles. -/
def serializeTiles (order : List String) (tiles : KeyMap String TileJson) : List ShownTile :=
  order.filterMap fun id => (tiles.lookup id).map TileJson.shown

/-- The static tiles that have produced a value. -/
def sampledStatics (state : SampleState) : List String :=
  state.staticIds.filter fun sid =>
    (state.tiles.lookup sid).any fun tile => decide (tile.lastTsMicros ≠ 0)

/-- The tiles of the next delta. -/
def deltaIds (state : SampleState) : List String :=
  (sampledStatics state).foldl (fun ids sid => ids.insert sid) state.dirty

/-- The delta, and the state with an empty dirty set. -/
def takeDirtyTilesJson (state : SampleState) : List ShownTile × SampleState :=
  (serializeTiles (deltaIds state) state.tiles, { state with dirty := [] })

/-- A sample that was applied: its generation, and those that the state was then built for
and subscribed for. -/
structure Application where
  generation : Nat
  builtFor : Nat
  subscribedFor : Nat
deriving DecidableEq

/-- The sample pump. No step reads the last three fields. -/
structure Pump where
  state : SampleState
  currentG : Nat
  lastAlive : Bool
  draining : Bool
  running : Bool
  builtFor : Nat
  subscribedFor : Nat
  applied : List Application

/-- The utilization sensor of the CPU plugin. -/
def cpuUtilInfo : SensorInfo where
  id := ⟨"cpu.util"⟩
  displayName := "CPU"
  unit := .percent
  kind := .scalar
  category := .cpu
  nativeRateHz := .finite 1
  min := none
  max := none
  deviceId := none
  pluginId := "com.visorcraft.linsight.cpu"
  deviceKey := none
  deviceLabel := none
  tags := []

namespace Pump

/-- The state is built and subscribed for one generation before the pump's thread reads the
generation it begins with. -/
def start (sensorInfos : List SensorInfo) (builtFor currentG : Nat) : Pump where
  state := buildSampleState sensorInfos
  currentG := currentG
  lastAlive := true
  draining := false
  running := true
  builtFor := builtFor
  subscribedFor := builtFor
  applied := []

/-- `receive` is the blocking receive, with the catalogue that a rebuild reads; `drain` is a
pair that `try_recv` finds, and `render` comes where it finds none. -/
inductive Event where
  | receive (g : Nat) (first : Sample) (sensorInfos : List SensorInfo)
  | drain (g : Nat) (more : Sample)
  | render
  | timeout (aliveNow : Bool)
  | disconnected

/-- `replace_subscriptions` and `build_sample_state` for a new generation. -/
def rebuild (p : Pump) (g : Nat) (sensorInfos : List SensorInfo) : Pump :=
  { p with
    currentG := g
    subscribedFor := g
    state := buildSampleState sensorInfos
    builtFor := g }

section Step

variable (format : Format)

def apply (p : Pump) (g : Nat) (sample : Sample) : Pump :=
  { p with
    state := applySample format p.state sample
    applied := p.applied ++ [⟨g, p.builtFor, p.subscribedFor⟩] }

def receive (p : Pump) (g : Nat) (first : Sample) (sensorInfos : List SensorInfo) : Pump :=
  if g < p.currentG then p
  else
    let p := if p.currentG < g then p.rebuild g sensorInfos else p
    { p.apply format g first with lastAlive := true, draining := true }

def drain (p : Pump) (g : Nat) (more : Sample) : Pump :=
  if g < p.currentG then p
  else
    let p := if p.currentG < g then { p with currentG := g } else p
    p.apply format g more

def step (p : Pump) : Event → Option Pump
  | .receive g first sensorInfos =>
      Run.enabled (p.running = true ∧ p.draining = false) (p.receive format g first sensorInfos)
  | .drain g more =>
      Run.enabled (p.running = true ∧ p.draining = true) (p.drain format g more)
  | .render => Run.enabled (p.running = true ∧ p.draining = true)
      { p with state := (takeDirtyTilesJson p.state).2, draining := false }
  | .timeout aliveNow =>
      Run.enabled (p.running = true ∧ p.draining = false) { p with lastAlive := aliveNow }
  | .disconnected =>
      Run.enabled (p.running = true ∧ p.draining = false) { p with running := false }

end Step

/-- Every sample met a state that was built and subscribed for its generation or a newer
one. -/
def Built (p : Pump) : Prop :=
  ∀ a ∈ p.applied, a.generation ≤ a.builtFor ∧ a.subscribedFor = a.builtFor

/-- No pair of a generation that the state was not built for is applied: none newer than the
pump's comes out of the drain, and none of the pump's own where the state is older. -/
def Allowed (p : Pump) : Event → Prop
  | .receive g _ _ => p.running = true → p.draining = false → g = p.currentG → g ≤ p.builtFor
  | .drain g _ => p.running = true → p.draining = true → p.currentG ≤ g → g ≤ p.builtFor
  | _ => True

section Generations

variable {format : Format} {p next : Pump}

/-- The state is subscribed for what it is built for, and samples come in order. -/
structure Ordered (p : Pump) : Prop where
  subscribed : p.subscribedFor = p.builtFor
  reached : ∀ a ∈ p.applied, a.generation ≤ p.currentG
  ascending : p.applied.Pairwise fun a b => a.generation ≤ b.generation

theorem built_apply_iff {g : Nat} {sample : Sample} (subscribed : p.subscribedFor = p.builtFor) :
    (p.apply format g sample).Built ↔ p.Built ∧ g ≤ p.builtFor := by
  unfold Built apply
  constructor
  · intro all
    refine ⟨fun a member => all a (List.mem_append_left _ member), ?_⟩
    exact (all _ (List.mem_append_right _ List.mem_cons_self)).1
  · intro both a member
    rcases List.mem_append.mp member with old | new
    · exact both.1 a old
    · rw [List.mem_singleton.mp new]
      exact ⟨both.2, subscribed⟩

theorem Ordered.apply {g : Nat} (sample : Sample) (ordered : p.Ordered) (current : p.currentG = g) :
    (p.apply format g sample).Ordered where
  subscribed := ordered.subscribed
  reached := by
    intro a member
    rcases List.mem_append.mp member with old | new
    · exact ordered.reached a old
    · rw [List.mem_singleton.mp new]
      exact Nat.le_of_eq current.symm
  ascending := by
    refine List.pairwise_append.mpr ⟨ordered.ascending, List.pairwise_singleton _ _, ?_⟩
    intro a old b new
    rw [List.mem_singleton.mp new, ← current]
    exact ordered.reached a old

theorem Ordered.advance {g : Nat} (ordered : p.Ordered) (newer : p.currentG < g) :
    Ordered { p with currentG := g } where
  subscribed := ordered.subscribed
  reached := fun a member => Nat.le_trans (ordered.reached a member) (Nat.le_of_lt newer)
  ascending := ordered.ascending

theorem Ordered.rebuild {g : Nat} (sensorInfos : List SensorInfo) (ordered : p.Ordered)
    (newer : p.currentG < g) : (p.rebuild g sensorInfos).Ordered where
  subscribed := rfl
  reached := fun a member => Nat.le_trans (ordered.reached a member) (Nat.le_of_lt newer)
  ascending := ordered.ascending

theorem Ordered.receive {g : Nat} (first : Sample) (sensorInfos : List SensorInfo)
    (ordered : p.Ordered) : (p.receive format g first sensorInfos).Ordered := by
  unfold Pump.receive
  split
  · exact ordered
  · rename_i fresh
    have applied : (Pump.apply format (if p.currentG < g then p.rebuild g sensorInfos else p)
        g first).Ordered := by
      split
      · rename_i newer
        exact (ordered.rebuild sensorInfos newer).apply first rfl
      · rename_i same
        exact ordered.apply first (by omega)
    exact ⟨applied.subscribed, applied.reached, applied.ascending⟩

theorem Ordered.drain {g : Nat} (more : Sample) (ordered : p.Ordered) :
    (p.drain format g more).Ordered := by
  unfold Pump.drain
  split
  · exact ordered
  · rename_i fresh
    simp only
    split
    · rename_i newer
      exact (ordered.advance newer).apply more rfl
    · rename_i same
      exact ordered.apply more (by omega)

theorem Ordered.step {event : Event} (taken : p.step format event = some next)
    (ordered : p.Ordered) : next.Ordered := by
  cases event with
  | receive g first sensorInfos =>
      obtain ⟨_, same⟩ := Run.enabled_eq_some.mp taken
      exact same ▸ ordered.receive first sensorInfos
  | drain g more =>
      obtain ⟨_, same⟩ := Run.enabled_eq_some.mp taken
      exact same ▸ ordered.drain more
  | render =>
      obtain ⟨_, same⟩ := Run.enabled_eq_some.mp taken
      exact same ▸ ⟨ordered.subscribed, ordered.reached, ordered.ascending⟩
  | timeout aliveNow =>
      obtain ⟨_, same⟩ := Run.enabled_eq_some.mp taken
      exact same ▸ ⟨ordered.subscribed, ordered.reached, ordered.ascending⟩
  | disconnected =>
      obtain ⟨_, same⟩ := Run.enabled_eq_some.mp taken
      exact same ▸ ⟨ordered.subscribed, ordered.reached, ordered.ascending⟩

/-- The blocking receive rebuilds for a newer generation. -/
theorem built_receive_iff {g : Nat} {first : Sample} {sensorInfos : List SensorInfo}
    (ordered : p.Ordered) (built : p.Built) :
    (p.receive format g first sensorInfos).Built ↔ (g = p.currentG → g ≤ p.builtFor) := by
  unfold receive
  by_cases stale : g < p.currentG
  · rw [if_pos stale]
    exact iff_of_true built (fun same => absurd same (Nat.ne_of_lt stale))
  · rw [if_neg stale]
    by_cases newer : p.currentG < g
    · have applied : ((p.rebuild g sensorInfos).apply format g first).Built ↔
          (p.rebuild g sensorInfos).Built ∧ g ≤ g := built_apply_iff rfl
      simp only [if_pos newer]
      exact iff_of_true (applied.mpr ⟨built, Nat.le_refl g⟩)
        (fun same => absurd same (Nat.ne_of_gt newer))
    · have current : g = p.currentG := by omega
      have applied : (p.apply format g first).Built ↔ p.Built ∧ g ≤ p.builtFor :=
        built_apply_iff ordered.subscribed
      simp only [if_neg newer]
      exact applied.trans ⟨fun both _ => both.2, fun bound => ⟨built, bound current⟩⟩

/-- The drain does not. -/
theorem built_drain_iff {g : Nat} {more : Sample} (ordered : p.Ordered) (built : p.Built) :
    (p.drain format g more).Built ↔ (p.currentG ≤ g → g ≤ p.builtFor) := by
  unfold drain
  by_cases stale : g < p.currentG
  · rw [if_pos stale]
    exact iff_of_true built (fun fresh => absurd stale (Nat.not_lt_of_ge fresh))
  · rw [if_neg stale]
    have fresh : p.currentG ≤ g := Nat.le_of_not_lt stale
    have applied : ∀ q : Pump, q.subscribedFor = q.builtFor → q.Built → q.builtFor = p.builtFor →
        ((q.apply format g more).Built ↔ (p.currentG ≤ g → g ≤ p.builtFor)) := by
      intro q subscribed kept same
      rw [built_apply_iff subscribed, same]
      exact ⟨fun both _ => both.2, fun bound => ⟨kept, bound fresh⟩⟩
    simp only
    split
    · exact applied { p with currentG := g } ordered.subscribed built rfl
    · exact applied p ordered.subscribed built rfl

theorem built_step_iff {event : Event} (taken : p.step format event = some next)
    (ordered : p.Ordered) (built : p.Built) : next.Built ↔ p.Allowed event := by
  cases event with
  | receive g first sensorInfos =>
      obtain ⟨ready, same⟩ := Run.enabled_eq_some.mp taken
      rw [← same, built_receive_iff ordered built]
      exact ⟨fun bound _ _ => bound, fun allowed => allowed ready.1 ready.2⟩
  | drain g more =>
      obtain ⟨ready, same⟩ := Run.enabled_eq_some.mp taken
      rw [← same, built_drain_iff ordered built]
      exact ⟨fun bound _ _ => bound, fun allowed => allowed ready.1 ready.2⟩
  | render =>
      obtain ⟨_, same⟩ := Run.enabled_eq_some.mp taken
      exact iff_of_true (same ▸ built) trivial
  | timeout aliveNow =>
      obtain ⟨_, same⟩ := Run.enabled_eq_some.mp taken
      exact iff_of_true (same ▸ built) trivial
  | disconnected =>
      obtain ⟨_, same⟩ := Run.enabled_eq_some.mp taken
      exact iff_of_true (same ▸ built) trivial

theorem start_ordered (sensorInfos : List SensorInfo) (builtFor currentG : Nat) :
    (start sensorInfos builtFor currentG).Ordered :=
  ⟨rfl, fun _ member => absurd member List.not_mem_nil, List.Pairwise.nil⟩

/-- Over every run of the pump the samples meet a state of their generation exactly where
all pairs are allowed, and they are applied in the order of their generations in any case. -/
theorem rebuilt_iff (format : Format) (sensorInfos : List SensorInfo) (builtFor currentG : Nat)
    (events : List Event) :
    ((∀ p, Run.Visits (step format) (start sensorInfos builtFor currentG) events p → p.Built) ↔
      Run.Always (step format) Allowed (start sensorInfos builtFor currentG) events) ∧
    ∀ p, Run.Visits (step format) (start sensorInfos builtFor currentG) events p →
      p.applied.Pairwise fun a b => a.generation ≤ b.generation := by
  refine ⟨?exact_, ?ascending⟩
  case exact_ =>
    apply Run.visits_iff_always (fun _ _ _ taken ordered => Ordered.step taken ordered) ?idle
      (fun _ _ _ taken ordered built => built_step_iff taken ordered built)
      (start_ordered sensorInfos builtFor currentG)
      (fun _ member => absurd member List.not_mem_nil)
    intro p event disabled
    cases event with
    | receive g first infos =>
        intro running idle
        simp [step, Run.enabled, running, idle] at disabled
    | drain g more =>
        intro running busy
        simp [step, Run.enabled, running, busy] at disabled
    | render => trivial
    | timeout aliveNow => trivial
    | disconnected => trivial
  case ascending =>
    intro p visited
    obtain ⟨front, _, ran⟩ := visited
    exact (Run.exec_invariant (fun _ _ _ taken ordered => Ordered.step taken ordered) ran
      (start_ordered sensorInfos builtFor currentG)).ascending

def cpuUtilSample (tsMicros : Nat) : Sample := ⟨⟨"cpu.util"⟩, tsMicros, .scalar (.finite 50)⟩

/-- The last sample of a connection and the first one of the next come in one batch. -/
theorem reconnect_unnoticed : ∃ p,
    Run.exec (step fun _ _ _ _ => ("50%", [])) (start [cpuUtilInfo] 1 1)
        [.receive 1 (cpuUtilSample 1) [cpuUtilInfo], .drain 2 (cpuUtilSample 2), .render] =
          some p ∧
      p.applied = [⟨1, 1, 1⟩, ⟨2, 1, 1⟩] ∧ ¬ p.Built := by
  refine ⟨_, rfl, rfl, ?_⟩
  intro built
  have late := (built ⟨2, 1, 1⟩ (List.mem_cons_of_mem _ List.mem_cons_self)).1
  revert late
  decide

end Generations

end Pump

end LinSight.Gui
