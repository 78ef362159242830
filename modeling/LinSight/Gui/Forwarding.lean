import LinSight.Library.Run
import LinSight.Protocol.Messages
import Mathlib.Logic.Function.Basic

set_option autoImplicit false

/-! A reconnect of the workspace store by store, and the threads that forward what the
clients receive to the bridges. -/

namespace LinSight.Gui

def pumpIntervalDefaultMs : Nat := 150

/-- Between two steps of `reconnect_with_client`, with what it has read and still needs. -/
inductive ReconnectStage where
  | opened
  | numbered (generation : Nat)
  | listed (generation : Nat) (subs : List SensorId)
  | snapshotted (generation : Nat) (subs : List SensorId) (pumpMs : Nat)
  | subscribed (generation pumpMs : Nat)
  | replayed (generation : Nat)
  | published (generation : Nat)
  | revived (generation : Nat)
  | swapped (generation : Nat)
  | forwarding (generation : Nat)
  | bridging

structure Attempt where
  client : Nat
  target : String
  stage : ReconnectStage

/-- `matched` has read its own generation and is about to clear the flag. -/
inductive ForwarderPhase where
  | receiving
  | left
  | matched
  | done
deriving DecidableEq

structure SampleForwarder where
  client : Nat
  generation : Nat
  phase : ForwarderPhase

structure CatalogueForwarder where
  client : Nat
  generation : Nat
  running : Bool

/-- An item in a bridge. The client is a record: nothing reads it. -/
structure Bridged (α : Type) where
  client : Nat
  generation : Nat
  item : α

/-- The workspace with its forwarders. `failed` and `published` are records of the reconnects
that gave up and of the generations, newest first; no step reads them. -/
structure Link where
  client : Nat
  connectionGeneration : Nat
  connectionAlive : Bool
  activeTarget : String
  subscriptions : List SensorId
  pumpIntervalMs : Nat
  /-- The holder of `reconnect_lock`. -/
  attempt : Option Attempt
  forwarders : List SampleForwarder
  catalogueForwarders : List CatalogueForwarder
  /-- By client, the first `connected` of which have been made. -/
  samples : Nat → List Sample
  catalogues : Nat → List (List SensorInfo)
  closed : Nat → Bool
  connected : Nat
  sampleBridge : List (Bridged Sample)
  catalogueBridge : List (Bridged (List SensorInfo))
  bridgesOpen : Bool
  failed : List Nat
  published : List Nat

namespace Link

def start (target : String) : Link where
  client := 0
  connectionGeneration := 1
  connectionAlive := true
  activeTarget := target
  subscriptions := []
  pumpIntervalMs := pumpIntervalDefaultMs
  attempt := none
  forwarders := [⟨0, 1, .receiving⟩]
  catalogueForwarders := [⟨0, 1, true⟩]
  samples := fun _ => []
  catalogues := fun _ => []
  closed := fun _ => false
  connected := 1
  sampleBridge := []
  catalogueBridge := []
  bridgesOpen := true
  failed := []
  published := [1]

inductive Event where
  /-- A connected client is handed over; its sample receiver may be gone. -/
  | reconnect (target : String) (rxTaken : Bool)
  /-- The next step of the reconnect; a request of the replay may be refused or time out. -/
  | advance (accepted : Bool)
  | storeSubscriptions (sensors : List SensorId)
  | storePumpInterval (ms : Nat)
  | sample (client : Nat) (sample : Sample)
  | catalogue (client : Nat) (infos : List SensorInfo)
  | disconnect (client : Nat)
  | forwardSample (i : Nat)
  | leave (i : Nat)
  | check (i : Nat)
  | clear (i : Nat)
  | forwardCatalogue (i : Nat)
  | leaveCatalogue (i : Nat)
  | closeBridges

def goOn (w : Link) (attempt : Attempt) (stage : ReconnectStage) : Link :=
  { w with attempt := some { attempt with stage } }

/-- The early return of an error. -/
def giveUp (w : Link) (client : Nat) : Link :=
  { w with attempt := none, failed := client :: w.failed }

def spawnSampleForwarder (w : Link) (client generation : Nat) : Link :=
  { w with forwarders := w.forwarders ++ [⟨client, generation, .receiving⟩] }

def spawnCatalogueForwarder (w : Link) (client generation : Nat) : Link :=
  { w with catalogueForwarders := w.catalogueForwarders ++ [⟨client, generation, true⟩] }

def advance (w : Link) (a : Attempt) (accepted : Bool) : Link :=
  match a.stage with
  | .opened => w.goOn a (.numbered (saturatingAdd w.connectionGeneration 1))
  | .numbered g => w.goOn a (.listed g w.subscriptions)
  | .listed g subs => w.goOn a (.snapshotted g subs w.pumpIntervalMs)
  | .snapshotted g subs pumpMs =>
      if subs.isEmpty || accepted then w.goOn a (.subscribed g pumpMs) else w.giveUp a.client
  | .subscribed g pumpMs =>
      if pumpMs = pumpIntervalDefaultMs || accepted then w.goOn a (.replayed g)
      else w.giveUp a.client
  | .replayed g =>
      { w.goOn a (.published g) with connectionGeneration := g, published := g :: w.published }
  | .published g => { w.goOn a (.revived g) with connectionAlive := true }
  | .revived g => { w.goOn a (.swapped g) with client := a.client }
  | .swapped g => (w.goOn a (.forwarding g)).spawnSampleForwarder a.client g
  | .forwarding g => (w.goOn a .bridging).spawnCatalogueForwarder a.client g
  | .bridging => { w with attempt := none, activeTarget := a.target }

def setPhase (w : Link) (i : Nat) (f : SampleForwarder) (phase : ForwarderPhase) : Link :=
  { w with forwarders := w.forwarders.set i { f with phase } }

/-- The loop over the samples of the client. -/
def forwardSample (w : Link) (f : SampleForwarder) : Option Link :=
  match w.samples f.client with
  | s :: rest =>
      Run.enabled (f.phase = .receiving ∧ w.bridgesOpen = true)
        { w with
          samples := Function.update w.samples f.client rest
          sampleBridge := w.sampleBridge ++ [⟨f.client, f.generation, s⟩] }
  | [] => none

/-- The loop ends when the channel is closed and empty, or a send fails. -/
def leave (w : Link) (i : Nat) (f : SampleForwarder) : Option Link :=
  Run.enabled (f.phase = .receiving ∧
      if (w.samples f.client).isEmpty then w.closed f.client = true else w.bridgesOpen = false)
    (w.setPhase i f .left)

def forwardCatalogue (w : Link) (f : CatalogueForwarder) : Option Link :=
  match w.catalogues f.client with
  | infos :: rest =>
      Run.enabled (f.running = true ∧ w.bridgesOpen = true)
        { w with
          catalogues := Function.update w.catalogues f.client rest
          catalogueBridge := w.catalogueBridge ++ [⟨f.client, f.generation, infos⟩] }
  | [] => none

def leaveCatalogue (w : Link) (i : Nat) (f : CatalogueForwarder) : Option Link :=
  Run.enabled (f.running = true ∧
      if (w.catalogues f.client).isEmpty then w.closed f.client = true else w.bridgesOpen = false)
    { w with catalogueForwarders := w.catalogueForwarders.set i { f with running := false } }

def step (w : Link) : Event → Option Link
  | .reconnect target rxTaken =>
      let w' := { w with connected := w.connected + 1 }
      Run.enabled (w.attempt.isNone = true)
        (if rxTaken then w'.giveUp w.connected
          else { w' with attempt := some ⟨w.connected, target, .opened⟩ })
  | .advance accepted => w.attempt.map fun a => w.advance a accepted
  | .storeSubscriptions sensors => some { w with subscriptions := sensors }
  | .storePumpInterval ms => some { w with pumpIntervalMs := ms }
  | .sample client s =>
      Run.enabled (client < w.connected ∧ w.closed client = false)
        { w with samples := Function.update w.samples client (w.samples client ++ [s]) }
  | .catalogue client infos =>
      Run.enabled (client < w.connected ∧ w.closed client = false)
        { w with catalogues := Function.update w.catalogues client (w.catalogues client ++ [infos]) }
  | .disconnect client =>
      Run.enabled (client < w.connected) { w with closed := Function.update w.closed client true }
  | .forwardSample i => (w.forwarders[i]?).bind w.forwardSample
  | .leave i => (w.forwarders[i]?).bind (w.leave i)
  | .check i =>
      (w.forwarders[i]?).bind fun f =>
        Run.enabled (f.phase = .left)
          (w.setPhase i f (if w.connectionGeneration = f.generation then .matched else .done))
  | .clear i =>
      (w.forwarders[i]?).bind fun f =>
        Run.enabled (f.phase = .matched) { w.setPhase i f .done with connectionAlive := false }
  | .forwardCatalogue i => (w.catalogueForwarders[i]?).bind w.forwardCatalogue
  | .leaveCatalogue i => (w.catalogueForwarders[i]?).bind (w.leaveCatalogue i)
  | .closeBridges => some { w with bridgesOpen := false }

/-- The client and the generation of each sample forwarder. -/
def routes (w : Link) : List (Nat × Nat) := w.forwarders.map fun f => (f.client, f.generation)

def catalogueRoutes (w : Link) : List (Nat × Nat) :=
  w.catalogueForwarders.map fun f => (f.client, f.generation)

end Link

/-- The generation is computed, or it is the published one. -/
def ReconnectStage.Numbered (connectionGeneration : Nat) : ReconnectStage → Prop
  | opened | bridging => True
  | numbered g | listed g _ | snapshotted g _ _ | subscribed g _ | replayed g =>
      g = saturatingAdd connectionGeneration 1
  | published g | revived g | swapped g | forwarding g => g = connectionGeneration

/-- Nothing is published yet. -/
def ReconnectStage.uncommitted : ReconnectStage → Bool
  | opened | numbered _ | listed _ _ | snapshotted _ _ _ | subscribed _ _ | replayed _ => true
  | _ => false

/-- No forwarder has been started for the client yet. -/
def ReconnectStage.unrouted : ReconnectStage → Bool
  | bridging | forwarding _ => false
  | _ => true

namespace Link

/-- What holds between any two steps. -/
structure Sound (w : Link) : Prop where
  routes : ∀ r ∈ w.routes, r.1 < w.connected ∧ r.1 ∉ w.failed ∧ r.2 ≤ w.connectionGeneration
  catalogueRoutes : ∀ r ∈ w.catalogueRoutes, r.1 < w.connected ∧ r.1 ∉ w.failed
  sampleBridge : ∀ b ∈ w.sampleBridge, ∃ r ∈ w.routes, r.1 = b.client
  catalogueBridge : ∀ b ∈ w.catalogueBridge, ∃ r ∈ w.catalogueRoutes, r.1 = b.client
  failed : ∀ c ∈ w.failed, c < w.connected
  published : ∀ g ∈ w.published, g ≤ w.connectionGeneration
  bounded : w.connectionGeneration ≤ u64Max
  attempt : ∀ a ∈ w.attempt, a.client < w.connected ∧ a.client ∉ w.failed ∧
    a.stage.Numbered w.connectionGeneration
  unrouted : ∀ a ∈ w.attempt, a.stage.unrouted = true →
    (∀ r ∈ w.routes, r.1 ≠ a.client) ∧ ∀ r ∈ w.catalogueRoutes, r.1 ≠ a.client

theorem start_sound (target : String) : (start target).Sound where
  routes := by simp [start, routes]
  catalogueRoutes := by simp [start, catalogueRoutes]
  sampleBridge := by simp [start]
  catalogueBridge := by simp [start]
  failed := by simp [start]
  published := by simp [start]
  bounded := by simp [start]
  attempt := by simp [start]
  unrouted := by simp [start]

section Steps

variable {w next : Link} {a : Attempt}

/-- What a map forgets may be set anew. -/
theorem map_set_of_same {α β : Type} {key : α → β} {list : List α} {i : Nat} {before after : α}
    (present : list[i]? = some before) (same : key after = key before) :
    (list.set i after).map key = list.map key := by
  obtain ⟨inside, _⟩ := List.getElem?_eq_some_iff.mp present
  rw [List.map_set]
  apply List.ext_getElem? fun j => ?_
  rw [List.getElem?_set]
  split
  · rename_i here
    rw [← here, List.getElem?_map, present, List.length_map, if_pos inside, same]
    rfl
  · rfl

theorem routes_setPhase {i : Nat} {f : SampleForwarder} (present : w.forwarders[i]? = some f)
    (phase : ForwarderPhase) : (w.setPhase i f phase).routes = w.routes :=
  map_set_of_same present rfl

theorem Sound.setPhase {i : Nat} {f : SampleForwarder} (sound : w.Sound)
    (present : w.forwarders[i]? = some f) (phase : ForwarderPhase) :
    (w.setPhase i f phase).Sound := by
  have same := routes_setPhase present phase
  exact ⟨same ▸ sound.routes, sound.catalogueRoutes, same ▸ sound.sampleBridge,
    sound.catalogueBridge, sound.failed, sound.published, sound.bounded, sound.attempt,
    same ▸ sound.unrouted⟩

/-- Going on without touching the routes. -/
theorem Sound.goOn (sound : w.Sound) (running : w.attempt = some a) (stage : ReconnectStage)
    (numbered : stage.Numbered w.connectionGeneration)
    (unrouted : stage.unrouted = true → a.stage.unrouted = true) : (w.goOn a stage).Sound where
  routes := sound.routes
  catalogueRoutes := sound.catalogueRoutes
  sampleBridge := sound.sampleBridge
  catalogueBridge := sound.catalogueBridge
  failed := sound.failed
  published := sound.published
  bounded := sound.bounded
  attempt := by
    rintro other ⟨⟩
    obtain ⟨known, fresh, _⟩ := sound.attempt a running
    exact ⟨known, fresh, numbered⟩
  unrouted := by
    rintro other ⟨⟩ before
    exact sound.unrouted a running (unrouted before)

theorem Sound.giveUp (sound : w.Sound) {client : Nat} (known : client < w.connected)
    (unrouted : (∀ r ∈ w.routes, r.1 ≠ client) ∧ ∀ r ∈ w.catalogueRoutes, r.1 ≠ client) :
    (w.giveUp client).Sound where
  routes r member := by
    obtain ⟨there, fresh, low⟩ := sound.routes r member
    refine ⟨there, ?_, low⟩
    rw [Link.giveUp, List.mem_cons, not_or]
    exact ⟨unrouted.1 r member, fresh⟩
  catalogueRoutes r member := by
    obtain ⟨there, fresh⟩ := sound.catalogueRoutes r member
    refine ⟨there, ?_⟩
    rw [Link.giveUp, List.mem_cons, not_or]
    exact ⟨unrouted.2 r member, fresh⟩
  sampleBridge := sound.sampleBridge
  catalogueBridge := sound.catalogueBridge
  failed c member := by
    rcases List.mem_cons.mp member with rfl | old
    · exact known
    · exact sound.failed c old
  published := sound.published
  bounded := sound.bounded
  attempt := by rintro other ⟨⟩
  unrouted := by rintro other ⟨⟩

theorem routes_spawnSampleForwarder (w : Link) (client g : Nat) :
    (w.spawnSampleForwarder client g).routes = w.routes ++ [(client, g)] := by
  simp [routes, Link.spawnSampleForwarder]

theorem catalogueRoutes_spawnCatalogueForwarder (w : Link) (client g : Nat) :
    (w.spawnCatalogueForwarder client g).catalogueRoutes = w.catalogueRoutes ++ [(client, g)] := by
  simp [catalogueRoutes, Link.spawnCatalogueForwarder]

theorem Sound.spawnSampleForwarder (sound : w.Sound) {client g : Nat} (known : client < w.connected)
    (fresh : client ∉ w.failed) (low : g ≤ w.connectionGeneration)
    (routed : ∀ a ∈ w.attempt, a.stage.unrouted = false) :
    (w.spawnSampleForwarder client g).Sound where
  routes r member := by
    rw [routes_spawnSampleForwarder, List.mem_append, List.mem_singleton] at member
    rcases member with old | rfl
    · exact sound.routes r old
    · exact ⟨known, fresh, low⟩
  catalogueRoutes := sound.catalogueRoutes
  sampleBridge b member := by
    obtain ⟨r, old, same⟩ := sound.sampleBridge b member
    rw [routes_spawnSampleForwarder]
    exact ⟨r, List.mem_append_left _ old, same⟩
  catalogueBridge := sound.catalogueBridge
  failed := sound.failed
  published := sound.published
  bounded := sound.bounded
  attempt := sound.attempt
  unrouted a running before := by
    rw [routed a running] at before
    cases before

theorem Sound.spawnCatalogueForwarder (sound : w.Sound) {client g : Nat}
    (known : client < w.connected) (fresh : client ∉ w.failed)
    (routed : ∀ a ∈ w.attempt, a.stage.unrouted = false) :
    (w.spawnCatalogueForwarder client g).Sound where
  routes := sound.routes
  catalogueRoutes r member := by
    rw [catalogueRoutes_spawnCatalogueForwarder, List.mem_append, List.mem_singleton] at member
    rcases member with old | rfl
    · exact sound.catalogueRoutes r old
    · exact ⟨known, fresh⟩
  sampleBridge := sound.sampleBridge
  catalogueBridge b member := by
    obtain ⟨r, old, same⟩ := sound.catalogueBridge b member
    rw [catalogueRoutes_spawnCatalogueForwarder]
    exact ⟨r, List.mem_append_left _ old, same⟩
  failed := sound.failed
  published := sound.published
  bounded := sound.bounded
  attempt := sound.attempt
  unrouted a running before := by
    rw [routed a running] at before
    cases before

theorem le_saturatingAdd_one {g : Nat} (bounded : g ≤ u64Max) :
    g ≤ saturatingAdd g 1 ∧ saturatingAdd g 1 ≤ u64Max := by
  unfold saturatingAdd
  omega

theorem Sound.advance (sound : w.Sound) (running : w.attempt = some a) (accepted : Bool) :
    (w.advance a accepted).Sound := by
  obtain ⟨known, fresh, numbered⟩ := sound.attempt a running
  have unrouted := sound.unrouted a running
  unfold Link.advance
  cases stage : a.stage with
  | opened => exact sound.goOn running _ rfl fun _ => by rw [stage]; rfl
  | numbered g =>
      rw [stage] at numbered
      exact sound.goOn running _ numbered fun _ => by rw [stage]; rfl
  | listed g subs =>
      rw [stage] at numbered
      exact sound.goOn running _ numbered fun _ => by rw [stage]; rfl
  | snapshotted g subs pumpMs =>
      rw [stage] at numbered unrouted
      dsimp only
      split
      · exact sound.goOn running _ numbered fun _ => by rw [stage]; rfl
      · exact sound.giveUp known (unrouted rfl)
  | subscribed g pumpMs =>
      rw [stage] at numbered unrouted
      dsimp only
      split
      · exact sound.goOn running _ numbered fun _ => by rw [stage]; rfl
      · exact sound.giveUp known (unrouted rfl)
  | replayed g =>
      rw [stage] at numbered unrouted
      have next : g = saturatingAdd w.connectionGeneration 1 := numbered
      obtain ⟨grows, small⟩ := le_saturatingAdd_one sound.bounded
      rw [← next] at grows small
      refine ⟨fun r member => ?_, sound.catalogueRoutes, sound.sampleBridge, sound.catalogueBridge,
        sound.failed, ?_, small, ?_, ?_⟩
      · obtain ⟨there, other, low⟩ := sound.routes r member
        exact ⟨there, other, low.trans grows⟩
      · intro p member
        rcases List.mem_cons.mp member with rfl | old
        · exact le_rfl
        · exact (sound.published p old).trans grows
      · rintro other ⟨⟩
        exact ⟨known, fresh, rfl⟩
      · rintro other ⟨⟩ _
        exact unrouted rfl
  | published g =>
      rw [stage] at numbered
      have gone := sound.goOn running (.revived g) numbered fun _ => by rw [stage]; rfl
      exact ⟨gone.1, gone.2, gone.3, gone.4, gone.5, gone.6, gone.7, gone.8, gone.9⟩
  | revived g =>
      rw [stage] at numbered
      have gone := sound.goOn running (.swapped g) numbered fun _ => by rw [stage]; rfl
      exact ⟨gone.1, gone.2, gone.3, gone.4, gone.5, gone.6, gone.7, gone.8, gone.9⟩
  | swapped g =>
      rw [stage] at numbered
      have gone := sound.goOn running (.forwarding g) numbered fun _ => by rw [stage]; rfl
      refine gone.spawnSampleForwarder known fresh ?_ ?_
      · exact le_of_eq numbered
      · rintro other ⟨⟩
        rfl
  | forwarding g =>
      rw [stage] at numbered
      have gone := sound.goOn running .bridging trivial fun before => by cases before
      refine gone.spawnCatalogueForwarder known fresh ?_
      rintro other ⟨⟩
      rfl
  | bridging =>
      refine ⟨sound.routes, sound.catalogueRoutes, sound.sampleBridge, sound.catalogueBridge,
        sound.failed, sound.published, sound.bounded, ?_, ?_⟩
      · rintro other ⟨⟩
      · rintro other ⟨⟩

/-- An item goes from a client of a route to the bridge. -/
theorem Sound.forwardSample {i : Nat} {f : SampleForwarder} (sound : w.Sound)
    (present : w.forwarders[i]? = some f) (taken : w.forwardSample f = some next) :
    next.Sound := by
  unfold Link.forwardSample at taken
  split at taken
  · rename_i s rest queued
    obtain ⟨_, rfl⟩ := Run.enabled_eq_some.mp taken
    refine ⟨sound.routes, sound.catalogueRoutes, fun b member => ?_, sound.catalogueBridge,
      sound.failed, sound.published, sound.bounded, sound.attempt, sound.unrouted⟩
    rcases List.mem_append.mp member with old | new
    · exact sound.sampleBridge b old
    · rw [List.mem_singleton.mp new]
      exact ⟨_, List.mem_map_of_mem (List.mem_of_getElem? present), rfl⟩
  · cases taken

theorem Sound.forwardCatalogue {i : Nat} {f : CatalogueForwarder} (sound : w.Sound)
    (present : w.catalogueForwarders[i]? = some f) (taken : w.forwardCatalogue f = some next) :
    next.Sound := by
  unfold Link.forwardCatalogue at taken
  split at taken
  · rename_i infos rest queued
    obtain ⟨_, rfl⟩ := Run.enabled_eq_some.mp taken
    refine ⟨sound.routes, sound.catalogueRoutes, sound.sampleBridge, fun b member => ?_,
      sound.failed, sound.published, sound.bounded, sound.attempt, sound.unrouted⟩
    rcases List.mem_append.mp member with old | new
    · exact sound.catalogueBridge b old
    · rw [List.mem_singleton.mp new]
      exact ⟨_, List.mem_map_of_mem (List.mem_of_getElem? present), rfl⟩
  · cases taken

theorem Sound.leaveCatalogue {i : Nat} {f : CatalogueForwarder} (sound : w.Sound)
    (present : w.catalogueForwarders[i]? = some f) (taken : w.leaveCatalogue i f = some next) :
    next.Sound := by
  obtain ⟨_, rfl⟩ := Run.enabled_eq_some.mp taken
  have same : Link.catalogueRoutes { w with
      catalogueForwarders := w.catalogueForwarders.set i { f with running := false } } =
        w.catalogueRoutes :=
    map_set_of_same present rfl
  refine ⟨sound.routes, ?_, sound.sampleBridge, ?_, sound.failed, sound.published, sound.bounded,
    sound.attempt, ?_⟩
  · rw [same]
    exact sound.catalogueRoutes
  · rw [same]
    exact sound.catalogueBridge
  · intro a running before
    rw [same]
    exact sound.unrouted a running before

theorem Sound.reconnect {target : String} {rxTaken : Bool} (sound : w.Sound)
    (taken : w.step (.reconnect target rxTaken) = some next) : next.Sound := by
  obtain ⟨idle, rfl⟩ := Run.enabled_eq_some.mp taken
  have none : w.attempt = none := Option.isNone_iff_eq_none.mp idle
  have others : ∀ r ∈ w.routes, r.1 < w.connected + 1 ∧ r.1 ≠ w.connected := by
    intro r member
    have known := (sound.routes r member).1
    omega
  have catalogues : ∀ r ∈ w.catalogueRoutes, r.1 < w.connected + 1 ∧ r.1 ≠ w.connected := by
    intro r member
    have known := (sound.catalogueRoutes r member).1
    omega
  have before : Sound { w with connected := w.connected + 1 } :=
    ⟨fun r member => ⟨(others r member).1, (sound.routes r member).2⟩,
      fun r member => ⟨(catalogues r member).1, (sound.catalogueRoutes r member).2⟩,
      sound.sampleBridge, sound.catalogueBridge,
      fun c member => (sound.failed c member).trans (Nat.lt_succ_self _), sound.published,
      sound.bounded, by rw [none]; rintro a ⟨⟩, by rw [none]; rintro a ⟨⟩⟩
  cases rxTaken with
  | true =>
      exact before.giveUp (Nat.lt_succ_self _)
        ⟨fun r member => (others r member).2, fun r member => (catalogues r member).2⟩
  | false =>
      refine ⟨before.routes, before.catalogueRoutes, before.sampleBridge, before.catalogueBridge,
        before.failed, before.published, before.bounded, ?_, ?_⟩
      · rintro a ⟨⟩
        exact ⟨Nat.lt_succ_self _, fun old => Nat.lt_irrefl _ (sound.failed _ old), trivial⟩
      · rintro a ⟨⟩ _
        exact ⟨fun r member => (others r member).2, fun r member => (catalogues r member).2⟩

theorem Sound.step {event : Event} (sound : w.Sound) (taken : w.step event = some next) :
    next.Sound := by
  obtain ⟨s1, s2, s3, s4, s5, s6, s7, s8, s9⟩ := id sound
  cases event with
  | reconnect target rxTaken => exact sound.reconnect taken
  | advance accepted =>
      obtain ⟨a, running, rfl⟩ := Option.map_eq_some_iff.mp taken
      exact sound.advance running accepted
  | storeSubscriptions sensors =>
      cases taken
      exact ⟨s1, s2, s3, s4, s5, s6, s7, s8, s9⟩
  | storePumpInterval ms =>
      cases taken
      exact ⟨s1, s2, s3, s4, s5, s6, s7, s8, s9⟩
  | sample client s =>
      obtain ⟨_, rfl⟩ := Run.enabled_eq_some.mp taken
      exact ⟨s1, s2, s3, s4, s5, s6, s7, s8, s9⟩
  | catalogue client infos =>
      obtain ⟨_, rfl⟩ := Run.enabled_eq_some.mp taken
      exact ⟨s1, s2, s3, s4, s5, s6, s7, s8, s9⟩
  | disconnect client =>
      obtain ⟨_, rfl⟩ := Run.enabled_eq_some.mp taken
      exact ⟨s1, s2, s3, s4, s5, s6, s7, s8, s9⟩
  | forwardSample i =>
      obtain ⟨f, present, forwarded⟩ := Option.bind_eq_some_iff.mp taken
      exact sound.forwardSample present forwarded
  | leave i =>
      obtain ⟨f, present, left⟩ := Option.bind_eq_some_iff.mp taken
      obtain ⟨_, rfl⟩ := Run.enabled_eq_some.mp left
      exact sound.setPhase present .left
  | check i =>
      obtain ⟨f, present, checked⟩ := Option.bind_eq_some_iff.mp taken
      obtain ⟨_, rfl⟩ := Run.enabled_eq_some.mp checked
      exact sound.setPhase present _
  | clear i =>
      obtain ⟨f, present, cleared⟩ := Option.bind_eq_some_iff.mp taken
      obtain ⟨_, rfl⟩ := Run.enabled_eq_some.mp cleared
      obtain ⟨t1, t2, t3, t4, t5, t6, t7, t8, t9⟩ := sound.setPhase present .done
      exact ⟨t1, t2, t3, t4, t5, t6, t7, t8, t9⟩
  | forwardCatalogue i =>
      obtain ⟨f, present, forwarded⟩ := Option.bind_eq_some_iff.mp taken
      exact sound.forwardCatalogue present forwarded
  | leaveCatalogue i =>
      obtain ⟨f, present, left⟩ := Option.bind_eq_some_iff.mp taken
      exact sound.leaveCatalogue present left
  | closeBridges =>
      cases taken
      exact ⟨s1, s2, s3, s4, s5, s6, s7, s8, s9⟩

end Steps

theorem sound_of_run {target : String} {events : List Event} {w : Link}
    (run : Run.exec step (start target) events = some w) : w.Sound :=
  Run.exec_invariant (fun _ _ _ taken sound => sound.step taken) run (start_sound target)

end Link

end LinSight.Gui
