import LinSight.Gui.Workspace

set_option autoImplicit false

/-! The process page and the sample pump, which both write the subscriptions. -/

namespace LinSight.Gui

def procList : SensorId := ⟨"proc.list"⟩

def uiThread : Nat := 0

def pumpThread : Nat := 1

/-- What the pump subscribes to by itself. -/
def autoSubsOf (sensorInfos : List SensorId) : List SensorId :=
  sensorInfos.filter fun id => decide (id ≠ procList)

/-- The list that the call has yet to store. -/
def Stage.toStore : Stage → Option (List SensorId)
  | .owing _ next => next
  | .sending _ _ next => next
  | .storing sensors => some sensors

def Workspace.toStore (w : Workspace) (thread : Nat) : Option (List SensorId) :=
  (w.calls thread).bind Stage.toStore

structure ProcessStream where
  workspace : Workspace
  /-- The argument of the last `set_process_stream_enabled`. -/
  requested : Option Bool
  currentG : Nat
  /-- What the pump has made of the catalogue of a new generation. -/
  autoSubs : Option (List SensorId)

namespace ProcessStream

/-- The overview has subscribed, and its pump has begun. -/
def start (offers : List SensorId) : ProcessStream where
  workspace := (Workspace.start offers).subscribe uiThread (autoSubsOf offers)
  requested := none
  currentG := 1
  autoSubs := none

/-- `workspace` is a step of a call that has begun, or of a reconnect. -/
inductive Event where
  | setProcessStreamEnabled (enabled : Bool)
  | newGeneration (g : Nat)
  | rebuild
  | fetch (thread : Nat)
  | send (thread : Nat)
  | store (thread : Nat)
  | snapshot (offers : List SensorId)
  | replay
  | swap
  | abort

/-- The steps of the workspace that are not begun by the page or the pump. -/
def Event.workspace : Event → Option Workspace.Event
  | .fetch thread => some (.fetch thread)
  | .send thread => some (.send thread)
  | .store thread => some (.store thread)
  | .snapshot offers => some (.snapshot offers)
  | .replay => some .replay
  | .swap => some .swap
  | .abort => some .abort
  | _ => none

def withWorkspace (s : ProcessStream) (w : Workspace) : ProcessStream := { s with workspace := w }

def step (s : ProcessStream) : Event → Option ProcessStream
  | .setProcessStreamEnabled true =>
      (s.workspace.step (.subscribe uiThread [procList])).map fun w =>
        { s with workspace := w, requested := some true }
  | .setProcessStreamEnabled false =>
      (s.workspace.step (.unsubscribe uiThread [procList])).map fun w =>
        { s with workspace := w, requested := some false }
  | .newGeneration g =>
      Run.enabled (s.currentG < g ∧ g ≤ s.workspace.connectionGeneration ∧ s.autoSubs = none ∧
          (s.workspace.calls pumpThread).isNone = true)
        { s with currentG := g, autoSubs := some (autoSubsOf s.workspace.connection.offers) }
  | .rebuild =>
      match s.autoSubs with
      | some autoSubs =>
          (s.workspace.step (.replaceSubscriptions pumpThread autoSubs)).map fun w =>
            { s with workspace := w, autoSubs := none }
      | none => none
  | event => event.workspace.bind fun event => (s.workspace.step event).map s.withWorkspace

/-- The pump has done with the current generation; what it still sends is of no account. -/
def Handled (s : ProcessStream) : Prop :=
  s.currentG = s.workspace.connectionGeneration ∧ s.autoSubs = none ∧
    s.workspace.toStore pumpThread = none

/-- The page asked for the processes, and the daemon offers them. -/
def Wanted (s : ProcessStream) : Prop :=
  s.requested = some true ∧ procList ∈ s.workspace.connection.offers

/-- Where the pump is up to date, the list has the processes exactly if they are wanted. -/
def Follows (s : ProcessStream) : Prop :=
  s.Handled → (procList ∈ s.workspace.subscriptions ↔ s.Wanted)

/-- The pump stores no list of the current generation while the processes are wanted, and
with a pump that is up to date they are asked for only where the daemon offers them. -/
def Allowed (s : ProcessStream) : Event → Prop
  | .setProcessStreamEnabled true => (s.workspace.calls uiThread).isNone = true → s.Handled →
      procList ∈ s.workspace.connection.offers
  | .rebuild => s.autoSubs = some [] → (s.workspace.calls pumpThread).isNone = true →
      s.currentG = s.workspace.connectionGeneration → ¬ s.Wanted
  | .store thread => ∀ sensors, s.workspace.calls thread = some (.storing sensors) →
      s.currentG = s.workspace.connectionGeneration → ¬ s.Wanted
  | _ => True

/-- Only the pump stores lists, and never one with the processes. -/
structure Sound (s : ProcessStream) : Prop where
  currentG : s.currentG ≤ s.workspace.connectionGeneration
  orderly : s.workspace.Orderly
  others : ∀ thread, thread ≠ pumpThread → s.workspace.toStore thread = none
  autoSubs : ∀ sensors, s.autoSubs = some sensors →
    procList ∉ sensors ∧ s.workspace.calls pumpThread = none
  pending : ∀ sensors, s.workspace.toStore pumpThread = some sensors → procList ∉ sensors

section Steps

variable {w next : Workspace}

/-- The step changes neither the list nor what will be stored, nor the generation or what
the current daemon offers. -/
structure Unmoved (w next : Workspace) : Prop where
  subscriptions : next.subscriptions = w.subscriptions
  generation : next.connectionGeneration = w.connectionGeneration
  offers : next.connection.offers = w.connection.offers
  toStore : ∀ thread, next.toStore thread = w.toStore thread
  idle : ∀ thread, w.calls thread = none → next.calls thread = none

theorem toStore_goOn_self (w : Workspace) (thread : Nat) (stage : Option Stage) :
    (w.goOn thread stage).toStore thread = stage.bind Stage.toStore := by
  simp only [Workspace.toStore, Workspace.goOn_calls, Function.update_self]

theorem toStore_goOn_of_ne (w : Workspace) {thread other : Nat} (stage : Option Stage)
    (differ : other ≠ thread) : (w.goOn thread stage).toStore other = w.toStore other := by
  simp only [Workspace.toStore, Workspace.goOn_calls, Function.update_of_ne differ]

/-- A call goes on without forgetting what it will store. -/
theorem Unmoved.goOn {thread : Nat} {before : Stage} {stage : Option Stage}
    (stands : w.calls thread = some before) (same : stage.bind Stage.toStore = before.toStore) :
    Unmoved w (w.goOn thread stage) where
  subscriptions := rfl
  generation := rfl
  offers := rfl
  toStore := by
    intro other
    by_cases here : other = thread
    · subst here
      rw [toStore_goOn_self, same, Workspace.toStore, stands]
      rfl
    · exact toStore_goOn_of_ne w stage here
  idle := by
    intro other none_
    have differ : other ≠ thread := by
      intro here
      rw [here, stands] at none_
      cases none_
    rw [Workspace.goOn_calls, Function.update_of_ne differ]
    exact none_

theorem unmoved_fetch {thread : Nat} (taken : w.step (.fetch thread) = some next) :
    Unmoved w next := by
  cases Workspace.stepped taken with
  | fetch _ frame later stands => exact Unmoved.goOn stands rfl

theorem unmoved_send {thread : Nat} (taken : w.step (.send thread) = some next) :
    Unmoved w next := by
  cases Workspace.stepped taken with
  | send _ client frame later stands =>
    have still : (w.transmit client frame).calls thread = some (.sending client frame later) :=
      stands
    have moved : Unmoved (w.transmit client frame)
        ((w.transmit client frame).goOn thread (later.map .storing)) := by
      apply Unmoved.goOn still
      cases later <;> rfl
    have offers := @Workspace.offers_transmit w client frame w.client
    exact ⟨moved.subscriptions, moved.generation, moved.offers.trans offers, moved.toStore,
      moved.idle⟩

theorem unmoved_snapshot {offers : List SensorId} (orderly : w.Orderly)
    (taken : w.step (.snapshot offers) = some next) : Unmoved w next := by
  cases Workspace.stepped taken with
  | snapshot _ free =>
    have old : w.client ≠ w.connected := Nat.ne_of_lt orderly.current
    refine ⟨rfl, rfl, ?_, fun _ => rfl, fun _ idle => idle⟩
    simp only [Workspace.connection, Function.update_of_ne old]

theorem unmoved_replay (taken : w.step .replay = some next) : Unmoved w next := by
  cases Workspace.stepped taken with
  | replay client snapshot going =>
    split
    · exact ⟨rfl, rfl, rfl, fun _ => rfl, fun _ idle => idle⟩
    · exact ⟨rfl, rfl, Workspace.offers_transmit client _ w.client, fun _ => rfl,
        fun _ idle => idle⟩

theorem unmoved_abort (taken : w.step .abort = some next) : Unmoved w next := by
  cases Workspace.stepped taken with
  | abort reconnect going => exact ⟨rfl, rfl, rfl, fun _ => rfl, fun _ idle => idle⟩

theorem swap_spec (taken : w.step .swap = some next) :
    next.subscriptions = w.subscriptions ∧ next.calls = w.calls ∧
      next.connectionGeneration = w.connectionGeneration + 1 := by
  cases Workspace.stepped taken with
  | swap client snapshot going => exact ⟨rfl, rfl, rfl⟩

theorem store_spec {thread : Nat} (taken : w.step (.store thread) = some next) :
    ∃ sensors, w.calls thread = some (.storing sensors) ∧
      next = { w with subscriptions := sensors }.goOn thread
        (some (.owing ⟨true, sensors⟩ none)) := by
  cases Workspace.stepped taken with
  | store _ sensors stands => exact ⟨sensors, stands, rfl⟩

theorem toStore_replaceSubscriptions (w : Workspace) (thread : Nat) (sensors : List SensorId) :
    (w.replaceSubscriptions thread sensors).toStore thread =
      if sensors.isEmpty then none else some sensors := by
  unfold Workspace.replaceSubscriptions
  rw [toStore_goOn_self]
  cases sensors.isEmpty <;> cases w.subscriptions.isEmpty <;> rfl

end Steps

section Preservation

variable {s next : ProcessStream}

/-- The steps of a call or a reconnect, by what they do. -/
theorem step_workspace {event : Event} {inner : Workspace.Event}
    (is_inner : event.workspace = some inner) (taken : s.step event = some next) :
    ∃ w, s.workspace.step inner = some w ∧ next = s.withWorkspace w := by
  have unfolded : s.step event =
      event.workspace.bind fun event => (s.workspace.step event).map s.withWorkspace := by
    cases event <;> first | rfl | cases is_inner
  rw [unfolded, is_inner, Option.bind_some] at taken
  obtain ⟨w, went, same⟩ := Option.map_eq_some_iff.mp taken
  exact ⟨w, went, same.symm⟩

theorem Sound.unmoved {w : Workspace} (sound : s.Sound) (orderly : w.Orderly)
    (moved : Unmoved s.workspace w) : (s.withWorkspace w).Sound where
  currentG := by
    show s.currentG ≤ w.connectionGeneration
    rw [moved.generation]
    exact sound.currentG
  orderly := orderly
  others := fun thread differ => (moved.toStore thread).trans (sound.others thread differ)
  autoSubs := by
    intro sensors made
    exact ⟨(sound.autoSubs sensors made).1, moved.idle _ (sound.autoSubs sensors made).2⟩
  pending := by
    intro sensors kept
    apply sound.pending sensors
    rw [← moved.toStore pumpThread]
    exact kept

theorem follows_unmoved_iff {w : Workspace} (moved : Unmoved s.workspace w) :
    (s.withWorkspace w).Follows ↔ s.Follows := by
  simp only [Follows, Handled, Wanted, withWorkspace, moved.generation, moved.subscriptions,
    moved.offers, moved.toStore]

/-- A step of a call or a reconnect that leaves what the page looks at. -/
theorem Sound.step_unmoved {event : Event} {inner : Workspace.Event} (sound : s.Sound)
    (is_inner : event.workspace = some inner) (taken : s.step event = some next)
    (unmoved : ∀ w, s.workspace.step inner = some w → Unmoved s.workspace w) :
    next.Sound ∧ (next.Follows ↔ s.Follows) := by
  obtain ⟨w, went, same⟩ := step_workspace is_inner taken
  subst same
  exact ⟨sound.unmoved (sound.orderly.step went) (unmoved w went),
    follows_unmoved_iff (unmoved w went)⟩

theorem procList_notMem_autoSubsOf (infos : List SensorId) : procList ∉ autoSubsOf infos := by
  simp [autoSubsOf]

/-- A request of the page leaves the pump and the generation alone. -/
theorem Sound.request {enabled : Bool} {subscriptions : List SensorId} {frame : Frame}
    (sound : s.Sound) :
    Sound { s with
      workspace := { s.workspace with subscriptions := subscriptions }.goOn uiThread
        (some (.owing frame none))
      requested := some enabled } where
  currentG := sound.currentG
  orderly := (sound.orderly.withSubscriptions subscriptions).goOn uiThread
    (fun _ _ _ same => by cases same)
  others := by
    intro thread differ
    by_cases here : thread = uiThread
    · subst here
      exact toStore_goOn_self _ _ _
    · exact (toStore_goOn_of_ne _ _ here).trans (sound.others thread differ)
  autoSubs := by
    intro sensors made
    refine ⟨(sound.autoSubs sensors made).1, ?_⟩
    have differ : pumpThread ≠ uiThread := by decide
    rw [Workspace.goOn_calls, Function.update_of_ne differ]
    exact (sound.autoSubs sensors made).2
  pending := by
    intro sensors kept
    have differ : pumpThread ≠ uiThread := by decide
    apply sound.pending sensors
    rw [← kept]
    exact (toStore_goOn_of_ne { s.workspace with subscriptions := subscriptions } _ differ).symm

theorem handled_request_iff {enabled : Bool} {subscriptions : List SensorId} {frame : Frame} :
    Handled { s with
      workspace := { s.workspace with subscriptions := subscriptions }.goOn uiThread
        (some (.owing frame none))
      requested := some enabled } ↔ s.Handled := by
  have differ : pumpThread ≠ uiThread := by decide
  have kept := toStore_goOn_of_ne { s.workspace with subscriptions := subscriptions }
    (some (.owing frame none)) differ
  unfold Handled
  rw [kept]
  exact Iff.rfl

theorem enable_spec (taken : s.step (.setProcessStreamEnabled true) = some next) :
    (s.workspace.calls uiThread).isNone = true ∧
      next = { s with
        workspace := { s.workspace with
          subscriptions := pushNew s.workspace.subscriptions [procList] }.goOn uiThread
            (some (.owing ⟨true, [procList]⟩ none))
        requested := some true } := by
  obtain ⟨w, went, same⟩ := Option.map_eq_some_iff.mp taken
  obtain ⟨idle, begun⟩ := Run.enabled_eq_some.mp went
  subst begun
  exact ⟨idle, same.symm⟩

theorem disable_spec (taken : s.step (.setProcessStreamEnabled false) = some next) :
    next = { s with
      workspace := { s.workspace with
        subscriptions := s.workspace.subscriptions.filter fun id =>
          decide (id ∉ [procList]) }.goOn uiThread (some (.owing ⟨false, [procList]⟩ none))
      requested := some false } := by
  obtain ⟨w, went, same⟩ := Option.map_eq_some_iff.mp taken
  obtain ⟨idle, begun⟩ := Run.enabled_eq_some.mp went
  subst begun
  exact same.symm

theorem rebuild_spec (taken : s.step .rebuild = some next) :
    ∃ autoSubs, s.autoSubs = some autoSubs ∧ (s.workspace.calls pumpThread).isNone = true ∧
      next = { s with
        workspace := s.workspace.replaceSubscriptions pumpThread autoSubs
        autoSubs := none } := by
  cases made : s.autoSubs with
  | none => simp only [step, made, reduceCtorEq] at taken
  | some autoSubs =>
      simp only [step, made] at taken
      obtain ⟨w, went, same⟩ := Option.map_eq_some_iff.mp taken
      obtain ⟨idle, begun⟩ := Run.enabled_eq_some.mp went
      subst begun
      exact ⟨autoSubs, rfl, idle, same.symm⟩

/-- A call stores its list and owes the frame for it. -/
theorem Sound.stored (sound : s.Sound) {thread : Nat} {sensors : List SensorId}
    (stands : s.workspace.calls thread = some (.storing sensors))
    (orderly : Workspace.Orderly ({ s.workspace with subscriptions := sensors }.goOn thread
      (some (.owing ⟨true, sensors⟩ none)))) :
    Sound (s.withWorkspace ({ s.workspace with subscriptions := sensors }.goOn thread
      (some (.owing ⟨true, sensors⟩ none)))) := by
  refine ⟨sound.currentG, orderly, ?_, ?_, ?_⟩
  · intro other differ
    by_cases here : other = thread
    · subst here
      exact toStore_goOn_self _ _ _
    · exact (toStore_goOn_of_ne { s.workspace with subscriptions := sensors } _ here).trans
        (sound.others other differ)
  · intro autoSubs made
    obtain ⟨without, idle⟩ := sound.autoSubs autoSubs made
    have differ : pumpThread ≠ thread := by
      intro here
      rw [here, stands] at idle
      cases idle
    refine ⟨without, ?_⟩
    show Function.update s.workspace.calls thread _ pumpThread = none
    rw [Function.update_of_ne differ]
    exact idle
  · intro list kept
    apply sound.pending list
    by_cases here : pumpThread = thread
    · subst here
      have nothing := toStore_goOn_self { s.workspace with subscriptions := sensors }
        pumpThread (some (.owing ⟨true, sensors⟩ none))
      have absurd_ : none = some list := nothing.symm.trans kept
      cases absurd_
    · exact (toStore_goOn_of_ne { s.workspace with subscriptions := sensors } _
        here).symm.trans kept

theorem Sound.step {event : Event} (taken : s.step event = some next) (sound : s.Sound) :
    next.Sound := by
  cases event with
  | setProcessStreamEnabled enabled =>
      cases enabled with
      | true => exact (enable_spec taken).2 ▸ sound.request
      | false => exact disable_spec taken ▸ sound.request
  | newGeneration g =>
      obtain ⟨⟨newer, known, none_, idle⟩, same⟩ := Run.enabled_eq_some.mp taken
      subst same
      refine ⟨known, sound.orderly, sound.others, ?_, sound.pending⟩
      intro sensors made
      cases made
      exact ⟨procList_notMem_autoSubsOf _, Option.isNone_iff_eq_none.mp idle⟩
  | rebuild =>
      obtain ⟨autoSubs, made, idle, same⟩ := rebuild_spec taken
      subst same
      have begun : s.workspace.step (.replaceSubscriptions pumpThread autoSubs) =
          some (s.workspace.replaceSubscriptions pumpThread autoSubs) :=
        Run.enabled_eq_some.mpr ⟨idle, rfl⟩
      refine ⟨sound.currentG, sound.orderly.step begun, ?_, ?_, ?_⟩
      · intro thread differ
        exact (toStore_goOn_of_ne _ _ differ).trans (sound.others thread differ)
      · intro sensors none_
        cases none_
      · intro sensors kept
        rw [toStore_replaceSubscriptions] at kept
        split at kept
        · cases kept
        · cases kept
          exact (sound.autoSubs autoSubs made).1
  | fetch thread => exact (sound.step_unmoved rfl taken fun _ => unmoved_fetch).1
  | send thread => exact (sound.step_unmoved rfl taken fun _ => unmoved_send).1
  | store thread =>
      obtain ⟨w, went, same⟩ := step_workspace rfl taken
      obtain ⟨sensors, stands, stored⟩ := store_spec went
      subst same
      have orderly := sound.orderly.step went
      subst stored
      exact sound.stored stands orderly
  | snapshot offers => exact (sound.step_unmoved rfl taken fun _ => unmoved_snapshot sound.orderly).1
  | replay => exact (sound.step_unmoved rfl taken fun _ => unmoved_replay).1
  | swap =>
      obtain ⟨w, went, same⟩ := step_workspace rfl taken
      obtain ⟨subscriptions, calls, generation⟩ := swap_spec went
      subst same
      have kept : ∀ thread, w.toStore thread = s.workspace.toStore thread := by
        intro thread
        rw [Workspace.toStore, calls, Workspace.toStore]
      constructor
      · show s.currentG ≤ w.connectionGeneration
        have bound := sound.currentG
        omega
      · exact sound.orderly.step went
      · exact fun thread differ => (kept thread).trans (sound.others thread differ)
      · intro sensors made
        refine ⟨(sound.autoSubs sensors made).1, ?_⟩
        show w.calls pumpThread = none
        rw [calls]
        exact (sound.autoSubs sensors made).2
      · exact fun sensors pending => sound.pending sensors ((kept pumpThread).symm.trans pending)
  | abort => exact (sound.step_unmoved rfl taken fun _ => unmoved_abort).1

/-- A rebuilt list without sensors is wrong where the page still wants the processes. -/
theorem follows_rebuild_iff {autoSubs : List SensorId} (made : s.autoSubs = some autoSubs)
    (idle : (s.workspace.calls pumpThread).isNone = true) :
    Follows { s with
      workspace := s.workspace.replaceSubscriptions pumpThread autoSubs
      autoSubs := none } ↔ s.Allowed .rebuild := by
  have kept := toStore_replaceSubscriptions s.workspace pumpThread autoSubs
  constructor
  · intro follows' empty _ current wanted
    rw [made, Option.some.injEq] at empty
    rw [empty] at kept
    have listed := (follows' ⟨current, rfl, by rw [empty]; exact kept⟩).mpr wanted
    exact absurd listed List.not_mem_nil
  · intro allowed handled
    have empty : autoSubs = [] := by
      have nothing := kept.symm.trans handled.2.2
      split at nothing
      · rename_i is_empty
        exact List.isEmpty_iff.mp is_empty
      · cases nothing
    rw [empty] at made
    have unwanted := allowed made idle handled.1
    exact ⟨fun listed => absurd listed List.not_mem_nil, fun wanted => absurd wanted unwanted⟩

/-- A stored list lacks the processes, which is wrong where the page wants them. -/
theorem follows_stored_iff (sound : s.Sound) {thread : Nat} {sensors : List SensorId}
    (stands : s.workspace.calls thread = some (.storing sensors)) :
    Follows (s.withWorkspace ({ s.workspace with subscriptions := sensors }.goOn thread
      (some (.owing ⟨true, sensors⟩ none)))) ↔ s.Allowed (.store thread) := by
  have to_store : s.workspace.toStore thread = some sensors := by
    rw [Workspace.toStore, stands]
    rfl
  have is_pump : thread = pumpThread := by
    by_contra differ
    rw [sound.others thread differ] at to_store
    cases to_store
  subst is_pump
  have without := sound.pending sensors to_store
  have none_ : s.autoSubs = none := by
    cases made : s.autoSubs with
    | none => rfl
    | some autoSubs =>
        have idle := (sound.autoSubs autoSubs made).2
        rw [stands] at idle
        cases idle
  constructor
  · intro follows' other same current wanted
    have listed := (follows' ⟨current, none_, toStore_goOn_self _ _ _⟩).mpr wanted
    exact without listed
  · intro allowed handled
    have unwanted := allowed sensors stands handled.1
    exact ⟨fun listed => absurd listed without, fun wanted => absurd wanted unwanted⟩

/-- A step keeps the list right exactly where it is allowed. -/
theorem follows_step_iff {event : Event} (taken : s.step event = some next) (sound : s.Sound)
    (follows : s.Follows) : next.Follows ↔ s.Allowed event := by
  cases event with
  | setProcessStreamEnabled enabled =>
      cases enabled with
      | true =>
          obtain ⟨idle, same⟩ := enable_spec taken
          subst same
          unfold Follows
          rw [handled_request_iff]
          have listed : procList ∈ pushNew s.workspace.subscriptions [procList] :=
            mem_pushNew.mpr (.inr List.mem_cons_self)
          constructor
          · intro follows' _ handled
            exact ((follows' handled).mp listed).2
          · intro allowed handled
            exact ⟨fun _ => ⟨rfl, allowed idle handled⟩, fun _ => listed⟩
      | false =>
          have same := disable_spec taken
          subst same
          unfold Follows
          rw [handled_request_iff]
          constructor
          · intro _
            trivial
          · intro _ _
            constructor
            · intro listed
              have removed := (List.mem_filter.mp listed).2
              simp at removed
            · intro wanted
              have requested := wanted.1
              simp at requested
  | newGeneration g =>
      obtain ⟨_, same⟩ := Run.enabled_eq_some.mp taken
      subst same
      constructor
      · intro _
        trivial
      · intro _ handled
        cases handled.2.1
  | rebuild =>
      obtain ⟨autoSubs, made, idle, same⟩ := rebuild_spec taken
      exact same ▸ follows_rebuild_iff made idle
  | fetch thread =>
      have kept := (sound.step_unmoved rfl taken fun _ => unmoved_fetch).2
      exact iff_of_true (kept.mpr follows) trivial
  | send thread =>
      have kept := (sound.step_unmoved rfl taken fun _ => unmoved_send).2
      exact iff_of_true (kept.mpr follows) trivial
  | store thread =>
      obtain ⟨w, went, same⟩ := step_workspace rfl taken
      obtain ⟨sensors, stands, stored⟩ := store_spec went
      rw [same, stored]
      exact follows_stored_iff sound stands
  | snapshot offers =>
      have kept := (sound.step_unmoved rfl taken fun _ => unmoved_snapshot sound.orderly).2
      exact iff_of_true (kept.mpr follows) trivial
  | replay =>
      have kept := (sound.step_unmoved rfl taken fun _ => unmoved_replay).2
      exact iff_of_true (kept.mpr follows) trivial
  | swap =>
      obtain ⟨w, went, same⟩ := step_workspace rfl taken
      obtain ⟨_, _, generation⟩ := swap_spec went
      subst same
      constructor
      · intro _
        trivial
      · intro _ handled
        have current : s.currentG = w.connectionGeneration := handled.1
        have bound := sound.currentG
        omega
  | abort =>
      have kept := (sound.step_unmoved rfl taken fun _ => unmoved_abort).2
      exact iff_of_true (kept.mpr follows) trivial

theorem start_sound (offers : List SensorId) : (start offers).Sound := by
  have orderly : ((Workspace.start offers).subscribe uiThread (autoSubsOf offers)).Orderly := by
    have begun : (Workspace.start offers).step (.subscribe uiThread (autoSubsOf offers)) =
        some ((Workspace.start offers).subscribe uiThread (autoSubsOf offers)) :=
      Run.enabled_eq_some.mpr ⟨rfl, rfl⟩
    exact (Workspace.start_orderly offers).step begun
  have nothing : ∀ thread, (start offers).workspace.toStore thread = none := by
    intro thread
    show ((Workspace.start offers).subscribe uiThread (autoSubsOf offers)).toStore thread = none
    unfold Workspace.subscribe
    split
    · rfl
    · by_cases here : thread = uiThread
      · subst here
        exact toStore_goOn_self _ _ _
      · exact toStore_goOn_of_ne _ _ here
  refine ⟨?_, orderly, fun thread _ => nothing thread, ?_, ?_⟩
  · show 1 ≤ ((Workspace.start offers).subscribe uiThread (autoSubsOf offers)).connectionGeneration
    unfold Workspace.subscribe
    split <;> exact Nat.le_refl 1
  · intro sensors made
    cases made
  · intro sensors kept
    rw [nothing] at kept
    cases kept

theorem start_follows (offers : List SensorId) : (start offers).Follows := by
  intro _
  constructor
  · intro listed
    have sensors : ∀ id ∈ (start offers).workspace.subscriptions, id ∈ autoSubsOf offers := by
      intro id member
      simp only [start, Workspace.subscribe] at member
      split at member
      · cases member
      · exact (mem_pushNew.mp member).resolve_left List.not_mem_nil
    exact absurd (sensors procList listed) (procList_notMem_autoSubsOf offers)
  · intro wanted
    cases wanted.1

end Preservation

section Runs

/-- Over every run: in all states with an up-to-date pump the subscriptions follow the last
request exactly where all steps are allowed. -/
theorem process_stream_iff (offers : List SensorId) (events : List Event) :
    (∀ s, Run.Visits step (start offers) events s → s.Follows) ↔
      Run.Always step Allowed (start offers) events := by
  apply Run.visits_iff_always (fun _ _ _ taken sound => Sound.step taken sound) ?idle
    (fun _ _ _ taken sound follows => follows_step_iff taken sound follows)
    (start_sound offers) (start_follows offers)
  case idle =>
    intro s event disabled
    cases event with
    | setProcessStreamEnabled enabled =>
        cases enabled with
        | true =>
            intro idle
            simp [step, Workspace.step, Run.enabled, idle] at disabled
        | false => trivial
    | rebuild =>
        intro made idle
        simp [step, Workspace.step, Run.enabled, made, idle] at disabled
    | store thread =>
        intro sensors stands
        simp [step, Event.workspace, Workspace.step, stands] at disabled
    | newGeneration g => trivial
    | fetch thread => trivial
    | send thread => trivial
    | snapshot offers => trivial
    | replay => trivial
    | swap => trivial
    | abort => trivial

/-- With the process page open, a reconnect to a daemon that offers the processes takes
them off the subscriptions. -/
theorem reconnect_drops_processes : ∃ s,
    Run.exec step (start [⟨"cpu.util"⟩, procList])
      [.fetch uiThread, .send uiThread, .setProcessStreamEnabled true, .fetch uiThread,
        .send uiThread, .snapshot [⟨"cpu.util"⟩, procList], .replay, .swap, .newGeneration 2,
        .rebuild, .fetch pumpThread, .send pumpThread, .store pumpThread, .fetch pumpThread,
        .send pumpThread] = some s ∧
      s.Handled ∧ s.Wanted ∧ s.workspace.subscriptions = [⟨"cpu.util"⟩] := by
  refine ⟨_, rfl, ⟨rfl, rfl, rfl⟩, ⟨rfl, ?_⟩, rfl⟩
  show procList ∈ [⟨"cpu.util"⟩, procList]
  exact List.mem_cons_of_mem _ List.mem_cons_self

end Runs

end ProcessStream

end LinSight.Gui
