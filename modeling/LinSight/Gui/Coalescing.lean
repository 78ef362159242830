import LinSight.Gui.Tiles
import LinSight.Gui.UiQueue

set_option autoImplicit false

/-! The deltas of the tile state on their way from the pump through the coalescing queue to
the UI. -/

namespace LinSight.Gui

/-- What a page has of a tile after a delta. -/
def mergeDelta (id : String) (shown : Option ShownTile) (delta : List ShownTile) :
    Option ShownTile :=
  (delta.find? fun tile => decide (tile.id = id)).or shown

/-- What a page has of a tile that merges the deltas in order into a full array. -/
def merged (full : List ShownTile) (deltas : List (List ShownTile)) (id : String) :
    Option ShownTile :=
  deltas.foldl (mergeDelta id) (full.find? fun tile => decide (tile.id = id))

/-- The pump's state and the delta that it has rendered but not stored yet, the queue with
the applied deltas, and the last full array. `sampled` are the sensors that samples were
received of; no step reads it. -/
structure Overview where
  state : SampleState
  rendered : Option (List ShownTile)
  queue : UiQueue (List ShownTile)
  full : List ShownTile
  sampled : List String

namespace Overview

def start (sensorInfos : List SensorInfo) : Overview where
  state := buildSampleState sensorInfos
  rendered := none
  queue := .start
  full := serializeTiles (buildSampleState sensorInfos).idOrder (buildSampleState sensorInfos).tiles
  sampled := []

inductive Event where
  | batch (first : Sample) (more : List Sample)
  | store
  | queue (event : UiQueue.Event (List ShownTile))

section Step

variable (format : Format)

/-- A batch of samples, and its rendering. -/
def batch (o : Overview) (first : Sample) (more : List Sample) : Overview :=
  let applied := (first :: more).foldl (applySample format) o.state
  { o with
    state := (takeDirtyTilesJson applied).2
    rendered := some (takeDirtyTilesJson applied).1
    sampled := o.sampled ++ (first :: more).map fun sample => sample.sensor.asStr }

/-- `queue_sample_ui_update` is called with the rendered delta only. -/
def step (o : Overview) : Event → Option Overview
  | .batch first more =>
      Run.enabled (o.queue.producer = .idle ∧ o.rendered = none) (o.batch format first more)
  | .store => o.rendered.bind fun delta => (o.queue.step (.store delta)).map fun queue =>
      { o with queue := queue, rendered := none }
  | .queue (.store _) => none
  | .queue event => (o.queue.step event).map fun queue => { o with queue := queue }

end Step

/-- What a page has of a tile once the queued drains have run. -/
def toBeShown (o : Overview) (id : String) : Option ShownTile :=
  merged o.full (o.queue.due ++ o.rendered.toList) id

/-- Every tile that received a sample will be shown as it is. -/
def Right (o : Overview) : Prop :=
  ∀ id ∈ o.sampled, ∀ tile, o.state.tiles.lookup id = some tile →
    o.toBeShown id = some tile.shown

/-- A tile of the update that is replaced in the slot is in the new update, or the UI thread
has shown it, or has it in hand, as it is. -/
def Allowed (o : Overview) : Event → Prop
  | .store => ∀ old delta, o.queue.producer = .idle → o.queue.pending = some old →
      o.rendered = some delta → ∀ lost ∈ old, (∀ kept ∈ delta, kept.id ≠ lost.id) →
        ∀ tile, o.state.tiles.lookup lost.id = some tile →
          merged o.full (o.queue.shown ++ UiQueue.inHand o.queue.drain) lost.id = some tile.shown
  | _ => True

end Overview

section Samples

variable {format : Format} {state : SampleState} {id : String}

theorem sampledTile_id (sample : Sample) (tile : TileJson) :
    (sampledTile format state sample tile).id = tile.id := rfl

/-- A sample changes the tile of its sensor, where there is one, and marks it. -/
theorem applySample_cases (sample : Sample) :
    (state.tiles.lookup sample.sensor.asStr = none ∧ applySample format state sample = state) ∨
      ∃ tile, state.tiles.lookup sample.sensor.asStr = some tile ∧
        applySample format state sample = { state with
          tiles := state.tiles.insert sample.sensor.asStr (sampledTile format state sample tile)
          dirty := state.dirty.insert sample.sensor.asStr } := by
  unfold applySample
  cases found : state.tiles.lookup sample.sensor.asStr with
  | none => exact .inl ⟨rfl, rfl⟩
  | some tile => exact .inr ⟨tile, rfl, rfl⟩

/-- What a batch of samples does to the tiles. -/
structure Sampled (before after : SampleState) (ids : List String) : Prop where
  staticIds : after.staticIds = before.staticIds
  known : ∀ id, (after.tiles.lookup id).isSome = (before.tiles.lookup id).isSome
  clean : ∀ id, id ∉ after.dirty → after.tiles.lookup id = before.tiles.lookup id
  marks : ∀ id, id ∈ after.dirty ↔
    id ∈ before.dirty ∨ (id ∈ ids ∧ (before.tiles.lookup id).isSome = true)
  keyed : (∀ id tile, before.tiles.lookup id = some tile → tile.id = id) →
    ∀ id tile, after.tiles.lookup id = some tile → tile.id = id

theorem sampled_applySample (sample : Sample) :
    Sampled state (applySample format state sample) [sample.sensor.asStr] := by
  rcases applySample_cases sample with ⟨missing, same⟩ | ⟨tile, found, same⟩
  · rw [same]
    refine ⟨rfl, fun _ => rfl, fun _ _ => rfl, ?_, fun keyed => keyed⟩
    intro id
    constructor
    · exact .inl
    · intro marked
      rcases marked with old | ⟨inside, known⟩
      · exact old
      · rw [List.mem_singleton.mp inside, missing] at known
        cases known
  · rw [same]
    refine ⟨rfl, ?_, ?_, ?_, ?_⟩
    · intro id
      simp only [KeyMap.lookup_insert_eq]
      split
      · rename_i here
        rw [here, found]
        rfl
      · rfl
    · intro id unmarked
      have differ : id ≠ sample.sensor.asStr := by
        intro here
        exact unmarked (List.mem_insert_iff.mpr (.inl here))
      simp only [KeyMap.lookup_insert_eq, if_neg differ]
    · intro id
      simp only [List.mem_insert_iff, List.mem_singleton]
      constructor
      · intro marked
        rcases marked with here | old
        · exact .inr ⟨here, by rw [here, found]; rfl⟩
        · exact .inl old
      · intro marked
        rcases marked with old | ⟨here, _⟩
        · exact .inr old
        · exact .inl here
    · intro keyed id after inside
      simp only [KeyMap.lookup_insert_eq] at inside
      split at inside
      · rename_i here
        rw [← Option.some.inj inside, sampledTile_id, here]
        exact keyed _ tile found
      · exact keyed id after inside

theorem Sampled.trans {first second third : SampleState} {front back : List String}
    (one : Sampled first second front) (two : Sampled second third back) :
    Sampled first third (front ++ back) where
  staticIds := two.staticIds.trans one.staticIds
  known := fun id => (two.known id).trans (one.known id)
  clean := by
    intro id unmarked
    have unmarked_before : id ∉ second.dirty := fun marked =>
      unmarked ((two.marks id).mpr (.inl marked))
    exact (two.clean id unmarked).trans (one.clean id unmarked_before)
  marks := by
    intro id
    rw [two.marks, one.marks, one.known, List.mem_append, or_and_right, or_assoc]
  keyed := fun keyed => two.keyed (one.keyed keyed)

theorem sampled_fold (samples : List Sample) (state : SampleState) :
    Sampled state (samples.foldl (applySample format) state)
      (samples.map fun sample => sample.sensor.asStr) := by
  induction samples generalizing state with
  | nil =>
      refine ⟨rfl, fun _ => rfl, fun _ _ => rfl, ?_, fun keyed => keyed⟩
      intro id
      simp
  | cons sample rest ih => exact (sampled_applySample sample).trans (ih _)

end Samples

section Deltas

variable {tiles : KeyMap String TileJson}

/-- A tile of an array is found by its id. -/
theorem find_serializeTiles (keyed : ∀ id tile, tiles.lookup id = some tile → tile.id = id)
    (ids : List String) (id : String) :
    (serializeTiles ids tiles).find? (fun tile => decide (tile.id = id)) =
      if id ∈ ids then (tiles.lookup id).map TileJson.shown else none := by
  induction ids with
  | nil => rfl
  | cons first rest ih =>
      cases found : tiles.lookup first with
      | none =>
          have skipped : serializeTiles (first :: rest) tiles = serializeTiles rest tiles := by
            simp only [serializeTiles, List.filterMap_cons, found, Option.map_none]
          rw [skipped, ih]
          by_cases here : id = first
          · subst here
            simp [found]
          · simp [here]
      | some tile =>
          have taken : serializeTiles (first :: rest) tiles =
              tile.shown :: serializeTiles rest tiles := by
            simp only [serializeTiles, List.filterMap_cons, found, Option.map_some]
          have named : tile.shown.id = first := keyed first tile found
          rw [taken, List.find?_cons]
          by_cases here : id = first
          · subst here
            simp [named, found]
          · have differ : ¬ first = id := fun same => here same.symm
            simp only [named, differ, decide_false, ih, List.mem_cons, here, false_or]

theorem mem_serializeTiles (keyed : ∀ id tile, tiles.lookup id = some tile → tile.id = id)
    {ids : List String} {shown : ShownTile} (member : shown ∈ serializeTiles ids tiles) :
    shown.id ∈ ids ∧ ∃ tile, tiles.lookup shown.id = some tile := by
  obtain ⟨id, inside, made⟩ := List.mem_filterMap.mp member
  obtain ⟨tile, found, same⟩ := Option.map_eq_some_iff.mp made
  have named : shown.id = id := by
    rw [← same]
    exact keyed id tile found
  rw [named]
  exact ⟨inside, tile, found⟩

theorem mem_foldl_insert (more ids : List String) (id : String) :
    id ∈ more.foldl (fun ids sid => ids.insert sid) ids ↔ id ∈ ids ∨ id ∈ more := by
  induction more generalizing ids with
  | nil => simp
  | cons first rest ih =>
      rw [List.foldl_cons, ih, List.mem_insert_iff, List.mem_cons]
      constructor
      · intro member
        rcases member with (here | old) | later
        · exact .inr (.inl here)
        · exact .inl old
        · exact .inr (.inr later)
      · intro member
        rcases member with old | here | later
        · exact .inl (.inr old)
        · exact .inl (.inl here)
        · exact .inr later

theorem mem_deltaIds {state : SampleState} {id : String} :
    id ∈ deltaIds state ↔ id ∈ state.dirty ∨ (id ∈ state.staticIds ∧
      (state.tiles.lookup id).any (fun tile => decide (tile.lastTsMicros ≠ 0)) = true) := by
  rw [deltaIds, mem_foldl_insert, sampledStatics, List.mem_filter]

theorem merged_append (full : List ShownTile) (deltas : List (List ShownTile))
    (last : List ShownTile) (id : String) :
    merged full (deltas ++ [last]) id =
      (last.find? fun tile => decide (tile.id = id)).or (merged full deltas id) := by
  simp only [merged, List.foldl_append, List.foldl_cons, List.foldl_nil, mergeDelta]

end Deltas

namespace Overview

variable {format : Format} {o next : Overview}

/-- Tiles are kept under their ids, nothing is marked between batches, and what is on its
way are tiles that samples were received of. -/
structure Tracked (o : Overview) : Prop where
  keyed : ∀ id tile, o.state.tiles.lookup id = some tile → tile.id = id
  clean : o.state.dirty = []
  stamped : ∀ id tile, o.state.tiles.lookup id = some tile → tile.lastTsMicros ≠ 0 → id ∈ o.sampled
  onTheWay : ∀ delta, (o.queue.pending = some delta ∨ o.rendered = some delta) →
    ∀ shown ∈ delta, shown.id ∈ o.sampled

/-- The batch, by what it does to the tiles. -/
theorem batch_spec (format : Format) (o : Overview) (first : Sample) (more : List Sample) :
    ∃ applied, Sampled o.state applied ((first :: more).map fun sample => sample.sensor.asStr) ∧
      o.batch format first more = { o with
        state := { applied with dirty := [] }
        rendered := some (serializeTiles (deltaIds applied) applied.tiles)
        sampled := o.sampled ++ (first :: more).map fun sample => sample.sensor.asStr } :=
  ⟨_, sampled_fold (first :: more) o.state, rfl⟩

theorem batch_stamped {applied : SampleState} {ids : List String} (tracked : o.Tracked)
    (sampled : Sampled o.state applied ids) {id : String} {tile : TileJson}
    (found : applied.tiles.lookup id = some tile) (stamped : tile.lastTsMicros ≠ 0) :
    id ∈ o.sampled ++ ids := by
  by_cases inside : id ∈ ids
  · exact List.mem_append_right _ inside
  · have unmarked : id ∉ applied.dirty := by
      rw [sampled.marks, tracked.clean]
      simp [inside]
    rw [sampled.clean id unmarked] at found
    exact List.mem_append_left _ (tracked.stamped id tile found stamped)

theorem Tracked.batch (first : Sample) (more : List Sample) (tracked : o.Tracked) :
    (o.batch format first more).Tracked := by
  obtain ⟨applied, sampled, same⟩ := batch_spec format o first more
  have keyed := sampled.keyed tracked.keyed
  rw [same]
  refine ⟨keyed, rfl, fun id tile found => batch_stamped tracked sampled found, ?_⟩
  intro delta way shown member
  rcases way with pending | rendered
  · exact List.mem_append_left _ (tracked.onTheWay delta (.inl pending) shown member)
  · cases rendered
    obtain ⟨inside, tile, found⟩ := mem_serializeTiles keyed member
    rcases mem_deltaIds.mp inside with marked | ⟨static, stamped⟩
    · rw [sampled.marks, tracked.clean] at marked
      rcases marked with old | ⟨received, known⟩
      · cases old
      · exact List.mem_append_right _ received
    · rw [found, Option.any_some, decide_eq_true_eq] at stamped
      exact batch_stamped tracked sampled found stamped

theorem store_spec (taken : o.step format .store = some next) :
    ∃ delta, o.rendered = some delta ∧ o.queue.producer = .idle ∧
      next = { o with queue := o.queue.store delta, rendered := none } := by
  obtain ⟨delta, rendered, rest⟩ := Option.bind_eq_some_iff.mp taken
  obtain ⟨queue, stored, same⟩ := Option.map_eq_some_iff.mp rest
  obtain ⟨idle, same_queue⟩ := Run.enabled_eq_some.mp stored
  subst same_queue
  exact ⟨delta, rendered, idle, same.symm⟩

theorem queue_spec {event : UiQueue.Event (List ShownTile)}
    (taken : o.step format (.queue event) = some next) :
    ∃ queue, o.queue.step event = some queue ∧ next = { o with queue := queue } ∧
      queue.due = o.queue.due ∧ (queue.pending = o.queue.pending ∨ queue.pending = none) := by
  have kept : ∀ update, event ≠ .store update := by
    intro update same
    rw [same] at taken
    cases taken
  have unfolded : o.step format (.queue event) =
      (o.queue.step event).map fun queue => { o with queue := queue } := by
    cases event <;> first | rfl | exact absurd rfl (kept _)
  rw [unfolded] at taken
  obtain ⟨queue, went, same⟩ := Option.map_eq_some_iff.mp taken
  have due := UiQueue.due_step went kept
  exact ⟨queue, went, same.symm, due⟩

theorem Tracked.step {event : Event} (taken : o.step format event = some next)
    (tracked : o.Tracked) : next.Tracked := by
  cases event with
  | batch first more =>
      obtain ⟨_, same⟩ := Run.enabled_eq_some.mp taken
      exact same ▸ tracked.batch first more
  | store =>
      obtain ⟨delta, rendered, _, same⟩ := store_spec taken
      subst same
      refine ⟨tracked.keyed, tracked.clean, tracked.stamped, ?_⟩
      intro other way shown member
      rcases way with pending | none_
      · rw [← Option.some.inj pending] at member
        exact tracked.onTheWay delta (.inr rendered) shown member
      · cases none_
  | queue event =>
      obtain ⟨queue, _, same, _, pending⟩ := queue_spec taken
      subst same
      refine ⟨tracked.keyed, tracked.clean, tracked.stamped, ?_⟩
      intro delta way shown member
      rcases way with filled | rendered
      · rcases pending with kept | empty
        · exact tracked.onTheWay delta (.inl (kept ▸ filled)) shown member
        · rw [empty] at filled
          cases filled
      · exact tracked.onTheWay delta (.inr rendered) shown member

/-- A batch puts all tiles that it changes into its delta. -/
theorem Right.batch (first : Sample) (more : List Sample) (tracked : o.Tracked)
    (none_ : o.rendered = none) (right : o.Right) : (o.batch format first more).Right := by
  obtain ⟨applied, sampled, same⟩ := batch_spec format o first more
  have keyed := sampled.keyed tracked.keyed
  rw [same]
  intro id received tile found
  show merged o.full (o.queue.due ++ [serializeTiles (deltaIds applied) applied.tiles]) id = _
  rw [merged_append, find_serializeTiles keyed]
  by_cases inside : id ∈ deltaIds applied
  · rw [if_pos inside, found]
    rfl
  · have unmarked : id ∉ applied.dirty := fun marked => inside (mem_deltaIds.mpr (.inl marked))
    have before : o.state.tiles.lookup id = some tile := by
      rw [← sampled.clean id unmarked]
      exact found
    have old : id ∈ o.sampled := by
      rcases List.mem_append.mp received with old | new
      · exact old
      · have known : (o.state.tiles.lookup id).isSome = true := by
          rw [before]
          rfl
        exact absurd ((sampled.marks id).mpr (.inr ⟨new, known⟩)) unmarked
    have shown := right id old tile before
    simp only [toBeShown, none_, Option.toList_none, List.append_nil] at shown
    rw [if_neg inside, Option.none_or]
    exact shown

/-- A store keeps the tiles right exactly where it loses none. -/
theorem right_store_iff {delta : List ShownTile} (rendered : o.rendered = some delta)
    (idle : o.queue.producer = .idle) (tracked : o.Tracked) (right : o.Right) :
    Right { o with queue := o.queue.store delta, rendered := none } ↔ o.Allowed .store := by
  have after : ∀ id, toBeShown { o with queue := o.queue.store delta, rendered := none } id =
      (delta.find? fun tile => decide (tile.id = id)).or
        (merged o.full (o.queue.shown ++ UiQueue.inHand o.queue.drain) id) := by
    intro id
    simp only [toBeShown, UiQueue.due, UiQueue.store, Option.toList_some, Option.toList_none,
      List.append_nil]
    exact merged_append _ _ delta id
  have before : ∀ id, o.toBeShown id = (delta.find? fun tile => decide (tile.id = id)).or
      (merged o.full
        (o.queue.shown ++ UiQueue.inHand o.queue.drain ++ o.queue.pending.toList) id) := by
    intro id
    simp only [toBeShown, UiQueue.due, rendered, Option.toList_some]
    exact merged_append _ _ delta id
  constructor
  · intro right' old delta' _ pending same lost member unkept tile found
    rw [rendered, Option.some.injEq] at same
    subst same
    have received := tracked.onTheWay old (.inl pending) lost member
    have shown := right' lost.id received tile found
    have absent : delta.find? (fun tile => decide (tile.id = lost.id)) = none := by
      rw [List.find?_eq_none]
      intro kept inside
      simpa using unkept kept inside
    rw [after, absent, Option.none_or] at shown
    exact shown
  · intro allowed id received tile found
    have shown := right id received tile found
    rw [before] at shown
    rw [after]
    cases inside : delta.find? (fun tile => decide (tile.id = id)) with
    | some kept =>
        rw [inside] at shown
        exact shown
    | none =>
        rw [inside, Option.none_or] at shown
        rw [Option.none_or]
        cases pending : o.queue.pending with
        | none =>
            rw [pending, Option.toList_none, List.append_nil] at shown
            exact shown
        | some old =>
            rw [pending, Option.toList_some, merged_append] at shown
            cases there : old.find? (fun tile => decide (tile.id = id)) with
            | none =>
                rw [there, Option.none_or] at shown
                exact shown
            | some lost =>
                have member := List.mem_of_find?_eq_some there
                have named : lost.id = id := by simpa using List.find?_some there
                have unkept : ∀ kept ∈ delta, kept.id ≠ lost.id := by
                  intro kept within
                  rw [named]
                  simpa using List.find?_eq_none.mp inside kept within
                have lost_shown := allowed old delta idle pending rendered lost member unkept tile
                  (named ▸ found)
                rw [named] at lost_shown
                exact lost_shown

theorem right_step_iff {event : Event} (taken : o.step format event = some next)
    (tracked : o.Tracked) (right : o.Right) : next.Right ↔ o.Allowed event := by
  cases event with
  | batch first more =>
      obtain ⟨ready, same⟩ := Run.enabled_eq_some.mp taken
      exact iff_of_true (same ▸ right.batch first more tracked ready.2) trivial
  | store =>
      obtain ⟨delta, rendered, idle, same⟩ := store_spec taken
      rw [same]
      exact right_store_iff rendered idle tracked right
  | queue event =>
      obtain ⟨queue, _, same, due, _⟩ := queue_spec taken
      refine iff_of_true ?_ trivial
      rw [same]
      intro id received tile found
      have shown := right id received tile found
      rw [toBeShown, ← due] at shown
      exact shown

theorem buildSampleState_keyed (sensorInfos : List SensorInfo) (id : String) (tile : TileJson)
    (found : (buildSampleState sensorInfos).tiles.lookup id = some tile) :
    tile.id = id ∧ tile.lastTsMicros = 0 := by
  have fresh : ∀ (infos : List SensorInfo) (tiles : KeyMap String TileJson),
      (∀ id tile, tiles.lookup id = some tile → tile.id = id ∧ tile.lastTsMicros = 0) →
      ∀ id tile, (infos.foldl (fun tiles info => tiles.insert info.id.asStr (freshTile info))
        tiles).lookup id = some tile → tile.id = id ∧ tile.lastTsMicros = 0 := by
    intro infos
    induction infos with
    | nil => exact fun _ old => old
    | cons info rest ih =>
        intro tiles old
        apply ih
        intro id tile inside
        rw [KeyMap.lookup_insert_eq] at inside
        split at inside
        · rename_i here
          rw [← Option.some.inj inside, here]
          exact ⟨rfl, rfl⟩
        · exact old id tile inside
  refine fresh sensorInfos ∅ ?_ id tile found
  intro id tile inside
  rw [AList.lookup_empty] at inside
  cases inside

theorem start_tracked (sensorInfos : List SensorInfo) : (start sensorInfos).Tracked where
  keyed := fun id tile found => (buildSampleState_keyed sensorInfos id tile found).1
  clean := rfl
  stamped := fun id tile found stamped =>
    absurd (buildSampleState_keyed sensorInfos id tile found).2 stamped
  onTheWay := by
    intro delta way
    rcases way with pending | rendered
    · cases pending
    · cases rendered

/-- The queue of the overview goes through the steps of a queue. -/
theorem queue_sound_step {event : Event} (taken : o.step format event = some next)
    (sound : o.queue.Sound) : next.queue.Sound := by
  cases event with
  | batch first more =>
      obtain ⟨_, same⟩ := Run.enabled_eq_some.mp taken
      exact same ▸ sound
  | store =>
      obtain ⟨delta, _, idle, same⟩ := store_spec taken
      have stored : o.queue.step (.store delta) = some (o.queue.store delta) :=
        Run.enabled_eq_some.mpr ⟨idle, rfl⟩
      exact same ▸ sound.step stored
  | queue event =>
      obtain ⟨queue, went, same, _⟩ := queue_spec taken
      exact same ▸ sound.step went

/-- Over every run all tiles come out right exactly where all stores are allowed; and what
comes out of a state between two calls of the pump is what the UI thread ends with by its
own steps. -/
theorem tiles_shown_iff (format : Format) (sensorInfos : List SensorInfo) (events : List Event) :
    ((∀ o, Run.Visits (step format) (start sensorInfos) events o → o.Right) ↔
      Run.Always (step format) Allowed (start sensorInfos) events) ∧
    ∀ o, Run.Visits (step format) (start sensorInfos) events o → o.queue.producer = .idle →
      o.rendered = none →
      ∃ (rest : List (UiQueue.Event (List ShownTile))) (final : UiQueue (List ShownTile)),
        (∀ event ∈ rest, event.onUi = true) ∧ Run.exec UiQueue.step o.queue rest = some final ∧
        final.pending = none ∧ final.drains = 0 ∧ final.drain = .idle ∧
        ∀ id, o.toBeShown id = merged o.full final.shown id := by
  refine ⟨?exact_, ?rest⟩
  case exact_ =>
    apply Run.visits_iff_always (fun _ _ _ taken tracked => Tracked.step taken tracked) ?idle
      (fun _ _ _ taken tracked right => right_step_iff taken tracked right)
      (start_tracked sensorInfos) (fun _ member => absurd member List.not_mem_nil)
    intro o event disabled
    cases event with
    | batch first more => trivial
    | store =>
        intro old delta idle pending rendered
        simp [step, UiQueue.step, Run.enabled, rendered, idle] at disabled
    | queue event => trivial
  case rest =>
    intro o visited idle rendered
    obtain ⟨front, _, ran⟩ := visited
    have kept : ∀ (before : Overview) (event : Event) (after : Overview),
        before.step format event = some after → before.queue.Sound → after.queue.Sound :=
      fun _ _ _ taken sound => queue_sound_step taken sound
    have sound : o.queue.Sound := Run.exec_invariant kept ran UiQueue.start_sound
    obtain ⟨rest, final, all, went, empty, none_, quiet, shown⟩ := UiQueue.exists_rest sound idle
    refine ⟨rest, final, all, went, empty, none_, quiet, ?_⟩
    intro id
    rw [shown, toBeShown, rendered, Option.toList_none, List.append_nil]

/-- Two tiles, each with a sample in a batch of its own, and a UI thread that comes to the
queue after both. -/
def busyUi : List Event :=
  [.batch ⟨⟨"mem.used"⟩, 1, .state "busy"⟩ [], .store, .queue .swap, .queue .enqueue,
    .batch ⟨⟨"cpu.util"⟩, 2, .state "busy"⟩ [], .store, .queue .swap, .queue .begin, .queue .take,
    .queue .apply, .queue .clear, .queue .check]

/-- The first tile is never shown. -/
theorem tile_lost : ∃ o,
    Run.exec (step fun _ _ _ _ => ("busy", []))
      (start [cpuUtilInfo, { cpuUtilInfo with id := ⟨"mem.used"⟩ }]) busyUi = some o ∧
    o.queue.pending = none ∧ o.queue.drains = 0 ∧ o.queue.drain = .idle ∧
    o.queue.producer = .idle ∧ o.rendered = none ∧ "mem.used" ∈ o.sampled ∧
    (o.state.tiles.lookup "mem.used").map TileJson.value = some "busy" ∧
    (merged o.full o.queue.shown "mem.used").map ShownTile.value = some "…" := by
  refine ⟨_, rfl, rfl, rfl, rfl, rfl, rfl, ?_, rfl, rfl⟩
  exact List.mem_cons_self

end Overview

end LinSight.Gui
