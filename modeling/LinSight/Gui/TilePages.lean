import LinSight.Gui.Coalescing

set_option autoImplicit false

/-! The pages that show tiles: each takes a full array and merges the deltas after it. A page that
reads the merged array again is what they are compared with. -/

namespace LinSight.Gui

/-- The tiles of a full array or of a delta. -/
structure TileArray where
  tiles : List ShownTile
  distinct : (tiles.map ShownTile.id).Nodup
  named : ∀ tile ∈ tiles, tile.id ≠ ""
  kinded : ∀ tile ∈ tiles, tile.kind ≠ ""

def findTile (id : String) (tiles : List ShownTile) : Option ShownTile :=
  tiles.find? fun tile => decide (tile.id = id)

theorem merged_concat (full : List ShownTile) (deltas : List (List ShownTile))
    (delta : List ShownTile) (id : String) :
    merged full (deltas ++ [delta]) id = (findTile id delta).or (merged full deltas id) := by
  unfold merged
  rw [List.foldl_append]
  rfl

theorem findTile_id {id : String} {tiles : List ShownTile} {tile : ShownTile}
    (found : findTile id tiles = some tile) : tile.id = id := by
  have here := List.find?_some found
  exact of_decide_eq_true here

theorem mem_of_findTile {id : String} {tiles : List ShownTile} {tile : ShownTile}
    (found : findTile id tiles = some tile) : tile ∈ tiles :=
  List.mem_of_find?_eq_some found

theorem findTile_cons (id : String) (tile : ShownTile) (rest : List ShownTile) :
    findTile id (tile :: rest) = if tile.id = id then some tile else findTile id rest := by
  unfold findTile
  rw [List.find?_cons]
  by_cases here : tile.id = id
  · simp only [here, decide_true, ↓reduceIte]
  · simp only [here, decide_false, ↓reduceIte]

theorem findTile_eq_none {id : String} {tiles : List ShownTile}
    (other : id ∉ tiles.map ShownTile.id) : findTile id tiles = none := by
  rw [findTile, List.find?_eq_none]
  intro tile member here
  exact other (List.mem_map.mpr ⟨tile, member, of_decide_eq_true here⟩)

theorem findTile_of_mem {tiles : List ShownTile} (distinct : (tiles.map ShownTile.id).Nodup)
    {tile : ShownTile} (member : tile ∈ tiles) : findTile tile.id tiles = some tile := by
  induction tiles with
  | nil => cases member
  | cons first rest ih =>
      rw [List.map_cons, List.nodup_cons] at distinct
      rw [findTile_cons]
      rcases List.mem_cons.mp member with here | later
      · rw [here, if_pos rfl]
      · have other : first.id ≠ tile.id := by
          intro same
          exact distinct.1 (same ▸ List.mem_map_of_mem later)
        rw [if_neg other, ih distinct.2 later]

/-- An entry that each tile changes for its own sensor is changed once by an array. -/
theorem foldl_entry {σ ε : Type} {merge : σ → ShownTile → σ} (entry : σ → String → ε)
    (put : ε → ShownTile → ε) {id : String} {tiles : List ShownTile}
    (distinct : (tiles.map ShownTile.id).Nodup)
    (one : ∀ s, ∀ tile ∈ tiles,
      entry (merge s tile) id = if tile.id = id then put (entry s id) tile else entry s id)
    (s : σ) :
    entry (tiles.foldl merge s) id = ((findTile id tiles).map (put (entry s id))).getD (entry s id)
      := by
  induction tiles generalizing s with
  | nil => rfl
  | cons tile rest ih =>
      rw [List.map_cons, List.nodup_cons] at distinct
      have later := ih distinct.2
        (fun s other member => one s other (List.mem_cons_of_mem _ member)) (merge s tile)
      have first := one s tile List.mem_cons_self
      rw [List.foldl_cons, later, findTile_cons]
      by_cases here : tile.id = id
      · have alone : findTile id rest = none := findTile_eq_none (here ▸ distinct.1)
        rw [if_pos here] at first ⊢
        rw [alone, first]
        rfl
      · rw [if_neg here] at first ⊢
        rw [first]

/-! The page of a dashboard. -/

structure SensorMeta where
  name : String
  deviceLabel : String
  category : String
  sparkline : List Ieee.Value
deriving DecidableEq

structure DashboardViewPage where
  valueById : KeyMap String String
  sensorMetaById : KeyMap String SensorMeta
  rowsById : KeyMap String (List TableRow)
  kindById : KeyMap String String

namespace DashboardViewPage

def metaOf (t : ShownTile) : SensorMeta := ⟨t.name, t.deviceLabel.getD "", t.category, t.sparkline⟩

/-- One turn of `refreshSensors`. -/
def refresh (page : DashboardViewPage) (t : ShownTile) : DashboardViewPage where
  valueById := page.valueById.insert t.id t.value
  sensorMetaById := page.sensorMetaById.insert t.id (metaOf t)
  rowsById := if t.rows.isEmpty then page.rowsById else page.rowsById.insert t.id t.rows
  kindById := if t.kind = "" then page.kindById else page.kindById.insert t.id t.kind

/-- One turn of `applyTileDelta`: rows that are gone are dropped. -/
def merge (page : DashboardViewPage) (t : ShownTile) : DashboardViewPage :=
  { page.refresh t with
    rowsById := if t.rows.isEmpty then page.rowsById.erase t.id
      else page.rowsById.insert t.id t.rows }

def refreshSensors (tiles : List ShownTile) : DashboardViewPage :=
  tiles.foldl refresh ⟨∅, ∅, ∅, ∅⟩

def applyTileDelta (page : DashboardViewPage) (delta : List ShownTile) : DashboardViewPage :=
  delta.foldl merge page

/-- What the maps have of a sensor. -/
structure Entry where
  value : Option String
  sensorMeta : Option SensorMeta
  rows : Option (List TableRow)
  kind : Option String
deriving DecidableEq

def entry (page : DashboardViewPage) (id : String) : Entry :=
  ⟨page.valueById.lookup id, page.sensorMetaById.lookup id, page.rowsById.lookup id,
    page.kindById.lookup id⟩

/-- What they have to have of a tile. -/
def entryOf (t : ShownTile) : Entry :=
  ⟨some t.value, some (metaOf t), if t.rows.isEmpty then none else some t.rows, some t.kind⟩

def noEntry : Entry := ⟨none, none, none, none⟩

variable {t : ShownTile} (id : String)

theorem entry_merge (page : DashboardViewPage) (kinded : t.kind ≠ "") :
    (page.merge t).entry id = if t.id = id then entryOf t else page.entry id := by
  by_cases here : t.id = id
  · subst here
    rw [if_pos rfl]
    simp only [entry, merge, refresh, entryOf, kinded, ↓reduceIte, AList.lookup_insert]
    split <;> simp [AList.lookup_erase, AList.lookup_insert]
  · rw [if_neg here]
    have other : id ≠ t.id := fun same => here same.symm
    simp only [entry, merge, refresh, kinded, ↓reduceIte, AList.lookup_insert_ne other]
    split
    · rw [AList.lookup_erase_ne other]
    · rw [AList.lookup_insert_ne other]

/-- The first turn keeps the rows of an entry where the tile has none. -/
def Entry.refreshed (e : Entry) (t : ShownTile) : Entry :=
  { entryOf t with rows := if t.rows.isEmpty then e.rows else some t.rows }

theorem entry_refresh (page : DashboardViewPage) (kinded : t.kind ≠ "") :
    (page.refresh t).entry id =
      if t.id = id then (page.entry id).refreshed t else page.entry id := by
  by_cases here : t.id = id
  · subst here
    rw [if_pos rfl]
    simp only [entry, refresh, Entry.refreshed, entryOf, kinded, ↓reduceIte, AList.lookup_insert]
    split
    · rfl
    · rw [AList.lookup_insert]
  · rw [if_neg here]
    have other : id ≠ t.id := fun same => here same.symm
    simp only [entry, refresh, kinded, ↓reduceIte, AList.lookup_insert_ne other]
    split
    · rfl
    · rw [AList.lookup_insert_ne other]

theorem entry_refreshSensors (full : TileArray) :
    (refreshSensors full.tiles).entry id = ((findTile id full.tiles).map entryOf).getD noEntry := by
  have turns := foldl_entry entry Entry.refreshed full.distinct
    (fun page tile member => entry_refresh id page (full.kinded tile member)) ⟨∅, ∅, ∅, ∅⟩
  rw [refreshSensors, turns]
  cases findTile id full.tiles with
  | none => rfl
  | some tile =>
      show Entry.refreshed _ tile = entryOf tile
      unfold Entry.refreshed entryOf
      split <;> rfl

theorem entry_applyTileDelta (page : DashboardViewPage) (delta : TileArray) :
    (page.applyTileDelta delta.tiles).entry id =
      ((findTile id delta.tiles).map entryOf).getD (page.entry id) :=
  foldl_entry entry (fun _ tile => entryOf tile) delta.distinct
    (fun page tile member => entry_merge id page (delta.kinded tile member)) page

/-- After a full array and any deltas the maps have of every sensor what the merged array has. -/
theorem dashboard_page_shows_merged (full : TileArray) (deltas : List TileArray) (id : String) :
    (deltas.foldl (fun page delta => page.applyTileDelta delta.tiles)
      (refreshSensors full.tiles)).entry id =
      ((merged full.tiles (deltas.map TileArray.tiles) id).map entryOf).getD noEntry := by
  induction deltas using List.reverseRecOn with
  | nil => exact entry_refreshSensors id full
  | append_singleton front delta ih =>
      rw [List.foldl_append, List.map_append, List.map_singleton, merged_concat, List.foldl_cons,
        List.foldl_nil, entry_applyTileDelta, ih]
      cases findTile id delta.tiles <;> rfl

end DashboardViewPage

/-! The page of a category. -/

/-- What a page has of a sensor besides its readings. -/
structure TileFrame where
  category : String
  device : Option String
  unit : String
  name : String
  deviceLabel : String
  kind : String
  parentDevice : String
  unknown : Bool
deriving DecidableEq

/-- The kernel's `-1` as the formatter writes it. -/
def isUnknownSentinel (v : String) : Bool :=
  v = "-1" || v = "-1 rpm" || v = "-1 Hz" || v = "-1 B/s"

def ShownTile.frame (t : ShownTile) : TileFrame :=
  ⟨t.category, t.device, t.unit, t.name, t.deviceLabel.getD "", t.kind, t.parentDevice.getD "",
    isUnknownSentinel t.value⟩

/-- The part of the frame that a delta is compared in. -/
def TileFrame.compared (f : TileFrame) : String × String × String × String × Bool :=
  (f.name, f.deviceLabel, f.kind, f.parentDevice, f.unknown)

/-- The part that stays with the tile of the page. -/
def TileFrame.place (f : TileFrame) : String × Option String × String :=
  (f.category, f.device, f.unit)

theorem TileFrame.eq_iff {f g : TileFrame} :
    f = g ↔ f.compared = g.compared ∧ f.place = g.place := by
  cases f
  cases g
  simp only [TileFrame.mk.injEq, TileFrame.compared, TileFrame.place, Prod.mk.injEq]
  tauto

def structuralChanged (existing t : ShownTile) : Bool :=
  let firstReal := existing.value = "…" && t.value ≠ "…"
  let sentinelChanged := isUnknownSentinel existing.value ≠ isUnknownSentinel t.value
  existing.name ≠ t.name || existing.deviceLabel.getD "" ≠ t.deviceLabel.getD "" ||
    existing.kind ≠ t.kind || existing.parentDevice.getD "" ≠ t.parentDevice.getD "" ||
    firstReal || sentinelChanged

structure CategoryPage where
  allTiles : List ShownTile
  valuesById : KeyMap String String
  sparklineById : KeyMap String (List Ieee.Value)
  rowsById : KeyMap String (List TableRow)

/-- `||` on strings. -/
def orText (text other : String) : String := if text = "" then other else text

/-- What the delegate of a tile shows. -/
structure TileCell where
  name : String
  deviceLabel : String
  kind : String
  unit : String
  value : String
  sparkline : List Ieee.Value
  rows : List TableRow
deriving DecidableEq

namespace CategoryPage

/-- A full array drops the live values. -/
def onTilesJson (tiles : List ShownTile) : CategoryPage := ⟨tiles, ∅, ∅, ∅⟩

/-- The tile takes the place of another one of its sensor, or of none. -/
def putTile (arr : List ShownTile) (t : ShownTile) : List ShownTile :=
  match arr.findIdx? fun existing => decide (existing.id = t.id) with
  | some idx =>
      if arr[idx]?.any fun existing => structuralChanged existing t then arr.set idx t else arr
  | none => arr ++ [t]

/-- `serde` leaves out a sparkline and rows that are empty. -/
def mergeTile (page : CategoryPage) (t : ShownTile) : CategoryPage :=
  if t.id = "" then page
  else {
    allTiles := putTile page.allTiles t
    valuesById := page.valuesById.insert t.id t.value
    sparklineById :=
      if t.sparkline.isEmpty then page.sparklineById else page.sparklineById.insert t.id t.sparkline
    rowsById := if t.rows.isEmpty then page.rowsById else page.rowsById.insert t.id t.rows }

def mergeTiles (page : CategoryPage) (delta : List ShownTile) : CategoryPage :=
  delta.foldl mergeTile page

/-- What the page has of a sensor. -/
structure Entry where
  tile : Option ShownTile
  value : Option String
  sparkline : Option (List Ieee.Value)
  rows : Option (List TableRow)
deriving DecidableEq

def entry (page : CategoryPage) (id : String) : Entry :=
  ⟨findTile id page.allTiles, page.valuesById.lookup id, page.sparklineById.lookup id,
    page.rowsById.lookup id⟩

/-- The bindings of a delegate. -/
def Entry.cell (e : Entry) (modelData : ShownTile) : TileCell where
  name := modelData.name
  deviceLabel := modelData.deviceLabel.getD ""
  kind := modelData.kind
  unit := modelData.unit
  value := orText (e.value.getD "") (orText modelData.value "…")
  sparkline := e.sparkline.getD modelData.sparkline
  rows := e.rows.getD modelData.rows

def Entry.shown (e : Entry) : Option TileCell := e.tile.map e.cell

/-- What a page has of a tile that it reads from a full array. -/
def Entry.again (t : ShownTile) : Entry := ⟨some t, none, none, none⟩

/-- The tile of the sensor is replaced, or only the live values are. -/
def Entry.rebuilt (e : Entry) (t : ShownTile) : Bool :=
  e.tile.all fun existing => structuralChanged existing t

def Entry.merge (e : Entry) (t : ShownTile) : Entry where
  tile := if e.rebuilt t then some t else e.tile
  value := some t.value
  sparkline := if t.sparkline.isEmpty then e.sparkline else some t.sparkline
  rows := if t.rows.isEmpty then e.rows else some t.rows

variable {t : ShownTile} {id : String}

/-- A tile is found in the place of the one that it replaces. -/
theorem findTile_set {tiles : List ShownTile} {idx : Nat}
    (found : tiles.findIdx? (fun existing => decide (existing.id = t.id)) = some idx) :
    findTile id (tiles.set idx t) = if t.id = id then some t else findTile id tiles := by
  induction tiles generalizing idx with
  | nil => cases found
  | cons tile rest ih =>
      rw [List.findIdx?_cons] at found
      by_cases first : tile.id = t.id
      · simp only [first, decide_true, ↓reduceIte] at found
        obtain rfl := Option.some.inj found
        rw [List.set_cons_zero, findTile_cons, findTile_cons, first]
        split <;> rfl
      · simp only [first, decide_false, Bool.false_eq_true, ↓reduceIte, Option.map_eq_some_iff]
          at found
        obtain ⟨later, inside, rfl⟩ := found
        rw [List.set_cons_succ, findTile_cons, findTile_cons, ih inside]
        by_cases here : t.id = id
        · have other : tile.id ≠ id := fun same => first (same.trans here.symm)
          rw [if_neg other, if_pos here, if_pos here]
        · rw [if_neg here, if_neg here]

theorem findTile_of_findIdx? {tiles : List ShownTile} {idx : Nat}
    (found : tiles.findIdx? (fun existing => decide (existing.id = t.id)) = some idx) :
    findTile t.id tiles = tiles[idx]? := by
  obtain ⟨inside, here, before⟩ := List.findIdx?_eq_some_iff_getElem.mp found
  rw [findTile, List.getElem?_eq_getElem inside, List.find?_eq_some_iff_getElem]
  refine ⟨here, idx, inside, rfl, fun j earlier => ?_⟩
  rw [Bool.not_eq_true']
  exact Bool.eq_false_of_not_eq_true (before j earlier)

theorem findTile_append (id : String) {tiles : List ShownTile}
    (missing : tiles.findIdx? (fun existing => decide (existing.id = t.id)) = none) :
    findTile t.id tiles = none ∧
      findTile id (tiles ++ [t]) = if t.id = id then some t else findTile id tiles := by
  have none_there := List.findIdx?_eq_none_iff.mp missing
  have fresh : findTile t.id tiles = none := by
    rw [findTile, List.find?_eq_none]
    intro tile member
    rw [none_there tile member]
    exact Bool.false_ne_true
  refine ⟨fresh, ?_⟩
  rw [findTile, List.find?_append]
  show (findTile id tiles).or (findTile id [t]) = _
  rw [findTile_cons]
  by_cases here : t.id = id
  · subst here
    rw [fresh, if_pos rfl, if_pos rfl, Option.none_or]
  · rw [if_neg here, if_neg here]
    exact Option.or_none

theorem findTile_putTile (arr : List ShownTile) :
    findTile id (putTile arr t) =
      if t.id = id then
        if (findTile id arr).all fun existing => structuralChanged existing t then some t
        else findTile id arr
      else findTile id arr := by
  unfold putTile
  cases found : arr.findIdx? fun existing => decide (existing.id = t.id) with
  | some idx =>
      have here := findTile_of_findIdx? found
      have inside : idx < arr.length := (List.findIdx?_eq_some_iff_getElem.mp found).1
      rw [List.getElem?_eq_getElem inside] at here
      dsimp only
      rw [List.getElem?_eq_getElem inside, Option.any_some]
      by_cases same : t.id = id
      · subst same
        rw [if_pos rfl, here, Option.all_some]
        split
        · rw [findTile_set found, if_pos rfl]
        · exact here
      · rw [if_neg same]
        split
        · rw [findTile_set found, if_neg same]
        · rfl
  | none =>
      obtain ⟨fresh, added⟩ := findTile_append id found
      dsimp only
      rw [added]
      by_cases same : t.id = id
      · subst same
        rw [fresh, if_pos rfl, if_pos rfl, Option.all_none, if_pos rfl]
      · rw [if_neg same, if_neg same]

/-- A tile changes what the page has of its own sensor. -/
theorem entry_mergeTile (id : String) (page : CategoryPage) (named : t.id ≠ "") :
    (page.mergeTile t).entry id =
      if t.id = id then (page.entry id).merge t else page.entry id := by
  by_cases here : t.id = id
  · subst here
    rw [if_pos rfl]
    simp only [entry, mergeTile, named, ↓reduceIte, findTile_putTile, Entry.merge, Entry.rebuilt,
      AList.lookup_insert]
    congr 1 <;> split <;> simp only [AList.lookup_insert]
  · rw [if_neg here]
    have other : id ≠ t.id := fun same => here same.symm
    simp only [entry, mergeTile, named, ↓reduceIte, findTile_putTile, here,
      AList.lookup_insert_ne other]
    congr 1 <;> split <;> simp only [AList.lookup_insert_ne other]

theorem entry_mergeTiles (page : CategoryPage) (delta : TileArray) :
    (page.mergeTiles delta.tiles).entry id =
      ((findTile id delta.tiles).map (page.entry id).merge).getD (page.entry id) :=
  foldl_entry entry Entry.merge delta.distinct
    (fun page tile member => entry_mergeTile id page (delta.named tile member)) page

/-- The tile of the page that stays where `t` brings live values only. -/
def Entry.kept (e : Entry) (t : ShownTile) : Option ShownTile :=
  if e.rebuilt t then none else e.tile

/-- The page has the sensors of the merged array, each as a delta would compare it. -/
structure Follows (e : Entry) (current : Option ShownTile) : Prop where
  compared : e.tile.map (·.frame.compared) = current.map (·.frame.compared)
  sparkline : e.sparkline ≠ some []
  rows : e.rows ≠ some []

/-- No live list of the sensor is taken away, and a tile that stays neither moves nor loses what it
shows. -/
structure Told (e : Entry) (t : ShownTile) : Prop where
  place : ∀ old ∈ e.kept t, old.frame.place = t.frame.place
  value : t.value = "" → ∀ old ∈ e.kept t, old.value = ""
  sparkline : t.sparkline = [] → e.sparkline = none ∧ ∀ old ∈ e.kept t, old.sparkline = []
  rows : t.rows = [] → e.rows = none ∧ ∀ old ∈ e.kept t, old.rows = []

theorem compared_of_unchanged {old : ShownTile} (same : structuralChanged old t = false) :
    old.frame.compared = t.frame.compared ∧ (old.value = "…" → t.value = "…") := by
  simp only [structuralChanged, Bool.or_eq_false_iff, Bool.and_eq_false_imp,
    decide_eq_false_iff_not, decide_eq_true_eq, not_not] at same
  obtain ⟨⟨⟨⟨⟨name, label⟩, kind⟩, parent⟩, real⟩, sentinel⟩ := same
  refine ⟨?_, real⟩
  simp only [ShownTile.frame, TileFrame.compared, name, label, kind, parent, sentinel]

/-- A tile that stays is no more of a placeholder than the one that it is compared with. -/
theorem Entry.of_not_rebuilt {e : Entry} (stays : e.rebuilt t = false) :
    ∃ old, e.tile = some old ∧ old.frame.compared = t.frame.compared ∧
      (old.value = "…" → t.value = "…") := by
  cases tile : e.tile with
  | none => simp only [Entry.rebuilt, tile, Option.all_none, Bool.true_eq_false] at stays
  | some old =>
      simp only [Entry.rebuilt, tile, Option.all_some] at stays
      exact ⟨old, rfl, compared_of_unchanged stays⟩

theorem Entry.merge_tile (e : Entry) :
    (e.merge t).tile = if e.rebuilt t then some t else e.tile := rfl

/-- The tile that the page has after a merge. -/
theorem Entry.merged_tile (e : Entry) (t : ShownTile) :
    ∃ m, (e.merge t).tile = some m ∧ m.frame.compared = t.frame.compared ∧
      (m.value = "…" → t.value = "…") ∧
      (Told e t ↔ m.frame.place = t.frame.place ∧ (t.value = "" → m.value = "") ∧
        (t.sparkline = [] → e.sparkline = none ∧ m.sparkline = []) ∧
        (t.rows = [] → e.rows = none ∧ m.rows = [])) := by
  cases rebuilt : e.rebuilt t with
  | true =>
      have none_stays : e.kept t = none := if_pos rebuilt
      refine ⟨t, by rw [Entry.merge_tile, rebuilt, if_pos rfl], rfl, id, ?_⟩
      constructor
      · intro told
        exact ⟨rfl, id, fun empty => ⟨(told.sparkline empty).1, empty⟩,
          fun empty => ⟨(told.rows empty).1, empty⟩⟩
      · intro ⟨_, _, sparkline, rows⟩
        constructor
        · rw [none_stays]
          exact nofun
        · rw [none_stays]
          exact fun _ => nofun
        · rw [none_stays]
          exact fun empty => ⟨(sparkline empty).1, nofun⟩
        · rw [none_stays]
          exact fun empty => ⟨(rows empty).1, nofun⟩
  | false =>
      obtain ⟨old, tile, compared, real⟩ := Entry.of_not_rebuilt rebuilt
      have stays : e.kept t = some old := by
        rw [Entry.kept, rebuilt, if_neg Bool.false_ne_true, tile]
      refine ⟨old, ?_, compared, real, ?_⟩
      · rw [Entry.merge_tile, rebuilt, if_neg Bool.false_ne_true, tile]
      · have only {P : ShownTile → Prop} : (∀ was ∈ e.kept t, P was) ↔ P old := by
          simp [stays]
        constructor
        · intro told
          exact ⟨only.mp told.place, fun empty => only.mp (told.value empty),
            fun empty => (told.sparkline empty).imp_right only.mp,
            fun empty => (told.rows empty).imp_right only.mp⟩
        · intro ⟨place, value, sparkline, rows⟩
          exact ⟨only.mpr place, fun empty => only.mpr (value empty),
            fun empty => (sparkline empty).imp_right only.mpr,
            fun empty => (rows empty).imp_right only.mpr⟩

theorem Follows.merge {e : Entry} {current : Option ShownTile} (follows : Follows e current) :
    Follows (e.merge t) (some t) := by
  obtain ⟨m, tile, compared, _, _⟩ := e.merged_tile t
  constructor
  · rw [tile, Option.map_some, compared]
    rfl
  · show (if t.sparkline.isEmpty then e.sparkline else some t.sparkline) ≠ some []
    split
    · exact follows.sparkline
    · rename_i filled
      intro empty
      exact filled (List.isEmpty_iff.mpr (Option.some.inj empty))
  · show (if t.rows.isEmpty then e.rows else some t.rows) ≠ some []
    split
    · exact follows.rows
    · rename_i filled
      intro empty
      exact filled (List.isEmpty_iff.mpr (Option.some.inj empty))

theorem follows_again (t : Option ShownTile) :
    Follows ⟨t, none, none, none⟩ t where
  compared := rfl
  sparkline := nofun
  rows := nofun

/-- The live value of a list field, or that of the tile in the page. -/
theorem getD_live {α : Type} {live : Option (List α)} (old new : List α) (filled : live ≠ some []) :
    (if new.isEmpty then live else some new).getD old = new ↔
      (new = [] → live = none ∧ old = []) := by
  cases new with
  | cons first rest => simp
  | nil =>
      cases live with
      | none => simp
      | some list =>
          have some_list : list ≠ [] := fun empty => filled (congrArg some empty)
          simp [some_list]

theorem orText_live {old new : String} (real : old = "…" → new = "…") :
    orText new (orText old "…") = orText new "…" ↔ (new = "" → old = "") := by
  unfold orText
  by_cases empty : new = ""
  · by_cases gone : old = ""
    · simp [empty, gone]
    · have other : old ≠ "…" := by
        intro same
        rw [real same] at empty
        exact absurd empty (by decide)
      simp [empty, gone, other]
  · simp [empty]

/-- The frame and the cell of a sensor are those of a page that reads `current` again. -/
structure Agrees (e : Entry) (current : Option ShownTile) : Prop where
  frame : e.tile.map ShownTile.frame = current.map ShownTile.frame
  shown : e.shown = (current.map Entry.again).bind Entry.shown

/-- After a delta a sensor is shown as a page shows it that reads its tile again, exactly where
it is told of all that changes. -/
theorem agrees_merge_iff {e : Entry} {current : Option ShownTile} (follows : Follows e current) :
    Agrees (e.merge t) (some t) ↔ Told e t := by
  obtain ⟨m, tile, compared, real, told⟩ := e.merged_tile t
  have value := orText_live real
  have sparkline := getD_live m.sparkline t.sparkline follows.sparkline
  have rows := getD_live m.rows t.rows follows.rows
  have frames : (e.merge t).tile.map ShownTile.frame = (some t).map ShownTile.frame ↔
      m.frame.place = t.frame.place := by
    rw [tile, Option.map_some, Option.map_some, Option.some_inj, TileFrame.eq_iff]
    exact and_iff_right compared
  have cells (place : m.frame.place = t.frame.place) :
      (e.merge t).cell m = (Entry.again t).cell t ↔
      orText t.value (orText m.value "…") = orText t.value "…" ∧
        (if t.sparkline.isEmpty then e.sparkline else some t.sparkline).getD m.sparkline =
          t.sparkline ∧
        (if t.rows.isEmpty then e.rows else some t.rows).getD m.rows = t.rows := by
    have frame := TileFrame.eq_iff.mpr ⟨compared, place⟩
    simp only [ShownTile.frame, TileFrame.mk.injEq] at frame
    obtain ⟨_, _, unit, name, label, kind, _, _⟩ := frame
    simp only [Entry.cell, Entry.merge, Entry.again, TileCell.mk.injEq, name, label, kind, unit,
      true_and, Option.getD_some, Option.getD_none]
    rfl
  rw [told, ← value, ← sparkline, ← rows]
  constructor
  · intro agrees
    have place := frames.mp agrees.frame
    have shown := agrees.shown
    rw [Entry.shown, tile] at shown
    exact ⟨place, (cells place).mp (Option.some.inj shown)⟩
  · intro ⟨place, same⟩
    refine ⟨frames.mpr place, ?_⟩
    rw [Entry.shown, tile]
    exact congrArg some ((cells place).mpr same)

end CategoryPage

/-- The page of a category with the full array and the deltas that it has merged. -/
structure PageRun where
  page : CategoryPage
  full : List ShownTile
  deltas : List (List ShownTile)

inductive PageEvent where
  | tilesJson (tiles : TileArray)
  | tilesChangedJson (delta : TileArray)

namespace PageRun

open CategoryPage (Agrees Entry Follows Told onTilesJson)

/-- The tile of a sensor in the merged array. -/
def current (r : PageRun) (id : String) : Option ShownTile := merged r.full r.deltas id

def opened (tiles : TileArray) : PageRun := ⟨onTilesJson tiles.tiles, tiles.tiles, []⟩

def step (r : PageRun) : PageEvent → Option PageRun
  | .tilesJson tiles => some (opened tiles)
  | .tilesChangedJson delta =>
      some ⟨r.page.mergeTiles delta.tiles, r.full, r.deltas ++ [delta.tiles]⟩

/-- Every sensor is shown as by a page that reads the merged array again. -/
def Right (r : PageRun) : Prop := ∀ id, Agrees (r.page.entry id) (r.current id)

/-- The page is told of all that changes. -/
def Kept (r : PageRun) : PageEvent → Prop
  | .tilesJson _ => True
  | .tilesChangedJson delta => ∀ t ∈ delta.tiles, Told (r.page.entry t.id) t

/-- The page lists the sensors of the merged array, each with the name, the label, the kind and the
parent that it has there. -/
def Listed (r : PageRun) : Prop :=
  ∀ id, (r.page.entry id).tile.map (·.frame.compared) = (r.current id).map (·.frame.compared)

variable {r next : PageRun} {tiles delta : TileArray}

def AllFollow (r : PageRun) : Prop := ∀ id, Follows (r.page.entry id) (r.current id)

theorem opened_entry (tiles : TileArray) (id : String) :
    (opened tiles).page.entry id = ⟨(opened tiles).current id, none, none, none⟩ := rfl

theorem opened_follow (tiles : TileArray) : (opened tiles).AllFollow := by
  intro id
  rw [opened_entry]
  exact CategoryPage.follows_again _

theorem opened_right (tiles : TileArray) : (opened tiles).Right := by
  intro id
  rw [opened_entry]
  cases (opened tiles).current id <;> exact ⟨rfl, rfl⟩

/-- What a delta does, sensor by sensor. -/
theorem delta_spec (taken : step r (.tilesChangedJson delta) = some next) (id : String) :
    next.current id = (findTile id delta.tiles).or (r.current id) ∧
      next.page.entry id =
        ((findTile id delta.tiles).map (r.page.entry id).merge).getD (r.page.entry id) := by
  obtain rfl := Option.some.inj taken
  exact ⟨merged_concat r.full r.deltas delta.tiles id,
    CategoryPage.entry_mergeTiles r.page delta⟩

theorem AllFollow.step {event : PageEvent} (taken : step r event = some next)
    (follow : r.AllFollow) : next.AllFollow := by
  cases event with
  | tilesJson tiles =>
      obtain rfl := Option.some.inj taken
      exact opened_follow tiles
  | tilesChangedJson delta =>
      intro id
      obtain ⟨current, entry⟩ := delta_spec taken id
      rw [current, entry]
      cases found : findTile id delta.tiles with
      | none => exact follow id
      | some t => exact (follow id).merge

/-- One array. -/
theorem right_step_iff {event : PageEvent} (taken : step r event = some next)
    (follow : r.AllFollow) (right : r.Right) : next.Right ↔ Kept r event := by
  cases event with
  | tilesJson tiles =>
      obtain rfl := Option.some.inj taken
      exact iff_of_true (opened_right tiles) trivial
  | tilesChangedJson delta =>
      have one (id : String) (t : ShownTile) (found : findTile id delta.tiles = some t) :
          Agrees (next.page.entry id) (next.current id) ↔ Told (r.page.entry id) t := by
        obtain ⟨current, entry⟩ := delta_spec taken id
        rw [current, entry, found]
        exact CategoryPage.agrees_merge_iff (follow id)
      constructor
      · intro after t member
        exact (one t.id t (findTile_of_mem delta.distinct member)).mp (after t.id)
      · intro kept id
        cases found : findTile id delta.tiles with
        | none =>
            obtain ⟨current, entry⟩ := delta_spec taken id
            rw [current, entry, found]
            exact right id
        | some t =>
            have told := kept t (mem_of_findTile found)
            rw [findTile_id found] at told
            exact (one id t found).mpr told

/-- Over any full arrays and deltas the page lists the sensors of the merged array under their
names there; and it shows them as a page that reads this array again in all states, exactly where
no delta takes away a live list, and a tile that stays neither moves nor loses what it shows. -/
theorem category_page_right_iff (tiles : TileArray) (events : List PageEvent) :
    (∀ r, Run.Visits step (opened tiles) events r → r.Listed) ∧
      ((∀ r, Run.Visits step (opened tiles) events r → r.Right) ↔
        Run.Always step Kept (opened tiles) events) := by
  have preserved : ∀ (r : PageRun) (event : PageEvent) (next : PageRun),
      step r event = some next → r.AllFollow → next.AllFollow :=
    fun _ _ _ taken follow => follow.step taken
  constructor
  · intro r visited id
    obtain ⟨front, _, ran⟩ := visited
    exact (Run.exec_invariant preserved ran (opened_follow tiles) id).compared
  · apply Run.visits_iff_always preserved ?idle
      (fun _ _ _ taken follow right => right_step_iff taken follow right)
      (opened_follow tiles) (opened_right tiles)
    intro r event disabled
    cases event <;> cases disabled

/-- The processes of a GPU with these rows. -/
def processTile (value : String) (rows : List TableRow) : ShownTile :=
  ⟨"nvml.gpu0.processes", "gpu", none, "GPU processes", none, none, value, "table", "", [], rows⟩

def oneArray (tile : ShownTile) (named : tile.id ≠ "") (kinded : tile.kind ≠ "") : TileArray where
  tiles := [tile]
  distinct := List.nodup_singleton _
  named := by simpa using named
  kinded := by simpa using kinded

/-- The last process has ended, and the page of the GPUs still shows it. -/
example :
    ((opened (oneArray (processTile "<1 rows>" [⟨[.text "7"]⟩]) (by decide) (by decide))).step
      (.tilesChangedJson (oneArray (processTile "<0 rows>" []) (by decide) (by decide)))).map
        (fun r => (r.page.entry "nvml.gpu0.processes").shown.map fun cell =>
          (cell.value, cell.rows)) =
      some (some ("<0 rows>", [⟨[.text "7"]⟩])) := by decide

end PageRun

/-! The arrays that the pump makes for the pages. -/

/-- The catalogue has each sensor once, under a name. -/
structure Catalogue (infos : List SensorInfo) : Prop where
  distinct : (infos.map fun info => info.id.asStr).Nodup
  named : ∀ info ∈ infos, info.id.asStr ≠ ""

def IsArray (tiles : List ShownTile) : Prop := ∃ array : TileArray, array.tiles = tiles

/-- The tiles are kept under the names of their sensors, and no sensor is marked twice. -/
structure SampleState.Formed (state : SampleState) : Prop where
  tiles : ∀ id tile, state.tiles.lookup id = some tile →
    tile.id = id ∧ id ≠ "" ∧ tile.kind ≠ ""
  dirty : state.dirty.Nodup

namespace Overview

variable {format : Format} {state : SampleState} {o next : Overview} {infos : List SensorInfo}

theorem serializeTiles_sublist {tiles : KeyMap String TileJson}
    (keyed : ∀ id tile, tiles.lookup id = some tile → tile.id = id) (ids : List String) :
    ((serializeTiles ids tiles).map ShownTile.id).Sublist ids := by
  induction ids with
  | nil => exact List.Sublist.refl _
  | cons id rest ih =>
      cases found : tiles.lookup id with
      | none =>
          have skipped : serializeTiles (id :: rest) tiles = serializeTiles rest tiles := by
            simp only [serializeTiles, List.filterMap_cons, found, Option.map_none]
          rw [skipped]
          exact ih.cons id
      | some tile =>
          have taken : serializeTiles (id :: rest) tiles =
              tile.shown :: serializeTiles rest tiles := by
            simp only [serializeTiles, List.filterMap_cons, found, Option.map_some]
          have named : tile.shown.id = id := keyed id tile found
          rw [taken, List.map_cons, named]
          exact ih.cons_cons id

theorem isArray_serializeTiles (formed : state.Formed) {ids : List String} (distinct : ids.Nodup) :
    IsArray (serializeTiles ids state.tiles) := by
  have tile : ∀ shown ∈ serializeTiles ids state.tiles, shown.id ≠ "" ∧ shown.kind ≠ "" := by
    intro shown member
    obtain ⟨id, _, made⟩ := List.mem_filterMap.mp member
    obtain ⟨tile, found, same⟩ := Option.map_eq_some_iff.mp made
    obtain ⟨own, named, kinded⟩ := formed.tiles id tile found
    rw [← same]
    exact ⟨fun empty => named (own.symm.trans empty), kinded⟩
  have sub := serializeTiles_sublist (fun id tile found => (formed.tiles id tile found).1) ids
  exact ⟨⟨_, sub.nodup distinct, fun shown member => (tile shown member).1,
    fun shown member => (tile shown member).2⟩, rfl⟩

theorem formed_applySample (formed : state.Formed) (sample : Sample) :
    (applySample format state sample).Formed := by
  rcases @applySample_cases format state sample with ⟨_, same⟩ | ⟨tile, found, same⟩
  · rw [same]
    exact formed
  · rw [same]
    refine ⟨?_, formed.dirty.insert⟩
    intro id other inside
    rw [KeyMap.lookup_insert_eq] at inside
    split at inside
    · rename_i here
      subst here
      rw [← Option.some.inj inside]
      exact formed.tiles _ tile found
    · exact formed.tiles id other inside

theorem formed_foldl (formed : state.Formed) (samples : List Sample) :
    (samples.foldl (applySample format) state).Formed := by
  induction samples generalizing state with
  | nil => exact formed
  | cons sample rest ih => exact ih (formed_applySample formed sample)

theorem nodup_deltaIds (formed : state.Formed) : (deltaIds state).Nodup := by
  have kept : ∀ more ids : List String, ids.Nodup →
      (more.foldl (fun ids sid => ids.insert sid) ids).Nodup := by
    intro more
    induction more with
    | nil => exact fun _ distinct => distinct
    | cons id rest ih => exact fun _ distinct => ih _ distinct.insert
  exact kept _ _ formed.dirty

theorem formed_start (catalogue : Catalogue infos) : (buildSampleState infos).Formed := by
  refine ⟨?_, List.nodup_nil⟩
  have named := catalogue.named
  clear catalogue
  intro id tile found
  unfold buildSampleState at found
  dsimp only at found
  induction infos using List.reverseRecOn with
  | nil => cases found
  | append_singleton front info ih =>
      rw [List.foldl_append, List.foldl_cons, List.foldl_nil, KeyMap.lookup_insert_eq] at found
      split at found
      · rename_i here
        rw [← Option.some.inj found, here]
        refine ⟨rfl, named info (List.mem_append_right _ List.mem_cons_self), ?_⟩
        show serializeKind info.kind ≠ ""
        cases info.kind <;> decide
      · exact ih (fun other member => named other (List.mem_append_left _ member)) found

/-- Every array that the pages get or will get is one of distinct tiles. -/
structure Arrays (o : Overview) : Prop where
  state : o.state.Formed
  full : IsArray o.full
  deltas : ∀ delta ∈ o.queue.due ++ o.rendered.toList, IsArray delta

theorem Arrays.start (catalogue : Catalogue infos) : (start infos).Arrays where
  state := formed_start catalogue
  full := isArray_serializeTiles (formed_start catalogue) catalogue.distinct
  deltas := nofun

theorem Arrays.step {event : Event} (taken : o.step format event = some next)
    (arrays : o.Arrays) : next.Arrays := by
  cases event with
  | batch first more =>
      obtain ⟨_, same⟩ := Run.enabled_eq_some.mp taken
      subst same
      have formed := @formed_foldl format _ arrays.state (first :: more)
      refine ⟨⟨formed.tiles, List.nodup_nil⟩, arrays.full, ?_⟩
      intro delta member
      rcases List.mem_append.mp member with old | new
      · exact arrays.deltas delta (List.mem_append_left _ old)
      · rw [List.mem_singleton.mp new]
        exact isArray_serializeTiles formed (nodup_deltaIds formed)
  | store =>
      obtain ⟨delta, rendered, _, same⟩ := store_spec taken
      subst same
      refine ⟨arrays.state, arrays.full, ?_⟩
      intro other member
      apply arrays.deltas other
      simp only [UiQueue.due, UiQueue.store, rendered, List.mem_append, Option.mem_toList,
        Option.toList_none, Option.toList_some, List.mem_singleton, List.not_mem_nil,
        or_false] at member ⊢
      tauto
  | queue event =>
      obtain ⟨queue, _, same, due, _⟩ := queue_spec taken
      subst same
      exact ⟨arrays.state, arrays.full, due ▸ arrays.deltas⟩

/-- The full array and the deltas that the pump has sent to the pages are as they take them. -/
theorem arrays_of_reaches (catalogue : Catalogue infos)
    (reached : Run.Reaches (step format) (start infos) o) :
    ∃ (full : TileArray) (deltas : List TileArray), full.tiles = o.full ∧
      deltas.map TileArray.tiles = o.queue.shown := by
  have arrays : o.Arrays :=
    reached.invariant (fun _ _ _ taken before => before.step taken) (Arrays.start catalogue)
  obtain ⟨full, same⟩ := arrays.full
  have sent : ∀ delta ∈ o.queue.shown, IsArray delta := by
    intro delta member
    apply arrays.deltas delta
    simp only [UiQueue.due, List.mem_append]
    exact .inl (.inl (.inl member))
  have listed : o.queue.shown ∈ Set.range (List.map TileArray.tiles) := by
    rw [Set.range_list_map]
    exact sent
  obtain ⟨deltas, shown⟩ := listed
  exact ⟨full, deltas, same, shown⟩

end Overview

end LinSight.Gui
