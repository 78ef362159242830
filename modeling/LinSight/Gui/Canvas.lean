import LinSight.Gui.Dashboards
import Mathlib

set_option autoImplicit false

/-! The canvas editor of the dashboards: its tiles on a grid, and the layouts that it sends and
loads. Positions of the pointer are any rational numbers. -/

namespace LinSight.Gui

structure CanvasTile where
  uid : Nat
  sensorId : String
  x : Int
  y : Int
  w : Int
  h : Int
  options : Json

structure CanvasEditor where
  tiles : List CanvasTile
  nextUid : Nat

def gridStep : Nat := 8

def defaultTileW : Int := 200

def defaultTileH : Int := 120

/-- `Math.round(v / gridStep) * gridStep`. -/
def snap (v : ℚ) : Int := ⌊v / gridStep + 1 / 2⌋ * gridStep

/-- The numbers of `serde_json` that are zero. -/
def isZeroText (text : String) : Bool := text.toList.all fun c => c = '0' || c = '-' || c = '.'

/-- `options || {}`. -/
def orObject : Json → Json
  | .null => .object []
  | .bool value => if value then .bool true else .object []
  | .number text => if isZeroText text then .object [] else .number text
  | .string text => if text = "" then .object [] else .string text
  | .array items => .array items
  | .object members => .object members

/-- `Number(v) || other`. -/
def orNumber (v other : Int) : Int := if v = 0 then other else v

/-- A tile as the editor writes it into a layout. -/
structure LayoutEntry where
  id : String
  x : Int
  y : Int
  w : Int
  h : Int
  options : Json

def DashboardTile.entry (t : DashboardTile) : LayoutEntry :=
  ⟨t.id, t.x.toInt, t.y.toInt, t.w.toInt, t.h.toInt, t.options⟩

/-- A number that `serde_json` reads as an `i32`. -/
def parseI32 (n : Int) : Option Int32 :=
  if -2147483648 ≤ n ∧ n ≤ 2147483647 then some (Int32.ofInt n) else none

def LayoutEntry.parse (e : LayoutEntry) : Option DashboardTile := do
  let x ← parseI32 e.x
  let y ← parseI32 e.y
  let w ← parseI32 e.w
  let h ← parseI32 e.h
  some ⟨e.id, x, y, w, h, e.options⟩

/-- A number that a signal passes as an `int`. -/
def toInt32 (n : Int) : Int := (Int32.ofInt n).toInt

/-- What the user does, and the layouts that are loaded. -/
inductive CanvasEdit where
  | drop (sensorId : String) (x y : ℚ)
  | release (index : Nat) (x y w h : ℚ)
  | remove (index : Nat)
  | clear
  | applyOptions (index : Nat) (members : List (String × Json))
  | load (layout : List DashboardTile)

namespace CanvasEditor

def hasTile (ed : CanvasEditor) (sensorId : String) : Bool :=
  ed.tiles.any fun t => t.sensorId = sensorId

def addTile (ed : CanvasEditor) (sensorId : String) (x y : ℚ) : CanvasEditor :=
  if ed.hasTile sensorId then ed
  else {
    tiles := ed.tiles ++ [{
      uid := ed.nextUid
      sensorId := sensorId
      x := snap (max 0 x)
      y := snap (max 0 y)
      w := defaultTileW
      h := defaultTileH
      options := .object [] }]
    nextUid := ed.nextUid + 1 }

/-- A tile is dropped by its centre. -/
def onDropped (ed : CanvasEditor) (sensorId : String) (x y : ℚ) : CanvasEditor :=
  if sensorId = "" then ed
  else ed.addTile sensorId (x - defaultTileW / 2) (y - defaultTileH / 2)

def updateGeometry (ed : CanvasEditor) (index : Nat) (x y w h : ℚ) : CanvasEditor :=
  { ed with tiles := ed.tiles.modify index fun t => { t with
      x := snap (max 0 x)
      y := snap (max 0 y)
      w := snap (max 64 w)
      h := snap (max 64 h) } }

/-- The tile snaps before it tells the editor, which snaps again. -/
def commitSnappedGeometry (ed : CanvasEditor) (index : Nat) (x y w h : ℚ) : CanvasEditor :=
  ed.updateGeometry index (toInt32 (snap (max 0 x))) (toInt32 (snap (max 0 y)))
    (toInt32 (snap (max 64 w))) (toInt32 (snap (max 64 h)))

def serialize (ed : CanvasEditor) : List LayoutEntry :=
  ed.tiles.map fun t => ⟨t.sensorId, t.x, t.y, t.w, t.h, orObject t.options⟩

def loadTile (uid : Nat) (e : DashboardTile) : CanvasTile where
  uid := uid
  sensorId := e.id
  x := snap (orNumber e.x.toInt 0)
  y := snap (orNumber e.y.toInt 0)
  w := snap (orNumber e.w.toInt 200)
  h := snap (orNumber e.h.toInt 120)
  options := orObject e.options

def loadFromJson (ed : CanvasEditor) (layout : List DashboardTile) : CanvasEditor where
  tiles := layout.zipIdx.map fun (e, i) => loadTile (ed.nextUid + i) e
  nextUid := ed.nextUid + layout.length

def step (ed : CanvasEditor) : CanvasEdit → Option CanvasEditor
  | .drop sensorId x y => some (ed.onDropped sensorId x y)
  | .release index x y w h => some (ed.commitSnappedGeometry index x y w h)
  | .remove index => some { ed with tiles := ed.tiles.eraseIdx index }
  | .clear => some { ed with tiles := [] }
  | .applyOptions index members => some { ed with
      tiles := ed.tiles.modify index fun t => { t with options := .object members } }
  | .load layout => some (ed.loadFromJson layout)

def start : CanvasEditor := ⟨[], 1⟩

end CanvasEditor

theorem snap_mod (v : ℚ) : snap v % gridStep = 0 := Int.mul_emod_left _ _

theorem snap_le_iff (v : ℚ) (n : Int) : n * gridStep ≤ snap v ↔ (n * gridStep - 4 : ℚ) ≤ v := by
  have grid : (0 : Int) < gridStep := by decide
  rw [snap, mul_le_mul_iff_left₀ grid, Int.le_floor]
  simp only [gridStep]
  constructor <;> intro bound <;> push_cast at * <;> linarith

theorem snap_mul (n : Int) : snap (n * gridStep : Int) = n * gridStep := by
  rw [snap]
  congr 1
  rw [Int.floor_eq_iff]
  simp only [gridStep]
  push_cast
  constructor <;> linarith

/-- What has been snapped stays where it is. -/
theorem snap_eq_self {v : Int} (grid : v % gridStep = 0) : snap v = v := by
  obtain ⟨n, rfl⟩ := Int.dvd_of_emod_eq_zero grid
  rw [mul_comm]
  exact snap_mul n

theorem snap_nonneg {v : ℚ} : 0 ≤ snap v ↔ -4 ≤ v := by
  have bound := snap_le_iff v 0
  simp only [gridStep] at bound
  norm_num at bound
  exact bound

theorem snap_pos {v : ℚ} : 0 < snap v ↔ 4 ≤ v := by
  have bound := snap_le_iff v 1
  have grid := snap_mod v
  simp only [gridStep] at bound grid
  norm_num at bound
  rw [← bound]
  omega

theorem snap_le_max {v : ℚ} : snap v ≤ 2147483647 ↔ v < 2147483644 := by
  have bound := snap_le_iff v 268435456
  have grid := snap_mod v
  simp only [gridStep] at bound grid
  norm_num at bound
  rw [← not_le, ← bound]
  omega

theorem parseI32_eq_some {n : Int} {v : Int32} : parseI32 n = some v ↔ v.toInt = n := by
  unfold parseI32
  constructor
  · intro parsed
    split at parsed
    · rename_i range
      rw [← Option.some.inj parsed]
      exact Int32.toInt_ofInt_of_le (by omega) (by omega)
    · cases parsed
  · intro same
    have low := v.le_toInt
    have high := v.toInt_lt
    rw [if_pos (by omega), ← same, Int32.ofInt_toInt]

theorem LayoutEntry.parse_eq_some {e : LayoutEntry} {t : DashboardTile} :
    e.parse = some t ↔ t.entry = e := by
  obtain ⟨id, x, y, w, h, options⟩ := e
  obtain ⟨id', x', y', w', h', options'⟩ := t
  simp only [parse, Option.bind_eq_bind, Option.bind_eq_some_iff, parseI32_eq_some,
    Option.some.injEq, DashboardTile.mk.injEq, DashboardTile.entry, LayoutEntry.mk.injEq]
  constructor
  · rintro ⟨_, rfl, _, rfl, _, rfl, _, rfl, rfl, rfl, rfl, rfl, rfl, rfl⟩
    simp only [and_self]
  · rintro ⟨rfl, rfl, rfl, rfl, rfl, rfl⟩
    exact ⟨_, rfl, _, rfl, _, rfl, _, rfl, by simp only [and_self]⟩

/-- A layout is read from what is written of it, and from nothing else. -/
theorem mapM_parse_eq_some {entries : List LayoutEntry} {layout : List DashboardTile} :
    entries.mapM LayoutEntry.parse = some layout ↔ layout.map DashboardTile.entry = entries := by
  induction entries generalizing layout with
  | nil => cases layout <;> simp
  | cons e rest ih =>
      simp only [List.mapM_cons, Option.bind_eq_bind, Option.bind_eq_some_iff,
        LayoutEntry.parse_eq_some, Option.pure_def, Option.some.injEq]
      constructor
      · rintro ⟨t, rfl, others, read, rfl⟩
        rw [List.map_cons, ih.mp read]
      · intro same
        cases layout with
        | nil => cases same
        | cons t others =>
            obtain ⟨first, later⟩ := List.cons.inj same
            exact ⟨t, first, others, ih.mpr later, rfl⟩

/-- What the check of a layout asks of a tile. -/
structure DashboardTile.Sane (t : DashboardTile) : Prop where
  id : t.id ≠ ""
  x : 0 ≤ t.x.toInt
  y : 0 ≤ t.y.toInt
  w : 0 < t.w.toInt
  h : 0 < t.h.toInt

theorem tileError_eq_none_iff (operation : String) (i : Nat) (t : DashboardTile) :
    tileError operation i t = none ↔ t.Sane := by
  obtain ⟨id, x, y, w, h, options⟩ := t
  simp only [tileError, Int32.le_iff_toInt_le, Int32.lt_iff_toInt_lt, Int32.toInt_zero]
  constructor
  · intro passed
    split at passed
    · cases passed
    · rename_i named
      split at passed
      · cases passed
      · rename_i geometry
        constructor <;> dsimp only
        · intro empty
          exact named (by rw [empty]; rfl)
        all_goals omega
  · intro sane
    have named : ¬ id.isEmpty = true := fun empty => sane.id (String.isEmpty_iff.mp empty)
    have geometry : ¬ (w.toInt ≤ 0 ∨ h.toInt ≤ 0 ∨ x.toInt < 0 ∨ y.toInt < 0) := by
      have := sane.x
      have := sane.y
      have := sane.w
      have := sane.h
      dsimp only at *
      omega
    rw [if_neg named, if_neg geometry]

theorem layoutError_eq_none_iff (operation : String) (layout : List DashboardTile) :
    layoutError operation layout = none ↔ ∀ t ∈ layout, t.Sane := by
  unfold layoutError
  rw [List.findSome?_eq_none_iff]
  constructor
  · intro passed t member
    obtain ⟨i, here⟩ := List.mem_iff_getElem?.mp member
    exact (tileError_eq_none_iff operation i t).mp
      (passed (t, i) (List.mk_mem_zipIdx_iff_getElem?.mpr here))
  · intro sane p member
    rw [tileError_eq_none_iff]
    exact sane p.1 (List.fst_mem_of_mem_zipIdx member)

namespace CanvasEditor

/-- The tile is on the grid. -/
structure Gridded (t : CanvasTile) : Prop where
  x : t.x % gridStep = 0
  y : t.y % gridStep = 0
  w : t.w % gridStep = 0
  h : t.h % gridStep = 0
  options : orObject t.options = t.options

/-- Every tile is on the grid and has a number of its own. -/
structure Tidy (ed : CanvasEditor) : Prop where
  each : ∀ t ∈ ed.tiles, Gridded t
  distinct : (ed.tiles.map CanvasTile.uid).Nodup
  fresh : ∀ t ∈ ed.tiles, t.uid < ed.nextUid

/-- `save_layout` reads the layout that the editor sends and lets it pass. -/
def Savable (ed : CanvasEditor) : Prop :=
  ∃ layout, ed.serialize.mapM LayoutEntry.parse = some layout ∧ layoutError "save" layout = none

/-- What a tile has to be for the editor to send it as one that passes. -/
structure Fits (e : DashboardTile) : Prop where
  id : e.id ≠ ""
  x : -4 ≤ e.x.toInt ∧ e.x.toInt < 2147483644
  y : -4 ≤ e.y.toInt ∧ e.y.toInt < 2147483644
  w : e.w.toInt = 0 ∨ 4 ≤ e.w.toInt ∧ e.w.toInt < 2147483644
  h : e.h.toInt = 0 ∨ 4 ≤ e.h.toInt ∧ e.h.toInt < 2147483644

def Allowed (ed : CanvasEditor) : CanvasEdit → Prop
  | .drop sensorId x y => sensorId ≠ "" → ed.hasTile sensorId = false →
      x < 2147483744 ∧ y < 2147483704
  | .load layout => ∀ e ∈ layout, Fits e
  | _ => True

/-- The part of a tile that a layout holds. -/
def sent (t : CanvasTile) : LayoutEntry := ⟨t.sensorId, t.x, t.y, t.w, t.h, orObject t.options⟩

/-- The tile is read by `save_layout` and passes its check. -/
structure Passes (e : LayoutEntry) : Prop where
  id : e.id ≠ ""
  x : 0 ≤ e.x ∧ e.x ≤ 2147483647
  y : 0 ≤ e.y ∧ e.y ≤ 2147483647
  w : 0 < e.w ∧ e.w ≤ 2147483647
  h : 0 < e.h ∧ e.h ≤ 2147483647

theorem passes_entry {t : DashboardTile} (sane : t.Sane) : Passes t.entry := by
  have small (v : Int32) : v.toInt ≤ 2147483647 := by
    have := v.toInt_lt
    omega
  exact ⟨sane.id, ⟨sane.x, small t.x⟩, ⟨sane.y, small t.y⟩, ⟨sane.w, small t.w⟩,
    ⟨sane.h, small t.h⟩⟩

theorem Passes.parse {e : LayoutEntry} (passes : Passes e) : ∃ t : DashboardTile,
    t.entry = e ∧ t.Sane := by
  have read {n : Int} (range : -2147483648 ≤ n ∧ n ≤ 2147483647) : ∃ v : Int32, v.toInt = n :=
    ⟨Int32.ofInt n, parseI32_eq_some.mp (if_pos range)⟩
  obtain ⟨id, ⟨x, x_le⟩, ⟨y, y_le⟩, ⟨w, w_le⟩, ⟨h, h_le⟩⟩ := passes
  obtain ⟨x', same_x⟩ := read (n := e.x) (by omega)
  obtain ⟨y', same_y⟩ := read (n := e.y) (by omega)
  obtain ⟨w', same_w⟩ := read (n := e.w) (by omega)
  obtain ⟨h', same_h⟩ := read (n := e.h) (by omega)
  refine ⟨⟨e.id, x', y', w', h', e.options⟩, ?_, id, ?_, ?_, ?_, ?_⟩
  · simp only [DashboardTile.entry, same_x, same_y, same_w, same_h]
  · exact same_x ▸ x
  · exact same_y ▸ y
  · exact same_w ▸ w
  · exact same_h ▸ h

theorem savable_iff (ed : CanvasEditor) : ed.Savable ↔ ∀ t ∈ ed.tiles, Passes (sent t) := by
  have each : ed.Savable ↔ ∃ layout : List DashboardTile,
      layout.map DashboardTile.entry = ed.tiles.map sent ∧ ∀ t ∈ layout, t.Sane := by
    simp only [Savable, mapM_parse_eq_some, layoutError_eq_none_iff]
    rfl
  rw [each]
  constructor
  · rintro ⟨layout, same, sane⟩ t member
    have there := same ▸ List.mem_map_of_mem (f := sent) member
    obtain ⟨e, inside, equal⟩ := List.mem_map.mp there
    exact equal ▸ passes_entry (sane e inside)
  · intro passes
    clear each
    generalize ed.tiles = tiles at passes ⊢
    induction tiles with
    | nil => exact ⟨[], rfl, nofun⟩
    | cons t rest ih =>
        obtain ⟨layout, same, sane⟩ := ih fun other member =>
          passes other (List.mem_cons_of_mem _ member)
        obtain ⟨e, equal, fine⟩ := (passes t List.mem_cons_self).parse
        refine ⟨e :: layout, by rw [List.map_cons, equal, same, List.map_cons], ?_⟩
        intro other member
        rcases List.mem_cons.mp member with rfl | later
        · exact fine
        · exact sane other later

theorem orObject_idempotent (options : Json) : orObject (orObject options) = orObject options := by
  cases options with
  | bool value => cases value <;> rfl
  | number text =>
      by_cases zero : isZeroText text = true
      · have object : orObject (.number text) = .object [] := if_pos zero
        rw [object]
        rfl
      · have same : orObject (.number text) = .number text := if_neg zero
        rw [same, same]
  | string text =>
      by_cases empty : text = ""
      · have object : orObject (.string text) = .object [] := if_pos empty
        rw [object]
        rfl
      · have same : orObject (.string text) = .string text := if_neg empty
        rw [same, same]
  | _ => rfl

theorem gridded_loadTile (uid : Nat) (e : DashboardTile) : Gridded (loadTile uid e) where
  x := snap_mod _
  y := snap_mod _
  w := snap_mod _
  h := snap_mod _
  options := orObject_idempotent e.options

/-- A loaded tile is one that passes, exactly where it fits. -/
theorem passes_loadTile_iff (uid : Nat) (e : DashboardTile) :
    Passes (sent (loadTile uid e)) ↔ Fits e := by
  have place (v : Int) : (0 ≤ snap (orNumber v 0) ∧ snap (orNumber v 0) ≤ 2147483647) ↔
      -4 ≤ v ∧ v < 2147483644 := by
    have same : orNumber v 0 = v := by
      unfold orNumber
      split
      · rename_i zero
        exact zero.symm
      · rfl
    rw [same, snap_nonneg, snap_le_max]
    norm_cast
  have size (v other : Int) (fair : 4 ≤ other ∧ other < 2147483644) :
      (0 < snap (orNumber v other) ∧ snap (orNumber v other) ≤ 2147483647) ↔
        v = 0 ∨ 4 ≤ v ∧ v < 2147483644 := by
    rw [snap_pos, snap_le_max]
    unfold orNumber
    by_cases zero : v = 0
    · rw [if_pos zero]
      exact iff_of_true (by exact_mod_cast fair) (.inl zero)
    · rw [if_neg zero]
      norm_cast
      simp only [zero, false_or]
  constructor
  · intro passes
    exact ⟨passes.id, (place _).mp passes.x, (place _).mp passes.y,
      (size _ 200 (by decide)).mp passes.w, (size _ 120 (by decide)).mp passes.h⟩
  · intro fits
    exact ⟨fits.id, (place _).mpr fits.x, (place _).mpr fits.y,
      (size _ 200 (by decide)).mpr fits.w, (size _ 120 (by decide)).mpr fits.h⟩

/-- A tile with the geometry that a release leaves. -/
def moved (old : CanvasTile) (x y w h : ℚ) : CanvasTile := { old with
  x := snap (max 0 (toInt32 (snap (max 0 x)) : ℚ))
  y := snap (max 0 (toInt32 (snap (max 0 y)) : ℚ))
  w := snap (max 64 (toInt32 (snap (max 64 w)) : ℚ))
  h := snap (max 64 (toInt32 (snap (max 64 h)) : ℚ)) }

def dropped (uid : Nat) (sensorId : String) (x y : ℚ) : CanvasTile where
  uid := uid
  sensorId := sensorId
  x := snap (max 0 x)
  y := snap (max 0 y)
  w := defaultTileW
  h := defaultTileH
  options := .object []

/-- Where a tile comes from that is there after an edit. -/
inductive Origin (ed : CanvasEditor) : CanvasEdit → CanvasTile → Prop where
  | kept {edit t} (member : t ∈ ed.tiles) : Origin ed edit t
  | moved {edit old} (member : old ∈ ed.tiles) (x y w h : ℚ) : Origin ed edit (moved old x y w h)
  | applied {edit old} (member : old ∈ ed.tiles) (members : List (String × Json)) :
      Origin ed edit { old with options := .object members }
  | dropped {sensorId} (named : sensorId ≠ "") (new : ed.hasTile sensorId = false) (x y : ℚ) :
      Origin ed (.drop sensorId x y)
        (dropped ed.nextUid sensorId (x - defaultTileW / 2) (y - defaultTileH / 2))
  | loaded {layout e} (member : e ∈ layout) (uid : Nat) : Origin ed (.load layout) (loadTile uid e)

/-- The number and the sensor of a tile. -/
def keyOf (t : CanvasTile) : Nat × String := (t.uid, t.sensorId)

/-- The sensors and the numbers of the tiles after an edit. -/
inductive Keys (ed next : CanvasEditor) : CanvasEdit → Prop where
  | fewer {edit} (sub : (next.tiles.map keyOf).Sublist (ed.tiles.map keyOf))
      (same : next.nextUid = ed.nextUid) : Keys ed next edit
  | more {edit sensorId} (new : ed.hasTile sensorId = false)
      (all : next.tiles.map keyOf = ed.tiles.map keyOf ++ [(ed.nextUid, sensorId)])
      (later : next.nextUid = ed.nextUid + 1) : Keys ed next edit
  | loaded {layout} (all : next = ed.loadFromJson layout) : Keys ed next (.load layout)

theorem mem_modify {tiles : List CanvasTile} {index : Nat} {f : CanvasTile → CanvasTile}
    {t : CanvasTile} (member : t ∈ tiles.modify index f) :
    t ∈ tiles ∨ ∃ old ∈ tiles, t = f old := by
  obtain ⟨i, inside, here⟩ := List.mem_iff_getElem.mp member
  rw [List.getElem_modify] at here
  rw [List.length_modify] at inside
  split at here
  · exact .inr ⟨tiles[i], List.getElem_mem inside, here.symm⟩
  · exact .inl (here ▸ List.getElem_mem inside)

theorem map_modify_eq {β : Type} (key : CanvasTile → β) (f : CanvasTile → CanvasTile)
    (same : ∀ t, key (f t) = key t) (tiles : List CanvasTile) (index : Nat) :
    (tiles.modify index f).map key = tiles.map key := by
  apply List.ext_getElem
  · rw [List.length_map, List.length_modify, List.length_map]
  · intro i _ _
    rw [List.getElem_map, List.getElem_map, List.getElem_modify]
    split
    · exact same _
    · rfl

variable {ed next : CanvasEditor} {edit : CanvasEdit}

/-- What an edit does. -/
theorem step_cases (taken : step ed edit = some next) :
    (∀ t ∈ next.tiles, Origin ed edit t) ∧ Keys ed next edit := by
  cases edit with
  | drop sensorId x y =>
      obtain rfl := Option.some.inj taken
      unfold onDropped addTile
      split
      · exact ⟨fun t member => .kept member, .fewer (List.Sublist.refl _) rfl⟩
      · rename_i named
        split
        · exact ⟨fun t member => .kept member, .fewer (List.Sublist.refl _) rfl⟩
        · rename_i new
          constructor
          · intro t member
            rcases List.mem_append.mp member with old | last
            · exact .kept old
            · rw [List.mem_singleton.mp last]
              exact .dropped named (Bool.eq_false_of_not_eq_true new) x y
          · exact .more (Bool.eq_false_of_not_eq_true new) (List.map_append ..) rfl
  | release index x y w h =>
      obtain rfl := Option.some.inj taken
      constructor
      · intro t member
        rcases mem_modify member with kept | ⟨old, inside, rfl⟩
        · exact .kept kept
        · exact .moved inside _ _ _ _
      · have keys : (ed.commitSnappedGeometry index x y w h).tiles.map keyOf =
            ed.tiles.map keyOf :=
          map_modify_eq keyOf (moved · _ _ _ _) (fun _ => rfl) ed.tiles index
        exact .fewer (keys ▸ List.Sublist.refl _) rfl
  | remove index =>
      obtain rfl := Option.some.inj taken
      exact ⟨fun t member => .kept (List.mem_of_mem_eraseIdx member),
        .fewer ((List.eraseIdx_sublist ..).map _) rfl⟩
  | clear =>
      obtain rfl := Option.some.inj taken
      exact ⟨fun t member => absurd member List.not_mem_nil, .fewer (List.nil_sublist _) rfl⟩
  | applyOptions index members =>
      obtain rfl := Option.some.inj taken
      constructor
      · intro t member
        rcases mem_modify member with kept | ⟨old, inside, rfl⟩
        · exact .kept kept
        · exact .applied inside members
      · have keys := map_modify_eq keyOf (fun t => { t with options := .object members })
          (fun _ => rfl) ed.tiles index
        exact .fewer (by rw [keys]) rfl
  | load layout =>
      obtain rfl := Option.some.inj taken
      constructor
      · intro t member
        obtain ⟨⟨e, i⟩, inside, rfl⟩ := List.mem_map.mp member
        exact .loaded (List.fst_mem_of_mem_zipIdx inside) _
      · exact .loaded rfl

theorem Origin.gridded {t : CanvasTile} (origin : Origin ed edit t)
    (each : ∀ old ∈ ed.tiles, Gridded old) : Gridded t := by
  cases origin with
  | kept member => exact each t member
  | moved member x y w h =>
      exact ⟨snap_mod _, snap_mod _, snap_mod _, snap_mod _, (each _ member).options⟩
  | applied member members =>
      have old := each _ member
      exact ⟨old.x, old.y, old.w, old.h, rfl⟩
  | dropped named new x y =>
      have size : defaultTileW % gridStep = 0 ∧ defaultTileH % gridStep = 0 := by decide
      exact ⟨snap_mod _, snap_mod _, size.1, size.2, rfl⟩
  | loaded member uid => exact gridded_loadTile uid _

theorem snap_max_nonneg (v : ℚ) : 0 ≤ snap (max 0 v) := by
  rw [snap_nonneg]
  have := le_max_left 0 v
  linarith

theorem snap_max_pos (v : ℚ) : 0 < snap (max 64 v) := by
  rw [snap_pos]
  have := le_max_left 64 v
  linarith

/-- The grid has a last step below the `i32` maximum, and an `int` of a snapped number is on it. -/
theorem snap_max_toInt32_le (low v : ℚ) (small : low ≤ 64) :
    snap (max low (toInt32 (snap v) : ℚ)) ≤ 2147483647 := by
  have grid := snap_mod v
  simp only [gridStep] at grid
  have last : toInt32 (snap v) ≤ 2147483640 := by
    rw [toInt32, Int32.toInt_ofInt, Int32.size, Int.bmod_def]
    omega
  rw [snap_le_max, max_lt_iff]
  refine ⟨by linarith, ?_⟩
  have := Int.cast_le (R := ℚ).mpr last
  push_cast at this
  linarith

theorem snap_max_le_iff (v : ℚ) : snap (max 0 v) ≤ 2147483647 ↔ v < 2147483644 := by
  rw [snap_le_max, max_lt_iff]
  exact and_iff_right (by norm_num)

/-- A dropped tile is one that passes, where it lies before the end of the grid. -/
theorem passes_dropped_iff (uid : Nat) {sensorId : String} (named : sensorId ≠ "") (x y : ℚ) :
    Passes (sent (dropped uid sensorId (x - defaultTileW / 2) (y - defaultTileH / 2))) ↔
      x < 2147483744 ∧ y < 2147483704 := by
  have ends_x : x - (defaultTileW : ℚ) / 2 < 2147483644 ↔ x < 2147483744 := by
    simp only [defaultTileW]
    norm_num [sub_lt_iff_lt_add]
  have ends_y : y - (defaultTileH : ℚ) / 2 < 2147483644 ↔ y < 2147483704 := by
    simp only [defaultTileH]
    norm_num [sub_lt_iff_lt_add]
  have size : (0 < defaultTileW ∧ defaultTileW ≤ 2147483647) ∧
      0 < defaultTileH ∧ defaultTileH ≤ 2147483647 := by decide
  constructor
  · intro passes
    exact ⟨ends_x.mp ((snap_max_le_iff _).mp passes.x.2),
      ends_y.mp ((snap_max_le_iff _).mp passes.y.2)⟩
  · intro ⟨before_x, before_y⟩
    exact ⟨named, ⟨snap_max_nonneg _, (snap_max_le_iff _).mpr (ends_x.mpr before_x)⟩,
      ⟨snap_max_nonneg _, (snap_max_le_iff _).mpr (ends_y.mpr before_y)⟩, size.1, size.2⟩

theorem Origin.passes {t : CanvasTile} (origin : Origin ed edit t)
    (each : ∀ old ∈ ed.tiles, Passes (sent old)) (allowed : Allowed ed edit) :
    Passes (sent t) := by
  cases origin with
  | kept member => exact each t member
  | moved member x y w h =>
      exact ⟨(each _ member).id,
        ⟨snap_max_nonneg _, snap_max_toInt32_le 0 _ (by norm_num)⟩,
        ⟨snap_max_nonneg _, snap_max_toInt32_le 0 _ (by norm_num)⟩,
        ⟨snap_max_pos _, snap_max_toInt32_le 64 _ (le_refl _)⟩,
        ⟨snap_max_pos _, snap_max_toInt32_le 64 _ (le_refl _)⟩⟩
  | applied member members =>
      have old := each _ member
      exact ⟨old.id, old.x, old.y, old.w, old.h⟩
  | dropped named new x y => exact (passes_dropped_iff _ named x y).mpr (allowed named new)
  | loaded member uid => exact (passes_loadTile_iff uid _).mpr (allowed _ member)

/-- One edit. -/
theorem savable_step_iff (taken : step ed edit = some next) (savable : ed.Savable) :
    next.Savable ↔ Allowed ed edit := by
  have origins := (step_cases taken).1
  rw [savable_iff] at savable
  rw [savable_iff]
  constructor
  · intro after
    cases edit with
    | drop sensorId x y =>
        obtain rfl := Option.some.inj taken
        intro named new
        have there : dropped ed.nextUid sensorId (x - defaultTileW / 2) (y - defaultTileH / 2) ∈
            (ed.onDropped sensorId x y).tiles := by
          rw [onDropped, if_neg named, addTile, if_neg (Bool.eq_false_iff.mp new)]
          exact List.mem_append_right _ List.mem_cons_self
        exact (passes_dropped_iff _ named x y).mp (after _ there)
    | load layout =>
        obtain rfl := Option.some.inj taken
        intro e member
        obtain ⟨i, here⟩ := List.mem_iff_getElem?.mp member
        have there : loadTile (ed.nextUid + i) e ∈ (ed.loadFromJson layout).tiles :=
          List.mem_map.mpr ⟨(e, i), List.mk_mem_zipIdx_iff_getElem?.mpr here, rfl⟩
        exact (passes_loadTile_iff _ e).mp (after _ there)
    | _ => trivial
  · intro allowed t member
    exact (origins t member).passes savable allowed

theorem uids_loadFromJson (layout : List DashboardTile) :
    (ed.loadFromJson layout).tiles.map CanvasTile.uid =
      (List.range layout.length).map (ed.nextUid + ·) := by
  apply List.ext_getElem
  · simp [loadFromJson]
  · intro i _ _
    simp [loadFromJson, loadTile]

theorem Tidy.step (taken : step ed edit = some next) (tidy : ed.Tidy) : next.Tidy := by
  obtain ⟨origins, keys⟩ := step_cases taken
  have uids (tiles : List CanvasTile) :
      tiles.map CanvasTile.uid = (tiles.map keyOf).map Prod.fst := by
    rw [List.map_map]
    rfl
  have bounded (bound : Nat) (tiles : List CanvasTile) :
      (∀ t ∈ tiles, t.uid < bound) ↔ ∀ uid ∈ tiles.map CanvasTile.uid, uid < bound := by
    rw [List.forall_mem_map]
  refine ⟨fun t member => (origins t member).gridded tidy.each, ?distinct, ?fresh⟩
  case distinct =>
    cases keys with
    | fewer sub same =>
        rw [uids]
        apply (sub.map Prod.fst).nodup
        rw [← uids]
        exact tidy.distinct
    | more new all later =>
        rw [uids, all, List.map_append, ← uids, List.nodup_append]
        refine ⟨tidy.distinct, List.nodup_singleton _, ?_⟩
        intro uid old last member same
        have below := (bounded _ _).mp tidy.fresh uid old
        rw [List.map_singleton, List.mem_singleton] at member
        omega
    | loaded all =>
        rw [all, uids_loadFromJson]
        apply List.Nodup.map _ List.nodup_range
        intro i j same
        exact Nat.add_left_cancel same
  case fresh =>
    rw [bounded]
    cases keys with
    | fewer sub same =>
        intro uid member
        rw [uids] at member
        have old := (sub.map Prod.fst).subset member
        rw [← uids] at old
        rw [same]
        exact (bounded _ _).mp tidy.fresh uid old
    | more new all later =>
        intro uid member
        rw [uids, all, List.map_append, ← uids, List.mem_append] at member
        rw [later]
        rcases member with old | last
        · have below := (bounded _ _).mp tidy.fresh uid old
          omega
        · rw [List.map_singleton, List.mem_singleton] at last
          omega
    | loaded all =>
        intro uid member
        rw [all, uids_loadFromJson] at member
        obtain ⟨i, inside, rfl⟩ := List.mem_map.mp member
        have below := List.mem_range.mp inside
        rw [all]
        show ed.nextUid + i < ed.nextUid + _
        omega

/-- The tiles are of different sensors. -/
def Once (ed : CanvasEditor) : Prop := (ed.tiles.map CanvasTile.sensorId).Nodup

theorem ids_loadFromJson (layout : List DashboardTile) :
    (ed.loadFromJson layout).tiles.map CanvasTile.sensorId = layout.map DashboardTile.id := by
  apply List.ext_getElem
  · simp [loadFromJson]
  · intro i _ _
    simp [loadFromJson, loadTile]

/-- The layout that an edit loads has no sensor twice. -/
def LoadsOnce : CanvasEdit → Prop
  | .load layout => (layout.map DashboardTile.id).Nodup
  | _ => True

theorem Once.step (taken : step ed edit = some next) (loads : LoadsOnce edit) (once : ed.Once) :
    next.Once := by
  have ids (tiles : List CanvasTile) :
      tiles.map CanvasTile.sensorId = (tiles.map keyOf).map Prod.snd := by
    rw [List.map_map]
    rfl
  cases (step_cases taken).2 with
  | fewer sub same =>
      rw [Once, ids]
      apply (sub.map Prod.snd).nodup
      rw [← ids]
      exact once
  | more new all later =>
      rw [Once, ids, all, List.map_append, ← ids, List.nodup_append]
      refine ⟨once, List.nodup_singleton _, ?_⟩
      intro id old last member same
      rw [List.map_singleton, List.mem_singleton] at member
      obtain ⟨t, inside, here⟩ := List.mem_map.mp old
      have there : ed.hasTile last = true :=
        List.any_eq_true.mpr ⟨t, inside, decide_eq_true (here.trans same)⟩
      rw [member, new] at there
      cases there
  | loaded all =>
      rw [Once, all, ids_loadFromJson]
      exact loads

/-- A tile that is sent, read and loaded again has changed its number only. -/
theorem loadTile_sent {t : CanvasTile} {e : DashboardTile} (gridded : Gridded t)
    (read : e.entry = sent t) (sane : e.Sane) (uid : Nat) :
    loadTile uid e = { t with uid := uid } := by
  obtain ⟨id, x, y, w, h, options⟩ := e
  obtain ⟨_, sensor, tx, ty, tw, th, held⟩ := t
  obtain ⟨grid_x, grid_y, grid_w, grid_h, object⟩ := gridded
  obtain ⟨_, _, _, pos_w, pos_h⟩ := sane
  simp only [DashboardTile.entry, sent, LayoutEntry.mk.injEq] at read
  obtain ⟨rfl, rfl, rfl, rfl, rfl, rfl⟩ := read
  have place (v : Int) (grid : v % gridStep = 0) : snap (orNumber v 0) = v := by
    by_cases zero : v = 0
    · rw [orNumber, if_pos zero, zero]
      exact snap_eq_self rfl
    · rw [orNumber, if_neg zero]
      exact snap_eq_self grid
  have size (v other : Int) (grid : v % gridStep = 0) (pos : 0 < v) :
      snap (orNumber v other) = v := by
    rw [orNumber, if_neg (by omega)]
    exact snap_eq_self grid
  simp only [loadTile, place x.toInt grid_x, place y.toInt grid_y, size w.toInt 200 grid_w pos_w,
    size h.toInt 120 grid_h pos_h, orObject_idempotent]
  dsimp only at object
  rw [object]

/-- The layout that is read is loaded as the tiles that it was written from. -/
theorem loadFromJson_serialize (tidy : ed.Tidy) {layout : List DashboardTile}
    (read : ed.serialize.mapM LayoutEntry.parse = some layout)
    (passed : layoutError "save" layout = none) :
    (ed.loadFromJson layout).tiles =
      ed.tiles.zipIdx.map fun (t, i) => { t with uid := ed.nextUid + i } := by
  have same : layout.map DashboardTile.entry = ed.tiles.map sent := mapM_parse_eq_some.mp read
  have sane := (layoutError_eq_none_iff "save" layout).mp passed
  have lengths := congrArg List.length same
  rw [List.length_map, List.length_map] at lengths
  show layout.zipIdx.map _ = _
  apply List.ext_getElem
  · simp only [List.length_map, List.length_zipIdx, lengths]
  · intro i inside _
    have here : i < layout.length := by
      simpa only [List.length_map, List.length_zipIdx] using inside
    have there : i < ed.tiles.length := lengths ▸ here
    have entry : layout[i].entry = sent ed.tiles[i] := by
      have both := congrArg (·[i]?) same
      simpa only [List.getElem?_map, List.getElem?_eq_getElem here, List.getElem?_eq_getElem there,
        Option.map_some, Option.some.injEq] using both
    simp only [List.getElem_map, List.getElem_zipIdx, Nat.zero_add]
    exact loadTile_sent (tidy.each _ (List.getElem_mem there)) entry
      (sane _ (List.getElem_mem here)) _

theorem start_tidy : start.Tidy where
  each := nofun
  distinct := List.nodup_nil
  fresh := nofun

/-- Over any edits `save_layout` lets the editor's layout pass in all states, exactly where each
loaded tile has a sensor, is at most 4 pixels outside the canvas, at least 4 pixels wide and high or
without a size, and more than 3 pixels below the `i32` maximum in all of them, as the new tiles that
are dropped are. The tiles are always on the grid; a layout that passes gives them back when it is
loaded again; and no sensor is there twice unless a layout was loaded that has it twice. -/
theorem canvas_savable_iff (edits : List CanvasEdit) :
    ((∀ ed, Run.Visits step start edits ed → ed.Savable) ↔
      Run.Always step Allowed start edits) ∧
    ∀ ed, Run.Visits step start edits ed →
      ed.Tidy ∧
      (∀ layout, ed.serialize.mapM LayoutEntry.parse = some layout →
        layoutError "save" layout = none → (ed.loadFromJson layout).tiles =
          ed.tiles.zipIdx.map fun (t, i) => { t with uid := ed.nextUid + i }) ∧
      ((∀ edit ∈ edits, LoadsOnce edit) → ed.Once) := by
  have preserved : ∀ (ed : CanvasEditor) (edit : CanvasEdit) (next : CanvasEditor),
      step ed edit = some next → ed.Tidy → next.Tidy := fun _ _ _ taken tidy => tidy.step taken
  constructor
  · apply Run.visits_iff_always preserved ?idle
      (fun _ _ _ taken _ savable => savable_step_iff taken savable) start_tidy ⟨[], rfl, rfl⟩
    intro ed edit disabled
    cases edit <;> cases disabled
  · intro ed visited
    obtain ⟨front, before, ran⟩ := visited
    have tidy := Run.exec_invariant preserved ran start_tidy
    refine ⟨tidy, fun layout read passed => loadFromJson_serialize tidy read passed,
      fun loads => ?_⟩
    have loads_front : ∀ edit ∈ front, LoadsOnce edit :=
      fun edit member => loads edit (before.subset member)
    clear before loads tidy
    induction front using List.reverseRecOn generalizing ed with
    | nil =>
        obtain rfl := Option.some.inj ran
        exact List.nodup_nil
    | append_singleton front edit ih =>
        obtain ⟨middle, early, last⟩ := Run.exec_append.mp ran
        obtain ⟨next, taken, done⟩ := Run.exec_cons.mp last
        obtain rfl := Option.some.inj done
        have once := ih middle early fun other member =>
          loads_front other (List.mem_append_left _ member)
        exact once.step taken (loads_front edit (List.mem_append_right _ List.mem_cons_self))

/-- The import of a dashboard lets a tile of 3 pixels pass; the editor shows it with no width and
cannot save it. -/
example :
    layoutError "import" [⟨"cpu.util", 0, 0, 3, 120, .null⟩] = none ∧
      ((start.loadFromJson [⟨"cpu.util", 0, 0, 3, 120, .null⟩]).tiles.map CanvasTile.w) = [0] := by
  decide +kernel

end CanvasEditor

end LinSight.Gui
