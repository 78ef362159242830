import LinSight.Cli.HistoryOutput

set_option autoImplicit false

/-! What `linsight-cli db export` writes of the history database, and what a reader makes of it. -/

namespace LinSight.Cli

open Ieee (Value binary64)

/-- A row of the query. -/
structure ExportRow where
  sensorId : String
  ts : Int
  columns : HistoryColumns

def i64Text (n : Int) : List Char :=
  if n < 0 then '-' :: Nat.toDigits 10 n.natAbs else Nat.toDigits 10 n.natAbs

/-- `WHERE sensor_id = ?1 AND ts >= ?2`, where the sensor may be left out. -/
def selects (sensor : Option String) (cutoff : Int) (row : ExportRow) : Bool :=
  sensor.all (fun sid => row.sensorId = sid) && cutoff ≤ row.ts

def tableRow (entry : Σ _ : String × Int, HistoryColumns) : ExportRow :=
  ⟨entry.1.1, entry.1.2, entry.2⟩

/-- `ORDER BY ts`, which leaves the order of rows of one time open. -/
structure Queried (table : HistoryTable) (sensor : Option String) (cutoffMicros : Nat)
    (rows : List ExportRow) : Prop where
  selected : rows.Perm ((table.entries.map tableRow).filter (selects sensor (asI64 cutoffMicros)))
  sorted : rows.Pairwise fun a b => a.ts ≤ b.ts

def exportCells (row : ExportRow) : List (List Char) :=
  [csvCell row.sensorId.toList, i64Text row.ts, (row.columns.scalar.map Value.display).getD [],
    (row.columns.counter.map i64Text).getD [], csvCell (row.columns.state.getD "").toList]

def exportArgs (row : ExportRow) : List (List Char × Arg) :=
  [("sensor_id".toList, .text row.sensorId.toList), ("ts".toList, .integer row.ts),
    ("scalar".toList, (row.columns.scalar.map Arg.real).getD .none),
    ("counter".toList, (row.columns.counter.map Arg.integer).getD .none),
    ("state".toList, (row.columns.state.map fun s => Arg.text s.toList).getD .none)]

/-- The output for the rows of the query. -/
def exportRows (serde : Serde) (format : OutputFormat) (rows : List ExportRow) : List Char :=
  match format with
  | .csv => "sensor_id,ts,scalar,counter,state\n".toList ++
      (rows.map exportCells).flatMap writeRecord
  | .json => writeArray (rows.map fun row => "  ".toList ++ serde.object (exportArgs row))

/-! What the output is for. -/

/-- The samples that are asked for. -/
def wanted (sensor : Option String) (cutoffMicros : Nat) (samples : List Sample) : List Sample :=
  samples.filter fun s => sensor.all (fun sid => s.sensor.asStr = sid) && cutoffMicros ≤ s.tsMicros

def exportHeader : List (List Char) :=
  ["sensor_id".toList, "ts".toList, "scalar".toList, "counter".toList, "state".toList]

/-- The fields that belong to a sample: the text of its value is in the column of its kind. -/
def exportRecord (s : Sample) : List (List Char) :=
  let value := valueText s.reading
  let column (kind : String) := if value.2 = kind.toList then value.1 else []
  [s.sensor.asStr.toList, u64Text s.tsMicros, column "scalar", column "counter", column "state"]

/-- An object carries the sample, with its value under the name of its kind. -/
structure ExportCarries (s : Sample) (v : Json.Value) : Prop where
  sensor : v.get "sensor_id".toList = some (.string s.sensor.asStr.toList)
  ts : v.get "ts".toList = some (.number s.tsMicros)
  value : CarriesValue s.reading (v.get (valueText s.reading).2)

/-- The output is the header and a record for each sample. -/
def ExportCsvParses (serde : Serde) (rows : List ExportRow) (samples : List Sample) : Prop :=
  ∃ records, Csv.read (exportRows serde .csv rows) = some (exportHeader :: records) ∧
    records.Perm (samples.map exportRecord)

/-- The output is an array with an object for each sample. -/
def ExportJsonParses (serde : Serde) (rows : List ExportRow) (samples : List Sample) : Prop :=
  ∃ items ordered, Json.Reads (exportRows serde .json rows) (.array items) ∧
    ordered.Perm samples ∧ List.Forall₂ ExportCarries ordered items

/-- The numbers are below the sign bit of the columns. -/
structure FitsColumns (s : Sample) : Prop where
  ts : s.tsMicros < i64Bound
  counter : ∀ n, s.reading = .counter n → n < i64Bound

/-- The query means the samples that are asked for, and has a row for each. -/
structure Exportable (sensor : Option String) (cutoffMicros : Nat) (samples : List Sample) :
    Prop where
  once : ((wanted sensor cutoffMicros samples).map fun s => (s.sensor, s.tsMicros)).Nodup
  half : ∀ s ∈ samples, sensor.all (fun sid => s.sensor.asStr = sid) = true →
    SameHalf cutoffMicros s.tsMicros
  fits : ∀ s ∈ wanted sensor cutoffMicros samples, FitsColumns s

section Rows

theorem asI64_of_lt {n : Nat} (small : n < i64Bound) : asI64 n = n := if_pos small

/-- An `i64` that is a natural number is that of the same `u64`. -/
theorem eq_of_asI64_eq {n m : Nat} (range : n < u64Bound) (same : asI64 n = m) :
    n = m ∧ n < i64Bound := by
  unfold asI64 at same
  simp only [u64Bound] at range same
  split_ifs at same with small
  · exact ⟨by omega, small⟩
  · omega

/-- The columns of a reading that is no table. -/
def columnsOf : Reading → HistoryColumns
  | .scalar v => ⟨storedReal (some v), none, none⟩
  | .counter n => ⟨none, some (asI64 n), none⟩
  | .state s => ⟨none, none, some s⟩
  | .table _ => ⟨none, none, none⟩

/-- The row of a sample. -/
def rowOf (s : Sample) : ExportRow := ⟨s.sensor.asStr, asI64 s.tsMicros, columnsOf s.reading⟩

/-- The primary key. -/
def ExportRow.key (row : ExportRow) : String × Int := (row.sensorId, row.ts)

theorem ofSample_row {s : Sample} (plain : ∀ rows, s.reading ≠ .table rows) :
    ∃ h, HistoricSample.ofSample s = some h ∧ tableRow ⟨h.key, h.columns⟩ = rowOf s := by
  obtain ⟨sensor, ts, reading⟩ := s
  cases reading with
  | table rows => exact absurd rfl (plain rows)
  | scalar v => exact ⟨_, rfl, rfl⟩
  | counter n => exact ⟨_, rfl, rfl⟩
  | state v => exact ⟨_, rfl, rfl⟩

variable {samples : List Sample} {sensor : Option String} {cutoff : Nat} {rows : List ExportRow}

/-- The rows are of samples, and there is one for each key that the query selects. -/
structure RowsOf (samples : List Sample) (sensor : Option String) (cutoff : Nat)
    (rows : List ExportRow) : Prop where
  once : (rows.map ExportRow.key).Nodup
  sourced : ∀ row ∈ rows, selects sensor (asI64 cutoff) row = true ∧ ∃ s ∈ samples, row = rowOf s
  stored : ∀ s ∈ samples, selects sensor (asI64 cutoff) (rowOf s) = true →
    ∃ row ∈ rows, row.key = (rowOf s).key

/-- Whatever the batches, the query returns rows of the recorded samples. -/
theorem rowsOf_queried {batches : List (List HistoricSample)}
    (flushed : batches.flatten = samples.filterMap HistoricSample.ofSample)
    (plain : ∀ s ∈ samples, ∀ rows, s.reading ≠ .table rows)
    (queried : Queried (historyOf batches) sensor cutoff rows) :
    RowsOf samples sensor cutoff rows := by
  have inserted : historyOf batches = (samples.filterMap HistoricSample.ofSample).foldl
      (fun table s => table.insert s.key s.columns) ∅ := by
    rw [← flushed, List.foldl_flatten]
    rfl
  have mem_rows (row : ExportRow) : row ∈ rows ↔
      (∃ entry ∈ (historyOf batches).entries, tableRow entry = row) ∧
        selects sensor (asI64 cutoff) row = true := by
    rw [queried.selected.mem_iff, List.mem_filter, List.mem_map]
  refine ⟨?_, ?_, ?_⟩
  · have keys : ((historyOf batches).entries.map tableRow).map ExportRow.key =
        (historyOf batches).keys := by
      rw [List.map_map]
      rfl
    have distinct := (historyOf batches).keys_nodup
    rw [← keys] at distinct
    exact (queried.selected.map ExportRow.key).nodup_iff.mpr
      (distinct.sublist (List.filter_sublist.map ExportRow.key))
  · intro row member
    obtain ⟨⟨entry, stored, rfl⟩, selected⟩ := (mem_rows row).mp member
    refine ⟨selected, ?_⟩
    have found := (KeyMap.mem_entries_iff _ _ _).mp stored
    rw [inserted] at found
    rcases KeyMap.of_lookup_foldl_insert _ _ found with ⟨h, recorded, key, columns⟩ | before
    · obtain ⟨s, inside, kept⟩ := List.mem_filterMap.mp recorded
      obtain ⟨h', kept', row⟩ := ofSample_row (plain s inside)
      rw [kept, Option.some.injEq] at kept'
      refine ⟨s, inside, ?_⟩
      rw [← row, ← kept', key, columns]
    · cases before
  · intro s inside selected
    obtain ⟨h, kept, row⟩ := ofSample_row (plain s inside)
    have present : h.key ∈ historyOf batches := by
      rw [inserted]
      exact KeyMap.mem_foldl_insert _ _ (.inl ⟨h, List.mem_filterMap.mpr ⟨s, inside, kept⟩, rfl⟩)
    obtain ⟨columns, found⟩ := KeyMap.exists_lookup present
    have key : (tableRow ⟨h.key, columns⟩).key = (rowOf s).key := by
      rw [← row]
      rfl
    refine ⟨_, (mem_rows _).mpr ⟨⟨_, (KeyMap.mem_entries_iff _ _ _).mpr found, rfl⟩, ?_⟩, key⟩
    have owner := congrArg Prod.fst key
    have time := congrArg Prod.snd key
    dsimp only [ExportRow.key] at owner time
    rw [selects, owner, time]
    exact selected

theorem mem_wanted {s : Sample} : s ∈ wanted sensor cutoff samples ↔
    s ∈ samples ∧ sensor.all (fun sid => s.sensor.asStr = sid) = true ∧ cutoff ≤ s.tsMicros := by
  rw [wanted, List.mem_filter, Bool.and_eq_true, decide_eq_true_eq]

theorem selects_rowOf {s : Sample} : selects sensor (asI64 cutoff) (rowOf s) = true ↔
    sensor.all (fun sid => s.sensor.asStr = sid) = true ∧ asI64 cutoff ≤ asI64 s.tsMicros := by
  rw [selects, Bool.and_eq_true, decide_eq_true_eq]
  rfl

/-- On one side of the sign bit, the `i64`s are ordered as the `u64`s. -/
theorem asI64_le_iff {a b : Nat} (half : SameHalf a b) : asI64 a ≤ asI64 b ↔ a ≤ b := by
  simp only [SameHalf, asI64] at half ⊢
  split <;> split <;> omega

theorem key_rowOf {a b : Sample} (range : a.tsMicros < u64Bound) (range' : b.tsMicros < u64Bound)
    (same : (rowOf a).key = (rowOf b).key) : (a.sensor, a.tsMicros) = (b.sensor, b.tsMicros) := by
  have sensor := congrArg SensorId.mk (congrArg Prod.fst same)
  have time := congrArg (fun key => asU64 key.2) same
  dsimp only [ExportRow.key, rowOf] at time
  rw [asU64_asI64 range, asU64_asI64 range'] at time
  exact Prod.ext sensor time

/-- Where the query means the samples that are asked for, its rows are theirs. -/
theorem rows_perm (held : RowsOf samples sensor cutoff rows)
    (range : ∀ s ∈ samples, s.tsMicros < u64Bound)
    (exportable : Exportable sensor cutoff samples) :
    rows.Perm ((wanted sensor cutoff samples).map rowOf) := by
  have distinct : ((wanted sensor cutoff samples).map rowOf).Nodup := by
    rw [List.Nodup, List.pairwise_map]
    refine (List.pairwise_map.mp exportable.once).imp_of_mem fun member member' differ same => ?_
    exact differ (key_rowOf (range _ (mem_wanted.mp member).1) (range _ (mem_wanted.mp member').1)
      (congrArg ExportRow.key same))
  have from_wanted : ∀ row ∈ rows, ∃ s ∈ wanted sensor cutoff samples, row = rowOf s := by
    intro row member
    obtain ⟨selected, s, inside, rfl⟩ := held.sourced row member
    obtain ⟨owner, order⟩ := selects_rowOf.mp selected
    exact ⟨s, mem_wanted.mpr
      ⟨inside, owner, (asI64_le_iff (exportable.half s inside owner)).mp order⟩, rfl⟩
  refine (List.perm_ext_iff_of_nodup (held.once.of_map _) distinct).mpr fun row => ?_
  constructor
  · intro member
    obtain ⟨s, asked, rfl⟩ := from_wanted row member
    exact List.mem_map_of_mem asked
  · intro member
    obtain ⟨s, asked, rfl⟩ := List.mem_map.mp member
    obtain ⟨inside, owner, order⟩ := mem_wanted.mp asked
    obtain ⟨row, member, key⟩ := held.stored s inside (selects_rowOf.mpr
      ⟨owner, (asI64_le_iff (exportable.half s inside owner)).mpr order⟩)
    -- the row is of a sample with the same key, which is this one
    obtain ⟨other, asked', rfl⟩ := from_wanted row member
    have same := key_rowOf (range _ (mem_wanted.mp asked').1) (range _ inside) key
    rw [← List.inj_on_of_nodup_map exportable.once asked' asked same]
    exact member

theorem exists_of_mem_right {α β : Type} {R : α → β → Prop} {list : List α} {list' : List β}
    (related : List.Forall₂ R list list') : ∀ b ∈ list', ∃ a ∈ list, R a b := by
  induction related with
  | nil => exact fun _ member => absurd member List.not_mem_nil
  | cons here _ ih =>
      refine List.forall_mem_cons.mpr ⟨⟨_, List.mem_cons_self, here⟩, fun b member => ?_⟩
      obtain ⟨a, later, related⟩ := ih b member
      exact ⟨a, List.mem_cons_of_mem _ later, related⟩

/-- Where the rows show the samples that are asked for, the query means these. -/
theorem exportable_of_shown (held : RowsOf samples sensor cutoff rows)
    (small : cutoff < u64Bound) (range : ∀ s ∈ samples, s.tsMicros < u64Bound)
    {Shown : ExportRow → Sample → Prop}
    (keyed : ∀ row s, Shown row s → row.key = (s.sensor.asStr, (s.tsMicros : Int)))
    (counter : ∀ s ∈ samples, Shown (rowOf s) s → ∀ n, s.reading = .counter n → n < i64Bound)
    {ordered : List Sample} (perm : ordered.Perm (wanted sensor cutoff samples))
    (shown : List.Forall₂ Shown rows ordered) :
    Exportable sensor cutoff samples ∧
      ∀ s ∈ wanted sensor cutoff samples, Shown (rowOf s) s := by
  have keys : rows.map ExportRow.key =
      ordered.map fun s => (s.sensor.asStr, (s.tsMicros : Int)) := by
    rw [← List.forall₂_eq_eq_eq, List.forall₂_map_left_iff, List.forall₂_map_right_iff]
    exact shown.imp keyed
  have once : ((wanted sensor cutoff samples).map fun s => (s.sensor, s.tsMicros)).Nodup := by
    have distinct := held.once
    rw [keys, (perm.map _).nodup_iff, List.Nodup, List.pairwise_map] at distinct
    rw [List.Nodup, List.pairwise_map]
    refine distinct.imp fun differ same => differ ?_
    exact Prod.ext (congrArg (fun key => key.1.asStr) same)
      (congrArg (fun key => (key.2 : Int)) same)
  -- the row that shows a sample is the one of this sample
  have each : ∀ s ∈ wanted sensor cutoff samples, Shown (rowOf s) s ∧ s.tsMicros < i64Bound := by
    intro s asked
    obtain ⟨row, member, here⟩ := exists_of_mem_right shown s (perm.mem_iff.mpr asked)
    obtain ⟨_, other, inside, rfl⟩ := held.sourced row member
    have key := keyed _ s here
    obtain ⟨time, small⟩ := eq_of_asI64_eq (range other inside) (congrArg Prod.snd key)
    have owner : other.sensor.asStr = s.sensor.asStr := congrArg Prod.fst key
    obtain ⟨_, matched, order⟩ := mem_wanted.mp asked
    have asked' : other ∈ wanted sensor cutoff samples := by
      rw [mem_wanted, owner, time]
      exact ⟨inside, matched, order⟩
    have same := List.inj_on_of_nodup_map once asked' asked
      (Prod.ext (congrArg SensorId.mk owner) time)
    rw [same] at here small
    exact ⟨here, small⟩
  refine ⟨⟨once, ?_, fun s asked =>
    ⟨(each s asked).2, counter s (mem_wanted.mp asked).1 (each s asked).1⟩⟩,
    fun s asked => (each s asked).1⟩
  intro s inside owner
  constructor
  · intro low
    by_contra high
    have asked := mem_wanted.mpr ⟨inside, owner, (low.le.trans (not_lt.mp high) : cutoff ≤ _)⟩
    exact high (each s asked).2
  · intro low
    by_contra high
    -- a sample below the sign bit is selected by a cutoff above it
    have selected : asI64 cutoff ≤ asI64 s.tsMicros := by
      rw [asI64_of_lt low, asI64, if_neg high]
      omega
    obtain ⟨row, member, key⟩ := held.stored s inside (selects_rowOf.mpr ⟨owner, selected⟩)
    obtain ⟨other, listed, here⟩ := exists_of_mem_right shown.flip row member
    have time : asI64 s.tsMicros = (other.tsMicros : Int) :=
      (congrArg Prod.snd key).symm.trans (congrArg Prod.snd (keyed row other here))
    obtain ⟨time, _⟩ := eq_of_asI64_eq (range s inside) time
    obtain ⟨_, _, order⟩ := mem_wanted.mp (perm.mem_iff.mp listed)
    omega

end Rows

section Csv

variable {samples : List Sample} {sensor : Option String} {cutoff : Nat} {rows : List ExportRow}

/-- What a row is read as. -/
def rowRecord (row : ExportRow) : List (List Char) :=
  [row.sensorId.toList, i64Text row.ts, (row.columns.scalar.map Value.display).getD [],
    (row.columns.counter.map i64Text).getD [], (row.columns.state.getD "").toList]

theorem plain_of_digits {text : List Char} (digits : ∀ c ∈ text, c.isDigit = true) :
    Csv.Plain text := by
  intro c member special
  simp only [Csv.special, List.mem_cons, List.not_mem_nil, or_false] at special
  rcases special with rfl | rfl | rfl | rfl
  · cases digits _ member
  · cases digits _ member
  · cases digits _ member
  · cases digits _ member

theorem plain_i64Text (n : Int) : Csv.Plain (i64Text n) := by
  have magnitude := plain_of_digits (@Ieee.isDigit_of_mem_toDigits n.natAbs)
  unfold i64Text
  split_ifs
  · exact List.forall_mem_cons.mpr ⟨by decide, magnitude⟩
  · exact magnitude

theorem plain_display (v : Value) : Csv.Plain v.display := by
  cases v with
  | nan => decide
  | posInf => decide
  | negInf => decide
  | finite q =>
      have unsigned (digits : Nat) (place : Int) : Csv.Plain (Ieee.decimalText digits place) := by
        obtain ⟨whole, fraction, _, before, behind, text⟩ := Ieee.decimalText_cases digits place
        rcases text with text | text
        · rw [text]
          exact plain_of_digits before
        · rw [text]
          refine List.forall_mem_append.mpr ⟨plain_of_digits before, ?_⟩
          exact List.forall_mem_cons.mpr ⟨by decide, plain_of_digits behind⟩
      rw [Value.display]
      dsimp only
      split_ifs
      · exact List.forall_mem_cons.mpr ⟨by decide, unsigned _ _⟩
      · exact unsigned _ _

/-- Only the texts are in quotes, and nothing else needs to be. -/
theorem exportCells_eq (row : ExportRow) : exportCells row = (rowRecord row).map csvCell := by
  have column {α : Type} (stored : Option α) {text : α → List Char}
      (plain : ∀ a, Csv.Plain (text a)) :
      csvCell ((stored.map text).getD []) = (stored.map text).getD [] := by
    cases stored with
    | none => rfl
    | some a => exact csvCell_eq_self_iff.mpr (plain a)
  rw [exportCells, rowRecord, List.map_cons, List.map_cons, List.map_cons, List.map_cons,
    List.map_cons, List.map_nil, csvCell_eq_self_iff.mpr (plain_i64Text row.ts),
    column _ plain_display, column _ plain_i64Text]

theorem read_exportRows (serde : Serde) (rows : List ExportRow) :
    Csv.read (exportRows serde .csv rows) = some (exportHeader :: rows.map rowRecord) := by
  have header : exportHeader.map csvCell = exportHeader := by decide
  have filled : ∀ record ∈ rows.map rowRecord, record ≠ [] := by
    simp [rowRecord]
  have whole := read_records header (by decide) filled
  have cells : rows.map exportCells = (rows.map rowRecord).map fun r => r.map csvCell := by
    rw [List.map_map]
    exact List.map_congr_left fun row _ => exportCells_eq row
  have first : writeRecord exportHeader = "sensor_id,ts,scalar,counter,state\n".toList := by decide
  rw [first, ← cells] at whole
  exact whole

theorem i64Text_eq_iff {n : Int} {m : Nat} : i64Text n = u64Text m ↔ n = m := by
  constructor
  · intro same
    unfold i64Text u64Text at same
    split_ifs at same with negative
    · have minus : '-' ∈ Nat.toDigits 10 m := same ▸ List.mem_cons_self
      cases Ieee.isDigit_of_mem_toDigits '-' minus
    · have value := congrArg (fun text => Nat.ofDigitChars 10 text 0) same
      rw [Nat.ofDigitChars_ten_toDigits, Nat.ofDigitChars_ten_toDigits] at value
      omega
  · rintro rfl
    exact if_neg (by omega)

/-- A row that is read as the fields of a sample has its key. -/
theorem key_of_rowRecord {row : ExportRow} {s : Sample} (same : rowRecord row = exportRecord s) :
    row.key = (s.sensor.asStr, (s.tsMicros : Int)) := by
  obtain ⟨owner, same⟩ := List.cons.inj same
  obtain ⟨time, _⟩ := List.cons.inj same
  exact Prod.ext (String.toList_inj.mp owner) (i64Text_eq_iff.mp time)

theorem asI64_eq_iff {n : Nat} (range : n < u64Bound) : asI64 n = n ↔ n < i64Bound :=
  ⟨fun same => (eq_of_asI64_eq range same).2, asI64_of_lt⟩

/-- The row of a sample is read as its fields unless a column cannot hold it. -/
theorem rowRecord_rowOf_iff {s : Sample} (exported : Exported s) :
    rowRecord (rowOf s) = exportRecord s ↔ FitsColumns s ∧ s.reading ≠ .scalar .nan := by
  have time := i64Text_eq_iff.trans (asI64_eq_iff exported.range.tsMicros)
  obtain ⟨sensor, ts, reading⟩ := s
  have fits : FitsColumns ⟨sensor, ts, reading⟩ ↔
      ts < i64Bound ∧ ∀ n, reading = .counter n → n < i64Bound :=
    ⟨fun fits => ⟨fits.ts, fits.counter⟩, fun both => ⟨both.1, both.2⟩⟩
  rw [fits]
  cases reading with
  | table rows => exact absurd rfl (exported.plain rows)
  | counter n =>
      have value := i64Text_eq_iff.trans (asI64_eq_iff (exported.range.counter n rfl))
      simp [rowRecord, rowOf, columnsOf, exportRecord, valueText, time, value]
  | state v => simp [rowRecord, rowOf, columnsOf, exportRecord, valueText, time]
  | scalar v =>
      cases v with
      | nan => simp [rowRecord, rowOf, columnsOf, storedReal, exportRecord, valueText, Value.display]
      | finite q => simp [rowRecord, rowOf, columnsOf, storedReal, exportRecord, valueText, time]
      | posInf => simp [rowRecord, rowOf, columnsOf, storedReal, exportRecord, valueText, time]
      | negInf => simp [rowRecord, rowOf, columnsOf, storedReal, exportRecord, valueText, time]

theorem exists_map_of_perm {α β : Type} {f : β → α} {list : List α} {other : List β}
    (perm : list.Perm (other.map f)) : ∃ list' : List β, list = list'.map f ∧ list'.Perm other := by
  have relation := congrFun (congrFun (List.eq_map_comp_perm f) list) other
  exact relation.mpr perm

theorem exportCsvParses_iff (serde : Serde) (held : RowsOf samples sensor cutoff rows)
    (small : cutoff < u64Bound) (exported : ∀ s ∈ samples, Exported s) :
    ExportCsvParses serde rows (wanted sensor cutoff samples) ↔
      Exportable sensor cutoff samples ∧
        ∀ s ∈ wanted sensor cutoff samples, s.reading ≠ .scalar .nan := by
  have range : ∀ s ∈ samples, s.tsMicros < u64Bound := fun s inside =>
    (exported s inside).range.tsMicros
  have exported' : ∀ s ∈ wanted sensor cutoff samples, Exported s := fun s asked =>
    exported s (mem_wanted.mp asked).1
  constructor
  · rintro ⟨records, read, perm⟩
    rw [read_exportRows, Option.some.injEq, List.cons.injEq] at read
    rw [← read.2] at perm
    obtain ⟨ordered, same, perm⟩ := exists_map_of_perm perm
    have shown : List.Forall₂ (fun row s => rowRecord row = exportRecord s) rows ordered := by
      rw [← List.forall₂_eq_eq_eq, List.forall₂_map_left_iff, List.forall₂_map_right_iff] at same
      exact same
    obtain ⟨exportable, each⟩ := exportable_of_shown held small range
      (fun row s => key_of_rowRecord) (fun s inside same =>
        ((rowRecord_rowOf_iff (exported s inside)).mp same).1.counter) perm shown
    exact ⟨exportable, fun s asked => ((rowRecord_rowOf_iff (exported' s asked)).mp
      (each s asked)).2⟩
  · rintro ⟨exportable, number⟩
    obtain ⟨picked, rfl, perm⟩ := exists_map_of_perm (rows_perm held range exportable)
    refine ⟨_, read_exportRows serde _, ?_⟩
    rw [List.map_map]
    have records : picked.map (rowRecord ∘ rowOf) = picked.map exportRecord := by
      refine List.map_congr_left fun s member => ?_
      have asked := perm.mem_iff.mp member
      exact (rowRecord_rowOf_iff (exported' s asked)).mpr ⟨exportable.fits s asked, number s asked⟩
    rw [records]
    exact perm.map exportRecord

end Csv

section Json

variable {serde : Serde} {samples : List Sample} {sensor : Option String} {cutoff : Nat}
  {rows : List ExportRow}

/-- An object has a member for each column. -/
def ShowsRow (row : ExportRow) (v : Json.Value) : Prop :=
  ∀ m ∈ exportArgs row, ∃ shown, v.get m.1 = some shown ∧ Shows m.2 shown

theorem floatArgs_rowOf {s : Sample} (exported : Exported s) :
    FloatArgs (exportArgs (rowOf s)) := by
  obtain ⟨sensor, ts, reading⟩ := s
  intro m member q float
  simp only [exportArgs, List.mem_cons, List.not_mem_nil, or_false] at member
  rcases member with rfl | rfl | rfl | rfl | rfl
  · cases float
  · cases float
  · cases reading with
    | scalar v =>
        cases v with
        | finite r =>
            cases float
            exact exported.float q rfl
        | nan => cases float
        | posInf => cases float
        | negInf => cases float
    | counter n => cases float
    | state v => cases float
    | table rows => cases float
  · cases reading <;> cases float
  · cases reading <;> cases float

theorem stands_row (documented : serde.Documented) {row : ExportRow}
    (float : FloatArgs (exportArgs row)) :
    ∃ v, Json.Stands ("  ".toList ++ serde.object (exportArgs row)) v ∧ ShowsRow row v := by
  have names : ((exportArgs row).map Prod.fst).Nodup := by
    have fixed : (exportArgs row).map Prod.fst = exportHeader := rfl
    rw [fixed]
    decide
  obtain ⟨v, ⟨n, stands⟩, shown⟩ := documented.object _ names float
  refine ⟨v, ⟨n, fun m order rest => ?_⟩, shown⟩
  have spaces : "  ".toList ++ serde.object (exportArgs row) ++ rest =
      ' ' :: ' ' :: (serde.object (exportArgs row) ++ rest) := rfl
  rw [spaces, Json.readValue_blank (by decide), Json.readValue_blank (by decide)]
  exact stands m order rest

/-- The output is an array with an object for each row. -/
theorem reads_exportRows (documented : serde.Documented)
    (float : ∀ row ∈ rows, FloatArgs (exportArgs row)) :
    ∃ items, Json.Reads (exportRows serde .json rows) (.array items) ∧
      List.Forall₂ ShowsRow rows items := by
  obtain ⟨items, reads, shown⟩ := Json.exists_array fun row member => by
    obtain ⟨v, stands, shows_row⟩ := stands_row documented (float row member)
    exact ⟨_, v, rfl, stands, shows_row⟩
  have output : exportRows serde .json rows = Json.arrayText (rows.filterMap fun row =>
      some ("  ".toList ++ serde.object (exportArgs row))) := by
    have every := congrFun (@List.filterMap_eq_map _ _ fun row : ExportRow =>
      "  ".toList ++ serde.object (exportArgs row)) rows
    exact (writeArray_eq _).trans (congrArg Json.arrayText every.symm)
  exact ⟨items, output ▸ reads, shown⟩

/-- What is the same in all objects. -/
theorem get_of_showsRow {row : ExportRow} {v : Json.Value} (shown : ShowsRow row v) :
    v.get "sensor_id".toList = some (.string row.sensorId.toList) ∧
      v.get "ts".toList = some (.number row.ts) := by
  obtain ⟨_, owner, rfl⟩ := shown ("sensor_id".toList, .text row.sensorId.toList)
    (by simp [exportArgs])
  obtain ⟨_, time, rfl⟩ := shown ("ts".toList, .integer row.ts) (by simp [exportArgs])
  exact ⟨owner, time⟩

/-- An object that shows a row and carries a sample has the key of both. -/
theorem key_of_shown {row : ExportRow} {s : Sample} {v : Json.Value} (shown : ShowsRow row v)
    (carries : ExportCarries s v) : row.key = (s.sensor.asStr, (s.tsMicros : Int)) := by
  obtain ⟨owner, time⟩ := get_of_showsRow shown
  rw [carries.sensor, Option.some.injEq, Json.Value.string.injEq] at owner
  rw [carries.ts, Option.some.injEq, Json.Value.number.injEq] at time
  refine Prod.ext (String.toList_inj.mp owner.symm) ?_
  exact_mod_cast time.symm

theorem counter_of_shown {s : Sample} {v : Json.Value} (exported : Exported s)
    (shown : ShowsRow (rowOf s) v) (carries : ExportCarries s v) :
    ∀ n, s.reading = .counter n → n < i64Bound := by
  obtain ⟨sensor, ts, reading⟩ := s
  rintro n rfl
  obtain ⟨_, value, rfl⟩ := shown ("counter".toList, .integer (asI64 n))
    (by simp [exportArgs, rowOf, columnsOf])
  have number : v.get "counter".toList = some (.number n) := carries.value
  rw [number, Option.some.injEq, Json.Value.number.injEq] at value
  exact (asI64_eq_iff (exported.range.counter n rfl)).mp (by exact_mod_cast value.symm)

/-- The object of a sample carries it where the columns hold its numbers. -/
theorem carries_of_shown {s : Sample} {v : Json.Value} (exported : Exported s)
    (fits : FitsColumns s) (shown : ShowsRow (rowOf s) v) : ExportCarries s v := by
  obtain ⟨owner, time⟩ := get_of_showsRow shown
  have number : ((rowOf s).ts : ℚ) = s.tsMicros := by
    rw [rowOf, asI64_of_lt fits.ts, Int.cast_natCast]
  refine ⟨owner, number ▸ time, ?_⟩
  obtain ⟨sensor, ts, reading⟩ := s
  cases reading with
  | table rows => exact absurd rfl (exported.plain rows)
  | counter n =>
      obtain ⟨_, value, rfl⟩ := shown ("counter".toList, .integer (asI64 n))
        (by simp [exportArgs, rowOf, columnsOf])
      rw [asI64_of_lt (fits.counter n rfl), Int.cast_natCast] at value
      exact value
  | state text =>
      obtain ⟨_, value, rfl⟩ := shown ("state".toList, .text text.toList)
        (by simp [exportArgs, rowOf, columnsOf])
      exact value
  | scalar v =>
      cases v with
      | nan => trivial
      | posInf => trivial
      | negInf => trivial
      | finite q =>
          obtain ⟨_, value, r, rfl, rounds⟩ := shown ("scalar".toList, .real (.finite q))
            (by simp [exportArgs, rowOf, columnsOf, storedReal])
          exact ⟨r, value, rounds⟩

theorem forall₂_of_common {α β γ : Type} {R : α → γ → Prop} {S : β → γ → Prop} {list : List α}
    {list' : List β} {common : List γ} (related : List.Forall₂ R list common)
    (related' : List.Forall₂ S list' common) :
    List.Forall₂ (fun a b => ∃ c, R a c ∧ S b c) list list' := by
  induction related generalizing list' with
  | nil =>
      cases related'
      exact .nil
  | cons here _ ih =>
      cases related' with
      | cons here' later => exact .cons ⟨_, here, here'⟩ (ih later)

theorem exportJsonParses_iff (documented : serde.Documented)
    (held : RowsOf samples sensor cutoff rows) (small : cutoff < u64Bound)
    (exported : ∀ s ∈ samples, Exported s) :
    ExportJsonParses serde rows (wanted sensor cutoff samples) ↔
      Exportable sensor cutoff samples := by
  have range : ∀ s ∈ samples, s.tsMicros < u64Bound := fun s inside =>
    (exported s inside).range.tsMicros
  have float : ∀ row ∈ rows, FloatArgs (exportArgs row) := by
    intro row member
    obtain ⟨_, s, inside, rfl⟩ := held.sourced row member
    exact floatArgs_rowOf (exported s inside)
  obtain ⟨items, reads, shown⟩ := reads_exportRows documented float
  constructor
  · rintro ⟨items', ordered, reads', perm, carried⟩
    have same := Json.Reads.unique reads reads'
    rw [Json.Value.array.injEq] at same
    subst same
    refine (exportable_of_shown held small range ?_ ?_ perm (forall₂_of_common shown carried)).1
    · rintro row s ⟨v, shows_row, carries⟩
      exact key_of_shown shows_row carries
    · rintro s inside ⟨v, shows_row, carries⟩
      exact counter_of_shown (exported s inside) shows_row carries
  · intro exportable
    obtain ⟨picked, rfl, perm⟩ := exists_map_of_perm (rows_perm held range exportable)
    refine ⟨items, picked, reads, perm, ?_⟩
    rw [List.forall₂_map_left_iff] at shown
    have asked : ∀ s ∈ picked, s ∈ wanted sensor cutoff samples := fun s => perm.mem_iff.mp
    refine ((List.forall₂_and_left picked items).mpr ⟨asked, shown⟩).imp ?_
    rintro s v ⟨asked, shows_row⟩
    exact carries_of_shown (exported s (mem_wanted.mp asked).1) (exportable.fits s asked) shows_row

end Json

end LinSight.Cli
