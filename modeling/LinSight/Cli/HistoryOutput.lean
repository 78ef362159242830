import LinSight.Daemon.History
import LinSight.Library.Csv
import LinSight.Library.Json

set_option autoImplicit false

/-! What `linsight-cli history` writes, and what a reader makes of it. -/

namespace LinSight.Cli

open Ieee (Value binary64)

/-- The text of a field: in quotes where it has a character that asks for them. -/
def csvCell (s : List Char) : List Char :=
  if s.contains ',' || s.contains '"' || s.contains '\n' || s.contains '\r' then
    let escaped := s.flatMap fun c => if c = '"' then ['"', '"'] else [c]
    '"' :: escaped ++ ['"']
  else s

/-- Some cells with commas between them, and a line feed. -/
def writeRecord (cells : List (List Char)) : List Char := [','].intercalate cells ++ ['\n']

/-- An object behind the ones before it, which are counted. -/
def writeObject (written : Nat × List Char) (object : List Char) : Nat × List Char :=
  (written.1 + 1, written.2 ++ (if 0 < written.1 then ",\n".toList else []) ++ object)

/-- The brackets, the commas and the line feeds around the objects of an array. -/
def writeArray (objects : List (List Char)) : List Char :=
  let written := objects.foldl writeObject (0, [])
  "[\n".toList ++ written.2 ++ (if 0 < written.1 then "\n".toList else []) ++ "]\n".toList

/-- An argument of `json!`. -/
inductive Arg where
  | none
  | real (v : Value)
  | integer (n : Int)
  | text (s : List Char)

/-- What is used of `serde_json`: `to_string` of a string, and `to_writer` of a `json!` object. -/
structure Serde where
  string : List Char → List Char
  object : List (List Char × Arg) → List Char

def u64Text (n : Nat) : List Char := Nat.toDigits 10 n

inductive OutputFormat where
  | json
  | csv
deriving DecidableEq

/-- The value and the kind of a sample that is no table. -/
def historyValue (serde : Serde) : Reading → Option (List Char × List Char)
  | .scalar v => some (v.display, "scalar".toList)
  | .counter v => some (u64Text v, "counter".toList)
  | .state v => some (serde.string v.toList, "state".toList)
  | .table _ => none

def historyObject (serde : Serde) (s : Sample) : Option (List Char) :=
  (historyValue serde s.reading).map fun found =>
    "  \x7b\"ts\":".toList ++ u64Text s.tsMicros ++ ",\"sensor\":".toList ++
      serde.string s.sensor.asStr.toList ++ ",\"value\":".toList ++ found.1 ++
      ",\"kind\":\"".toList ++ found.2 ++ "\"\x7d".toList

def historyCsvValue : Reading → Option (List Char × List Char)
  | .scalar v => some (v.display, "scalar".toList)
  | .counter v => some (u64Text v, "counter".toList)
  | .state v => some (csvCell v.toList, "state".toList)
  | .table _ => none

def historyCells (s : Sample) : Option (List (List Char)) :=
  (historyCsvValue s.reading).map fun found =>
    [csvCell (u64Text s.tsMicros), csvCell s.sensor.asStr.toList, csvCell found.1,
      csvCell found.2]

/-- The output for the samples of the answer. -/
def history (serde : Serde) (sensor : String) (fmt : OutputFormat) (samples : List Sample) :
    List Char :=
  if samples.isEmpty then
    "No history data for '".toList ++ sensor.toList ++ "' in the requested window.\n".toList
  else
    match fmt with
    | .json => writeArray (samples.filterMap (historyObject serde))
    | .csv => "ts_micros,sensor,value,kind\n".toList ++
        (samples.filterMap historyCells).flatMap writeRecord

/-! What the output is for. -/

/-- The value that an argument has in an object; a number that is not finite becomes null. -/
def Shows : Arg → Json.Value → Prop
  | .none, v => v = .null
  | .real (.finite q), v => ∃ r, v = .number r ∧ binary64.round r = .finite q
  | .real _, v => v = .null
  | .integer n, v => v = .number n
  | .text s, v => v = .string s

/-- The finite numbers of an object are values of `f64`. -/
def FloatArgs (members : List (List Char × Arg)) : Prop :=
  ∀ m ∈ members, ∀ q, m.2 = .real (.finite q) → binary64.IsFloat q

/-- The texts are JSON of what they are made of. -/
structure Serde.Documented (serde : Serde) : Prop where
  string : ∀ s, ∃ body, serde.string s = '"' :: body ∧
    ∀ rest, Json.readString .plain (body ++ rest) = some (s, rest)
  object : ∀ members, (members.map Prod.fst).Nodup → FloatArgs members →
    ∃ shown, Json.Stands (serde.object members) shown ∧
      ∀ m ∈ members, ∃ v, shown.get m.1 = some v ∧ Shows m.2 v

/-- A sample that is no table, with numbers of the types of the code. -/
structure Exported (s : Sample) : Prop where
  range : s.InRange
  float : ∀ q, s.reading = .scalar (.finite q) → binary64.IsFloat q
  plain : ∀ rows, s.reading ≠ .table rows

/-- The text of a value and its kind. -/
def valueText : Reading → List Char × List Char
  | .scalar v => (v.display, "scalar".toList)
  | .counter v => (u64Text v, "counter".toList)
  | .state v => (v.toList, "state".toList)
  | .table _ => ([], [])

def historyHeader : List (List Char) :=
  ["ts_micros".toList, "sensor".toList, "value".toList, "kind".toList]

/-- The fields that belong to a sample. -/
def historyRecord (s : Sample) : List (List Char) :=
  [u64Text s.tsMicros, s.sensor.asStr.toList, (valueText s.reading).1, (valueText s.reading).2]

/-- A member carries the value, where this is a finite number or a text. -/
def CarriesValue (reading : Reading) (v : Option Json.Value) : Prop :=
  match reading with
  | .scalar (.finite q) => ∃ r, v = some (.number r) ∧ binary64.round r = .finite q
  | .scalar _ => True
  | .counter n => v = some (.number n)
  | .state s => v = some (.string s.toList)
  | .table _ => False

/-- An object carries the sample. -/
structure HistoryCarries (s : Sample) (v : Json.Value) : Prop where
  ts : v.get "ts".toList = some (.number s.tsMicros)
  sensor : v.get "sensor".toList = some (.string s.sensor.asStr.toList)
  value : CarriesValue s.reading (v.get "value".toList)

/-- The output is the header and a record for each sample. -/
def HistoryCsvParses (serde : Serde) (sensor : String) (samples : List Sample) : Prop :=
  Csv.read (history serde sensor .csv samples) = some (historyHeader :: samples.map historyRecord)

/-- The output is an array with an object for each sample. -/
def HistoryJsonParses (serde : Serde) (sensor : String) (samples : List Sample) : Prop :=
  ∃ items, Json.Reads (history serde sensor .json samples) (.array items) ∧
    List.Forall₂ HistoryCarries samples items

section Cells

theorem csvCell_eq (s : List Char) : csvCell s = if Csv.Plain s then s else Csv.quote s := by
  have plain : (s.contains ',' || s.contains '"' || s.contains '\n' || s.contains '\r') = false ↔
      Csv.Plain s := by
    simp only [Bool.or_eq_false_iff, List.contains_eq_mem, decide_eq_false_iff_not, Csv.Plain,
      Csv.special, List.mem_cons, List.not_mem_nil, or_false, not_or]
    constructor
    · rintro ⟨⟨⟨comma, mark⟩, feed⟩, back⟩ c member
      refine ⟨?_, ?_, ?_, ?_⟩ <;> rintro rfl <;> contradiction
    · intro each
      exact ⟨⟨⟨fun h => (each _ h).1 rfl, fun h => (each _ h).2.1 rfl⟩,
        fun h => (each _ h).2.2.1 rfl⟩, fun h => (each _ h).2.2.2 rfl⟩
  rw [csvCell, Csv.quote]
  by_cases easy : Csv.Plain s
  · rw [if_pos easy, if_neg]
    rw [plain.mpr easy]
    decide
  · rw [if_neg easy, if_pos]
    rw [← Bool.not_eq_false]
    exact fun none => easy (plain.mp none)

/-- A cell is read as the field it is made of. -/
theorem cell_csvCell (s : List Char) : Csv.Cell s (csvCell s) := by
  rw [csvCell_eq]
  split_ifs with plain
  · exact .inl ⟨rfl, plain⟩
  · exact .inr rfl

theorem csvCell_eq_self_iff {s : List Char} : csvCell s = s ↔ Csv.Plain s := by
  rw [csvCell_eq]
  split_ifs with plain
  · exact iff_of_true rfl plain
  · exact iff_of_false (fun same => (Csv.length_lt_quote s).ne (congrArg List.length same).symm) plain

end Cells

section Arrays

theorem foldl_writeObject (objects : List (List Char)) {emitted : Nat} (some_before : 0 < emitted)
    (front : List Char) : objects.foldl writeObject (emitted, front) =
      (emitted + objects.length, front ++ objects.flatMap fun object => ",\n".toList ++ object) := by
  induction objects generalizing emitted front with
  | nil => rw [List.foldl_nil, List.flatMap_nil, List.append_nil]; rfl
  | cons object rest ih =>
      have step : writeObject (emitted, front) object =
          (emitted + 1, front ++ ",\n".toList ++ object) := by
        rw [writeObject, if_pos some_before]
      rw [List.foldl_cons, step, ih (Nat.succ_pos emitted), List.flatMap_cons, List.length_cons,
        Nat.succ_add, List.append_assoc, List.append_assoc, List.append_assoc]
      rfl

theorem writeArray_eq (objects : List (List Char)) :
    writeArray objects = Json.arrayText objects := by
  cases objects with
  | nil => rfl
  | cons object rest =>
      have first : writeObject (0, []) object = (1, object) := rfl
      rw [writeArray, List.foldl_cons, first, foldl_writeObject rest Nat.one_pos, Json.arrayText,
        Words.intercalate_cons]
      dsimp only
      rw [if_pos (by omega), if_neg (List.cons_ne_nil object rest)]
      rfl

end Arrays

section Csv

variable {samples : List Sample}

/-- What a record is read as: a state in quotes keeps them. -/
def writtenRecord (s : Sample) : List (List Char) :=
  match s.reading with
  | .state v => [u64Text s.tsMicros, s.sensor.asStr.toList, csvCell v.toList, "state".toList]
  | _ => historyRecord s

theorem historyCells_eq {s : Sample} (plain : ∀ rows, s.reading ≠ .table rows) :
    historyCells s = some ((writtenRecord s).map csvCell) := by
  obtain ⟨sensor, ts, reading⟩ := s
  cases reading with
  | table rows => exact absurd rfl (plain rows)
  | scalar v => rfl
  | counter v => rfl
  | state v => rfl

theorem writtenRecord_eq_iff (s : Sample) :
    writtenRecord s = historyRecord s ↔ ∀ v, s.reading = .state v → Csv.Plain v.toList := by
  obtain ⟨sensor, ts, reading⟩ := s
  cases reading with
  | table rows => exact iff_of_true rfl (by simp)
  | scalar v => exact iff_of_true rfl (by simp)
  | counter v => exact iff_of_true rfl (by simp)
  | state v =>
      have fields : writtenRecord ⟨sensor, ts, .state v⟩ = historyRecord ⟨sensor, ts, .state v⟩ ↔
          csvCell v.toList = v.toList := by
        simp [writtenRecord, historyRecord, valueText]
      rw [fields, csvCell_eq_self_iff]
      constructor
      · rintro plain _ ⟨⟩
        exact plain
      · exact fun plain => plain v rfl

/-- Records of cells are read as the fields of these. -/
theorem read_records {header : List (List Char)} (plain : header.map csvCell = header)
    (filled : header ≠ []) {records : List (List (List Char))} (filled' : ∀ r ∈ records, r ≠ []) :
    Csv.read (writeRecord header ++ (records.map fun r => r.map csvCell).flatMap writeRecord) =
      some (header :: records) := by
  have cells (record : List (List Char)) : List.Forall₂ Csv.Cell record (record.map csvCell) := by
    rw [List.forall₂_map_right_iff, List.forall₂_same]
    exact fun field _ => cell_csvCell field
  have lines : List.Forall₂ (List.Forall₂ Csv.Cell) (header :: records)
      (header :: records.map fun r => r.map csvCell) := by
    refine .cons ?_ ?_
    · have whole := cells header
      rw [plain] at whole
      exact whole
    · rw [List.forall₂_map_right_iff, List.forall₂_same]
      exact fun record _ => cells record
  exact Csv.read_lines lines (List.forall_mem_cons.mpr ⟨filled, filled'⟩)

theorem writtenRecord_ne_nil (s : Sample) : writtenRecord s ≠ [] := by
  obtain ⟨sensor, ts, reading⟩ := s
  cases reading <;> simp [writtenRecord, historyRecord]

/-- The CSV output for some samples. -/
theorem read_history (serde : Serde) (sensor : String) (filled : samples ≠ [])
    (plain : ∀ s ∈ samples, ∀ rows, s.reading ≠ .table rows) :
    Csv.read (history serde sensor .csv samples) =
      some (historyHeader :: samples.map writtenRecord) := by
  have cells : samples.filterMap historyCells =
      (samples.map writtenRecord).map fun r => r.map csvCell := by
    rw [List.map_map, ← List.filterMap_eq_map]
    exact List.filterMap_congr fun s member => historyCells_eq (plain s member)
  have header : historyHeader.map csvCell = historyHeader := by decide
  have whole := @read_records historyHeader header (by decide) (samples.map writtenRecord)
    (by simp [writtenRecord_ne_nil])
  rw [← whole, history, if_neg (by simpa using filled), ← cells]
  rfl

/-- The message for no samples is not the header. -/
theorem message_not_header (serde : Serde) (sensor : String) :
    Csv.read (history serde sensor .csv []) ≠ some [historyHeader] := by
  intro read
  have message : history serde sensor .csv [] = 'N' :: ("o history data for '".toList ++
      sensor.toList ++ "' in the requested window.\n".toList) := rfl
  rw [message] at read
  obtain ⟨more, content⟩ := Csv.read_cons (by decide) read
  have same : some 't' = some 'N' := congrArg List.head? content
  exact absurd (Option.some.inj same) (by decide)

theorem historyCsvParses_iff (serde : Serde) (sensor : String)
    (plain : ∀ s ∈ samples, ∀ rows, s.reading ≠ .table rows) :
    HistoryCsvParses serde sensor samples ↔ samples ≠ [] ∧
      ∀ s ∈ samples, ∀ v, s.reading = .state v → Csv.Plain v.toList := by
  rw [HistoryCsvParses]
  by_cases filled : samples = []
  · subst filled
    exact iff_of_false (message_not_header serde sensor) (fun both => both.1 rfl)
  · rw [read_history serde sensor filled plain, Option.some.injEq, List.cons.injEq,
      List.map_inj_left]
    simp only [writtenRecord_eq_iff, ne_eq, filled, not_false_eq_true, true_and]

end Csv

section Json

variable {serde : Serde} {samples : List Sample}

/-- The members of the object of a sample, with the texts of their values. -/
def historyMembers (serde : Serde) (s : Sample) (value kind : List Char) :
    List (List Char × List Char) :=
  [("ts".toList, u64Text s.tsMicros), ("sensor".toList, serde.string s.sensor.asStr.toList),
    ("value".toList, value), ("kind".toList, '"' :: (kind ++ ['"']))]

theorem historyMembers_plain (serde : Serde) (s : Sample) (value kind : List Char) :
    ∀ m ∈ historyMembers serde s value kind, Json.Unescaped m.1 := by
  have names : ∀ name ∈ ["ts".toList, "sensor".toList, "value".toList, "kind".toList],
      Json.Unescaped name := by
    decide
  intro m member
  exact names m.1 (List.mem_map_of_mem member)

theorem historyObject_eq {s : Sample} {value kind : List Char}
    (found : historyValue serde s.reading = some (value, kind)) : historyObject serde s =
      some (' ' :: ' ' :: ('{' :: [','].intercalate ((historyMembers serde s value kind).map
        fun m => Json.memberText m.1 m.2) ++ ['}'])) := by
  rw [historyObject, found]
  simp [historyMembers, Json.memberText, List.intercalate]

/-- What is the same in all objects: the time, the sensor and the kind. -/
theorem good_members (documented : serde.Documented) (s : Sample) {kind : List Char}
    (plain : Json.Unescaped kind) (n : Nat) :
    Json.Good (Json.readValue (n + 1)) Json.Ends (u64Text s.tsMicros) (.number s.tsMicros) ∧
      Json.Good (Json.readValue (n + 1)) Json.Ends (serde.string s.sensor.asStr.toList)
        (.string s.sensor.asStr.toList) ∧
      Json.Good (Json.readValue (n + 1)) Json.Ends ('"' :: (kind ++ ['"'])) (.string kind) := by
  obtain ⟨body, text, read⟩ := documented.string s.sensor.asStr.toList
  refine ⟨Json.good_nat s.tsMicros, ?_, Json.good_string (fun rest => ?_) _⟩
  · rw [text]
    exact Json.good_string read _
  · rw [List.append_assoc]
    exact Json.readString_plain plain rest

/-- An object whose value is read stands for itself. -/
theorem stands_historyObject (documented : serde.Documented) (s : Sample) {value kind : List Char}
    {v : Json.Value} (plain : Json.Unescaped kind)
    (good : ∀ n, Json.Good (Json.readValue (n + 1)) Json.Ends value v) :
    Json.Stands (' ' :: ' ' :: ('{' :: [','].intercalate ((historyMembers serde s value kind).map
        fun m => Json.memberText m.1 m.2) ++ ['}']))
      (.object [("ts".toList, .number s.tsMicros),
        ("sensor".toList, .string s.sensor.asStr.toList), ("value".toList, v),
        ("kind".toList, .string kind)]) := by
  refine ⟨5, fun m order rest => ?_⟩
  obtain ⟨n, rfl⟩ := Nat.exists_eq_add_of_le' order
  obtain ⟨ts, sensor, last⟩ := good_members documented s plain (n + 3)
  have named (name : String) (plain : Json.Unescaped name.toList) :
      Json.Named name.toList name.toList := Json.readString_plain plain
  have object := Json.good_object
    (show List.Forall₂
        (fun m v => Json.Named m.1 v.1 ∧ Json.Good (Json.readValue (n + 4)) Json.Ends m.2 v.2)
        (historyMembers serde s value kind) [("ts".toList, .number s.tsMicros),
          ("sensor".toList, .string s.sensor.asStr.toList), ("value".toList, v),
          ("kind".toList, .string kind)] from
      .cons ⟨named "ts" (by decide), ts⟩ (.cons ⟨named "sensor" (by decide), sensor⟩
        (.cons ⟨named "value" (by decide), good (n + 3)⟩
          (.cons ⟨named "kind" (by decide), last⟩ .nil))))
    (by simp [historyMembers]) (by simp [historyMembers]) (fun _ => True)
  rw [List.cons_append, List.cons_append, Json.readValue_blank (by decide),
    Json.readValue_blank (by decide)]
  exact object rest trivial

/-- The object of a sample whose value is no infinity and no NaN carries it. -/
theorem historyObject_carries (documented : serde.Documented) {s : Sample} (exported : Exported s)
    (finite : ∀ v, s.reading = .scalar v → v.isFinite = true) :
    ∃ text v, historyObject serde s = some text ∧ Json.Stands text v ∧ HistoryCarries s v := by
  obtain ⟨sensor, ts, reading⟩ := s
  cases reading with
  | table rows => exact absurd rfl (exported.plain rows)
  | counter n =>
      exact ⟨_, _, historyObject_eq rfl, stands_historyObject documented _ (by decide)
        (fun _ => Json.good_nat n), rfl, rfl, rfl⟩
  | state v =>
      obtain ⟨body, text, read⟩ := documented.string v.toList
      refine ⟨_, _, historyObject_eq rfl, stands_historyObject documented _ (by decide)
        (fun n => ?_), rfl, rfl, rfl⟩
      rw [text]
      exact Json.good_string read _
  | scalar v =>
      cases v with
      | finite q =>
          obtain ⟨r, rounds, good⟩ := Json.good_display (exported.float q rfl)
          exact ⟨_, _, historyObject_eq rfl, stands_historyObject documented _ (by decide) good,
            rfl, rfl, r, rfl, rounds⟩
      | nan => cases finite .nan rfl
      | posInf => cases finite .posInf rfl
      | negInf => cases finite .negInf rfl

/-- The object of a sample with an infinity or a NaN is not read. -/
theorem historyObject_refused (documented : serde.Documented) {s : Sample} {v : Value}
    (scalar : s.reading = .scalar v) (infinite : v.isFinite = false) :
    ∃ text, historyObject serde s = some text ∧
      ∀ n rest, Json.readValue n (text ++ rest) = none := by
  have found : historyValue serde s.reading = some (v.display, "scalar".toList) := by
    rw [scalar]
    rfl
  have refused : ∀ n rest, Json.readValue n (v.display ++ rest) = none := by
    intro n rest
    cases v with
    | finite q => cases infinite
    | nan =>
        exact Json.readValue_none (by decide) rfl (Json.readNumber_none (by decide) _).1
    | posInf =>
        exact Json.readValue_none (by decide) rfl (Json.readNumber_none (by decide) _).1
    | negInf =>
        exact Json.readValue_none (by decide) rfl (Json.readNumber_none (by decide) _).2
  refine ⟨_, historyObject_eq found, fun n rest => ?_⟩
  have each : ∀ m ∈ historyMembers serde s v.display "scalar".toList, ∀ n,
      (∃ shown, Json.Good (Json.readValue n) Json.Ends m.2 shown) ∨
        ∀ rest, Json.readValue n (m.2 ++ rest) = none := by
    intro m member n
    cases n with
    | zero => exact .inr fun _ => rfl
    | succ n =>
        obtain ⟨ts, sensor, last⟩ :=
          good_members documented s (show Json.Unescaped "scalar".toList by decide) n
        simp only [historyMembers, List.mem_cons, List.not_mem_nil, or_false] at member
        rcases member with rfl | rfl | rfl | rfl
        · exact .inl ⟨_, ts⟩
        · exact .inl ⟨_, sensor⟩
        · exact .inr (refused (n + 1))
        · exact .inl ⟨_, last⟩
  rw [List.cons_append, List.cons_append, Json.readValue_blank (by decide),
    Json.readValue_blank (by decide), List.cons_append, List.cons_append, List.append_assoc,
    List.singleton_append, ← List.cons_append]
  exact Json.bad_object (historyMembers_plain serde s v.display "scalar".toList) each
    ⟨("value".toList, v.display), by simp [historyMembers], refused⟩ rest

theorem message_not_array (serde : Serde) (sensor : String) (v : Json.Value) :
    ¬ Json.Reads (history serde sensor .json []) v := by
  rintro ⟨n, rest, read, _⟩
  have message : history serde sensor .json [] = 'N' :: ("o history data for '".toList ++
      sensor.toList ++ "' in the requested window.\n".toList) := rfl
  rw [message, Json.readValue_none (by decide) (Json.skip_cons (by decide) _)
    (Json.readNumber_none (by decide) _).1] at read
  cases read

theorem historyJsonParses_iff (documented : serde.Documented) (sensor : String)
    (exported : ∀ s ∈ samples, Exported s) :
    HistoryJsonParses serde sensor samples ↔ samples ≠ [] ∧
      ∀ s ∈ samples, ∀ v, s.reading = .scalar v → v.isFinite = true := by
  have output (filled : samples ≠ []) : history serde sensor .json samples =
      Json.arrayText (samples.filterMap (historyObject serde)) := by
    rw [← writeArray_eq, history, if_neg (by simpa using filled)]
  constructor
  · rintro ⟨items, reads, _⟩
    have filled : samples ≠ [] := by
      rintro rfl
      exact message_not_array serde sensor _ reads
    refine ⟨filled, fun s member v scalar => ?_⟩
    by_contra infinite
    rw [Bool.not_eq_true] at infinite
    rw [output filled] at reads
    refine Json.not_reads_array ?_ ?_ ?_ _ reads
    · intro piece inside
      obtain ⟨other, among, object⟩ := List.mem_filterMap.mp inside
      by_cases finite : ∀ v, other.reading = .scalar v → v.isFinite = true
      · obtain ⟨text, shown, object', stands, _⟩ :=
          historyObject_carries documented (exported other among) finite
        rw [object, Option.some.injEq] at object'
        exact .inl ⟨shown, object' ▸ stands⟩
      · push Not at finite
        obtain ⟨v', scalar', infinite'⟩ := finite
        obtain ⟨text, object', refused⟩ :=
          historyObject_refused documented scalar' (Bool.not_eq_true _ ▸ infinite')
        rw [object, Option.some.injEq] at object'
        exact .inr (object' ▸ refused)
    · obtain ⟨text, object, refused⟩ := historyObject_refused documented scalar infinite
      exact ⟨text, List.mem_filterMap.mpr ⟨s, member, object⟩, refused⟩
    · intro piece inside rest
      obtain ⟨other, _, object⟩ := List.mem_filterMap.mp inside
      obtain ⟨found, value, rfl⟩ := Option.map_eq_some_iff.mp object
      have shown := historyObject_eq value
      rw [object, Option.some.injEq] at shown
      rw [shown]
      simp only [List.cons_append]
      rw [Json.skip_blank (by decide), Json.skip_blank (by decide), Json.skip_cons (by decide),
        List.head?_cons]
      decide
  · rintro ⟨filled, finite⟩
    obtain ⟨items, reads, carries⟩ := Json.exists_array fun s member =>
      historyObject_carries documented (exported s member) (finite s member)
    rw [← output filled] at reads
    exact ⟨items, reads, carries⟩

end Json

end LinSight.Cli
