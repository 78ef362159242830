import LinSight.Library.KeyMap
import LinSight.Protocol.Messages

set_option autoImplicit false

/-! The history database: what is recorded of a sample, and what a query reads back. -/

namespace LinSight

open DebugText (Message debugStr)

/-- What is kept of a sample. -/
structure HistoricSample where
  sensor : SensorId
  tsMicros : Nat
  scalar : Option Ieee.Value
  counter : Option Nat
  state : Option String
deriving DecidableEq

/-- `record`: tables are not kept. -/
def HistoricSample.ofSample (sample : Sample) : Option HistoricSample :=
  match sample.reading with
  | .scalar v => some ⟨sample.sensor, sample.tsMicros, some v, none, none⟩
  | .counter v => some ⟨sample.sensor, sample.tsMicros, none, some v, none⟩
  | .state v => some ⟨sample.sensor, sample.tsMicros, none, none, some v⟩
  | .table _ => none

def i64Bound : Nat := 9223372036854775808

/-- `as i64`. -/
def asI64 (n : Nat) : Int := if n < i64Bound then n else n - u64Bound

/-- `as u64`. -/
def asU64 (n : Int) : Nat := (n % u64Bound).toNat

/-- The columns that are not part of the primary key. -/
structure HistoryColumns where
  scalar : Option Ieee.Value
  counter : Option Int
  state : Option String
deriving DecidableEq

/-- The rows of `samples` by sensor and time. -/
abbrev HistoryTable := KeyMap (String × Int) HistoryColumns

/-- A NaN is stored as NULL. -/
def storedReal : Option Ieee.Value → Option Ieee.Value
  | some .nan => none
  | real => real

def HistoricSample.key (s : HistoricSample) : String × Int := (s.sensor.asStr, asI64 s.tsMicros)

def HistoricSample.columns (s : HistoricSample) : HistoryColumns :=
  ⟨storedReal s.scalar, s.counter.map asI64, s.state⟩

/-- One transaction of `INSERT OR REPLACE`. -/
def flushSamples (table : HistoryTable) (batch : List HistoricSample) : HistoryTable :=
  batch.foldl (fun table s => table.insert s.key s.columns) table

/-- How many points a query returns at most. -/
def queryLimit (maxPoints : Option Nat) : Nat := Nat.min (Nat.max (maxPoints.getD 500) 1) 10000

/-- The first row of each bucket, where the rows are spread over `limit` buckets. -/
def downsample {Row : Type} (limit : Nat) (ranked : List Row) : List Row :=
  let bucket (rank : Nat) := rank * limit / ranked.length
  let chosen := ranked.zipIdx.filter fun row =>
    (List.range row.2).all fun earlier => decide (bucket earlier ≠ bucket row.2)
  (chosen.map Prod.fst).take limit

/-- The rows of the sensor in the window by time. -/
def rankedRows (table : HistoryTable) (sensor : String) (sinceMicros untilMicros : Int) :
    List (Int × HistoryColumns) :=
  let rows := table.entries.filter fun row =>
    decide (row.1.1 = sensor ∧ sinceMicros ≤ row.1.2 ∧ row.1.2 ≤ untilMicros)
  (rows.map fun row => (row.1.2, row.2)).insertionSort fun a b => a.1 ≤ b.1

def decodeReading (columns : HistoryColumns) : Reading :=
  match columns.scalar, columns.counter, columns.state with
  | some v, _, _ => .scalar v
  | _, some v, _ => .counter (asU64 v)
  | _, _, some v => .state v
  | none, none, none => .scalar (.finite 0)

def decodeRow (sensor : SensorId) (row : Int × HistoryColumns) : Sample :=
  ⟨sensor, asU64 row.1, decodeReading row.2⟩

/-- `history::query`; `db` is an error where the database cannot be opened. -/
def queryHistory (db : Except String HistoryTable) (sensor : String)
    (sinceMicros untilMicros : Int) (maxPoints : Option Nat) : Except Message (List Sample) :=
  match SensorId.tryNew sensor with
  | .error _ => .error ("invalid sensor id for query: " ++ debugStr sensor)
  | .ok id =>
      match db with
      | .error e => .error e
      | .ok table =>
          .ok ((downsample (queryLimit maxPoints)
            (rankedRows table id.asStr sinceMicros untilMicros)).map (decodeRow id))

/-- The `GetHistory` request; `db` is `none` where history is not enabled. -/
def getHistory (db : Option (Except String HistoryTable)) (sensor : String)
    (sinceMicros untilMicros : Nat) (maxPoints : Option Nat) : Except ProtoError ResponsePayload :=
  match db with
  | none => .error ⟨.internal, "history not enabled on daemon"⟩
  | some db =>
      match queryHistory db sensor (asI64 sinceMicros) (asI64 untilMicros) maxPoints with
      | .ok samples => .ok (.history sensor samples)
      | .error e => .error ⟨.io, "history query failed: " ++ e⟩

section Casts

theorem asU64_asI64 {n : Nat} (small : n < u64Bound) : asU64 (asI64 n) = n := by
  simp only [asU64, asI64, i64Bound, u64Bound] at small ⊢
  omega

/-- Both numbers lie below the sign bit, or both from it on. -/
def SameHalf (a b : Nat) : Prop := a < i64Bound ↔ b < i64Bound

theorem asI64_window_iff {since until_ ts : Nat} (half : SameHalf since until_)
    (since_small : since < u64Bound) (until_small : until_ < u64Bound) (small : ts < u64Bound) :
    (asI64 since ≤ asI64 ts ∧ asI64 ts ≤ asI64 until_) ↔ since ≤ ts ∧ ts ≤ until_ := by
  simp only [SameHalf, asI64, i64Bound, u64Bound] at *
  split_ifs <;> omega

end Casts

section Downsample

variable {Row : Type}

theorem downsample_length_le (limit : Nat) (ranked : List Row) :
    (downsample limit ranked).length ≤ limit := by
  simp only [downsample, List.length_take]
  omega

/-- A window with no more rows than buckets is returned whole. -/
theorem downsample_eq_self {limit : Nat} {ranked : List Row} (few : ranked.length ≤ limit) :
    downsample limit ranked = ranked := by
  have apart : ∀ first second, first < second → second < ranked.length →
      first * limit / ranked.length ≠ second * limit / ranked.length := by
    intro first second order inside
    have later : first * limit + ranked.length ≤ second * limit := by
      calc first * limit + ranked.length ≤ first * limit + limit := by omega
        _ = (first + 1) * limit := by ring
        _ ≤ second * limit := Nat.mul_le_mul_right limit order
    have quotient := Nat.div_le_div_right (c := ranked.length) later
    rw [Nat.add_div_right _ (by omega)] at quotient
    omega
  have all : ranked.zipIdx.filter (fun row => (List.range row.2).all fun earlier =>
      decide (earlier * limit / ranked.length ≠ row.2 * limit / ranked.length)) =
      ranked.zipIdx := by
    rw [List.filter_eq_self]
    intro row member
    have inside := (List.mem_zipIdx member).2.1
    rw [List.all_eq_true]
    intro earlier before
    rw [decide_eq_true_eq]
    exact apart earlier row.2 (List.mem_range.mp before) (by omega)
  simp only [downsample, all, List.zipIdx_map_fst]
  exact List.take_of_length_le few

end Downsample

section Rows

theorem mem_rankedRows {table : HistoryTable} {sensor : String} {since until_ : Int}
    {row : Int × HistoryColumns} :
    row ∈ rankedRows table sensor since until_ ↔
      table.lookup (sensor, row.1) = some row.2 ∧ since ≤ row.1 ∧ row.1 ≤ until_ := by
  simp only [rankedRows, List.mem_insertionSort, List.mem_map, List.mem_filter, decide_eq_true_eq]
  constructor
  · intro found
    obtain ⟨⟨⟨owner, ts⟩, columns⟩, ⟨stored, rfl, low, high⟩, rfl⟩ := found
    exact ⟨(KeyMap.mem_entries_iff table _ _).mp stored, low, high⟩
  · intro found
    obtain ⟨stored, low, high⟩ := found
    exact ⟨⟨(sensor, row.1), row.2⟩,
      ⟨(KeyMap.mem_entries_iff table _ _).mpr stored, rfl, low, high⟩, rfl⟩

/-- The times of a sensor's rows are distinct, so the order is strict. -/
theorem rankedRows_ascending (table : HistoryTable) (sensor : String) (since until_ : Int) :
    (rankedRows table sensor since until_).Pairwise fun a b => a.1 < b.1 := by
  have sorted : (rankedRows table sensor since until_).Pairwise fun a b => a.1 ≤ b.1 := by
    have total : Std.Total fun a b : Int × HistoryColumns => a.1 ≤ b.1 :=
      ⟨fun a b => le_total a.1 b.1⟩
    have trans : IsTrans (Int × HistoryColumns) fun a b => a.1 ≤ b.1 :=
      ⟨fun _ _ _ first second => le_trans first second⟩
    exact List.pairwise_insertionSort _ _
  have distinct : (rankedRows table sensor since until_).Pairwise fun a b => a.1 ≠ b.1 := by
    have perm := List.perm_insertionSort (fun a b : Int × HistoryColumns => a.1 ≤ b.1)
      ((table.entries.filter fun row =>
        decide (row.1.1 = sensor ∧ since ≤ row.1.2 ∧ row.1.2 ≤ until_)).map
          fun row => (row.1.2, row.2))
    have symmetric : ∀ {a b : Int × HistoryColumns}, a.1 ≠ b.1 → b.1 ≠ a.1 :=
      fun differ same => differ same.symm
    refine (perm.pairwise_iff symmetric).mpr ?_
    rw [List.pairwise_map]
    have keys : table.entries.Pairwise fun a b => a.1 ≠ b.1 := List.pairwise_map.mp table.nodupKeys
    refine (keys.filter _).imp_of_mem ?_
    intro a b first second differ same
    apply differ
    have owner := (of_decide_eq_true (List.mem_filter.mp first).2).1
    have owner' := (of_decide_eq_true (List.mem_filter.mp second).2).1
    exact Prod.ext (owner.trans owner'.symm) same
  refine (sorted.and distinct).imp ?_
  intro a b both
  exact lt_of_le_of_ne both.1 both.2

end Rows

section RoundTrip

/-- The database after the batches. -/
def historyOf (batches : List (List HistoricSample)) : HistoryTable :=
  batches.foldl flushSamples ∅

/-- The recorded samples of the sensor in the window. -/
def recordedIn (samples : List Sample) (sensor : SensorId) (sinceMicros untilMicros : Nat) :
    List Sample :=
  samples.filter fun s => decide (s.sensor = sensor ∧ sinceMicros ≤ s.tsMicros ∧
    s.tsMicros ≤ untilMicros ∧ (HistoricSample.ofSample s).isSome = true)

/-- The numbers of the sample are `u64`s. -/
structure Sample.InRange (sample : Sample) : Prop where
  tsMicros : sample.tsMicros < u64Bound
  counter : ∀ v, sample.reading = .counter v → v < u64Bound

theorem decodeRow_columns {sample : Sample} {s : HistoricSample}
    (kept : HistoricSample.ofSample sample = some s) (range : sample.InRange)
    (number : sample.reading ≠ .scalar .nan) :
    decodeRow sample.sensor (s.key.2, s.columns) = sample := by
  obtain ⟨sensor, tsMicros, reading⟩ := sample
  have time := asU64_asI64 range.tsMicros
  cases reading with
  | scalar v =>
    cases kept
    cases v with
    | nan => exact absurd rfl number
    | finite q => simp only [decodeRow, HistoricSample.key, HistoricSample.columns, storedReal,
        decodeReading, time]
    | posInf => simp only [decodeRow, HistoricSample.key, HistoricSample.columns, storedReal,
        decodeReading, time]
    | negInf => simp only [decodeRow, HistoricSample.key, HistoricSample.columns, storedReal,
        decodeReading, time]
  | counter v =>
    cases kept
    have value := asU64_asI64 (range.counter v rfl)
    simp only [decodeRow, HistoricSample.key, HistoricSample.columns, storedReal,
      decodeReading, time, Option.map_some, value]
  | state v =>
    cases kept
    simp only [decodeRow, HistoricSample.key, HistoricSample.columns, storedReal,
      decodeReading, time, Option.map_none]
  | table rows => cases kept

theorem ofSample_sensor {sample : Sample} {s : HistoricSample}
    (kept : HistoricSample.ofSample sample = some s) :
    s.sensor = sample.sensor ∧ s.tsMicros = sample.tsMicros := by
  unfold HistoricSample.ofSample at kept
  split at kept <;> cases kept <;> exact ⟨rfl, rfl⟩

variable {samples : List Sample} {batches : List (List HistoricSample)}

/-- Whatever the batches, the table holds the rows of the recorded samples. -/
theorem lookup_historyOf
    (flushed : batches.flatten = samples.filterMap HistoricSample.ofSample)
    (distinct : (samples.map fun s => (s.sensor, s.tsMicros)).Nodup)
    (range : ∀ s ∈ samples, s.InRange) (key : String × Int) (columns : HistoryColumns) :
    (historyOf batches).lookup key = some columns ↔
      ∃ sample ∈ samples, ∃ s, HistoricSample.ofSample sample = some s ∧ s.key = key ∧
        s.columns = columns := by
  have rows : historyOf batches =
      (samples.filterMap HistoricSample.ofSample).foldl
        (fun table s => table.insert s.key s.columns) ∅ := by
    rw [← flushed, List.foldl_flatten]
    rfl
  have keys : ((samples.filterMap HistoricSample.ofSample).map HistoricSample.key).Nodup := by
    rw [List.Nodup, List.pairwise_map, List.pairwise_filterMap]
    refine (List.pairwise_map.mp distinct).imp_of_mem ?_
    intro first second member member' differ s kept s' kept' same
    apply differ
    have source := ofSample_sensor kept
    have source' := ofSample_sensor kept'
    have time := congrArg (fun key => asU64 key.2) same
    simp only [HistoricSample.key, source.2, source'.2,
      asU64_asI64 (range first member).tsMicros, asU64_asI64 (range second member').tsMicros]
      at time
    have owner := congrArg Prod.fst same
    simp only [HistoricSample.key, source.1, source'.1] at owner
    have sensor : first.sensor = second.sensor := by
      cases first_eq : first.sensor
      cases second_eq : second.sensor
      rw [first_eq, second_eq] at owner
      exact congrArg SensorId.mk owner
    rw [sensor, time]
  rw [rows, KeyMap.lookup_foldl_insert HistoricSample.key HistoricSample.columns keys]
  constructor
  · intro found
    rcases found with ⟨s, member, stored⟩ | ⟨_, stored⟩
    · obtain ⟨sample, inside, kept⟩ := List.mem_filterMap.mp member
      exact ⟨sample, inside, s, kept, stored⟩
    · cases stored
  · intro found
    obtain ⟨sample, inside, s, kept, stored⟩ := found
    exact .inl ⟨s, List.mem_filterMap.mpr ⟨sample, inside, kept⟩, stored⟩

/-- What was recorded in the window, once each and by time. -/
structure Retrieves (found recorded : List Sample) : Prop where
  complete : found.Perm recorded
  sorted : found.Pairwise fun a b => a.tsMicros < b.tsMicros

variable {sensor : SensorId} {sinceMicros untilMicros : Nat}

theorem rankedRows_retrieve
    (flushed : batches.flatten = samples.filterMap HistoricSample.ofSample)
    (distinct : (samples.map fun s => (s.sensor, s.tsMicros)).Nodup)
    (range : ∀ s ∈ samples, s.InRange)
    (window : sinceMicros < u64Bound ∧ untilMicros < u64Bound)
    (half : SameHalf sinceMicros untilMicros)
    (numbers : ∀ s ∈ recordedIn samples sensor sinceMicros untilMicros,
      s.reading ≠ .scalar .nan) :
    Retrieves ((rankedRows (historyOf batches) sensor.asStr (asI64 sinceMicros)
        (asI64 untilMicros)).map (decodeRow sensor))
      (recordedIn samples sensor sinceMicros untilMicros) := by
  have source : ∀ row ∈ rankedRows (historyOf batches) sensor.asStr (asI64 sinceMicros)
      (asI64 untilMicros), ∃ sample ∈ recordedIn samples sensor sinceMicros untilMicros,
        decodeRow sensor row = sample ∧ row.1 = asI64 sample.tsMicros := by
    intro row member
    obtain ⟨stored, low, high⟩ := mem_rankedRows.mp member
    obtain ⟨sample, inside, s, kept, key, columns⟩ :=
      (lookup_historyOf flushed distinct range _ _).mp stored
    have origin := ofSample_sensor kept
    have time : row.1 = asI64 sample.tsMicros := by
      rw [← origin.2]
      exact (congrArg Prod.snd key).symm
    have owner : sample.sensor = sensor := by
      have text : s.sensor.asStr = sensor.asStr := congrArg Prod.fst key
      rw [origin.1] at text
      exact congrArg SensorId.mk text
    rw [time] at low high
    have inWindow := (asI64_window_iff half window.1 window.2 (range sample inside).tsMicros).mp
      ⟨low, high⟩
    have recorded : sample ∈ recordedIn samples sensor sinceMicros untilMicros := by
      apply List.mem_filter.mpr
      exact ⟨inside, decide_eq_true ⟨owner, inWindow.1, inWindow.2, by rw [kept]; rfl⟩⟩
    have decoded := decodeRow_columns kept (range sample inside) (numbers sample recorded)
    rw [owner, columns, show s.key.2 = row.1 from congrArg Prod.snd key] at decoded
    exact ⟨sample, recorded, decoded, time⟩
  have sorted : ((rankedRows (historyOf batches) sensor.asStr (asI64 sinceMicros)
      (asI64 untilMicros)).map (decodeRow sensor)).Pairwise
        fun a b => a.tsMicros < b.tsMicros := by
    rw [List.pairwise_map]
    refine (rankedRows_ascending _ _ _ _).imp_of_mem ?_
    intro first second member member' order
    obtain ⟨sample, inside, decoded, time⟩ := source first member
    obtain ⟨sample', inside', decoded', time'⟩ := source second member'
    have listed := List.mem_filter.mp inside
    have listed' := List.mem_filter.mp inside'
    have bound := (range sample listed.1).tsMicros
    have bound' := (range sample' listed'.1).tsMicros
    obtain ⟨_, low, high, _⟩ := of_decide_eq_true listed.2
    obtain ⟨_, low', high', _⟩ := of_decide_eq_true listed'.2
    rw [decoded, decoded']
    rw [time, time'] at order
    simp only [SameHalf, asI64, i64Bound, u64Bound] at half order bound bound'
    split_ifs at order <;> omega
  refine ⟨?_, sorted⟩
  have nodup : ((rankedRows (historyOf batches) sensor.asStr (asI64 sinceMicros)
      (asI64 untilMicros)).map (decodeRow sensor)).Nodup :=
    sorted.imp fun order same => absurd order (by rw [same]; omega)
  have recorded_nodup : (recordedIn samples sensor sinceMicros untilMicros).Nodup :=
    (List.Nodup.of_map _ distinct).filter _
  rw [List.perm_ext_iff_of_nodup nodup recorded_nodup]
  intro sample
  constructor
  · intro member
    obtain ⟨row, inside, same⟩ := List.mem_map.mp member
    obtain ⟨recorded, listed, decoded, _⟩ := source row inside
    rw [← same, decoded]
    exact listed
  · intro member
    have listed := List.mem_filter.mp member
    obtain ⟨owner, low, high, some_kept⟩ := of_decide_eq_true listed.2
    obtain ⟨s, kept⟩ := Option.isSome_iff_exists.mp some_kept
    have origin := ofSample_sensor kept
    have bound := (range sample listed.1).tsMicros
    have inWindow := (asI64_window_iff half window.1 window.2 bound).mpr ⟨low, high⟩
    have key : s.key = (sensor.asStr, asI64 sample.tsMicros) := by
      rw [HistoricSample.key, origin.1, origin.2, owner]
    have stored : (historyOf batches).lookup (sensor.asStr, asI64 sample.tsMicros) =
        some s.columns :=
      (lookup_historyOf flushed distinct range _ _).mpr ⟨sample, listed.1, s, kept, key, rfl⟩
    have decoded := decodeRow_columns kept (range sample listed.1) (numbers sample member)
    rw [owner, key] at decoded
    rw [← decoded]
    exact List.mem_map_of_mem (mem_rankedRows.mpr ⟨stored, inWindow⟩)

/-- A window that neither mixes halves of the range nor has a NaN comes back whole, where
the query may return as many points. -/
theorem history_retrieves
    (flushed : batches.flatten = samples.filterMap HistoricSample.ofSample)
    (distinct : (samples.map fun s => (s.sensor, s.tsMicros)).Nodup)
    (range : ∀ s ∈ samples, s.InRange) (valid : SensorId.tryNew sensor.asStr = .ok sensor)
    (window : sinceMicros < u64Bound ∧ untilMicros < u64Bound) {maxPoints : Option Nat}
    (few : (recordedIn samples sensor sinceMicros untilMicros).length ≤ queryLimit maxPoints)
    (half : SameHalf sinceMicros untilMicros)
    (numbers : ∀ s ∈ recordedIn samples sensor sinceMicros untilMicros,
      s.reading ≠ .scalar .nan) :
    ∃ found, getHistory (some (.ok (historyOf batches))) sensor.asStr sinceMicros untilMicros
        maxPoints = .ok (.history sensor.asStr found) ∧
      Retrieves found (recordedIn samples sensor sinceMicros untilMicros) := by
  have whole := rankedRows_retrieve flushed distinct range window half numbers
  have length := whole.complete.length_eq
  rw [List.length_map] at length
  refine ⟨_, ?_, whole⟩
  simp only [getHistory, queryHistory, valid, downsample_eq_self (length.le.trans few)]

/-- A window that starts in the lower half and ends in the upper one finds nothing. -/
theorem rankedRows_open_ended (table : HistoryTable) (sensor : String)
    {sinceMicros untilMicros : Nat} (low : sinceMicros < i64Bound)
    (high : i64Bound ≤ untilMicros) (bound : untilMicros < u64Bound) :
    rankedRows table sensor (asI64 sinceMicros) (asI64 untilMicros) = [] := by
  rw [List.eq_nil_iff_forall_not_mem]
  intro row member
  obtain ⟨_, after, before⟩ := mem_rankedRows.mp member
  simp only [asI64, i64Bound, u64Bound] at low high bound after before
  omega

/-- A NaN comes back as zero. -/
theorem decodeRow_nan (sensor : SensorId) (tsMicros : Nat) {s : HistoricSample}
    (kept : HistoricSample.ofSample ⟨sensor, tsMicros, .scalar .nan⟩ = some s) :
    decodeReading s.columns = .scalar (.finite 0) := by
  cases kept
  rfl

section Examples

def powerSensor : SensorId := ⟨"gpu.power"⟩

def powerSamples : List Sample :=
  [⟨powerSensor, 9, .state "idle"⟩, ⟨powerSensor, 5, .counter 3⟩, ⟨powerSensor, 20, .counter 4⟩]

theorem history_retrieves_power :
    ∃ found, getHistory (some (.ok (historyOf [powerSamples.filterMap HistoricSample.ofSample])))
        "gpu.power" 5 10 (some 2) = .ok (.history "gpu.power" found) ∧
      Retrieves found (recordedIn powerSamples powerSensor 5 10) := by
  have range : ∀ s ∈ powerSamples, s.InRange := by
    intro s member
    simp only [powerSamples, List.mem_cons, List.not_mem_nil, or_false] at member
    rcases member with rfl | rfl | rfl <;> constructor <;> simp [u64Bound]
  have numbers : ∀ s ∈ recordedIn powerSamples powerSensor 5 10, s.reading ≠ .scalar .nan := by
    decide
  exact history_retrieves rfl (by decide) range rfl (by decide) (by decide)
    (by simp [SameHalf, i64Bound]) numbers

def manySamples : List Sample :=
  (List.range 10001).map fun ts => ⟨powerSensor, ts, .counter 0⟩

/-- Of 10001 samples no more than 10000 are returned, whatever the request allows. -/
theorem history_capped : ¬ ∀ (samples : List Sample) (batches : List (List HistoricSample))
      (sensor : SensorId) (sinceMicros untilMicros maxPoints : Nat),
    batches.flatten = samples.filterMap HistoricSample.ofSample →
    (samples.map fun s => (s.sensor, s.tsMicros)).Nodup → (∀ s ∈ samples, s.InRange) →
    SensorId.tryNew sensor.asStr = .ok sensor →
    sinceMicros < u64Bound ∧ untilMicros < u64Bound →
    (recordedIn samples sensor sinceMicros untilMicros).length ≤ maxPoints →
    ∃ found, getHistory (some (.ok (historyOf batches))) sensor.asStr sinceMicros untilMicros
        (some maxPoints) = .ok (.history sensor.asStr found) ∧
      Retrieves found (recordedIn samples sensor sinceMicros untilMicros) := by
  intro claim
  have all : recordedIn manySamples powerSensor 0 10000 = manySamples := by
    rw [recordedIn, List.filter_eq_self]
    intro s member
    obtain ⟨ts, inside, rfl⟩ := List.mem_map.mp member
    have bound := List.mem_range.mp inside
    have upper : ts ≤ 10000 := by omega
    exact decide_eq_true ⟨rfl, Nat.zero_le ts, upper, rfl⟩
  have count : manySamples.length = 10001 := by
    rw [manySamples, List.length_map, List.length_range]
  have distinct : (manySamples.map fun s => (s.sensor, s.tsMicros)).Nodup := by
    rw [manySamples, List.map_map]
    exact List.nodup_range.map fun first second same => (Prod.mk.inj same).2
  have range : ∀ s ∈ manySamples, s.InRange := by
    intro s member
    obtain ⟨ts, inside, rfl⟩ := List.mem_map.mp member
    have bound := List.mem_range.mp inside
    refine ⟨?_, ?_⟩
    · show ts < u64Bound
      simp only [u64Bound]
      omega
    · intro v same
      cases same
      decide
  obtain ⟨found, answered, retrieves⟩ := claim manySamples
    [manySamples.filterMap HistoricSample.ofSample] powerSensor 0 10000 10001 (by simp) distinct range rfl
    (by decide) (by rw [all, count])
  have length := retrieves.complete.length_eq
  rw [all, count] at length
  have capped : found.length ≤ 10000 := by
    have valid : SensorId.tryNew powerSensor.asStr = .ok powerSensor := rfl
    simp only [getHistory, queryHistory, valid, Except.ok.injEq, ResponsePayload.history.injEq,
      true_and] at answered
    rw [← answered, List.length_map]
    exact downsample_length_le _ _
  omega

end Examples

end RoundTrip

end LinSight
