import LinSight.Gui.Rates
import LinSight.Library.Rounding

set_option autoImplicit false

/-! What the network and disk rates are of the samples, over any sequence of batches. -/

namespace LinSight.Gui

open Ieee (Value binary64)

/-- The sample state with the tables of the rates. -/
structure Meter where
  state : SampleState
  netPrev : KeyMap String (Nat × Nat)
  disk : DiskTables

def Meter.start (sensorInfos : List SensorInfo) : Meter :=
  ⟨buildSampleState sensorInfos, ∅, ⟨∅, ∅⟩⟩

section Ticks

variable (format : Format) (speed : String → Value)

def Meter.applied (meter : Meter) (batch : List Sample) : SampleState :=
  (takeDirtyTilesJson (batch.foldl (applySample format) meter.state)).2

/-- A batch of samples is applied, and the rates are computed. -/
def Meter.tick (meter : Meter) (batch : List Sample) :
    (KeyMap String NetworkInterfaceJson × KeyMap String DiskRateJson) × Meter :=
  let state := meter.applied format batch
  let network := computeNetworkRates speed state meter.netPrev
  let disk := computeDiskRates state meter.disk
  ((network.1, disk.1), ⟨state, network.2, disk.2⟩)

def Meter.run (meter : Meter) (batches : List (List Sample)) : Meter :=
  batches.foldl (fun meter batch => (meter.tick format speed batch).2) meter

/-- The timestamp and the raw rate of a disk counter in a batch. -/
def Meter.measure (meter : Meter) (id : String) (batch : List Sample) : Nat × Value :=
  match (meter.applied format batch).tiles.lookup id with
  | some tile => (tile.lastTsMicros, meter.disk.rawRate id tile)
  | none => (0, .finite 0)

/-- Those of all batches. -/
def Meter.measures (id : String) : Meter → List (List Sample) → List (Nat × Value)
  | _, [] => []
  | meter, batch :: rest =>
      meter.measure format id batch :: measures id (meter.tick format speed batch).2 rest

end Ticks

/-- The last rate that was not zero. -/
def lastNonZero (measures : List (Nat × Value)) : Option (Nat × Value) :=
  (measures.filter fun measured => (Value.finite 0).lt measured.2).getLast?

def counterOf (id : String) (sample : Sample) : Option (Nat × Nat) :=
  match sample.reading with
  | .counter v => if sample.sensor.asStr = id then some (sample.tsMicros, v) else none
  | _ => none

/-- The samples of a counter, as timestamp and value. -/
def samplesOf (id : String) (samples : List Sample) : List (Nat × Nat) :=
  samples.filterMap (counterOf id)

def IsCounter (id : String) : Prop :=
  (∃ iface, ∃ m : NetMetric, netSensor id = some (iface, m.name)) ∨ isDiskCounter id = true

/-- The timestamps of each sensor increase strictly, and the counters carry counters. -/
structure Metered (samples : List Sample) : Prop where
  times : ∀ s ∈ samples, s.tsMicros < u64Bound
  values : ∀ s ∈ samples, ∀ v, s.reading = .counter v → v < u64Bound
  increasing : ∀ id, ((samples.filter fun s => s.sensor.asStr = id).map
    Sample.tsMicros).Pairwise (· < ·)
  counters : ∀ s ∈ samples, IsCounter s.sensor.asStr → ∃ v, s.reading = .counter v

/-- What a tile keeps of the last sample. -/
def TileJson.stamp (tile : TileJson) : Nat × Nat := (tile.lastTsMicros, tile.lastRawValue)

/-- The last sample of a counter; its tile begins with zeros. -/
def stampOf (id : String) (samples : List Sample) : Nat × Nat :=
  (samplesOf id samples).getLast?.getD (0, 0)

/-- What the last two of the samples come to. -/
def slope : List (Nat × Nat) → Value
  | q :: p :: _ => perSecond (q.2 - p.2) (q.1 - p.1)
  | _ => .finite 0

/-- The rate that the last two samples of a counter ask for. -/
def sampleRate (id : String) (samples : List Sample) : Value := slope (samplesOf id samples).reverse

/-- The rate over a batch, from what its tile had before the batch. -/
def batchRate (id : String) (earlier : List (List Sample)) (batch : List Sample) : Value :=
  match (samplesOf id batch).reverse with
  | [] => .finite 0
  | q :: _ =>
      let base := stampOf id earlier.flatten
      if earlier = [] ∨ q.1 = 0 then .finite 0 else perSecond (q.2 - base.2) (q.1 - base.1)

/-- The last two samples show an increase. -/
def Grown : List (Nat × Nat) → Prop
  | q :: p :: _ => p.2 < q.2
  | _ => False

/-- A batch brings one sample of the counter, and is the first batch or the counter has been
sampled before; or it brings none, and the counter stands still so far. Where a first sample
comes in a later batch it is a zero, and where several come at once there is one slope. -/
def Steady (id : String) (earlier : List (List Sample)) (batch : List Sample) : Prop :=
  match (samplesOf id batch).reverse with
  | [] => ¬ Grown (samplesOf id earlier.flatten).reverse
  | [q] => earlier = [] ∨ samplesOf id earlier.flatten ≠ [] ∨ q.1 = 0 ∨ q.2 = 0
  | q :: p :: _ =>
      let base := stampOf id earlier.flatten
      if earlier = [] then q.2 ≤ p.2
      else perSecond (q.2 - base.2) (q.1 - base.1) = perSecond (q.2 - p.2) (q.1 - p.1)

section Slopes

theorem perSecond_eq_zero_iff {deltaVal deltaUs : Nat} (value : deltaVal < 2 ^ 64)
    (positive : 0 < deltaUs) (time : deltaUs < 2 ^ 64) :
    perSecond deltaVal deltaUs = .finite 0 ↔ deltaVal = 0 := by
  have bounds {n : Nat} (some_of : 0 < n) (small : n < 2 ^ 64) :
      (2 : ℚ) ^ (0 : Int) ≤ n ∧ (n : ℚ) ≤ 2 ^ (64 : Int) := by
    refine ⟨by rw [zpow_zero]; exact_mod_cast some_of, ?_⟩
    exact_mod_cast small.le
  obtain ⟨u, round_u, u_low, u_high⟩ := Ieee.round_within (bounds positive time).1
    (bounds positive time).2 (by decide) (by decide)
  have u_pos : 0 < u := lt_of_lt_of_le (by positivity) u_low
  obtain ⟨s, round_s, s_low, s_high⟩ : ∃ r, binary64.round (u / 1000000) = .finite r ∧
      2 ^ (-20 : Int) ≤ r ∧ r ≤ (2 : ℚ) ^ (64 : Int) := by
    apply Ieee.round_within _ _ (by decide) (by decide)
    · rw [zpow_zero] at u_low
      rw [le_div_iff₀ (by norm_num)]
      exact le_trans (by norm_num) u_low
    · exact (div_le_self u_pos.le (by norm_num)).trans u_high
  have s_pos : 0 < s := lt_of_lt_of_le (by positivity) s_low
  have unfolded {v : ℚ} (round_v : binary64.round (deltaVal : ℚ) = .finite v) :
      perSecond deltaVal deltaUs = binary64.round (v / s) := by
    have seconds : binary64.div (.finite u) (.finite 1000000) = .finite s := by
      simp only [Ieee.Format.div]
      rw [if_neg (by norm_num), round_s]
    rw [perSecond, round_v, round_u, seconds]
    simp only [Ieee.Format.div]
    rw [if_neg s_pos.ne']
  rcases Nat.eq_zero_or_pos deltaVal with rfl | grown
  · have none : binary64.round ((0 : Nat) : ℚ) = .finite ((0 : Nat) : ℚ) :=
      Ieee.round_nat (Nat.zero_le _)
    refine iff_of_true ?_ rfl
    rw [unfolded none, Nat.cast_zero, zero_div]
    simpa only [Nat.cast_zero] using none
  · obtain ⟨v, round_v, v_low, v_high⟩ := Ieee.round_within (bounds grown value).1
      (bounds grown value).2 (by decide) (by decide)
    obtain ⟨r, round_r, r_low, _⟩ : ∃ r, binary64.round (v / s) = .finite r ∧
        2 ^ (-64 : Int) ≤ r ∧ r ≤ (2 : ℚ) ^ (84 : Int) := by
      apply Ieee.round_within _ _ (by decide) (by decide)
      · rw [le_div_iff₀ s_pos]
        calc (2 : ℚ) ^ (-64 : Int) * s ≤ 2 ^ (-64 : Int) * 2 ^ (64 : Int) := by gcongr
          _ = 2 ^ (0 : Int) := by norm_num
          _ ≤ v := v_low
      · rw [div_le_iff₀ s_pos]
        calc v ≤ 2 ^ (64 : Int) := v_high
          _ = 2 ^ (84 : Int) * 2 ^ (-20 : Int) := by norm_num
          _ ≤ 2 ^ (84 : Int) * s := by gcongr
    have r_pos : 0 < r := lt_of_lt_of_le (by positivity) r_low
    refine iff_of_false ?_ grown.ne'
    rw [unfolded round_v, round_r]
    exact fun same => r_pos.ne' (Value.finite.inj same)

end Slopes

section Samples

variable {format : Format} {state : SampleState} {id : String} {tile : TileJson}

theorem samplesOf_append (front back : List Sample) :
    samplesOf id (front ++ back) = samplesOf id front ++ samplesOf id back :=
  List.filterMap_append

theorem counterOf_other {s : Sample} (differ : s.sensor.asStr ≠ id) : counterOf id s = none := by
  unfold counterOf
  split
  · exact if_neg differ
  · rfl

theorem times_sublist (samples : List Sample) :
    ((samplesOf id samples).map Prod.fst).Sublist
      ((samples.filter fun s => s.sensor.asStr = id).map Sample.tsMicros) := by
  induction samples with
  | nil => exact List.Sublist.refl []
  | cons s rest ih =>
      by_cases here : s.sensor.asStr = id
      · have kept : (s :: rest).filter (fun s => decide (s.sensor.asStr = id)) =
            s :: rest.filter fun s => decide (s.sensor.asStr = id) :=
          List.filter_cons_of_pos (decide_eq_true here)
        rw [kept, List.map_cons]
        cases reading : s.reading with
        | counter v =>
            have taken : counterOf id s = some (s.tsMicros, v) := by
              simp only [counterOf, reading, here, if_true]
            rw [samplesOf, List.filterMap_cons_some taken, List.map_cons]
            exact ih.cons_cons _
        | _ =>
            have skipped : counterOf id s = none := by simp only [counterOf, reading]
            rw [samplesOf, List.filterMap_cons_none skipped]
            exact ih.cons _
      · rw [samplesOf, List.filterMap_cons_none (counterOf_other here),
          List.filter_cons_of_neg (by simpa using here)]
        exact ih

theorem stampOf_append (front back : List Sample) :
    stampOf id (front ++ back) = (samplesOf id back).getLast?.getD (stampOf id front) := by
  rw [stampOf, samplesOf_append, List.getLast?_append]
  cases (samplesOf id back).getLast? <;> rfl

/-- A tile has the last of its samples. -/
theorem stamp_foldl {samples : List Sample}
    (counters : ∀ s ∈ samples, s.sensor.asStr = id → ∃ v, s.reading = .counter v)
    (found : state.tiles.lookup id = some tile) :
    ∃ after, (samples.foldl (applySample format) state).tiles.lookup id = some after ∧
      after.stamp = (samplesOf id samples).getLast?.getD tile.stamp := by
  induction samples using List.reverseRecOn with
  | nil => exact ⟨tile, found, rfl⟩
  | append_singleton front s ih =>
      obtain ⟨before, there, stamp⟩ :=
        ih fun other member => counters other (List.mem_append_left _ member)
      rw [List.foldl_append, List.foldl_cons, List.foldl_nil, samplesOf_append]
      by_cases here : s.sensor.asStr = id
      · obtain ⟨v, reading⟩ := counters s (List.mem_append_right _ (List.mem_singleton.mpr rfl)) here
        have last : samplesOf id [s] = [(s.tsMicros, v)] := by
          simp only [samplesOf, counterOf, reading, here, if_true, List.filterMap_cons,
            List.filterMap_nil]
        refine ⟨sampledTile format (front.foldl (applySample format) state) s before, ?_, ?_⟩
        · rw [applySample, here, there]
          exact AList.lookup_insert _
        · rw [last, List.getLast?_append, List.getLast?_singleton, Option.some_or, Option.getD_some]
          simp only [TileJson.stamp, sampledTile, reading]
      · have skipped : samplesOf id [s] = [] := by
          rw [samplesOf, List.filterMap_cons_none (counterOf_other here), List.filterMap_nil]
        refine ⟨before, ?_, ?_⟩
        · unfold applySample
          split
          · exact (AList.lookup_insert_ne (Ne.symm here)).trans there
          · exact there
        · rw [skipped, List.append_nil]
          exact stamp

theorem device_applySample (s : Sample) :
    ((applySample format state s).tiles.lookup id).map TileJson.device =
      (state.tiles.lookup id).map TileJson.device := by
  unfold applySample
  split
  · rename_i tile found
    rw [KeyMap.lookup_insert_eq]
    split
    · rename_i here
      rw [here, found]
      rfl
    · rfl
  · rfl

theorem device_foldl (samples : List Sample) :
    ((samples.foldl (applySample format) state).tiles.lookup id).map TileJson.device =
      (state.tiles.lookup id).map TileJson.device := by
  induction samples generalizing state with
  | nil => rfl
  | cons s rest ih => exact ih.trans (device_applySample s)

theorem diskPlace_congr {other : SampleState}
    (same : (state.tiles.lookup id).map TileJson.device =
      (other.tiles.lookup id).map TileJson.device) : diskPlace state id = diskPlace other id := by
  have by_device (state : SampleState) : diskPlace state id = (diskSensor id).bind fun m =>
      ((state.tiles.lookup id).map TileJson.device).bind fun device =>
        (device.filter fun device => !device.toList.isEmpty).map fun device => (device, m) := by
    unfold diskPlace
    cases state.tiles.lookup id <;> rfl
  rw [by_device, by_device, same]

theorem stamp_buildSampleState {sensorInfos : List SensorInfo}
    (found : (buildSampleState sensorInfos).tiles.lookup id = some tile) : tile.stamp = (0, 0) := by
  unfold buildSampleState at found
  dsimp only at found
  induction sensorInfos using List.reverseRecOn with
  | nil => cases found
  | append_singleton front info ih =>
      rw [List.foldl_append, List.foldl_cons, List.foldl_nil, KeyMap.lookup_insert_eq] at found
      split at found
      · cases found
        rfl
      · exact ih found

end Samples

section Runs

variable {format : Format} {speed : String → Value} {sensorInfos : List SensorInfo}
  {earlier : List (List Sample)} {batch : List Sample} {id : String} {first : TileJson}

theorem Metered.front {front back : List Sample} (metered : Metered (front ++ back)) :
    Metered front where
  times s member := metered.times s (List.mem_append_left _ member)
  values s member := metered.values s (List.mem_append_left _ member)
  increasing sensor := by
    have whole := metered.increasing sensor
    rw [List.filter_append, List.map_append] at whole
    exact (List.pairwise_append.mp whole).1
  counters s member := metered.counters s (List.mem_append_left _ member)

theorem Metered.before (metered : Metered (earlier ++ [batch]).flatten) :
    Metered earlier.flatten := by
  rw [List.flatten_append] at metered
  exact metered.front

theorem stampOf_eq (samples : List Sample) :
    stampOf id samples = (samplesOf id samples).reverse.head?.getD (0, 0) := by
  rw [stampOf, List.head?_reverse]

/-- Newest first, the timestamps of a counter decrease strictly. -/
theorem Metered.descending (metered : Metered (earlier ++ [batch]).flatten) :
    ((samplesOf id batch).reverse ++ (samplesOf id earlier.flatten).reverse).Pairwise
      fun q p => p.1 < q.1 := by
  have increasing := (metered.increasing id).sublist (times_sublist _)
  rw [List.flatten_append, List.flatten_singleton, samplesOf_append, List.pairwise_map] at increasing
  rw [← List.reverse_append, List.pairwise_reverse]
  exact increasing

theorem counterRate_eq_batchRate {prev : Option (Nat × Nat)} {ts raw : Nat}
    (metered : Metered (earlier ++ [batch]).flatten)
    (seen : prev = if earlier = [] then none else some (stampOf id earlier.flatten))
    (now : (ts, raw) = stampOf id (earlier.flatten ++ batch)) :
    counterRate prev ts raw = batchRate id earlier batch := by
  have descending := @metered.descending _ _ id
  rw [stampOf_append, ← List.head?_reverse] at now
  unfold batchRate
  cases new : (samplesOf id batch).reverse with
  | nil =>
      rw [new, List.head?_nil, Option.getD_none] at now
      by_cases first : earlier = []
      · rw [seen, if_pos first]
        exact ite_self _
      · rw [seen, if_neg first, ← now]
        simp only [counterRate, Nat.sub_self, Nat.lt_irrefl, if_false, ite_self]
  | cons q rest =>
      rw [new, List.head?_cons, Option.getD_some] at now
      cases now
      by_cases first : earlier = []
      · rw [seen, if_pos first]
        simp only [first, true_or, if_true]
        exact ite_self _
      · rw [seen, if_neg first]
        simp only [counterRate, first, false_or]
        by_cases zero : ts = 0
        · rw [if_pos zero, if_pos zero]
        · have later : (stampOf id earlier.flatten).1 < ts := by
            rw [stampOf_eq]
            cases old : (samplesOf id earlier.flatten).reverse with
            | nil => exact Nat.pos_of_ne_zero zero
            | cons p others =>
                rw [new, old] at descending
                exact (List.pairwise_append.mp descending).2.2 _ List.mem_cons_self _
                  List.mem_cons_self
          rw [if_neg zero, if_neg zero, if_pos (by omega)]

theorem Meter.run_concat (meter : Meter) :
    meter.run format speed (earlier ++ [batch]) =
      ((meter.run format speed earlier).tick format speed batch).2 := by
  rw [Meter.run, List.foldl_append]
  rfl

theorem device_run : (((Meter.start sensorInfos).run format speed earlier).state.tiles.lookup
    id).map TileJson.device = ((buildSampleState sensorInfos).tiles.lookup id).map
      TileJson.device := by
  induction earlier using List.reverseRecOn with
  | nil => rfl
  | append_singleton front last ih =>
      rw [Meter.run_concat]
      exact (device_foldl last).trans ih

theorem diskPlace_run (format : Format) (speed : String → Value) (sensorInfos : List SensorInfo)
    (earlier : List (List Sample)) (batch : List Sample) (id : String) :
    diskPlace (((Meter.start sensorInfos).run format speed earlier).applied format batch) id =
      diskPlace (buildSampleState sensorInfos) id :=
  diskPlace_congr ((device_foldl batch).trans (@device_run format speed sensorInfos earlier id))

/-- The tile of a counter in a run, and in the next batch. -/
theorem run_tile (metered : Metered (earlier ++ [batch]).flatten) (counter : IsCounter id)
    (found : (buildSampleState sensorInfos).tiles.lookup id = some first) :
    ∃ tile, (((Meter.start sensorInfos).run format speed earlier).applied format batch).tiles.lookup
        id = some tile ∧ tile.stamp = stampOf id (earlier.flatten ++ batch) := by
  induction earlier using List.reverseRecOn generalizing batch with
  | nil =>
      have counters : ∀ s ∈ batch, s.sensor.asStr = id → ∃ v, s.reading = .counter v := by
        intro s member here
        exact metered.counters s (by simpa using member) (here ▸ counter)
      obtain ⟨tile, there, stamp⟩ := @stamp_foldl format _ id first batch counters found
      refine ⟨tile, there, ?_⟩
      rw [stamp, stamp_buildSampleState found]
      rfl
  | append_singleton front middle ih =>
      have counters : ∀ s ∈ batch, s.sensor.asStr = id → ∃ v, s.reading = .counter v := by
        intro s member here
        refine metered.counters s ?_ (here ▸ counter)
        rw [List.flatten_append]
        exact List.mem_append_right _ (by simpa using member)
      obtain ⟨before, there, stamp⟩ := ih metered.before
      rw [Meter.run_concat]
      obtain ⟨tile, inside, last⟩ := @stamp_foldl format _ id before batch counters there
      refine ⟨tile, inside, ?_⟩
      rw [last, stamp, List.flatten_append, List.flatten_singleton, ← stampOf_append]

theorem run_netPrev (metered : Metered earlier.flatten) {iface : String} {m : NetMetric}
    (sensor : netSensor id = some (iface, m.name))
    (found : (buildSampleState sensorInfos).tiles.lookup id = some first) :
    ((Meter.start sensorInfos).run format speed earlier).netPrev.lookup id =
      if earlier = [] then none else some (stampOf id earlier.flatten) := by
  cases earlier using List.reverseRecOn with
  | nil => rfl
  | append_singleton front last =>
      obtain ⟨tile, there, stamp⟩ := @run_tile format speed sensorInfos front last id first
        metered (.inl ⟨iface, m, sensor⟩) found
      rw [Meter.run_concat, if_neg (List.concat_ne_nil _ _), List.flatten_append, List.flatten_singleton,
        ← stamp]
      exact (computeNetworkRates_counter sensor there).1

theorem measures_concat (meter : Meter) :
    meter.measures format speed id (earlier ++ [batch]) =
      meter.measures format speed id earlier ++
        [(meter.run format speed earlier).measure format id batch] := by
  induction earlier generalizing meter with
  | nil => rfl
  | cons first rest ih =>
      rw [List.cons_append, Meter.measures, ih, Meter.measures, List.cons_append]
      rfl

theorem lastNonZero_concat (measures : List (Nat × Value)) (last : Nat × Value) :
    lastNonZero (measures ++ [last]) =
      if (Value.finite 0).lt last.2 then some last else lastNonZero measures := by
  unfold lastNonZero
  rw [List.filter_append, List.getLast?_append]
  by_cases positive : (Value.finite 0).lt last.2 = true
  · simp [positive]
  · simp [positive]

/-- What the tables have of a counter in a run. -/
theorem run_disk (metered : Metered earlier.flatten) {place : String × DiskMetric}
    (there : diskPlace (buildSampleState sensorInfos) id = some place) :
    ((Meter.start sensorInfos).run format speed earlier).disk.prev.lookup id =
        (if earlier = [] then none else some (stampOf id earlier.flatten)) ∧
      ((Meter.start sensorInfos).run format speed earlier).disk.hold.lookup id =
        lastNonZero (Meter.measures format speed id (Meter.start sensorInfos) earlier) := by
  obtain ⟨counter, first, found⟩ := counter_of_diskPlace there
  induction earlier using List.reverseRecOn with
  | nil => exact ⟨rfl, rfl⟩
  | append_singleton front last ih =>
      obtain ⟨prev, hold⟩ := ih metered.before
      obtain ⟨tile, inside, stamp⟩ := @run_tile format speed sensorInfos front last id first
        metered (.inr counter) found
      have same := (diskPlace_run format speed sensorInfos front last id).trans there
      obtain ⟨kept, held⟩ := @computeDiskRates_tables _ _ _ _ tile
        ((Meter.start sensorInfos).run format speed front).disk same inside
      rw [Meter.run_concat, measures_concat, lastNonZero_concat]
      constructor
      · rw [if_neg (List.concat_ne_nil _ _), List.flatten_append, List.flatten_singleton, ← stamp]
        exact kept
      · rw [← hold, Meter.measure, inside]
        exact held

/-- The raw rate that is measured of a disk counter. -/
theorem measure_eq (metered : Metered (earlier ++ [batch]).flatten)
    {place : String × DiskMetric} (there : diskPlace (buildSampleState sensorInfos) id = some place) :
    ((Meter.start sensorInfos).run format speed earlier).measure format id batch =
      ((stampOf id (earlier.flatten ++ batch)).1, batchRate id earlier batch) := by
  obtain ⟨counter, first, found⟩ := counter_of_diskPlace there
  obtain ⟨tile, inside, stamp⟩ := @run_tile format speed sensorInfos earlier batch id first
    metered (.inr counter) found
  rw [Meter.measure, inside]
  dsimp only
  rw [← stamp]
  apply Prod.ext
  · rfl
  · exact counterRate_eq_batchRate metered (run_disk metered.before there).1 stamp

/-- After every batch an interface shows the rate of each of its counters over the batch. -/
theorem network_shown (metered : Metered (earlier ++ [batch]).flatten) {iface : String}
    {m : NetMetric} (known : ((buildSampleState sensorInfos).tiles.lookup id).isSome = true)
    (sensor : netSensor id = some (iface, m.name)) :
    ∃ entry, ((((Meter.start sensorInfos).run format speed earlier).tick format speed
      batch).1.1).lookup iface = some entry ∧ entry.perSec m = batchRate id earlier batch := by
  obtain ⟨first, found⟩ := Option.isSome_iff_exists.mp known
  obtain ⟨tile, inside, stamp⟩ := @run_tile format speed sensorInfos earlier batch id first
    metered (.inl ⟨iface, m, sensor⟩) found
  obtain ⟨_, entry, there, rate⟩ := computeNetworkRates_counter sensor inside
  refine ⟨entry, there, rate.trans ?_⟩
  exact counterRate_eq_batchRate metered (run_netPrev metered.before sensor found) stamp

/-- A device shows the rate of a counter over the batch, or the last one that was not zero. -/
theorem disk_shown (metered : Metered (earlier ++ [batch]).flatten) {device : String}
    {m : DiskMetric} (place : diskPlace (buildSampleState sensorInfos) id = some (device, m)) :
    ∃ other entry, diskPlace (buildSampleState sensorInfos) other = some (device, m) ∧
      ((((Meter.start sensorInfos).run format speed earlier).tick format speed batch).1.2).lookup
        device = some entry ∧
      entry.perSec m = heldRate
        (lastNonZero (Meter.measures format speed other (Meter.start sensorInfos) earlier))
        (stampOf other (earlier.flatten ++ batch)).1 (batchRate other earlier batch) := by
  obtain ⟨other, tile, entry, there, found, shown, rate⟩ :=
    @computeDiskRates_shown _ id device m ((Meter.start sensorInfos).run format speed earlier).disk
      ((diskPlace_run format speed sensorInfos earlier batch id).trans place)
  have placed := (diskPlace_run format speed sensorInfos earlier batch other).symm.trans there
  have measured := @measure_eq format speed _ _ _ _ metered _ placed
  rw [Meter.measure, found] at measured
  refine ⟨other, entry, placed, shown, ?_⟩
  rw [rate, (run_disk metered.before placed).2]
  exact congrArg₂ (heldRate _) (congrArg Prod.fst measured) (congrArg Prod.snd measured)

theorem sampleRate_append : sampleRate id (earlier.flatten ++ batch) =
    slope ((samplesOf id batch).reverse ++ (samplesOf id earlier.flatten).reverse) := by
  rw [sampleRate, samplesOf_append, List.reverse_append]

theorem Metered.sample_bounded {samples : List Sample} (metered : Metered samples) {q : Nat × Nat}
    (member : q ∈ samplesOf id samples) : q.1 < 2 ^ 64 ∧ q.2 < 2 ^ 64 := by
  obtain ⟨s, inside, taken⟩ := List.mem_filterMap.mp member
  have time := metered.times s inside
  have value := metered.values s inside
  unfold counterOf at taken
  split at taken
  · rename_i v reading
    split at taken
    · cases taken
      exact ⟨time, value v reading⟩
    · cases taken
  · cases taken

/-- A rate between two samples of a run is zero where the counter did not grow. -/
theorem perSecond_zero_iff {samples : List Sample} (metered : Metered samples)
    {p q : Nat × Nat} (member : q ∈ samplesOf id samples) (later : p.1 < q.1) :
    perSecond (q.2 - p.2) (q.1 - p.1) = .finite 0 ↔ q.2 ≤ p.2 := by
  obtain ⟨time, value⟩ := metered.sample_bounded member
  rw [perSecond_eq_zero_iff (by omega) (by omega) (by omega)]
  omega

/-- The rate over a batch is that of the last two samples exactly in a steady batch. -/
theorem batchRate_eq_iff (metered : Metered (earlier ++ [batch]).flatten) :
    batchRate id earlier batch = sampleRate id (earlier.flatten ++ batch) ↔
      Steady id earlier batch := by
  have descending := @metered.descending _ _ id
  have inside : ∀ p ∈ (samplesOf id batch).reverse ++ (samplesOf id earlier.flatten).reverse,
      p ∈ samplesOf id (earlier ++ [batch]).flatten := by
    intro p member
    rw [List.flatten_append, List.flatten_singleton, samplesOf_append]
    simpa [or_comm] using member
  rw [sampleRate_append]
  unfold batchRate Steady
  rw [stampOf_eq]
  cases new : (samplesOf id batch).reverse with
  | nil =>
      rw [new, List.nil_append] at descending inside
      rw [List.nil_append]
      dsimp only
      cases old : (samplesOf id earlier.flatten).reverse with
      | nil => exact iff_of_true rfl (fun grown => grown)
      | cons q others =>
          cases others with
          | nil => exact iff_of_true rfl (fun grown => grown)
          | cons p others =>
              rw [old] at descending inside
              have zero := perSecond_zero_iff metered (inside q List.mem_cons_self)
                ((List.pairwise_cons.mp descending).1 p List.mem_cons_self)
              rw [eq_comm]
              exact zero.trans Nat.not_lt.symm
  | cons q rest =>
      rw [new] at descending inside
      cases rest with
      | nil =>
          dsimp only
          cases old : (samplesOf id earlier.flatten).reverse with
          | nil =>
              have none : samplesOf id earlier.flatten = [] := List.reverse_eq_nil_iff.mp old
              simp only [none, List.append_nil, slope, List.head?_nil, Option.getD_none,
                Nat.sub_zero, ne_eq, not_true_eq_false, false_or]
              by_cases idle : earlier = [] ∨ q.1 = 0
              · rw [if_pos idle]
                exact iff_of_true rfl (by tauto)
              · have later : 0 < q.1 := by
                  rw [not_or] at idle
                  omega
                have bounded := metered.sample_bounded (inside q List.mem_cons_self)
                rw [if_neg idle, perSecond_eq_zero_iff bounded.2 later bounded.1]
                rw [not_or] at idle
                simp only [idle, false_or]
          | cons p others =>
              rw [old] at descending
              have later : p.1 < q.1 :=
                (List.pairwise_cons.mp descending).1 p List.mem_cons_self
              have sampled : samplesOf id earlier.flatten ≠ [] := by
                intro none
                rw [none] at old
                cases old
              have begun : earlier ≠ [] := by
                rintro rfl
                exact sampled rfl
              have busy : ¬ (earlier = [] ∨ q.1 = 0) := by
                rw [not_or]
                exact ⟨begun, by omega⟩
              rw [if_neg busy]
              exact iff_of_true rfl (.inr (.inl sampled))
      | cons p rest =>
          have later : p.1 < q.1 := (List.pairwise_cons.mp descending).1 p List.mem_cons_self
          have last : slope (q :: p :: rest ++ (samplesOf id earlier.flatten).reverse) =
              perSecond (q.2 - p.2) (q.1 - p.1) := rfl
          have moved : q.1 ≠ 0 := by omega
          dsimp only
          rw [last]
          by_cases first : earlier = []
          · rw [if_pos (.inl first), if_pos first, eq_comm]
            exact perSecond_zero_iff metered (inside q List.mem_cons_self) later
          · rw [if_neg (not_or.mpr ⟨first, moved⟩), if_neg first]

/-- A counter that a rate is shown of. -/
def Counted (sensorInfos : List SensorInfo) (id : String) : Prop :=
  (((buildSampleState sensorInfos).tiles.lookup id).isSome = true ∧
      ∃ iface, ∃ m : NetMetric, netSensor id = some (iface, m.name)) ∨
    ∃ place, diskPlace (buildSampleState sensorInfos) id = some place

/-- The rates after a batch are those of the last two samples of each counter; the disk rate
holds the last one that was not zero for less than five seconds. -/
structure RatesRight (format : Format) (speed : String → Value) (sensorInfos : List SensorInfo)
    (earlier : List (List Sample)) (batch : List Sample) : Prop where
  network : ∀ id iface m, ((buildSampleState sensorInfos).tiles.lookup id).isSome = true →
    netSensor id = some (iface, NetMetric.name m) →
    ∃ entry, ((((Meter.start sensorInfos).run format speed earlier).tick format speed
      batch).1.1).lookup iface = some entry ∧
      entry.perSec m = sampleRate id (earlier.flatten ++ batch)
  raw : ∀ id place, diskPlace (buildSampleState sensorInfos) id = some place →
    (((Meter.start sensorInfos).run format speed earlier).measure format id batch).2 =
      sampleRate id (earlier.flatten ++ batch)
  disk : ∀ id device m, diskPlace (buildSampleState sensorInfos) id = some (device, m) →
    ∃ other entry, diskPlace (buildSampleState sensorInfos) other = some (device, m) ∧
      ((((Meter.start sensorInfos).run format speed earlier).tick format speed batch).1.2).lookup
        device = some entry ∧
      entry.perSec m = heldRate
        (lastNonZero (Meter.measures format speed other (Meter.start sensorInfos) earlier))
        (stampOf other (earlier.flatten ++ batch)).1 (sampleRate other (earlier.flatten ++ batch))

theorem ratesRight_iff (metered : Metered (earlier ++ [batch]).flatten) :
    RatesRight format speed sensorInfos earlier batch ↔
      ∀ id, Counted sensorInfos id → Steady id earlier batch := by
  constructor
  · rintro right id (⟨known, iface, m, sensor⟩ | ⟨place, there⟩)
    · obtain ⟨entry, shown, rate⟩ := right.network id iface m known sensor
      obtain ⟨entry', shown', rate'⟩ := @network_shown format speed _ _ _ _ metered _ _ known sensor
      cases Option.some.inj (shown.symm.trans shown')
      exact (batchRate_eq_iff metered).mp (rate'.symm.trans rate)
    · have rate := right.raw id place there
      rw [measure_eq metered there] at rate
      exact (batchRate_eq_iff metered).mp rate
  · intro steady
    have same (id : String) (counted : Counted sensorInfos id) :
        batchRate id earlier batch = sampleRate id (earlier.flatten ++ batch) :=
      (batchRate_eq_iff metered).mpr (steady id counted)
    constructor
    · intro id iface m known sensor
      rw [← same id (.inl ⟨known, iface, m, sensor⟩)]
      exact network_shown metered known sensor
    · intro id place there
      rw [measure_eq metered there]
      exact same id (.inr ⟨place, there⟩)
    · intro id device m there
      obtain ⟨other, entry, placed, shown, rate⟩ := @disk_shown format speed _ _ _ _ metered _ _ there
      rw [same other (.inr ⟨_, placed⟩)] at rate
      exact ⟨other, entry, placed, shown, rate⟩

end Runs

/-- All rates of a run are right exactly where all its batches are steady. -/
theorem rates_right_iff_steady (format : Format) (speed : String → Value)
    (sensorInfos : List SensorInfo) (batches : List (List Sample))
    (metered : Metered batches.flatten) :
    (∀ earlier batch, earlier ++ [batch] <+: batches →
        RatesRight format speed sensorInfos earlier batch) ↔
      ∀ earlier batch, earlier ++ [batch] <+: batches →
        ∀ id, Counted sensorInfos id → Steady id earlier batch := by
  have each (earlier : List (List Sample)) (batch : List Sample)
      (front : earlier ++ [batch] <+: batches) :
      RatesRight format speed sensorInfos earlier batch ↔
        ∀ id, Counted sensorInfos id → Steady id earlier batch := by
    obtain ⟨rest, same⟩ := front
    rw [← same, List.flatten_append] at metered
    exact ratesRight_iff metered.front
  constructor
  · intro right earlier batch front
    exact (each earlier batch front).mp (right earlier batch front)
  · intro steady earlier batch front
    exact (each earlier batch front).mpr (steady earlier batch front)

/-- Timestamps that increase over all sensors increase for each. -/
theorem metered_of_increasing {samples : List Sample}
    (range : ∀ s ∈ samples, s.tsMicros < u64Bound ∧ ∃ v, s.reading = .counter v ∧ v < u64Bound)
    (increasing : (samples.map Sample.tsMicros).Pairwise (· < ·)) : Metered samples where
  times s member := (range s member).1
  values s member v reading := by
    obtain ⟨v', reading', small⟩ := (range s member).2
    rw [reading] at reading'
    cases reading'
    exact small
  increasing _ := increasing.sublist (List.filter_sublist.map _)
  counters s member _ := by
    obtain ⟨v, reading, _⟩ := (range s member).2
    exact ⟨v, reading⟩

/-- A byte counter of an interface. -/
def netInfo (id : String) : SensorInfo :=
  { cpuUtilInfo with
    id := ⟨id⟩
    displayName := id
    unit := .bytes
    kind := .counter
    category := .network
    pluginId := "com.visorcraft.linsight.net"
    deviceId := some "eth0" }

def sentFirst : List Sample := [⟨⟨"net.eth0.tx_bytes"⟩, 1000000, .counter 5⟩]

def receivedThen : List Sample := [⟨⟨"net.eth0.rx_bytes"⟩, 2000000, .counter 1000000⟩]

/-- The first sample of one counter, and then the first one of the other. -/
def late : List (List Sample) := [sentFirst, receivedThen]

theorem late_metered : Metered late.flatten := by
  apply metered_of_increasing
  · intro s member
    rcases List.mem_cons.mp member with rfl | other
    · exact ⟨by decide, 5, rfl, by decide⟩
    · rw [List.mem_singleton.mp other]
      exact ⟨by decide, 1000000, rfl, by decide⟩
  · decide

theorem rates_right_iff_steady_late :
    (∀ earlier batch, earlier ++ [batch] <+: late →
        RatesRight (fun _ _ _ _ => ("", [])) (fun _ => .finite 0)
          [netInfo "net.eth0.tx_bytes", netInfo "net.eth0.rx_bytes"] earlier batch) ↔
      ∀ earlier batch, earlier ++ [batch] <+: late →
        ∀ id, Counted [netInfo "net.eth0.tx_bytes", netInfo "net.eth0.rx_bytes"] id →
          Steady id earlier batch :=
  rates_right_iff_steady _ _ _ late late_metered

/-- A first sample in a later batch has a rate. -/
theorem first_sample_rated : ¬ ∀ format speed sensorInfos batches, Metered batches.flatten →
    ∀ earlier batch, earlier ++ [batch] <+: batches →
      RatesRight format speed sensorInfos earlier batch := by
  intro right
  have last := right (fun _ _ _ _ => ("", [])) (fun _ => .finite 0)
    [netInfo "net.eth0.tx_bytes", netInfo "net.eth0.rx_bytes"] late late_metered
    [sentFirst] receivedThen List.prefix_rfl
  have sensor : netSensor "net.eth0.rx_bytes" = some ("eth0", NetMetric.rxBytes.name) := by decide
  have known : ((buildSampleState [netInfo "net.eth0.tx_bytes",
      netInfo "net.eth0.rx_bytes"]).tiles.lookup "net.eth0.rx_bytes").isSome = true := by decide
  have metered : Metered ([sentFirst] ++ [receivedThen]).flatten := late_metered
  have steady := (ratesRight_iff metered).mp last "net.eth0.rx_bytes"
    (.inl ⟨known, "eth0", .rxBytes, sensor⟩)
  have unsteady : ¬ Steady "net.eth0.rx_bytes" [sentFirst] receivedThen := by
    change ¬ (_ = [] ∨ samplesOf "net.eth0.rx_bytes" _ ≠ [] ∨ 2000000 = 0 ∨ 1000000 = 0)
    decide
  exact unsteady steady

end LinSight.Gui
