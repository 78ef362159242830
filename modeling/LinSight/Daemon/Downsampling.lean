import LinSight.Daemon.History
import LinSight.Library.Buckets

set_option autoImplicit false

/-! Which rows of its window a history query returns. -/

namespace LinSight

/-- Ranks spread evenly over all, the lowest one included. -/
structure Spread (limit total : Nat) (ranks : List Nat) : Prop where
  count : ranks.length = min total limit
  first : ranks.head? = some 0
  stored : ∀ rank ∈ ranks, rank < total
  gaps : ranks.IsChain fun rank next =>
    if total ≤ limit then next = rank + 1
    else next = rank + total / limit ∨ next = rank + total ⌈/⌉ limit

section Ranks

variable {Row : Type}

/-- A test of the rank picks rows by their ranks. -/
theorem map_fst_filter_zipIdx (rows : List Row) (test : Nat → Bool) :
    (rows.zipIdx.filter fun row => test row.2).map Prod.fst =
      ((List.range rows.length).filter test).filterMap (rows[·]?) := by
  induction rows using List.reverseRecOn with
  | nil => rfl
  | append_singleton rows row ih =>
      have front : ((List.range rows.length).filter test).filterMap ((rows ++ [row])[·]?) =
          ((List.range rows.length).filter test).filterMap (rows[·]?) := by
        refine List.filterMap_congr fun rank member => ?_
        have inside := List.mem_range.mp (List.mem_of_mem_filter member)
        exact List.getElem?_append_left inside
      have last : (rows ++ [row])[rows.length]? = some row := by simp
      rw [List.zipIdx_append, List.filter_append, List.map_append, ih, List.length_append,
        List.length_singleton, List.range_succ, List.filter_append, List.filterMap_append, front]
      congr 1
      simp only [List.zipIdx_singleton, Nat.zero_add, List.filter_cons, List.filter_nil]
      split
      · rw [List.filterMap_cons_some last]
        rfl
      · rfl

/-- What is returned are the rows at the leading ranks. -/
theorem downsample_eq {limit : Nat} (positive : 0 < limit) {rows : List Row}
    (nonempty : rows ≠ []) :
    downsample limit rows = ((List.range (min rows.length limit)).map
      (Buckets.lowest (min rows.length limit) rows.length)).filterMap (rows[·]?) := by
  have some_row : 0 < rows.length := List.length_pos_iff.mpr nonempty
  by_cases few : rows.length ≤ limit
  · have all : (List.range rows.length).map (Buckets.lowest rows.length rows.length) =
        List.range rows.length := by
      rw [List.map_congr_left fun _ _ => Buckets.lowest_self some_row]
      exact List.map_id _
    have picked := map_fst_filter_zipIdx rows fun _ => true
    simp only [List.filter_true, List.zipIdx_map_fst] at picked
    rw [downsample_eq_self few, Nat.min_eq_left few, all]
    exact picked
  · have fewer : limit ≤ rows.length := by omega
    have leads : (List.range rows.length).filter (fun rank => (List.range rank).all fun earlier =>
        decide (earlier * limit / rows.length ≠ rank * limit / rows.length)) =
          (List.range limit).map (Buckets.lowest limit rows.length) := by
      refine Buckets.filter_leads positive fewer fun rank => ?_
      simp only [List.all_eq_true, List.mem_range, decide_eq_true_eq]
      exact Iff.rfl
    have picked := map_fst_filter_zipIdx rows fun rank => (List.range rank).all fun earlier =>
      decide (earlier * limit / rows.length ≠ rank * limit / rows.length)
    rw [leads] at picked
    have short : (((List.range limit).map (Buckets.lowest limit rows.length)).filterMap
        (rows[·]?)).length ≤ limit := by
      refine (List.length_filterMap_le _ _).trans ?_
      rw [List.length_map, List.length_range]
    rw [Nat.min_eq_right fewer]
    simp only [downsample]
    rw [picked]
    exact List.take_of_length_le short

/-- The leading ranks are spread evenly. -/
theorem spread_lowest {limit total : Nat} (positive : 0 < limit) (some_row : 0 < total) :
    Spread limit total ((List.range (min total limit)).map
      (Buckets.lowest (min total limit) total)) := by
  have buckets : 0 < min total limit := by omega
  have few : min total limit ≤ total := by omega
  refine ⟨?_, ?_, ?_, ?_⟩
  · rw [List.length_map, List.length_range]
  · obtain ⟨more, same⟩ := Nat.exists_eq_succ_of_ne_zero (Nat.ne_of_gt buckets)
    rw [List.head?_map, same, List.range_succ_eq_map]
    exact congrArg some Buckets.lowest_zero
  · intro rank member
    obtain ⟨index, inside, rfl⟩ := List.mem_map.mp member
    exact Buckets.lowest_lt few (List.mem_range.mp inside)
  · rw [List.isChain_map, List.isChain_range]
    intro index _
    by_cases whole : total ≤ limit
    · rw [Nat.min_eq_left whole, if_pos whole, Buckets.lowest_self some_row,
        Buckets.lowest_self some_row]
    · rw [Nat.min_eq_right (Nat.le_of_not_le whole), if_neg whole]
      exact Buckets.lowest_succ positive

/-- Rows at ascending ranks are found in their order. -/
theorem pairwise_filterMap_ranks {rows : List Row} {order : Row → Row → Prop}
    (sorted : rows.Pairwise order) {ranks : List Nat} (ascending : ranks.Pairwise (· < ·)) :
    (ranks.filterMap (rows[·]?)).Pairwise order := by
  rw [List.pairwise_filterMap]
  refine ascending.imp fun {rank next} before row here other there => ?_
  obtain ⟨inside, rfl⟩ := List.getElem?_eq_some_iff.mp here
  obtain ⟨inside', rfl⟩ := List.getElem?_eq_some_iff.mp there
  exact List.pairwise_iff_getElem.mp sorted _ _ inside inside' before

/-- Every stored rank has its row. -/
theorem length_filterMap_ranks {rows : List Row} {ranks : List Nat}
    (stored : ∀ rank ∈ ranks, rank < rows.length) :
    (ranks.filterMap (rows[·]?)).length = ranks.length := by
  rw [List.length_filterMap_eq_countP, List.countP_eq_length]
  intro rank member
  rw [List.getElem?_eq_getElem (stored rank member)]
  rfl

end Ranks

theorem queryLimit_pos (maxPoints : Option Nat) : 0 < queryLimit maxPoints := by
  have low : 1 ≤ Nat.max (maxPoints.getD 500) 1 := Nat.le_max_right _ _
  exact Nat.le_min.mpr ⟨low, by decide⟩

/-- A query returns as many stored rows as it may, in order of time, the first one included and
the others evenly spread. -/
theorem query_downsamples (table : HistoryTable) {sensor : String} {id : SensorId}
    (valid : SensorId.tryNew sensor = .ok id) {sinceMicros untilMicros : Int}
    {rows : List (Int × HistoryColumns)}
    (window : rankedRows table id.asStr sinceMicros untilMicros = rows) (nonempty : rows ≠ [])
    (maxPoints : Option Nat) :
    ∃ ranks found, Spread (queryLimit maxPoints) rows.length ranks ∧
      found = ranks.filterMap (rows[·]?) ∧
      found.length = min rows.length (queryLimit maxPoints) ∧
      (∀ row ∈ found, table.lookup (id.asStr, row.1) = some row.2) ∧
      (found.Pairwise fun a b => a.1 < b.1) ∧
      queryHistory (.ok table) sensor sinceMicros untilMicros maxPoints =
        .ok (found.map (decodeRow id)) := by
  have some_row : 0 < rows.length := List.length_pos_iff.mpr nonempty
  have positive : 0 < queryLimit maxPoints := queryLimit_pos maxPoints
  have spread := spread_lowest positive some_row
  have picked := downsample_eq positive nonempty
  refine ⟨_, downsample (queryLimit maxPoints) rows, spread, picked, ?_, ?_, ?_, ?_⟩
  · rw [picked, length_filterMap_ranks spread.stored, spread.count]
  · intro row member
    rw [picked] at member
    obtain ⟨rank, _, here⟩ := List.mem_filterMap.mp member
    have listed : row ∈ rankedRows table id.asStr sinceMicros untilMicros := by
      rw [window]
      exact List.mem_of_getElem? here
    exact (mem_rankedRows.mp listed).1
  · rw [picked]
    refine pairwise_filterMap_ranks (window ▸ rankedRows_ascending table id.asStr _ _) ?_
    rw [List.pairwise_map]
    exact List.pairwise_lt_range.imp fun before =>
      Buckets.lowest_strictMono (by omega) (by omega) before
  · rw [queryHistory, valid]
    simp only [window]

/-- The stored samples of three times. -/
def powerTable : HistoryTable := historyOf [powerSamples.filterMap HistoricSample.ofSample]

theorem query_downsamples_power :
    ∃ ranks found, Spread 2 3 ranks ∧
      found = ranks.filterMap ((rankedRows powerTable powerSensor.asStr 0 30)[·]?) ∧
      found.length = 2 ∧
      (∀ row ∈ found, powerTable.lookup (powerSensor.asStr, row.1) = some row.2) ∧
      (found.Pairwise fun a b => a.1 < b.1) ∧
      queryHistory (.ok powerTable) powerSensor.asStr 0 30 (some 2) =
        .ok (found.map (decodeRow powerSensor)) := by
  have valid : SensorId.tryNew powerSensor.asStr = .ok powerSensor := rfl
  have count : (rankedRows powerTable powerSensor.asStr 0 30).length = 3 := rfl
  have nonempty : rankedRows powerTable powerSensor.asStr 0 30 ≠ [] :=
    List.ne_nil_of_length_eq_add_one count
  have limit : queryLimit (some 2) = 2 := rfl
  have found := query_downsamples powerTable valid rfl nonempty (some 2)
  rw [count, limit] at found
  exact found

end LinSight
