import LinSight.Alerts.Context

set_option autoImplicit false

/-! What the capped map of latest values keeps. -/

namespace LinSight.Alerts

namespace AlertEngine

variable {engine : AlertEngine} {sample : Sample} {value : Ieee.Value} {id : String}

theorem observed_append (engine : AlertEngine) (front back : List Sample) :
    engine.observed (front ++ back) = (engine.observed front).observed back :=
  List.foldl_append

theorem referenced_observe (engine : AlertEngine) (sample : Sample) :
    (engine.observe sample).1.referenced = engine.referenced := by
  simp only [referenced, observe_frame]

theorem referenced_observed (engine : AlertEngine) (samples : List Sample) :
    (engine.observed samples).referenced = engine.referenced := by
  induction samples generalizing engine with
  | nil => rfl
  | cons sample rest ih =>
      change ((engine.observe sample).1.observed rest).referenced = _
      rw [ih, referenced_observe]

theorem length_keys (values : KeyMap String Ieee.Value) :
    values.keys.length = values.entries.length :=
  List.length_map _

theorem length_le_of_known {sensors : List String}
    (known : ∀ id ∈ engine.values, id ∈ sensors) :
    engine.values.entries.length ≤ sensors.length := by
  have subset : engine.values.keys ⊆ sensors := fun id member =>
    known id (AList.mem_keys.mpr member)
  rw [← length_keys]
  exact (engine.values.keys_nodup.subperm subset).length_le

theorem observe_of_numeric (numeric : alertValue sample.reading = some value) :
    (engine.observe sample).1 =
      (engine.makeRoom sample.sensor.asStr).bind sample.sensor.asStr value := by
  simp only [observe, numeric]

theorem observe_of_other (other : alertValue sample.reading = none) :
    (engine.observe sample).1 = engine := by
  simp only [observe, other]

theorem makeRoom_of_room (room : id ∈ engine.values ∨ engine.values.entries.length < valuesCap) :
    engine.makeRoom id = engine := by
  unfold makeRoom
  apply if_neg
  rintro ⟨absent, full⟩
  rcases room with present | below
  · exact absent present
  · omega

theorem values_makeRoom_of_full (absent : id ∉ engine.values)
    (full : valuesCap ≤ engine.values.entries.length) :
    (engine.makeRoom id).values =
      KeyMap.retain (fun id _ => engine.referenced.contains id) engine.values := by
  unfold makeRoom
  rw [if_pos ⟨absent, full⟩]
  simp only [pruneUnreferencedValues]
  split <;> rfl

theorem mem_retain_referenced :
    id ∈ KeyMap.retain (fun id _ => engine.referenced.contains id) engine.values ↔
      id ∈ engine.values ∧ id ∈ engine.referenced := by
  rw [← AList.lookup_isSome, KeyMap.lookup_retain, ← AList.lookup_isSome (s := engine.values)]
  cases engine.values.lookup id <;> simp [Option.filter]

/-- What was kept before is kept, unless it is unreferenced and the map is full. -/
theorem mem_observe_of_mem (present : id ∈ engine.values)
    (stays : id ∈ engine.referenced ∨ sample.sensor.asStr ∈ engine.values ∨
      engine.values.entries.length < valuesCap) :
    id ∈ (engine.observe sample).1.values := by
  cases reading : alertValue sample.reading with
  | none =>
      rw [observe_of_other reading]
      exact present
  | some value =>
      rw [observe_of_numeric reading]
      apply (AList.mem_insert _).mpr
      right
      by_cases room : sample.sensor.asStr ∈ engine.values ∨
          engine.values.entries.length < valuesCap
      · rw [makeRoom_of_room room]
        exact present
      · obtain ⟨absent, full⟩ := not_or.mp room
        rw [values_makeRoom_of_full absent (Nat.le_of_not_lt full), mem_retain_referenced]
        exact ⟨present, stays.resolve_right room⟩

/-- Where a new sensor finds the map full, only referenced sensors stay beside it. -/
theorem mem_observe_of_full (absent : sample.sensor.asStr ∉ engine.values)
    (full : valuesCap ≤ engine.values.entries.length)
    (numeric : alertValue sample.reading = some value)
    (present : id ∈ (engine.observe sample).1.values) :
    id = sample.sensor.asStr ∨ id ∈ engine.values ∧ id ∈ engine.referenced := by
  rw [observe_of_numeric numeric] at present
  rcases (AList.mem_insert _).mp present with same | kept
  · exact Or.inl same
  · rw [values_makeRoom_of_full absent full, mem_retain_referenced] at kept
    exact Or.inr kept

theorem mem_observe_self (numeric : alertValue sample.reading = some value) :
    sample.sensor.asStr ∈ (engine.observe sample).1.values := by
  rw [observe_of_numeric numeric]
  exact (AList.mem_insert _).mpr (Or.inl rfl)

theorem lookup_observe_self (numeric : alertValue sample.reading = some value) :
    (engine.observe sample).1.ctx.lookup (rewriteDots sample.sensor.asStr) = some value := by
  rw [observe_of_numeric numeric]
  exact AList.lookup_insert _

theorem length_observe_of_new (absent : sample.sensor.asStr ∉ engine.values)
    (below : engine.values.entries.length < valuesCap)
    (numeric : alertValue sample.reading = some value) :
    (engine.observe sample).1.values.entries.length = engine.values.entries.length + 1 := by
  rw [observe_of_numeric numeric, makeRoom_of_room (Or.inr below)]
  simp only [bind, AList.entries_insert_of_notMem absent, List.length_cons]

theorem length_observe_of_known (present : sample.sensor.asStr ∈ engine.values)
    (numeric : alertValue sample.reading = some value) :
    (engine.observe sample).1.values.entries.length = engine.values.entries.length := by
  rw [observe_of_numeric numeric, makeRoom_of_room (Or.inl present)]
  have positive := List.length_pos_of_mem (AList.mem_keys.mp present)
  simp only [← length_keys, bind, AList.keys_insert, List.length_cons,
    List.length_erase_of_mem (AList.mem_keys.mp present)]
  omega

end AlertEngine

/-- All known sensors are in the list, and the map is within its cap. -/
structure Filling (sensors : List String) (engine : AlertEngine) : Prop where
  known : ∀ id ∈ engine.values, id ∈ sensors
  within : engine.values.entries.length ≤ valuesCap

section Filling

variable {engine : AlertEngine} {sensors : List String} {sample : Sample}

theorem Filling.observe (filling : Filling sensors engine)
    (unreferenced : ∀ id ∈ sensors, id ∉ engine.referenced)
    (among : ∀ value, alertValue sample.reading = some value → sample.sensor.asStr ∈ sensors) :
    Filling sensors (engine.observe sample).1 := by
  cases numeric : alertValue sample.reading with
  | none =>
      rw [AlertEngine.observe_of_other numeric]
      exact filling
  | some value =>
      have known : ∀ id ∈ (engine.observe sample).1.values, id ∈ sensors := by
        intro id present
        rcases AlertEngine.mem_observe_values present with rfl | before
        · exact among value numeric
        · exact filling.known id before
      refine ⟨known, ?_⟩
      by_cases present : sample.sensor.asStr ∈ engine.values
      · rw [AlertEngine.length_observe_of_known present numeric]
        exact filling.within
      · by_cases below : engine.values.entries.length < valuesCap
        · rw [AlertEngine.length_observe_of_new present below numeric]
          omega
        · -- no known sensor is referenced, so the new one is alone
          have alone : ∀ id ∈ (engine.observe sample).1.values, id ∈ [sample.sensor.asStr] := by
            intro id kept
            rcases AlertEngine.mem_observe_of_full present (Nat.le_of_not_lt below) numeric kept
              with rfl | ⟨before, referenced⟩
            · exact List.mem_cons_self
            · exact absurd referenced (unreferenced id (filling.known id before))
          have single := AlertEngine.length_le_of_known alone
          unfold valuesCap
          simp only [List.length_singleton] at single
          omega

theorem Filling.observed (filling : Filling sensors engine)
    (unreferenced : ∀ id ∈ sensors, id ∉ engine.referenced) (samples : List Sample)
    (among : ∀ sample ∈ samples, ∀ value, alertValue sample.reading = some value →
      sample.sensor.asStr ∈ sensors) :
    Filling sensors (engine.observed samples) := by
  induction samples generalizing engine with
  | nil => exact filling
  | cons sample rest ih =>
      have first := filling.observe unreferenced (among sample List.mem_cons_self)
      apply ih first
      · intro id member
        rw [AlertEngine.referenced_observe]
        exact unreferenced id member
      · exact fun later member => among later (List.mem_cons_of_mem _ member)

/-- Sensors can be observed until as many have values as there are, up to the cap. -/
theorem Filling.exists_fill {target : Nat} {samples : List Sample}
    (numeric : ∀ sample ∈ samples, ∃ value, alertValue sample.reading = some value)
    (same : samples.map (·.sensor.asStr) = sensors) (distinct : sensors.Nodup)
    (enough : target ≤ sensors.length) (fits : target ≤ valuesCap)
    (filling : Filling sensors engine) (below : engine.values.entries.length ≤ target) :
    ∃ more, (∀ sample ∈ more, sample ∈ samples) ∧
      Filling sensors (engine.observed more) ∧
      (engine.observed more).values.entries.length = target := by
  induction missing : target - engine.values.entries.length generalizing engine with
  | zero =>
      refine ⟨[], fun _ member => absurd member List.not_mem_nil, filling, ?_⟩
      change engine.values.entries.length = target
      omega
  | succ missing ih =>
      have absent : ∃ sample ∈ samples, sample.sensor.asStr ∉ engine.values := by
        by_contra none_absent
        have present : sensors ⊆ engine.values.keys := by
          intro id member
          rw [← same] at member
          obtain ⟨sample, listed, rfl⟩ := List.mem_map.mp member
          by_contra outside
          exact none_absent ⟨sample, listed, fun inside => outside (AList.mem_keys.mp inside)⟩
        have all_present := (distinct.subperm present).length_le
        rw [AlertEngine.length_keys] at all_present
        omega
      obtain ⟨sample, listed, absent⟩ := absent
      obtain ⟨value, reading⟩ := numeric sample listed
      have room : engine.values.entries.length < valuesCap := by omega
      have longer := AlertEngine.length_observe_of_new absent room reading
      have named : sample.sensor.asStr ∈ sensors := by
        rw [← same]
        exact List.mem_map_of_mem listed
      have next : Filling sensors (engine.observe sample).1 := by
        refine ⟨?_, by omega⟩
        intro id present
        rcases AlertEngine.mem_observe_values present with rfl | before
        · exact named
        · exact filling.known id before
      obtain ⟨more, taken, filled, reached⟩ := ih next (by omega) (by omega)
      exact ⟨sample :: more, List.forall_mem_cons.mpr ⟨listed, taken⟩, filled, reached⟩

end Filling

section Kept

variable {engine : AlertEngine} {samples : List Sample} {sample : Sample} {value : Ieee.Value}

/-- Sensors that are referenced, or that the map has room for, keep their values. -/
theorem mem_observed {sensors : List String} {id : String}
    (stays : id ∈ engine.referenced ∨ sensors.length ≤ valuesCap)
    (known : ∀ id ∈ engine.values, id ∈ sensors)
    (among : ∀ sample ∈ samples, ∀ value, alertValue sample.reading = some value →
      sample.sensor.asStr ∈ sensors)
    (present : id ∈ engine.values ∨ ∃ sample ∈ samples, sample.sensor.asStr = id ∧
      ∃ value, alertValue sample.reading = some value) :
    id ∈ (engine.observed samples).values := by
  induction samples generalizing engine with
  | nil => exact present.resolve_right fun ⟨_, member, _⟩ => absurd member List.not_mem_nil
  | cons sample rest ih =>
      have among_first := among sample List.mem_cons_self
      apply @ih (engine.observe sample).1
      · rw [AlertEngine.referenced_observe]
        exact stays
      · intro other kept
        obtain ⟨value, found⟩ := KeyMap.exists_lookup kept
        rcases AlertEngine.lookup_observe_values found with ⟨rfl, reading⟩ | before
        · exact among_first value reading
        · exact known other (KeyMap.mem_of_lookup before)
      · exact fun later member => among later (List.mem_cons_of_mem _ member)
      · rcases present with before | ⟨observed, member, named, value, reading⟩
        · left
          cases other : alertValue sample.reading with
          | none =>
              rw [AlertEngine.observe_of_other other]
              exact before
          | some value =>
              apply AlertEngine.mem_observe_of_mem before
              by_cases already : sample.sensor.asStr ∈ engine.values
              · exact Or.inr (Or.inl already)
              · -- the new sensor is one of the list, so the map is shorter than the list
                have longer : engine.values.entries.length + 1 ≤ sensors.length := by
                  have distinct : (sample.sensor.asStr :: engine.values.keys).Nodup :=
                    List.nodup_cons.mpr ⟨fun inside => already (AList.mem_keys.mpr inside),
                      engine.values.keys_nodup⟩
                  have subset : sample.sensor.asStr :: engine.values.keys ⊆ sensors :=
                    List.cons_subset.mpr ⟨among_first value other,
                      fun id inside => known id (AList.mem_keys.mpr inside)⟩
                  have shorter := (distinct.subperm subset).length_le
                  rwa [List.length_cons, AlertEngine.length_keys] at shorter
                rcases stays with referenced | fits
                · exact Or.inl referenced
                · right
                  right
                  omega
        · rcases List.mem_cons.mp member with rfl | later
          · exact Or.inl (named ▸ AlertEngine.mem_observe_self reading)
          · exact Or.inr ⟨observed, later, named, value, reading⟩

/-- Once a value was observed, the map is not empty. -/
theorem exists_mem_observed (member : sample ∈ samples)
    (reading : alertValue sample.reading = some value) :
    ∃ id, id ∈ (engine.observed samples).values := by
  induction samples using List.reverseRecOn with
  | nil => exact absurd member List.not_mem_nil
  | append_singleton samples last ih =>
      rw [AlertEngine.observed_append]
      change ∃ id, id ∈ ((engine.observed samples).observe last).1.values
      cases other : alertValue last.reading with
      | some value => exact ⟨_, AlertEngine.mem_observe_self other⟩
      | none =>
          rw [AlertEngine.observe_of_other other]
          rcases List.mem_append.mp member with before | same
          · exact ih before
          · cases List.mem_singleton.mp same
            rw [reading] at other
            cases other

end Kept

section CrowdOut

variable {engine : AlertEngine} {sensors : List String}

theorem observed_avoids (samples : List Sample)
    (others : ∀ sample ∈ samples, sample.sensor.asStr ∉ sensors)
    (avoids : ∀ id ∈ engine.values, id ∉ sensors) :
    ∀ id ∈ (engine.observed samples).values, id ∉ sensors := by
  induction samples generalizing engine with
  | nil => exact avoids
  | cons sample rest ih =>
      apply ih fun later member => others later (List.mem_cons_of_mem _ member)
      intro id present
      rcases AlertEngine.mem_observe_values present with rfl | before
      · exact others sample List.mem_cons_self
      · exact avoids id before

/-- More new sensors than there is room for crowd out all that are not referenced. -/
theorem observed_crowds_out (samples : List Sample)
    (numeric : ∀ sample ∈ samples, ∃ value, alertValue sample.reading = some value)
    (others : ∀ sample ∈ samples, sample.sensor.asStr ∉ sensors)
    (distinct : (samples.map (·.sensor.asStr)).Nodup)
    (fresh : ∀ sample ∈ samples, sample.sensor.asStr ∉ engine.values)
    (unreferenced : ∀ id ∈ sensors, id ∉ engine.referenced)
    (within : engine.values.entries.length ≤ valuesCap)
    (many : valuesCap < engine.values.entries.length + samples.length) :
    ∀ id ∈ (engine.observed samples).values, id ∉ sensors := by
  induction samples generalizing engine with
  | nil =>
      simp only [List.length_nil] at many
      omega
  | cons sample rest ih =>
      obtain ⟨value, reading⟩ := numeric sample List.mem_cons_self
      have absent := fresh sample List.mem_cons_self
      have later_others := fun later member => others later (List.mem_cons_of_mem _ member)
      by_cases below : engine.values.entries.length < valuesCap
      · have longer := AlertEngine.length_observe_of_new absent below reading
        simp only [List.map_cons, List.nodup_cons, List.mem_map, not_exists, not_and] at distinct
        simp only [List.length_cons] at many
        apply @ih (engine.observe sample).1
          (fun later member => numeric later (List.mem_cons_of_mem _ member)) later_others
          distinct.2
        · intro later member present
          rcases AlertEngine.mem_observe_values present with same | before
          · exact distinct.1 later member same
          · exact fresh later (List.mem_cons_of_mem _ member) before
        · intro id member
          rw [AlertEngine.referenced_observe]
          exact unreferenced id member
        · omega
        · omega
      · apply observed_avoids rest later_others
        intro id present
        rcases AlertEngine.mem_observe_of_full absent (Nat.le_of_not_lt below) reading present
          with rfl | ⟨_, referenced⟩
        · exact others sample List.mem_cons_self
        · exact fun member => unreferenced id member referenced

end CrowdOut

end LinSight.Alerts
