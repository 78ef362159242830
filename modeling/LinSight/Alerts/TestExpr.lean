import LinSight.Alerts.Retention
import LinSight.Alerts.Rewriting
import LinSight.Daemon.Scheduler
import LinSight.Protocol.Messages

set_option autoImplicit false

/-! `TestAlertExpr` beside the live engine: two contexts from one set of readings. -/

namespace LinSight

/-- `sample_now`, where `read` is what the plugin host reads of a sensor. -/
def sampleNow (read : SensorId → Except PluginError Reading) (id : SensorId) (tsMicros : Nat) :
    Option Sample :=
  match read id with
  | .ok reading => some ⟨id, tsMicros, reading⟩
  | .error _ => none

namespace Alerts

/-- The context that `TestAlertExpr` populates from the scheduler's sensors. -/
def testContext (scheduler : Scheduler) (read : SensorId → Except PluginError Reading)
    (nowMicros : Nat) : Context :=
  scheduler.descriptors.foldl (fun ctx d =>
    match sampleNow read d.id nowMicros with
    | none => ctx
    | some sample =>
        match sample.reading with
        | .scalar v => ctx.insert (rewriteDots d.id.asStr) v
        | _ => ctx) ∅

def Evalexpr.testOutcome (evalexpr : Evalexpr) (scheduler : Scheduler)
    (read : SensorId → Except PluginError Reading) (nowMicros : Nat) (expr : String)
    (inTime : Bool) : EvalOutcome :=
  evalexpr.evalLimited (rewriteDots expr) (testContext scheduler read nowMicros) inTime

/-- How an outcome is answered. -/
def testResponse : EvalOutcome → ResponsePayload
  | .ok truthy => .alertTestResult truthy none
  | .err e => .alertTestResult false (some s!"eval failed: {e}")
  | .timeout => .alertTestResult false (some "expression evaluation timed out")
  | .panic => .alertTestResult false (some "expression evaluation panicked")

/-- One sample of each sensor that can be read. -/
def readings (scheduler : Scheduler) (read : SensorId → Except PluginError Reading) :
    List Sample :=
  (scheduler.descriptors.map (·.id)).dedup.filterMap fun id => sampleNow read id 0

def numericReadings (samples : List Sample) : List Sample :=
  samples.filter fun sample => (alertValue sample.reading).isSome

/-- The observed samples are these sensors with these readings, in any order and
as often as they come. -/
structure Observes (samples observed : List Sample) : Prop where
  known : ∀ sample ∈ observed, ∃ listed ∈ samples,
    listed.sensor = sample.sensor ∧ listed.reading = sample.reading
  complete : ∀ listed ∈ samples, ∃ sample ∈ observed,
    sample.sensor = listed.sensor ∧ sample.reading = listed.reading

/-- A sensor with a scalar or counter reading whose variable is `name`. -/
structure Bears (samples : List Sample) (name : String) (value : Ieee.Value) (sample : Sample) :
    Prop where
  listed : sample ∈ samples
  named : rewriteDots sample.sensor.asStr = name
  reading : alertValue sample.reading = some value

/-- Both contexts have to give the variable one value: it is that of a scalar reading
and of all its sensors, and the engine cannot lose it to its cap. -/
structure SettledVariable (samples : List Sample) (referenced : List String) (name : String) :
    Prop where
  scalar : ∀ value sample, Bears samples name value sample →
    ∃ bearer, Bears samples name value bearer ∧ bearer.reading = .scalar value
  same : ∀ value sample, Bears samples name value sample →
    ∀ other bearer, Bears samples name other bearer → value = other
  kept : ∀ value sample, Bears samples name value sample →
    (numericReadings samples).length ≤ valuesCap ∨
    (∃ other bearer, Bears samples name other bearer ∧ bearer.sensor.asStr ∈ referenced) ∨
    ∀ numeric ∈ numericReadings samples, rewriteDots numeric.sensor.asStr = name

section Readings

variable {scheduler : Scheduler} {read : SensorId → Except PluginError Reading}

theorem sampleNow_eq_some {id : SensorId} {tsMicros : Nat} {sample : Sample} :
    sampleNow read id tsMicros = some sample ↔
      read id = .ok sample.reading ∧ sample.sensor = id ∧ sample.tsMicros = tsMicros := by
  unfold sampleNow
  cases read id with
  | error error => simp
  | ok reading =>
      obtain ⟨sensor, stamp, stored⟩ := sample
      simp only [Option.some.injEq, Sample.mk.injEq, Except.ok.injEq]
      constructor
      · rintro ⟨rfl, rfl, rfl⟩
        exact ⟨rfl, rfl, rfl⟩
      · rintro ⟨rfl, rfl, rfl⟩
        exact ⟨rfl, rfl, rfl⟩

theorem mem_readings {sample : Sample} :
    sample ∈ readings scheduler read ↔
      (∃ d ∈ scheduler.descriptors, d.id = sample.sensor) ∧
        read sample.sensor = .ok sample.reading ∧ sample.tsMicros = 0 := by
  unfold readings
  rw [List.mem_filterMap]
  constructor
  · rintro ⟨id, listed, sampled⟩
    obtain ⟨reading, rfl, stamp⟩ := sampleNow_eq_some.mp sampled
    rw [List.mem_dedup, List.mem_map] at listed
    exact ⟨listed, reading, stamp⟩
  · rintro ⟨listed, reading, stamp⟩
    refine ⟨sample.sensor, ?_, sampleNow_eq_some.mpr ⟨reading, rfl, stamp⟩⟩
    rw [List.mem_dedup, List.mem_map]
    exact listed

/-- No sensor is listed twice. -/
theorem nodup_readings : ((readings scheduler read).map (·.sensor.asStr)).Nodup := by
  have distinct : (readings scheduler read).Pairwise fun first second =>
      first.sensor.asStr ≠ second.sensor.asStr := by
    unfold readings
    rw [List.pairwise_filterMap]
    apply (List.nodup_dedup (scheduler.descriptors.map (·.id))).imp
    intro first second differs one sampled two sampled' same
    obtain ⟨_, rfl, _⟩ := sampleNow_eq_some.mp sampled
    obtain ⟨_, rfl, _⟩ := sampleNow_eq_some.mp sampled'
    apply differs
    generalize one.sensor = left at same ⊢
    generalize two.sensor = right at same ⊢
    cases left
    cases right
    exact congrArg SensorId.mk same
  exact List.pairwise_map.mpr distinct

/-- What `TestAlertExpr` binds: the scalar readings. -/
theorem testContext_eq (nowMicros : Nat) :
    testContext scheduler read nowMicros =
      (scheduler.descriptors.filterMap fun d =>
        match read d.id with
        | .ok (.scalar v) => some (⟨d.id.asStr, v⟩ : Sigma fun _ : String => Ieee.Value)
        | _ => none).foldl (fun ctx entry => ctx.insert (rewriteDots entry.1) entry.2) ∅ := by
  rw [List.foldl_filterMap]
  unfold testContext sampleNow
  congr 1
  funext ctx d
  cases read d.id with
  | error error => rfl
  | ok reading => cases reading <;> rfl

theorem exists_scalar_of_testContext {nowMicros : Nat} {name : String} {value : Ieee.Value}
    (found : (testContext scheduler read nowMicros).lookup name = some value) :
    ∃ bearer, Bears (readings scheduler read) name value bearer ∧
      bearer.reading = .scalar value := by
  rw [testContext_eq] at found
  obtain ⟨_, _, sourced⟩ := foldl_insert_dots (scheduler.descriptors.filterMap fun d =>
    match read d.id with
    | .ok (.scalar v) => some (⟨d.id.asStr, v⟩ : Sigma fun _ : String => Ieee.Value)
    | _ => none) ∅
  rcases sourced name value found with ⟨entry, member, named, rfl⟩ | empty
  · obtain ⟨d, listed, bound⟩ := List.mem_filterMap.mp member
    cases result : read d.id with
    | error error => simp [result] at bound
    | ok reading =>
        cases reading <;> simp only [result, Option.some.injEq, reduceCtorEq] at bound
        subst bound
        exact ⟨⟨d.id, 0, .scalar _⟩, ⟨mem_readings.mpr ⟨⟨d, listed, rfl⟩, result, rfl⟩, named, rfl⟩,
          rfl⟩
  · cases empty

theorem mem_testContext (nowMicros : Nat) {sample : Sample} {value : Ieee.Value}
    (listed : sample ∈ readings scheduler read) (reading : sample.reading = .scalar value) :
    rewriteDots sample.sensor.asStr ∈ testContext scheduler read nowMicros := by
  obtain ⟨⟨d, member, same⟩, result, _⟩ := mem_readings.mp listed
  rw [testContext_eq]
  obtain ⟨_, defined, _⟩ := foldl_insert_dots (scheduler.descriptors.filterMap fun d =>
    match read d.id with
    | .ok (.scalar v) => some (⟨d.id.asStr, v⟩ : Sigma fun _ : String => Ieee.Value)
    | _ => none) ∅
  apply defined ⟨sample.sensor.asStr, value⟩
  apply List.mem_filterMap.mpr
  refine ⟨d, member, ?_⟩
  simp only [same, result, reading]

theorem observes_self (samples : List Sample) : Observes samples samples :=
  ⟨fun sample member => ⟨sample, member, rfl, rfl⟩, fun listed member => ⟨listed, member, rfl, rfl⟩⟩

end Readings

section Settled

variable {samples observed : List Sample} {rules : List CompiledRule} {name : String}
  {value : Ieee.Value}

theorem Observes.bears (observes : Observes samples observed) {sample : Sample}
    (member : sample ∈ observed) (named : rewriteDots sample.sensor.asStr = name)
    (reading : alertValue sample.reading = some value) :
    ∃ bearer, Bears samples name value bearer := by
  obtain ⟨listed, inside, sensor, same⟩ := observes.known sample member
  exact ⟨listed, inside, sensor ▸ named, same ▸ reading⟩

/-- The live context gives a variable the value of one of its sensors. -/
theorem exists_bearer_of_live (observes : Observes samples observed)
    (found : (observeAll rules observed).ctx.lookup name = some value) :
    ∃ bearer, Bears samples name value bearer := by
  obtain ⟨id, named, stored⟩ := (observeAll_bindsValues rules observed).sourced name value found
  obtain ⟨sample, member, rfl, reading⟩ := lookup_observeAll stored
  exact observes.bears member named reading

theorem mem_numericReadings {sample : Sample} :
    sample ∈ numericReadings samples ↔
      sample ∈ samples ∧ ∃ value, alertValue sample.reading = some value := by
  unfold numericReadings
  rw [List.mem_filter, Option.isSome_iff_exists]

/-- A settled variable of some sensor is bound in the live context. -/
theorem SettledVariable.mem_live
    (settled : SettledVariable samples (AlertEngine.new rules).referenced name)
    (observes : Observes samples observed) {sample : Sample}
    (bears : Bears samples name value sample) : name ∈ (observeAll rules observed).ctx := by
  have binds := observeAll_bindsValues rules observed
  have among : ∀ sample ∈ observed, ∀ value, alertValue sample.reading = some value →
      sample.sensor.asStr ∈ (numericReadings samples).map (·.sensor.asStr) := by
    intro sample member value reading
    obtain ⟨listed, inside, sensor, same⟩ := observes.known sample member
    rw [← sensor]
    exact List.mem_map_of_mem (mem_numericReadings.mpr ⟨inside, value, same ▸ reading⟩)
  have known : ∀ id ∈ (AlertEngine.new rules).values,
      id ∈ (numericReadings samples).map (·.sensor.asStr) :=
    fun id present => absurd present (AList.notMem_empty id)
  have stays : ∀ {value bearer}, Bears samples name value bearer →
      (bearer.sensor.asStr ∈ (AlertEngine.new rules).referenced ∨
        ((numericReadings samples).map (·.sensor.asStr)).length ≤ valuesCap) →
      name ∈ (observeAll rules observed).ctx := by
    intro value bearer bears stays
    obtain ⟨seen, member, sensor, same⟩ := observes.complete bearer bears.listed
    have present := mem_observed stays known among
      (Or.inr ⟨seen, member, congrArg SensorId.asStr sensor, value, same ▸ bears.reading⟩)
    have defined := binds.defined _ present
    rwa [bears.named] at defined
  rcases settled.kept value sample bears with fits | ⟨other, bearer, bearing, referenced⟩ | alone
  · exact stays bears (Or.inr (by simpa using fits))
  · exact stays bearing (Or.inl referenced)
  · obtain ⟨seen, member, sensor, same⟩ := observes.complete sample bears.listed
    obtain ⟨id, present⟩ := exists_mem_observed member (same ▸ bears.reading)
    have stored : id ∈ (observeAll rules observed).values := present
    obtain ⟨kept, found⟩ := KeyMap.exists_lookup stored
    obtain ⟨last, inside, rfl, reading⟩ := lookup_observeAll found
    obtain ⟨listed, here, last_sensor, last_reading⟩ := observes.known last inside
    have named := alone listed (mem_numericReadings.mpr ⟨here, kept, last_reading ▸ reading⟩)
    have defined := binds.defined _ stored
    rwa [← last_sensor, named] at defined

def bearersOf (samples : List Sample) (name : String) : List Sample :=
  (numericReadings samples).filter fun sample => rewriteDots sample.sensor.asStr = name

def othersThan (samples : List Sample) (name : String) : List Sample :=
  (numericReadings samples).filter fun sample => rewriteDots sample.sensor.asStr ≠ name

theorem length_bearersOf_add (samples : List Sample) (name : String) :
    (bearersOf samples name).length + (othersThan samples name).length =
      (numericReadings samples).length := by
  unfold bearersOf othersThan
  rw [← List.countP_eq_length_filter, ← List.countP_eq_length_filter]
  have split := List.length_eq_countP_add_countP
    (fun sample : Sample => decide (rewriteDots sample.sensor.asStr = name))
    (l := numericReadings samples)
  simp only [decide_not, decide_eq_true_eq] at split ⊢
  omega

theorem mem_bearersOf {sample : Sample} :
    sample ∈ bearersOf samples name ↔ ∃ value, Bears samples name value sample := by
  unfold bearersOf
  rw [List.mem_filter, mem_numericReadings, decide_eq_true_eq]
  constructor
  · rintro ⟨⟨listed, value, reading⟩, named⟩
    exact ⟨value, listed, named, reading⟩
  · rintro ⟨value, listed, named, reading⟩
    exact ⟨⟨listed, value, reading⟩, named⟩

theorem nodup_filter_ids {keep : Sample → Bool}
    (distinct : (samples.map (·.sensor.asStr)).Nodup) :
    ((samples.filter keep).map (·.sensor.asStr)).Nodup :=
  distinct.sublist (List.filter_sublist.map _)

/-- Every reading but those of the other sensors. -/
def earlyReadings (samples : List Sample) (name : String) : List Sample :=
  (samples.filter fun sample => (alertValue sample.reading).isNone) ++ bearersOf samples name

theorem early_bears : ∀ sample ∈ earlyReadings samples name, ∀ value,
    alertValue sample.reading = some value →
      sample.sensor.asStr ∈ (bearersOf samples name).map (·.sensor.asStr) := by
  intro sample member value reading
  rcases List.mem_append.mp member with silent | bearer
  · have none := (List.mem_filter.mp silent).2
    rw [reading] at none
    cases none
  · exact List.mem_map_of_mem bearer

theorem observes_crowding {more : List Sample}
    (taken : ∀ sample ∈ more, sample ∈ bearersOf samples name) :
    Observes samples (earlyReadings samples name ++ more ++ othersThan samples name) := by
  have bearer_listed : ∀ sample ∈ bearersOf samples name, sample ∈ samples := by
    intro sample member
    obtain ⟨value, bears⟩ := mem_bearersOf.mp member
    exact bears.listed
  constructor
  · intro sample member
    refine ⟨sample, ?_, rfl, rfl⟩
    simp only [earlyReadings, List.mem_append] at member
    rcases member with ((silent | bearer) | again) | other
    · exact List.mem_of_mem_filter silent
    · exact bearer_listed sample bearer
    · exact bearer_listed sample (taken sample again)
    · exact (mem_numericReadings.mp (List.mem_of_mem_filter other)).1
  · intro listed member
    refine ⟨listed, ?_, rfl, rfl⟩
    simp only [earlyReadings, List.mem_append]
    cases reading : alertValue listed.reading with
    | none => exact Or.inl (Or.inl (Or.inl (List.mem_filter.mpr ⟨member, by simp [reading]⟩)))
    | some value =>
        have numeric := mem_numericReadings.mpr ⟨member, value, reading⟩
        by_cases named : rewriteDots listed.sensor.asStr = name
        · exact Or.inl (Or.inl (Or.inr (mem_bearersOf.mpr ⟨value, member, named, reading⟩)))
        · exact Or.inr (List.mem_filter.mpr ⟨numeric, by simpa using named⟩)

theorem live_eq_none (observes : Observes samples observed)
    (gone : ∀ id ∈ (observeAll rules observed).values,
      id ∉ (bearersOf samples name).map (·.sensor.asStr)) :
    (observeAll rules observed).ctx.lookup name = none := by
  cases found : (observeAll rules observed).ctx.lookup name with
  | none => rfl
  | some value =>
      obtain ⟨id, named, stored⟩ := (observeAll_bindsValues rules observed).sourced name value found
      obtain ⟨sample, member, rfl, reading⟩ := lookup_observeAll stored
      obtain ⟨listed, inside, sensor, same⟩ := observes.known sample member
      have bearer : listed ∈ bearersOf samples name :=
        mem_bearersOf.mpr ⟨value, inside, sensor ▸ named, same ▸ reading⟩
      have absent := gone _ (KeyMap.mem_of_lookup stored)
      exact absurd (sensor ▸ List.mem_map_of_mem bearer) absent

/-- The bearers of a variable first, then the sensors that crowd them out. -/
theorem exists_crowded (distinct : (samples.map (·.sensor.asStr)).Nodup)
    (many : valuesCap < (numericReadings samples).length)
    (unreferenced : ∀ value sample, Bears samples name value sample →
      sample.sensor.asStr ∉ (AlertEngine.new rules).referenced)
    (foreign : ∃ numeric ∈ numericReadings samples, rewriteDots numeric.sensor.asStr ≠ name) :
    ∃ observed, Observes samples observed ∧ (observeAll rules observed).ctx.lookup name = none := by
  have numeric_distinct : ((numericReadings samples).map (·.sensor.asStr)).Nodup :=
    nodup_filter_ids distinct
  have bearers_distinct : ((bearersOf samples name).map (·.sensor.asStr)).Nodup :=
    nodup_filter_ids numeric_distinct
  have others_distinct : ((othersThan samples name).map (·.sensor.asStr)).Nodup :=
    nodup_filter_ids numeric_distinct
  have unreferenced_ids : ∀ id ∈ (bearersOf samples name).map (·.sensor.asStr),
      id ∉ (AlertEngine.new rules).referenced := by
    intro id member
    obtain ⟨sample, listed, rfl⟩ := List.mem_map.mp member
    obtain ⟨value, bears⟩ := mem_bearersOf.mp listed
    exact unreferenced value sample bears
  have others_foreign : ∀ sample ∈ othersThan samples name,
      sample.sensor.asStr ∉ (bearersOf samples name).map (·.sensor.asStr) := by
    intro sample member inside
    obtain ⟨bearer, listed, same⟩ := List.mem_map.mp inside
    obtain ⟨value, bears⟩ := mem_bearersOf.mp listed
    have apart := (List.mem_filter.mp member).2
    rw [← same, bears.named] at apart
    simp at apart
  have others_numeric : ∀ sample ∈ othersThan samples name,
      ∃ value, alertValue sample.reading = some value := by
    intro sample member
    exact (mem_numericReadings.mp (List.mem_of_mem_filter member)).2
  have start : Filling ((bearersOf samples name).map (·.sensor.asStr)) (AlertEngine.new rules) :=
    ⟨fun id present => absurd present (AList.notMem_empty id), Nat.zero_le _⟩
  have filled := start.observed unreferenced_ids _ early_bears
  have below := AlertEngine.length_le_of_known filled.known
  have within := filled.within
  obtain ⟨more, taken, full, reached⟩ := Filling.exists_fill
    (fun sample member => (mem_bearersOf.mp member).imp fun value bears => bears.reading) rfl
    bearers_distinct (Nat.min_le_left _ valuesCap) (Nat.min_le_right _ _) filled
    (Nat.le_min.mpr ⟨below, within⟩)
  have crowding : valuesCap <
      (((AlertEngine.new rules).observed (earlyReadings samples name)).observed more).values.entries.length +
        (othersThan samples name).length := by
    have counts := length_bearersOf_add samples name
    have positive : 0 < (othersThan samples name).length := by
      obtain ⟨numeric, member, apart⟩ := foreign
      apply List.length_pos_of_mem (a := numeric)
      exact List.mem_filter.mpr ⟨member, by simpa using apart⟩
    rw [reached, List.length_map]
    omega
  have crowded := observed_crowds_out (othersThan samples name) others_numeric others_foreign
    others_distinct (fun sample member present => others_foreign sample member (full.known _ present))
    (by simpa only [AlertEngine.referenced_observed] using unreferenced_ids) full.within crowding
  have observes := observes_crowding taken
  refine ⟨_, observes, live_eq_none observes ?_⟩
  simpa only [observeAll, AlertEngine.observed_append] using crowded

/-- Whatever the order of the observations, the two contexts agree on the settled
variables, and on no others. -/
theorem settledVariable_iff {scheduler : Scheduler} {read : SensorId → Except PluginError Reading}
    (nowMicros : Nat) :
    (∀ observed, Observes (readings scheduler read) observed →
      (testContext scheduler read nowMicros).lookup name =
        (observeAll rules observed).ctx.lookup name) ↔
    SettledVariable (readings scheduler read) (AlertEngine.new rules).referenced name := by
  constructor
  · intro agrees
    -- a bearer observed last gives the variable its own value
    have tested : ∀ value sample, Bears (readings scheduler read) name value sample →
        (testContext scheduler read nowMicros).lookup name = some value := by
      intro value sample bears
      have observes : Observes (readings scheduler read) (readings scheduler read ++ [sample]) := by
        refine ⟨?_, fun listed member => ⟨listed, List.mem_append_left _ member, rfl, rfl⟩⟩
        intro seen member
        rcases List.mem_append.mp member with listed | last
        · exact ⟨seen, listed, rfl, rfl⟩
        · cases List.mem_singleton.mp last
          exact ⟨sample, bears.listed, rfl, rfl⟩
      rw [agrees _ observes, observeAll_append, ← bears.named]
      exact AlertEngine.lookup_observe_self bears.reading
    refine ⟨?_, ?_, ?_⟩
    · intro value sample bears
      exact exists_scalar_of_testContext (tested value sample bears)
    · intro value sample bears other bearer bearing
      have first := tested value sample bears
      rw [tested other bearer bearing] at first
      exact (Option.some.inj first).symm
    · intro value sample bears
      by_contra lost
      obtain ⟨many, unreferenced, foreign⟩ := by simpa only [not_or, not_le] using lost
      obtain ⟨observed, observes, unbound⟩ := exists_crowded nodup_readings many
        (fun other bearer bearing referenced => unreferenced ⟨other, bearer, bearing, referenced⟩)
        (by simpa only [not_forall, exists_prop] using foreign)
      have agreed := agrees observed observes
      rw [unbound, tested value sample bears] at agreed
      cases agreed
  · intro settled observed observes
    cases live : (observeAll rules observed).ctx.lookup name with
    | some value =>
        obtain ⟨sample, bears⟩ := exists_bearer_of_live observes live
        obtain ⟨bearer, bearing, scalar⟩ := settled.scalar value sample bears
        have bound : name ∈ testContext scheduler read nowMicros := by
          have defined := mem_testContext nowMicros bearing.listed scalar
          rwa [bearing.named] at defined
        obtain ⟨other, found⟩ := KeyMap.exists_lookup bound
        obtain ⟨source, sourced, _⟩ := exists_scalar_of_testContext found
        rw [found, settled.same value sample bears other source sourced]
    | none =>
        cases found : (testContext scheduler read nowMicros).lookup name with
        | none => rfl
        | some value =>
            obtain ⟨source, sourced, _⟩ := exists_scalar_of_testContext found
            have present := settled.mem_live observes sourced
            rw [← AList.lookup_isSome, live] at present
            cases present

end Settled

namespace Evalexpr

variable {evalexpr : Evalexpr}

/-- The names that the text asks its context for. -/
def Mentions (evalexpr : Evalexpr) (text name : String) : Prop :=
  ∃ tokens, evalexpr.tokens text = some tokens ∧ .identifier name ∈ tokens

theorem operands_congr {text : String} {first second : Context}
    (agrees : ∀ name, evalexpr.Mentions text name → first.lookup name = second.lookup name) :
    evalexpr.operands text first.lookup = evalexpr.operands text second.lookup := by
  unfold operands
  cases split : evalexpr.tokens text with
  | none => rfl
  | some tokens =>
      simp only [Option.map_some, Option.some.injEq]
      apply List.map_congr_left
      intro token member
      cases token with
      | identifier name => simp only [operand, agrees name ⟨tokens, split, member⟩]
      | literal text => rfl
      | quoted text => rfl
      | symbol c => rfl

theorem evalBoolean_eq (text : String) (lookup : String → Option Ieee.Value) :
    evalexpr.evalBoolean text lookup =
      match evalexpr.lexemes text.toList with
      | .error error => some (.error error)
      | .ok _ => (evalexpr.operands text lookup).bind evalexpr.evaluate := by
  unfold evalBoolean operands tokens
  cases evalexpr.lexemes text.toList <;> rfl

/-- Whatever is made of the operands, the outcomes agree exactly where the contexts
agree on the names of the text. -/
theorem evalSingle_agrees_iff {text : String} {first second : Context}
    (short : text.utf8ByteSize ≤ maxExprLen) :
    (∀ other, evalexpr.SameGrammar other →
      other.evalSingle text first = other.evalSingle text second) ↔
    ∀ name, evalexpr.Mentions text name → first.lookup name = second.lookup name := by
  constructor
  · intro agrees name mentions
    obtain ⟨tokens, split, member⟩ := mentions
    have grammar : evalexpr.SameGrammar (evalexpr.recognise
        ((tokens.map (operand first.lookup)).map (Operand.anonymous evalexpr.builtin))) :=
      ⟨rfl, rfl, rfl⟩
    have cut : ∀ ctx : Context, evalexpr.operands text ctx.lookup =
        some (tokens.map (operand ctx.lookup)) := by
      intro ctx
      simp only [operands, split, Option.map_some]
    have recognised : ∀ ctx : Context, Evalexpr.evalSingle (evalexpr.recognise
        ((tokens.map (operand first.lookup)).map (Operand.anonymous evalexpr.builtin))) text ctx =
          .ok true ↔
        (tokens.map (operand ctx.lookup)).map (Operand.anonymous evalexpr.builtin) =
          (tokens.map (operand first.lookup)).map (Operand.anonymous evalexpr.builtin) := by
      intro ctx
      rw [evalSingle_ok short, truth_eq, grammar.operands, cut]
      simp [recognise, boolean]
    have same := (recognised second).mp ((agrees _ grammar).symm.trans ((recognised first).mpr rfl))
    rw [List.map_map, List.map_map] at same
    have equal := List.map_inj_left.mp same (.identifier name) member
    simp only [Function.comp_apply, operand, Operand.anonymous, Operand.identifier.injEq] at equal
    exact equal.2.symm
  · intro agrees other grammar
    have same : other.operands text first.lookup = other.operands text second.lookup := by
      rw [grammar.operands, grammar.operands]
      exact operands_congr agrees
    unfold evalSingle
    rw [evalBoolean_eq, evalBoolean_eq, same]

end Evalexpr

/-- Whatever is made of the operands and in whatever order the readings come, a test
has the outcome of the live engine exactly where its text is refused by both for its
length, or it is evaluated in time and every variable it mentions is settled. -/
theorem test_follows_engine (evalexpr : Evalexpr) (expr : String) (scheduler : Scheduler)
    (read : SensorId → Except PluginError Reading) (nowMicros : Nat) (rules : List CompiledRule)
    (inTime : Bool) :
    (∀ other, evalexpr.SameGrammar other → ∀ observed,
      Observes (readings scheduler read) observed →
      other.testOutcome scheduler read nowMicros expr inTime =
        other.evalSingle (rewriteDots expr) (observeAll rules observed).ctx) ↔
    maxExprLen < (rewriteDots expr).utf8ByteSize ∨
      inTime = true ∧ ∀ name, evalexpr.Mentions (rewriteDots expr) name →
        SettledVariable (readings scheduler read) (AlertEngine.new rules).referenced name := by
  by_cases long : maxExprLen < (rewriteDots expr).utf8ByteSize
  · simp only [long, true_or, iff_true]
    intro other grammar observed observes
    simp only [Evalexpr.testOutcome, Evalexpr.evalLimited, Evalexpr.evalSingle, long, ↓reduceIte]
  · have short := Nat.le_of_not_lt long
    simp only [long, false_or]
    cases inTime with
    | false =>
        simp only [Bool.false_eq_true, false_and, iff_false, not_forall]
        refine ⟨evalexpr, ⟨rfl, rfl, rfl⟩, _, observes_self _, ?_⟩
        intro same
        apply evalexpr.evalSingle_ne_timeout
        rw [← same]
        simp only [Evalexpr.testOutcome, Evalexpr.evalLimited, long, ↓reduceIte, Bool.not_false]
    | true =>
        simp only [true_and]
        constructor
        · intro agrees name mentions
          apply (settledVariable_iff nowMicros).mp
          intro observed observes
          apply (Evalexpr.evalSingle_agrees_iff short).mp _ name mentions
          intro other grammar
          exact agrees other grammar observed observes
        · intro settled other grammar observed observes
          apply (Evalexpr.evalSingle_agrees_iff short).mpr _ other grammar
          intro name mentions
          exact (settledVariable_iff nowMicros).mpr (settled name mentions) observed observes

def netRxBytes : SensorDescriptor where
  id := ⟨"net.eth0.rx_bytes"⟩
  displayName := "Network received bytes"
  unit := .bytes
  kind := .counter
  category := .network
  nativeRateHz := .finite 2
  min := some (.finite 0)
  max := none
  deviceId := none
  deviceKey := none
  tags := []

/-- The engine compares the counter, the test does not know it. -/
theorem test_misses_counter :
    let scheduler := Scheduler.new [netRxBytes]
    let read := fun _ => .ok (.counter 900)
    Observes (readings scheduler read) [⟨netRxBytes.id, 7, .counter 900⟩] ∧
    comparisons.evalSingle (rewriteDots "net.eth0.rx_bytes > 500")
      (observeAll [] [⟨netRxBytes.id, 7, .counter 900⟩]).ctx = .ok true ∧
    comparisons.testOutcome scheduler read 7 "net.eth0.rx_bytes > 500" true =
      .err "no comparison of two numbers" := by
  refine ⟨⟨?_, ?_⟩, by decide +kernel, by decide +kernel⟩
  · intro sample member
    cases List.mem_singleton.mp member
    exact ⟨⟨netRxBytes.id, 0, .counter 900⟩, by decide +kernel, rfl, rfl⟩
  · intro listed member
    have only : listed = ⟨netRxBytes.id, 0, .counter 900⟩ :=
      List.mem_singleton.mp (show listed ∈ [_] from member)
    subst only
    exact ⟨_, List.mem_singleton_self _, rfl, rfl⟩

end Alerts

end LinSight
