import LinSight.Library.Journal
import LinSight.Library.Run
import LinSight.Plugin.Registrations

set_option autoImplicit false

/-! The calls that plugin instances get from loading to the drop of their host. -/

namespace LinSight

def pluginAbiVersion : Nat := 6

inductive PluginCall where
  | init (returned : Except PluginError RPluginManifest)
  | sample (id : SensorId)
  | shutdown
  | drop

/-- A plugin's library, by what its symbols give. A factory makes an instance, which is
known by what its `init` returns for a config; `none` is `Null`. -/
structure DynamicFile (Json : Type) where
  abiVersion : Except String Nat
  metadata : Except String (Option String)
  first : Except String (Option Json → Except PluginError RPluginManifest)
  second : Except String (Option Json → Except PluginError RPluginManifest)

/-- With the plugin id of the metadata, where there is one. -/
def DynamicFile.loadOne {Json : Type} (file : DynamicFile Json) :
    Except String (Option String) := do
  let version ← file.abiVersion
  if version ≠ pluginAbiVersion then
    .error ("ABI mismatch: plugin reports v" ++ toString version ++ ", daemon expects v" ++
      toString pluginAbiVersion ++ "; rebuild the plugin against linsight-plugin-sdk v" ++
      toString pluginAbiVersion)
  else file.metadata

/-- The host over instances that are numbered as they are made, with all calls so far. -/
structure HostRun where
  live : LiveHost Nat
  created : Nat
  calls : List (Nat × PluginCall)

namespace HostRun

def empty : HostRun := ⟨LiveHost.empty, 0, []⟩

def call (run : HostRun) (plugin : Nat) (made : PluginCall) : HostRun :=
  { run with calls := run.calls ++ [(plugin, made)] }

def instantiate (run : HostRun) : HostRun := { run with created := run.created + 1 }

def shutdownAndDrop (run : HostRun) (plugin : Nat) : HostRun :=
  (run.call plugin .shutdown).call plugin .drop

def finishRegister (run : HostRun) (plugin : Nat) (manifest : PluginManifest) : HostRun :=
  if run.live.host.plugins.any fun e => e.metadata.pluginId = manifest.pluginId then
    run.shutdownAndDrop plugin
  else { run with live := run.live.finishRegister plugin manifest }

/-- `init` is that of the new instance; `none` is a panic. -/
def registerWithConfigChecked (run : HostRun)
    (returned : Except PluginError RPluginManifest) (expectedPluginId : Option String) :
    Option HostRun :=
  let plugin := run.created
  let run := run.instantiate.call plugin (.init returned)
  match hostInit returned with
  | .error _ => some (run.call plugin .drop)
  | .ok none => none
  | .ok (some manifest) =>
      if expectedPluginId.any (· ≠ manifest.pluginId) then some (run.shutdownAndDrop plugin)
      else some (run.finishRegister plugin manifest)

variable {Json : Type}

/-- One file of `load_from_dir`. -/
def loadFile (configs : String → Option (Option Json)) (run : HostRun) (file : DynamicFile Json) :
    Option HostRun :=
  match file.loadOne with
  | .error _ => some run
  | .ok (some pluginId) =>
      match file.first with
      | .error _ => some run
      | .ok init => run.registerWithConfigChecked (init (configs pluginId).join) (some pluginId)
  | .ok none =>
      match file.first with
      | .error _ => some run
      | .ok init =>
          let plugin := run.created
          let run := run.instantiate.call plugin (.init (init none))
          match hostInit (init none) with
          | .error _ => some (run.call plugin .drop)
          | .ok none => none
          | .ok (some probe) =>
              match configs probe.pluginId with
              | none | some none => some (run.finishRegister plugin probe)
              | some (some config) =>
                  let run := run.shutdownAndDrop plugin
                  match file.second with
                  | .error _ => some run
                  | .ok configured => run.registerWithConfigChecked (configured (some config)) none

inductive Event (Json : Type) where
  | builtin (pluginId : String) (init : Option Json → Except PluginError RPluginManifest)
  | dynamic (file : DynamicFile Json)
  | sample (id : SensorId) (tsMicros : Nat) (read : Nat → SensorId → Except PluginError Reading)

def step (configs : String → Option (Option Json)) (run : HostRun) : Event Json → Option HostRun
  | .builtin pluginId init => run.registerWithConfigChecked (init (configs pluginId).join) none
  | .dynamic file => run.loadFile configs file
  | .sample id tsMicros read => (run.live.sampleTo read id tsMicros).map fun sampled =>
      { run with calls := run.calls ++ sampled.2.map fun made => (made.1, .sample made.2) }

/-- `Drop for PluginHost`, and of its fields after it. -/
def dropHost (run : HostRun) : HostRun :=
  { run with calls := run.calls ++ run.live.instances.map (fun plugin => (plugin, .shutdown)) ++
      run.live.instances.map fun plugin => (plugin, .drop) }

def callsOf (run : HostRun) (plugin : Nat) : List PluginCall :=
  Journal.entriesOf run.calls plugin

end HostRun

/-- The life of one instance. -/
structure Lifecycle (calls : List PluginCall) : Prop where
  paired : ∀ m, .init (.ok m) ∈ calls → ∃ before after, calls = before ++ .shutdown :: after ∧
    .shutdown ∉ before ∧ .shutdown ∉ after ∧ .drop ∉ before ∧ .drop ∈ after
  quiet : ∀ before after, calls = before ++ .shutdown :: after → ∀ made ∈ after, made = .drop
  unpaired : (∀ m, .init (.ok m) ∉ calls) → .shutdown ∉ calls

/-- `host_init` accepts what `init` returns with `Ok`. -/
def InitAccepted (returned : Except PluginError RPluginManifest) : Prop :=
  ∀ m, returned = .ok m → ∃ manifest, hostInit (.ok m) = .ok manifest

/-- A plugin whose one sensor has a blank in its id. -/
def badIdManifest : RPluginManifest where
  pluginId := "test.bad"
  displayName := "Bad"
  version := "0.0.1"
  sensors := [{
    id := ⟨"bad id"⟩
    displayName := "Bad"
    unit := ⟨.count, none⟩
    kind := .scalar
    category := .custom
    nativeRateHz := .finite 1
    min := none
    max := none
    deviceId := none
    deviceKey := none
    tags := [] }]
  devices := []

namespace HostRun

variable {Json : Type}

/-- Each `init` that the loading calls returns an error, or a manifest that is accepted. -/
def Event.InitsAccepted (configs : String → Option (Option Json)) : Event Json → Prop
  | .builtin pluginId init => InitAccepted (init (configs pluginId).join)
  | .dynamic file =>
      match file.loadOne with
      | .error _ => True
      | .ok (some pluginId) =>
          ∀ init, file.first = .ok init → InitAccepted (init (configs pluginId).join)
      | .ok none => ∀ init, file.first = .ok init → InitAccepted (init none) ∧
          ∀ probe config configured, hostInit (init none) = .ok (some probe) →
            configs probe.pluginId = some (some config) → file.second = .ok configured →
            InitAccepted (configured (some config))
  | .sample _ _ _ => True

end HostRun

/-- An instance that is initialised and not yet shut down. -/
def Alive (calls : List PluginCall) : Prop :=
  ∃ (m : RPluginManifest) (ids : List SensorId), calls = .init (.ok m) :: ids.map .sample

section Lives

variable {calls : List PluginCall}

theorem Alive.started (m : RPluginManifest) : Alive [.init (.ok m)] := ⟨m, [], rfl⟩

theorem Alive.sampled (alive : Alive calls) (ids : List SensorId) :
    Alive (calls ++ ids.map .sample) := by
  obtain ⟨m, earlier, same⟩ := alive
  refine ⟨m, earlier ++ ids, ?_⟩
  rw [same, List.map_append, List.cons_append]

theorem Alive.shutdown_notMem (alive : Alive calls) : .shutdown ∉ calls := by
  obtain ⟨m, ids, same⟩ := alive
  simp [same]

theorem Alive.drop_notMem (alive : Alive calls) : .drop ∉ calls := by
  obtain ⟨m, ids, same⟩ := alive
  simp [same]

theorem Alive.initialised (alive : Alive calls) : ∃ m, .init (.ok m) ∈ calls := by
  obtain ⟨m, ids, same⟩ := alive
  exact ⟨m, same ▸ List.mem_cons_self⟩

/-- Shut down and dropped while it is alive, an instance has had a proper life. -/
theorem Alive.lifecycle (alive : Alive calls) :
    Lifecycle (calls ++ [PluginCall.shutdown, PluginCall.drop]) where
  paired _ _ := by
    refine ⟨calls, [.drop], rfl, alive.shutdown_notMem, ?_, alive.drop_notMem, ?_⟩
    · simp
    · simp
  quiet before after same made inside := by
    have alone : PluginCall.shutdown ∉ [PluginCall.drop] := by simp
    have parts := (List.append_cons_inj_of_notMem alive.shutdown_notMem alone).mp same
    rw [← parts.2.2] at inside
    exact List.mem_singleton.mp inside
  unpaired never := by
    obtain ⟨m, started⟩ := alive.initialised
    exact absurd (List.mem_append_left _ started) (never m)

theorem lifecycle_of_shutdown_notMem (never : .shutdown ∉ calls)
    (failed : ∀ m, .init (.ok m) ∉ calls) : Lifecycle calls where
  paired m started := absurd started (failed m)
  quiet before _ same := absurd (same ▸ List.mem_append_right before List.mem_cons_self) never
  unpaired _ := never

theorem lifecycle_nil : Lifecycle [] :=
  lifecycle_of_shutdown_notMem List.not_mem_nil fun _ => List.not_mem_nil

theorem lifecycle_failed (e : PluginError) : Lifecycle [.init (.error e), .drop] := by
  apply lifecycle_of_shutdown_notMem
  · simp
  · simp

/-- A manifest that `host_init` rejects leaves its instance without a shutdown. -/
theorem not_lifecycle_rejected (m : RPluginManifest) : ¬ Lifecycle [.init (.ok m), .drop] := by
  intro life
  obtain ⟨before, after, same, _⟩ := life.paired m List.mem_cons_self
  have called : PluginCall.shutdown ∈ [.init (.ok m), PluginCall.drop] :=
    same ▸ List.mem_append_right before List.mem_cons_self
  simp at called

end Lives

namespace HostRun

/-- An instance that is made and dropped while its plugin is loaded. -/
def gone (run : HostRun) (calls : List PluginCall) : HostRun :=
  { run with
    created := run.created + 1
    calls := run.calls ++ calls.map fun made => (run.created, made) }

/-- An instance that is made and kept. -/
def joined (run : HostRun) (m : RPluginManifest) (manifest : PluginManifest) : HostRun where
  live := run.live.finishRegister run.created manifest
  created := run.created + 1
  calls := run.calls ++ [(run.created, .init (.ok m))]

/-- The host's instances are alive. -/
structure Tracked (run : HostRun) : Prop where
  unmade : ∀ plugin, run.created ≤ plugin → run.callsOf plugin = []
  alive : ∀ plugin ∈ run.live.instances, Alive (run.callsOf plugin)
  made : ∀ plugin ∈ run.live.instances, plugin < run.created
  distinct : run.live.instances.Nodup
  registered : ∃ loaded, Mirrors run.live loaded ∧ ∀ plugin manifest, (plugin, manifest) ∈ loaded →
    ∃ m, .init (.ok m) ∈ run.callsOf plugin ∧ hostInit (.ok m) = .ok (some manifest)

/-- The instances that the host does not hold have had a proper life. -/
def Sound (run : HostRun) : Prop :=
  ∀ plugin, plugin ∉ run.live.instances → Lifecycle (run.callsOf plugin)

/-- The host is tracked through, and stays sound exactly on the condition. -/
structure Keeps (run next : HostRun) (condition : Prop) : Prop where
  tracked : next.Tracked
  sound_iff : next.Sound ↔ run.Sound ∧ condition

section Steps

variable {run middle next : HostRun} {first second : Prop}

theorem Keeps.refl (tracked : run.Tracked) : run.Keeps run True :=
  ⟨tracked, (and_iff_left trivial).symm⟩

theorem Keeps.trans (one : run.Keeps middle first) (two : middle.Keeps next second) :
    run.Keeps next (first ∧ second) :=
  ⟨two.tracked, by rw [two.sound_iff, one.sound_iff, and_assoc]⟩

theorem Keeps.congr (keeps : run.Keeps next first) (same : first ↔ second) :
    run.Keeps next second :=
  ⟨keeps.tracked, by rw [keeps.sound_iff, same]⟩

theorem callsOf_gone_self (tracked : run.Tracked) (calls : List PluginCall) :
    (run.gone calls).callsOf run.created = calls := by
  have none_before := tracked.unmade run.created (Nat.le_refl _)
  unfold callsOf at none_before ⊢
  rw [gone, Journal.entriesOf_append, none_before, Journal.entriesOf_own, List.nil_append]

theorem callsOf_gone_other {plugin : Nat} (differs : run.created ≠ plugin)
    (calls : List PluginCall) : (run.gone calls).callsOf plugin = run.callsOf plugin := by
  unfold callsOf
  rw [gone, Journal.entriesOf_append, Journal.entriesOf_other differs, List.append_nil]

theorem Tracked.notMem (tracked : run.Tracked) : run.created ∉ run.live.instances := by
  intro inside
  have earlier := tracked.made run.created inside
  omega

/-- Later calls leave on record what the plugins returned. -/
theorem Tracked.registered_append (tracked : run.Tracked) (more : List (Nat × PluginCall)) :
    ∃ loaded, Mirrors run.live loaded ∧ ∀ plugin manifest, (plugin, manifest) ∈ loaded →
      ∃ m, .init (.ok m) ∈ Journal.entriesOf (run.calls ++ more) plugin ∧
        hostInit (.ok m) = .ok (some manifest) := by
  obtain ⟨loaded, mirrors, returned⟩ := tracked.registered
  refine ⟨loaded, mirrors, ?_⟩
  intro plugin manifest inside
  obtain ⟨m, started, accepted⟩ := returned plugin manifest inside
  refine ⟨m, ?_, accepted⟩
  rw [Journal.entriesOf_append]
  exact List.mem_append_left _ started

theorem Tracked.gone (tracked : run.Tracked) (calls : List PluginCall) :
    run.Keeps (run.gone calls) (Lifecycle calls) := by
  have other : ∀ plugin ∈ run.live.instances, run.created ≠ plugin :=
    fun plugin inside same => tracked.notMem (same ▸ inside)
  constructor
  · constructor
    · intro plugin beyond
      have beyond : run.created + 1 ≤ plugin := beyond
      rw [callsOf_gone_other (by omega)]
      exact tracked.unmade plugin (by omega)
    · intro plugin inside
      rw [callsOf_gone_other (other plugin inside)]
      exact tracked.alive plugin inside
    · intro plugin inside
      have before := tracked.made plugin inside
      show plugin < run.created + 1
      omega
    · exact tracked.distinct
    · exact tracked.registered_append _
  · constructor
    · intro sound
      constructor
      · intro plugin outside
        by_cases same : run.created = plugin
        · rw [← same, tracked.unmade _ (Nat.le_refl _)]
          exact lifecycle_nil
        · have life := sound plugin outside
          rwa [callsOf_gone_other same] at life
      · have life := sound run.created tracked.notMem
        rwa [callsOf_gone_self tracked] at life
    · intro both plugin outside
      by_cases same : run.created = plugin
      · rw [← same, callsOf_gone_self tracked]
        exact both.2
      · rw [callsOf_gone_other same]
        exact both.1 plugin outside

theorem callsOf_joined (m : RPluginManifest) (manifest : PluginManifest) (plugin : Nat) :
    (run.joined m manifest).callsOf plugin = (run.gone [.init (.ok m)]).callsOf plugin := rfl

theorem Tracked.joined (tracked : run.Tracked) {m : RPluginManifest} {manifest : PluginManifest}
    (accepted : hostInit (.ok m) = .ok (some manifest))
    (fresh : ¬ run.live.host.plugins.any
      (fun e => e.metadata.pluginId = manifest.pluginId) = true) :
    run.Keeps (run.joined m manifest) True := by
  have instances : (run.joined m manifest).live.instances = run.live.instances ++ [run.created] :=
    LiveHost.finishRegister_instances fresh
  have other : ∀ plugin ∈ run.live.instances, run.created ≠ plugin :=
    fun plugin inside same => tracked.notMem (same ▸ inside)
  have own : (run.joined m manifest).callsOf run.created = [.init (.ok m)] := by
    rw [callsOf_joined, callsOf_gone_self tracked]
  constructor
  · constructor
    · intro plugin beyond
      have beyond : run.created + 1 ≤ plugin := beyond
      rw [callsOf_joined, callsOf_gone_other (by omega)]
      exact tracked.unmade plugin (by omega)
    · intro plugin inside
      rw [instances] at inside
      rcases List.mem_append.mp inside with earlier | new
      · rw [callsOf_joined, callsOf_gone_other (other plugin earlier)]
        exact tracked.alive plugin earlier
      · rw [List.mem_singleton.mp new, own]
        exact Alive.started m
    · intro plugin inside
      rw [instances] at inside
      show plugin < run.created + 1
      rcases List.mem_append.mp inside with earlier | new
      · have before := tracked.made plugin earlier
        omega
      · rw [List.mem_singleton.mp new]
        omega
    · rw [instances, List.nodup_append_comm]
      exact List.nodup_cons.mpr ⟨tracked.notMem, tracked.distinct⟩
    · obtain ⟨loaded, mirrors, returned⟩ := tracked.registered_append
        [(run.created, .init (.ok m))]
      refine ⟨_, mirrors.finishRegister run.created manifest, ?_⟩
      intro plugin declared inside
      rcases mem_loadFirst inside with earlier | new
      · exact returned plugin declared earlier
      · cases new
        exact ⟨m, by rw [own]; exact List.mem_cons_self, accepted⟩
  · rw [and_iff_left trivial]
    constructor
    · intro sound plugin outside
      by_cases same : run.created = plugin
      · rw [← same, tracked.unmade _ (Nat.le_refl _)]
        exact lifecycle_nil
      · have absent : plugin ∉ (run.joined m manifest).live.instances := by
          rw [instances, List.mem_append, List.mem_singleton]
          exact not_or.mpr ⟨outside, fun equal => same equal.symm⟩
        have life := sound plugin absent
        rwa [callsOf_joined, callsOf_gone_other same] at life
    · intro sound plugin outside
      rw [instances, List.mem_append, List.mem_singleton] at outside
      rw [callsOf_joined, callsOf_gone_other fun same => outside (.inr same.symm)]
      exact sound plugin fun inside => outside (.inl inside)

/-- A live instance is sampled. -/
theorem Tracked.sampled (tracked : run.Tracked) {plugin : Nat}
    (inside : plugin ∈ run.live.instances) (id : SensorId) :
    run.Keeps (run.call plugin (.sample id)) True := by
  have own : (run.call plugin (.sample id)).callsOf plugin =
      run.callsOf plugin ++ [id].map PluginCall.sample := by
    unfold callsOf call
    rw [Journal.entriesOf_append]
    congr 1
    exact Journal.entriesOf_own plugin [PluginCall.sample id]
  have others : ∀ other, plugin ≠ other →
      (run.call plugin (.sample id)).callsOf other = run.callsOf other := by
    intro other differs
    unfold callsOf call
    rw [Journal.entriesOf_append, ← List.append_nil (Journal.entriesOf run.calls other)]
    congr 1
    · exact List.append_nil _
    · exact Journal.entriesOf_other differs [PluginCall.sample id]
  have within := tracked.made plugin inside
  constructor
  · constructor
    · intro other beyond
      have beyond : run.created ≤ other := beyond
      rw [others other (by omega)]
      exact tracked.unmade other beyond
    · intro other held
      by_cases same : plugin = other
      · rw [← same, own]
        exact (tracked.alive plugin inside).sampled [id]
      · rw [others other same]
        exact tracked.alive other held
    · exact tracked.made
    · exact tracked.distinct
    · exact tracked.registered_append _
  · rw [and_iff_left trivial]
    have same_lives : ∀ other, other ∉ run.live.instances →
        (run.call plugin (.sample id)).callsOf other = run.callsOf other :=
      fun other outside => others other fun same => outside (same ▸ inside)
    constructor
    · intro sound other outside
      exact same_lives other outside ▸ sound other outside
    · intro sound other outside
      rw [same_lives other outside]
      exact sound other outside

end Steps

section Loading

variable {run : HostRun} {m : RPluginManifest} {manifest : PluginManifest}

theorem shutdownAndDrop_keeps (tracked : run.Tracked) (m : RPluginManifest) :
    run.Keeps ((run.instantiate.call run.created (.init (.ok m))).shutdownAndDrop run.created)
      True := by
  have same : (run.instantiate.call run.created (.init (.ok m))).shutdownAndDrop run.created =
      run.gone [.init (.ok m), .shutdown, .drop] := by
    simp [shutdownAndDrop, call, instantiate, gone]
  rw [same]
  exact (tracked.gone _).congr (iff_true_intro (Alive.started m).lifecycle)

theorem finishRegister_keeps (tracked : run.Tracked)
    (accepted : hostInit (.ok m) = .ok (some manifest)) :
    run.Keeps ((run.instantiate.call run.created (.init (.ok m))).finishRegister run.created
      manifest) True := by
  by_cases known : run.live.host.plugins.any fun e => e.metadata.pluginId = manifest.pluginId
  · have skipped : (run.instantiate.call run.created (.init (.ok m))).finishRegister run.created
        manifest =
          (run.instantiate.call run.created (.init (.ok m))).shutdownAndDrop run.created :=
      if_pos known
    rw [skipped]
    exact shutdownAndDrop_keeps tracked m
  · have kept : (run.instantiate.call run.created (.init (.ok m))).finishRegister run.created
        manifest = run.joined m manifest := if_neg known
    rw [kept]
    exact tracked.joined accepted known

theorem rejected_keeps (tracked : run.Tracked) {returned : Except PluginError RPluginManifest}
    {e : PluginError} (rejected : hostInit returned = .error e) :
    run.Keeps ((run.instantiate.call run.created (.init returned)).call run.created .drop)
      (InitAccepted returned) := by
  have same : (run.instantiate.call run.created (.init returned)).call run.created .drop =
      run.gone [.init returned, .drop] := by
    simp [call, instantiate, gone]
  rw [same]
  apply (tracked.gone _).congr
  cases returned with
  | error failed =>
      apply iff_of_true (lifecycle_failed failed)
      intro m given
      cases given
  | ok m =>
      apply iff_of_false (not_lifecycle_rejected m)
      intro accepted
      obtain ⟨manifest, given⟩ := accepted m rfl
      rw [rejected] at given
      cases given

/-- What `host_init` accepts comes from an `init` that returned it. -/
theorem hostInit_accepted {returned : Except PluginError RPluginManifest}
    {converted : Option PluginManifest} (accepted : hostInit returned = .ok converted) :
    ∃ m manifest, returned = .ok m ∧ converted = some manifest ∧ InitAccepted returned := by
  obtain ⟨manifest, same, _⟩ := hostInit_valid accepted
  cases returned with
  | error e => cases accepted
  | ok m =>
      refine ⟨m, manifest, rfl, same, ?_⟩
      intro other given
      exact ⟨converted, given ▸ accepted⟩

theorem registerWithConfigChecked_keeps (tracked : run.Tracked)
    (returned : Except PluginError RPluginManifest) (expected : Option String) :
    ∃ next, run.registerWithConfigChecked returned expected = some next ∧
      run.Keeps next (InitAccepted returned) := by
  unfold registerWithConfigChecked
  cases given : hostInit returned with
  | error e => exact ⟨_, rfl, rejected_keeps tracked given⟩
  | ok converted =>
      obtain ⟨m, manifest, started, same, accepted⟩ := hostInit_accepted given
      subst started same
      have holds : True ↔ InitAccepted (.ok m) := (iff_true_intro accepted).symm
      by_cases mismatch : expected.any (· ≠ manifest.pluginId) = true
      · simp only [mismatch, ↓reduceIte]
        exact ⟨_, rfl, (shutdownAndDrop_keeps tracked m).congr holds⟩
      · simp only [mismatch, Bool.false_eq_true, ↓reduceIte]
        exact ⟨_, rfl, (finishRegister_keeps tracked given).congr holds⟩

end Loading

section Runs

variable {run : HostRun} {Json : Type} {configs : String → Option (Option Json)}

/-- A file without metadata: its probe is kept, or makes way for a configured instance. -/
theorem loadFile_probed (tracked : run.Tracked) {file : DynamicFile Json}
    {init : Option Json → Except PluginError RPluginManifest} (unnamed : file.loadOne = .ok none)
    (made : file.first = .ok init) :
    ∃ next, run.loadFile configs file = some next ∧
      run.Keeps next (InitAccepted (init none) ∧
        ∀ probe config configured, hostInit (init none) = .ok (some probe) →
          configs probe.pluginId = some (some config) → file.second = .ok configured →
          InitAccepted (configured (some config))) := by
  simp only [loadFile, unnamed, made]
  cases given : hostInit (init none) with
  | error e =>
      refine ⟨_, rfl, (rejected_keeps tracked given).congr ?_⟩
      rw [iff_self_and]
      intro _ probe _ _ probed
      cases probed
  | ok converted =>
      obtain ⟨m, probe, started, same, accepted⟩ := hostInit_accepted given
      rw [started] at given accepted ⊢
      subst same
      have unconfigured : (∀ config, configs probe.pluginId ≠ some (some config)) →
          (True ↔ InitAccepted (.ok m) ∧ ∀ other config configured,
            (.ok (some probe) : Except PluginError (Option PluginManifest)) = .ok (some other) →
            configs other.pluginId = some (some config) → file.second = .ok configured →
            InitAccepted (configured (some config))) := by
        intro absent
        refine (iff_true_intro ⟨accepted, ?_⟩).symm
        intro other config _ probed found
        cases probed
        exact absurd found (absent config)
      cases config : configs probe.pluginId with
      | none =>
          refine ⟨_, by simp only [config], (finishRegister_keeps tracked given).congr
            (unconfigured ?_)⟩
          simp [config]
      | some value =>
          cases value with
          | none =>
              refine ⟨_, by simp only [config], (finishRegister_keeps tracked given).congr
                (unconfigured ?_)⟩
              simp [config]
          | some value =>
              have probed := shutdownAndDrop_keeps tracked m
              cases second : file.second with
              | error e =>
                  refine ⟨_, by simp only [config], probed.congr
                    (iff_true_intro ⟨accepted, ?_⟩).symm⟩
                  intro _ _ _ _ _ made
                  cases made
              | ok configured =>
                  obtain ⟨next, taken, keeps⟩ := registerWithConfigChecked_keeps probed.tracked
                    (configured (some value)) none
                  refine ⟨next, by simpa only [config] using taken, (probed.trans keeps).congr ?_⟩
                  rw [true_and]
                  constructor
                  · intro holds
                    refine ⟨accepted, ?_⟩
                    intro other config' configured' same found made
                    cases same
                    cases made
                    rw [config] at found
                    cases found
                    exact holds
                  · intro both
                    exact both.2 probe value configured rfl config rfl

theorem loadFile_keeps (tracked : run.Tracked) (file : DynamicFile Json) :
    ∃ next, run.loadFile configs file = some next ∧
      run.Keeps next (Event.InitsAccepted configs (.dynamic file)) := by
  cases loaded : file.loadOne with
  | error e =>
      have skipped : run.loadFile configs file = some run := by simp only [loadFile, loaded]
      refine ⟨run, skipped, (Keeps.refl tracked).congr ?_⟩
      simp only [Event.InitsAccepted, loaded]
  | ok metadata =>
      cases made : file.first with
      | error e =>
          have skipped : run.loadFile configs file = some run := by
            simp only [loadFile, loaded, made]
            cases metadata <;> rfl
          refine ⟨run, skipped, (Keeps.refl tracked).congr ?_⟩
          cases metadata <;> simp [Event.InitsAccepted, loaded, made]
      | ok init =>
          cases metadata with
          | none =>
              obtain ⟨next, taken, keeps⟩ := loadFile_probed tracked loaded made
              refine ⟨next, taken, keeps.congr ?_⟩
              simp [Event.InitsAccepted, loaded, made]
          | some pluginId =>
              obtain ⟨next, taken, keeps⟩ := registerWithConfigChecked_keeps tracked
                (init (configs pluginId).join) (some pluginId)
              refine ⟨next, ?_, keeps.congr ?_⟩
              · simp only [loadFile, loaded, made, taken]
              · simp [Event.InitsAccepted, loaded, made]

/-- A step of the host is never a panic. -/
theorem step_keeps (tracked : run.Tracked) (event : Event Json) :
    ∃ next, step configs run event = some next ∧ run.Keeps next (event.InitsAccepted configs) := by
  cases event with
  | builtin pluginId init => exact registerWithConfigChecked_keeps tracked _ none
  | dynamic file => exact loadFile_keeps tracked file
  | sample id tsMicros read =>
      obtain ⟨loaded, mirrors, _⟩ := tracked.registered
      cases found : run.live.host.registry.lookup id with
      | none =>
          have unknown := mirrors.consistent.unsampled read id tsMicros found
          have idle : step configs run (.sample id tsMicros read) = some run := by
            rw [step, unknown]
            simp
          exact ⟨run, idle, Keeps.refl tracked⟩
      | some entry =>
          obtain ⟨idx, d⟩ := entry
          obtain ⟨plugin, manifest, _, present, _⟩ := mirrors.entry found
          have sampled := mirrors.consistent.sampled read id idx d plugin manifest tsMicros found
            present
          have inside : plugin ∈ run.live.instances := by
            rw [mirrors.instances]
            exact List.mem_map_of_mem (List.mem_of_getElem? present)
          have taken : step configs run (.sample id tsMicros read) =
              some (run.call plugin (.sample id)) := by
            rw [step, sampled]
            rfl
          exact ⟨_, taken, tracked.sampled inside id⟩

theorem exec_keeps (tracked : run.Tracked) (events : List (Event Json)) :
    ∃ final, Run.exec (step configs) run events = some final ∧
      run.Keeps final (∀ event ∈ events, event.InitsAccepted configs) := by
  induction events generalizing run with
  | nil => exact ⟨run, rfl, (Keeps.refl tracked).congr (by simp)⟩
  | cons event rest ih =>
      obtain ⟨next, taken, keeps⟩ := @step_keeps run Json configs tracked event
      obtain ⟨final, ran, later⟩ := ih keeps.tracked
      refine ⟨final, Run.exec_cons.mpr ⟨next, taken, ran⟩, (keeps.trans later).congr ?_⟩
      rw [List.forall_mem_cons]

theorem Tracked.empty : HostRun.empty.Tracked where
  unmade _ _ := rfl
  alive _ inside := absurd inside List.not_mem_nil
  made _ inside := absurd inside List.not_mem_nil
  distinct := List.nodup_nil
  registered := ⟨[], Mirrors.empty, fun _ _ inside => absurd inside List.not_mem_nil⟩

theorem Sound.empty : HostRun.empty.Sound := fun _ _ => lifecycle_nil

theorem callsOf_dropHost (tracked : run.Tracked) (plugin : Nat) :
    run.dropHost.callsOf plugin = if plugin ∈ run.live.instances then
      run.callsOf plugin ++ [PluginCall.shutdown, PluginCall.drop] else run.callsOf plugin := by
  unfold callsOf dropHost
  rw [Journal.entriesOf_append, Journal.entriesOf_append,
    Journal.entriesOf_each tracked.distinct, Journal.entriesOf_each tracked.distinct]
  split
  · rw [List.append_assoc]
    rfl
  · rw [List.append_nil, List.append_nil]

/-- The drop of the host ends the lives of the instances it holds, and those only. -/
theorem dropHost_lifecycle_iff (tracked : run.Tracked) :
    (∀ plugin, Lifecycle (run.dropHost.callsOf plugin)) ↔ run.Sound := by
  constructor
  · intro lives plugin outside
    have life := lives plugin
    rwa [callsOf_dropHost tracked, if_neg outside] at life
  · intro sound plugin
    rw [callsOf_dropHost tracked]
    by_cases inside : plugin ∈ run.live.instances
    · rw [if_pos inside]
      exact (tracked.alive plugin inside).lifecycle
    · rw [if_neg inside]
      exact sound plugin inside

/-- Whatever is loaded and sampled, in any order, before the host is dropped: all instances
have a proper life exactly where `host_init` accepts every manifest that an `init` returns. -/
theorem plugin_lifecycle_iff (configs : String → Option (Option Json))
    (events : List (Event Json)) :
    ∃ run, Run.exec (step configs) empty events = some run ∧
      ((∀ plugin, Lifecycle (run.dropHost.callsOf plugin)) ↔
        ∀ event ∈ events, event.InitsAccepted configs) := by
  obtain ⟨run, ran, keeps⟩ := @exec_keeps empty Json configs Tracked.empty events
  refine ⟨run, ran, ?_⟩
  rw [dropHost_lifecycle_iff keeps.tracked, keeps.sound_iff]
  exact and_iff_right Sound.empty

/-- The instance has opened what it opened, and is dropped without a word. -/
theorem rejected_without_shutdown : ∃ run,
    Run.exec (step (fun _ => (none : Option (Option String)))) empty [.dynamic {
      abiVersion := .ok pluginAbiVersion
      metadata := .ok (some "test.bad")
      first := .ok fun _ => .ok badIdManifest
      second := .error "" }] = some run ∧
    run.dropHost.callsOf 0 = [.init (.ok badIdManifest), .drop] ∧
    ¬ Lifecycle (run.dropHost.callsOf 0) := by
  refine ⟨_, rfl, rfl, not_lifecycle_rejected badIdManifest⟩

/-- The registry of every host that is reached is consistent, for the manifests that the
plugins' own `init` returned. -/
theorem exec_consistent {run : HostRun} {events : List (Event Json)}
    (ran : Run.exec (step configs) empty events = some run) :
    ∃ loaded, Consistent run.live loaded ∧ ∀ plugin manifest, (plugin, manifest) ∈ loaded →
      ∃ m, .init (.ok m) ∈ run.callsOf plugin ∧ hostInit (.ok m) = .ok (some manifest) := by
  obtain ⟨final, same, keeps⟩ := @exec_keeps empty Json configs Tracked.empty events
  rw [ran] at same
  cases same
  obtain ⟨loaded, mirrors, returned⟩ := keeps.tracked.registered
  exact ⟨loaded, mirrors.consistent, returned⟩

end Runs

end HostRun

end LinSight
