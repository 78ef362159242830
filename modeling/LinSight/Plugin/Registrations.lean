import LinSight.Plugin.Host
import LinSight.Core.Types

set_option autoImplicit false

/-! Whose sensor is whose, after any registrations. -/

namespace LinSight

variable {P : Type}

/-- The plugin host with the plugin of each entry. -/
structure LiveHost (P : Type) where
  host : PluginHost
  instances : List P
  aligned : instances.length = host.plugins.length

namespace PluginHost

/-- `plugins`: what clients are told about each plugin. -/
def identities (host : PluginHost) : List (PluginMeta × Nat) :=
  host.plugins.map fun e => (e.metadata, e.sensorCount)

/-- The entries of the registry that point at plugin `idx`. -/
def entriesOf (host : PluginHost) (idx : Nat) :
    List (Sigma fun _ : SensorId => Nat × SensorDescriptor) :=
  host.registry.entries.filter fun entry => entry.2.1 = idx

theorem finishRegister_plugins {host : PluginHost} {manifest : PluginManifest}
    (fresh : ¬ host.plugins.any (fun e => e.metadata.pluginId = manifest.pluginId) = true) :
    (host.finishRegister manifest).plugins = host.plugins ++ [{
      metadata := ⟨manifest.pluginId, manifest.displayName, manifest.version⟩
      sensorCount := (manifest.sensors.foldl (acceptSensor host.plugins.length)
        (host.registry, [])).2.length
      devices := manifest.devices
      sensors := (manifest.sensors.foldl (acceptSensor host.plugins.length)
        (host.registry, [])).2 }] := by
  simp only [finishRegister, fresh, Bool.false_eq_true, ↓reduceIte]

theorem finishRegister_registry {host : PluginHost} {manifest : PluginManifest}
    (fresh : ¬ host.plugins.any (fun e => e.metadata.pluginId = manifest.pluginId) = true) :
    (host.finishRegister manifest).registry =
      (manifest.sensors.foldl (acceptSensor host.plugins.length) (host.registry, [])).1 := by
  simp only [finishRegister, fresh, Bool.false_eq_true, ↓reduceIte]

end PluginHost

namespace LiveHost

def empty : LiveHost P := ⟨⟨[], ∅⟩, [], rfl⟩

/-- `finish_register` with the plugin that it keeps or drops. -/
def finishRegister (live : LiveHost P) (plugin : P) (manifest : PluginManifest) : LiveHost P :=
  if known : live.host.plugins.any fun e => e.metadata.pluginId = manifest.pluginId then live
  else {
    host := live.host.finishRegister manifest
    instances := live.instances ++ [plugin]
    aligned := by
      rw [PluginHost.finishRegister_plugins known, List.length_append, List.length_append,
        live.aligned]
      rfl }

def registerAll (regs : List (P × PluginManifest)) : LiveHost P :=
  regs.foldl (fun live reg => live.finishRegister reg.1 reg.2) empty

/-- With the calls that it makes; `none` is a panic. -/
def sampleTo (live : LiveHost P) (sample : P → SensorId → Except PluginError Reading)
    (id : SensorId) (tsMicros : Nat) :
    Option (Except PluginError Sample × List (P × SensorId)) :=
  match live.host.registry.lookup id with
  | none => some (.error (.unsupported id.asStr), [])
  | some (idx, _) => live.instances[idx]?.map fun plugin =>
      ((sample plugin id).map fun reading => ⟨id, tsMicros, reading⟩, [(plugin, id)])

end LiveHost

section Specification

/-- Of several registrations under one plugin id the first is loaded. -/
def loadFirst (loaded : List (P × PluginManifest)) (reg : P × PluginManifest) :
    List (P × PluginManifest) :=
  if loaded.any fun other => other.2.pluginId = reg.2.pluginId then loaded else loaded ++ [reg]

def loadedOf (regs : List (P × PluginManifest)) : List (P × PluginManifest) :=
  regs.foldl loadFirst []

/-- What a manifest declares for an id. -/
def PluginManifest.declares (manifest : PluginManifest) (id : SensorId) : Option SensorDescriptor :=
  manifest.sensors.find? fun d => d.id = id

/-- The first loaded plugin that declares the sensor. -/
def ownerOf (loaded : List (P × PluginManifest)) (id : SensorId) :
    Option (Nat × SensorDescriptor) :=
  loaded.zipIdx.findSome? fun reg => (reg.1.2.declares id).map fun d => (reg.2, d)

theorem ownerOf_append (loaded : List (P × PluginManifest)) (reg : P × PluginManifest)
    (id : SensorId) :
    ownerOf (loaded ++ [reg]) id =
      (ownerOf loaded id).or ((reg.2.declares id).map fun d => (loaded.length, d)) := by
  unfold ownerOf
  rw [List.zipIdx_append, List.findSome?_append]
  simp

theorem ownerOf_sound {loaded : List (P × PluginManifest)} {id : SensorId} {idx : Nat}
    {d : SensorDescriptor} (owned : ownerOf loaded id = some (idx, d)) :
    ∃ reg, loaded[idx]? = some reg ∧ reg.2.declares id = some d := by
  obtain ⟨⟨reg, at_idx⟩, inside, declared⟩ := List.exists_of_findSome?_eq_some owned
  obtain ⟨found, declares, same⟩ := Option.map_eq_some_iff.mp declared
  cases same
  exact ⟨reg, List.mem_zipIdx_iff_getElem?.mp inside, declares⟩

theorem ownerOf_first {loaded : List (P × PluginManifest)} {id : SensorId} {idx : Nat}
    {reg : P × PluginManifest} (present : loaded[idx]? = some reg)
    (declares : (reg.2.declares id).isSome = true) :
    ∃ owner d, ownerOf loaded id = some (owner, d) ∧ owner ≤ idx := by
  induction loaded using List.reverseRecOn with
  | nil => cases present
  | append_singleton front last ih =>
      rw [ownerOf_append]
      by_cases inside : idx < front.length
      · rw [List.getElem?_append_left inside] at present
        obtain ⟨owner, d, owned, before⟩ := ih present
        exact ⟨owner, d, by rw [owned, Option.some_or], before⟩
      · rw [List.getElem?_append_right (by omega)] at present
        have at_end : idx = front.length := by
          have bound := (List.getElem?_eq_some_iff.mp present).1
          simp at bound
          omega
        cases owned : ownerOf front id with
        | some found =>
            obtain ⟨reg', there, _⟩ := ownerOf_sound owned
            have bound := (List.getElem?_eq_some_iff.mp there).1
            exact ⟨found.1, found.2, rfl, by omega⟩
        | none =>
            have same : last = reg := by
              rw [at_end, Nat.sub_self] at present
              exact Option.some.inj present
            obtain ⟨d, declared⟩ := Option.isSome_iff_exists.mp declares
            exact ⟨front.length, d, by rw [same, declared]; rfl, by omega⟩

end Specification

section Accepting

variable {idx : Nat} {desc : SensorDescriptor}
  {accepted : KeyMap SensorId (Nat × SensorDescriptor) × List SensorDescriptor}

theorem acceptSensor_known (known : (accepted.1.lookup desc.id).isSome = true) :
    PluginHost.acceptSensor idx accepted desc = accepted := by
  simp only [PluginHost.acceptSensor, known, ↓reduceIte]

theorem acceptSensor_fresh (fresh : desc.id ∉ accepted.1) :
    PluginHost.acceptSensor idx accepted desc =
      (accepted.1.insert desc.id (idx, desc), accepted.2 ++ [desc]) := by
  have absent : ¬ (accepted.1.lookup desc.id).isSome = true := by
    rwa [AList.lookup_isSome]
  simp only [PluginHost.acceptSensor, absent, Bool.false_eq_true, ↓reduceIte]

theorem acceptSensor_lookup (id : SensorId) :
    (PluginHost.acceptSensor idx accepted desc).1.lookup id =
      (accepted.1.lookup id).or (if desc.id = id then some (idx, desc) else none) := by
  by_cases known : (accepted.1.lookup desc.id).isSome = true
  · rw [acceptSensor_known known]
    by_cases same : desc.id = id
    · obtain ⟨held, found⟩ := Option.isSome_iff_exists.mp known
      rw [← same, found, Option.some_or]
    · rw [if_neg same, Option.or_none]
  · have fresh : desc.id ∉ accepted.1 := by rwa [← AList.lookup_isSome]
    rw [acceptSensor_fresh fresh]
    by_cases same : desc.id = id
    · have absent : accepted.1.lookup id = none := same ▸ AList.lookup_eq_none.mpr fresh
      rw [if_pos same, absent, Option.none_or, ← same]
      exact AList.lookup_insert accepted.1
    · rw [if_neg same, Option.or_none]
      exact AList.lookup_insert_ne fun equal => same equal.symm

theorem foldl_acceptSensor_lookup (descs : List SensorDescriptor) (id : SensorId) :
    (descs.foldl (PluginHost.acceptSensor idx) accepted).1.lookup id =
      (accepted.1.lookup id).or ((descs.find? fun d => d.id = id).map fun d => (idx, d)) := by
  induction descs generalizing accepted with
  | nil => simp
  | cons desc rest ih =>
      rw [List.foldl_cons, ih, acceptSensor_lookup, Option.or_assoc, List.find?_cons]
      congr 1
      by_cases same : desc.id = id
      · simp [same]
      · simp [same]

/-- How many entries point at a plugin. -/
def pointing (idx : Nat) (registry : KeyMap SensorId (Nat × SensorDescriptor)) : Nat :=
  registry.entries.countP fun entry => entry.2.1 = idx

/-- A plugin's counter moves with the entries that point at it. -/
theorem acceptSensor_own :
    pointing idx (PluginHost.acceptSensor idx accepted desc).1 + accepted.2.length =
      pointing idx accepted.1 + (PluginHost.acceptSensor idx accepted desc).2.length := by
  by_cases known : (accepted.1.lookup desc.id).isSome = true
  · rw [acceptSensor_known known]
  · have fresh : desc.id ∉ accepted.1 := by rwa [← AList.lookup_isSome]
    rw [acceptSensor_fresh fresh]
    simp only [pointing, AList.entries_insert_of_notMem fresh, List.countP_cons, decide_true,
      ↓reduceIte, List.length_append, List.length_singleton]
    omega

theorem acceptSensor_other {other : Nat} (differs : idx ≠ other) :
    pointing other (PluginHost.acceptSensor idx accepted desc).1 = pointing other accepted.1 := by
  by_cases known : (accepted.1.lookup desc.id).isSome = true
  · rw [acceptSensor_known known]
  · have fresh : desc.id ∉ accepted.1 := by rwa [← AList.lookup_isSome]
    rw [acceptSensor_fresh fresh]
    simp only [pointing, AList.entries_insert_of_notMem fresh, List.countP_cons, differs,
      decide_false, Bool.false_eq_true, ↓reduceIte, Nat.add_zero]

theorem foldl_acceptSensor_own (descs : List SensorDescriptor) :
    pointing idx (descs.foldl (PluginHost.acceptSensor idx) accepted).1 + accepted.2.length =
      pointing idx accepted.1 +
        (descs.foldl (PluginHost.acceptSensor idx) accepted).2.length := by
  induction descs generalizing accepted with
  | nil => rfl
  | cons desc rest ih =>
      have here := @acceptSensor_own idx desc accepted
      have later := @ih (PluginHost.acceptSensor idx accepted desc)
      rw [List.foldl_cons]
      omega

theorem foldl_acceptSensor_other (descs : List SensorDescriptor) {other : Nat}
    (differs : idx ≠ other) :
    pointing other (descs.foldl (PluginHost.acceptSensor idx) accepted).1 =
      pointing other accepted.1 := by
  induction descs generalizing accepted with
  | nil => rfl
  | cons desc rest ih => rw [List.foldl_cons, ih, acceptSensor_other differs]

end Accepting

/-- The host mirrors the plugins that were loaded. -/
structure Mirrors (live : LiveHost P) (loaded : List (P × PluginManifest)) : Prop where
  instances : live.instances = loaded.map (·.1)
  metadata : live.host.plugins.map (·.metadata) =
    loaded.map fun reg => ⟨reg.2.pluginId, reg.2.displayName, reg.2.version⟩
  distinct : (loaded.map (·.2.pluginId)).Nodup
  lookup : ∀ id, live.host.registry.lookup id = ownerOf loaded id
  count : ∀ idx, pointing idx live.host.registry =
    ((live.host.plugins[idx]?).map (·.sensorCount)).getD 0

section Registration

variable {live : LiveHost P} {loaded : List (P × PluginManifest)}

theorem Mirrors.length (mirrors : Mirrors live loaded) :
    live.host.plugins.length = loaded.length := by
  rw [← live.aligned, mirrors.instances, List.length_map]

theorem Mirrors.ids (mirrors : Mirrors live loaded) :
    live.host.plugins.map (·.metadata.pluginId) = loaded.map (·.2.pluginId) := by
  have names := congrArg (List.map PluginMeta.pluginId) mirrors.metadata
  simpa only [List.map_map, Function.comp_def] using names

/-- The host and its specification reject the same plugins. -/
theorem Mirrors.known_iff (mirrors : Mirrors live loaded) (name : String) :
    (live.host.plugins.any fun e => e.metadata.pluginId = name) =
      loaded.any fun other => other.2.pluginId = name := by
  have as_names : ∀ {α : Type} (f : α → String) (list : List α),
      (list.any fun item => f item = name) = (list.map f).any fun id => id = name := by
    intro α f list
    rw [List.any_map]
    rfl
  rw [as_names (fun e : PluginEntry => e.metadata.pluginId), mirrors.ids,
    ← as_names (fun other : P × PluginManifest => other.2.pluginId)]

theorem Mirrors.empty : Mirrors (LiveHost.empty : LiveHost P) [] where
  instances := rfl
  metadata := rfl
  distinct := List.nodup_nil
  lookup _ := rfl
  count _ := rfl

/-- Registering a plugin is admitting it. -/
theorem Mirrors.finishRegister (mirrors : Mirrors live loaded) (plugin : P)
    (manifest : PluginManifest) :
    Mirrors (live.finishRegister plugin manifest) (loadFirst loaded (plugin, manifest)) := by
  unfold LiveHost.finishRegister loadFirst
  have agree := mirrors.known_iff manifest.pluginId
  by_cases known : live.host.plugins.any fun e => e.metadata.pluginId = manifest.pluginId
  · rw [dif_pos known, if_pos (agree ▸ known)]
    exact mirrors
  · rw [dif_neg known, if_neg (agree ▸ known)]
    have last := mirrors.length
    constructor
    · show live.instances ++ [plugin] = _
      rw [mirrors.instances, List.map_append]
      rfl
    · show (live.host.finishRegister manifest).plugins.map _ = _
      rw [PluginHost.finishRegister_plugins known, List.map_append, mirrors.metadata,
        List.map_append]
      rfl
    · have fresh : manifest.pluginId ∉ loaded.map (·.2.pluginId) := by
        rw [agree] at known
        simpa using known
      rw [List.map_append, List.nodup_append_comm]
      exact List.nodup_cons.mpr ⟨fresh, mirrors.distinct⟩
    · intro id
      show (live.host.finishRegister manifest).registry.lookup id = _
      rw [PluginHost.finishRegister_registry known, foldl_acceptSensor_lookup, ownerOf_append,
        mirrors.lookup, last]
      rfl
    · intro idx
      show pointing idx (live.host.finishRegister manifest).registry =
        ((live.host.finishRegister manifest).plugins[idx]?.map _).getD 0
      rw [PluginHost.finishRegister_registry known, PluginHost.finishRegister_plugins known]
      have before := mirrors.count idx
      by_cases new : live.host.plugins.length = idx
      · subst new
        have counted := @foldl_acceptSensor_own live.host.plugins.length
          (live.host.registry, []) manifest.sensors
        rw [List.getElem?_eq_none (Nat.le_refl _)] at before
        rw [List.getElem?_concat_length]
        simp only [Option.map_none, Option.getD_none, List.length_nil] at before counted
        simp only [Option.map_some, Option.getD_some]
        omega
      · rw [foldl_acceptSensor_other _ new, before]
        by_cases inside : idx < live.host.plugins.length
        · rw [List.getElem?_append_left inside]
        · have beyond : live.host.plugins.length + 1 ≤ idx := by omega
          rw [List.getElem?_eq_none (by omega), List.getElem?_eq_none (by simpa using beyond)]

theorem LiveHost.finishRegister_instances {plugin : P} {manifest : PluginManifest}
    (fresh : ¬ live.host.plugins.any
      (fun e => e.metadata.pluginId = manifest.pluginId) = true) :
    (live.finishRegister plugin manifest).instances = live.instances ++ [plugin] := by
  unfold LiveHost.finishRegister
  rw [dif_neg fresh]

theorem mem_loadFirst {reg other : P × PluginManifest} (inside : other ∈ loadFirst loaded reg) :
    other ∈ loaded ∨ other = reg := by
  unfold loadFirst at inside
  split at inside
  · exact .inl inside
  · exact (List.mem_append.mp inside).imp_right List.mem_singleton.mp

theorem registerAll_mirrors (regs : List (P × PluginManifest)) :
    Mirrors (LiveHost.registerAll regs) (loadedOf regs) := by
  unfold LiveHost.registerAll loadedOf
  have general : ∀ (live : LiveHost P) (loaded : List (P × PluginManifest)),
      Mirrors live loaded → Mirrors (regs.foldl (fun live reg =>
        live.finishRegister reg.1 reg.2) live) (regs.foldl loadFirst loaded) := by
    induction regs with
    | nil =>
        intro live loaded mirrors
        exact mirrors
    | cons reg rest ih =>
        intro live loaded mirrors
        exact ih _ _ (mirrors.finishRegister reg.1 reg.2)
  exact general _ _ Mirrors.empty

theorem loadedOf_append (regs more : List (P × PluginManifest)) :
    loadedOf (regs ++ more) = more.foldl loadFirst (loadedOf regs) :=
  List.foldl_append

/-- Later registrations take no sensor away. -/
theorem ownerOf_stays {id : SensorId} {owner : Nat × SensorDescriptor}
    (owned : ownerOf loaded id = some owner) (more : List (P × PluginManifest)) :
    ownerOf (more.foldl loadFirst loaded) id = some owner := by
  induction more generalizing loaded with
  | nil => exact owned
  | cons reg rest ih =>
      apply ih
      unfold loadFirst
      split
      · exact owned
      · rw [ownerOf_append, owned, Option.some_or]

end Registration

/-- What the registry says about the plugins that were loaded. -/
structure Consistent (live : LiveHost P) (loaded : List (P × PluginManifest)) : Prop where
  entry : ∀ id idx d, live.host.registry.lookup id = some (idx, d) →
    ∃ plugin manifest e, loaded[idx]? = some (plugin, manifest) ∧
      live.host.plugins[idx]? = some e ∧ e.metadata.pluginId = manifest.pluginId ∧
      manifest.declares id = some d ∧ d ∈ manifest.sensors ∧ d.id = id
  distinct : (live.host.plugins.map (·.metadata.pluginId)).Nodup
  first : ∀ id idx plugin manifest, loaded[idx]? = some (plugin, manifest) →
    (∃ d ∈ manifest.sensors, d.id = id) →
    ∃ owner d, live.host.registry.lookup id = some (owner, d) ∧ owner ≤ idx
  count : ∀ idx metadata n, live.host.identities[idx]? = some (metadata, n) →
    n = (live.host.entriesOf idx).length
  sampled : ∀ sample id idx d plugin manifest tsMicros,
    live.host.registry.lookup id = some (idx, d) → loaded[idx]? = some (plugin, manifest) →
    live.sampleTo sample id tsMicros =
      some ((sample plugin id).map fun reading => ⟨id, tsMicros, reading⟩, [(plugin, id)])
  unsampled : ∀ sample id tsMicros, live.host.registry.lookup id = none →
    live.sampleTo sample id tsMicros = some (.error (.unsupported id.asStr), [])

section Consistency

variable {live : LiveHost P} {loaded : List (P × PluginManifest)}

theorem Mirrors.entry (mirrors : Mirrors live loaded) {id : SensorId} {idx : Nat}
    {d : SensorDescriptor} (found : live.host.registry.lookup id = some (idx, d)) :
    ∃ plugin manifest e, loaded[idx]? = some (plugin, manifest) ∧
      live.host.plugins[idx]? = some e ∧ e.metadata.pluginId = manifest.pluginId ∧
      manifest.declares id = some d ∧ d ∈ manifest.sensors ∧ d.id = id := by
  rw [mirrors.lookup] at found
  obtain ⟨⟨plugin, manifest⟩, present, declared⟩ := ownerOf_sound found
  have bound := (List.getElem?_eq_some_iff.mp present).1
  rw [← mirrors.length] at bound
  have stored := List.getElem?_eq_getElem bound
  have names := congrArg (fun list => list[idx]?) mirrors.ids
  simp only [List.getElem?_map, stored, present, Option.map_some, Option.some.injEq] at names
  have named := List.find?_some declared
  exact ⟨plugin, manifest, _, present, stored, names, declared, List.mem_of_find?_eq_some declared,
    of_decide_eq_true named⟩

theorem Mirrors.consistent (mirrors : Mirrors live loaded) : Consistent live loaded := by
  constructor
  · intro id idx d found
    exact mirrors.entry found
  · rw [mirrors.ids]
    exact mirrors.distinct
  · intro id idx plugin manifest present declares
    rw [mirrors.lookup]
    apply ownerOf_first present
    obtain ⟨d, inside, named⟩ := declares
    rw [PluginManifest.declares, List.find?_isSome]
    exact ⟨d, inside, decide_eq_true named⟩
  · intro idx metadata n told
    rw [PluginHost.identities, List.getElem?_map] at told
    obtain ⟨e, stored, same⟩ := Option.map_eq_some_iff.mp told
    have counted := mirrors.count idx
    rw [pointing, List.countP_eq_length_filter, stored] at counted
    cases same
    exact counted.symm
  · intro sample id idx d plugin manifest tsMicros found present
    have owner : live.instances[idx]? = some plugin := by
      rw [mirrors.instances, List.getElem?_map, present]
      rfl
    simp only [LiveHost.sampleTo, found, owner, Option.map_some]
  · intro sample id tsMicros absent
    simp only [LiveHost.sampleTo, absent]

/-- After any registrations the registry is that of the plugins that were loaded, and
whatever is registered later leaves each sensor with its owner. -/
theorem registry_consistent (regs : List (P × PluginManifest)) :
    Consistent (LiveHost.registerAll regs) (loadedOf regs) ∧
      ∀ more id owner, (LiveHost.registerAll regs).host.registry.lookup id = some owner →
        (LiveHost.registerAll (regs ++ more)).host.registry.lookup id = some owner := by
  constructor
  · exact (registerAll_mirrors regs).consistent
  · intro more id owner owned
    rw [(registerAll_mirrors regs).lookup] at owned
    rw [(registerAll_mirrors (regs ++ more)).lookup, loadedOf_append]
    exact ownerOf_stays owned more

end Consistency

end LinSight
