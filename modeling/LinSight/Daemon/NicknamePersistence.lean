import LinSight.Daemon.SetNickname

set_option autoImplicit false

namespace LinSight

open DebugText (Message)

/-- What holds of a handler while the registry stands at `version`. -/
structure Handler.Valid (handler : Handler) (registry : HardwareRegistry) (version : Nat) :
    Prop where
  fresh : handler.phase = .received → handler.change = none
  change : ∀ change, handler.change = some change →
    change.order ≤ version ∧ change.key.asStr = handler.deviceKey
  snapshot : ∀ store taken, handler.phase = .snapshotted store taken →
    taken ≤ version ∧ (taken = version → KeyMap.Same store.nicknames registry.nicknamesSnapshot)
  refused : ∀ error, handler.response = some (.error error) → handler.phase = .finished
  acknowledged : ∀ payload, handler.response = some (.ok payload) →
    ∃ change, handler.change = some change ∧ payload = Nicknames.acknowledgement handler change

/-- The handler will still save the last change, or failed to save. -/
def Handler.Owes (handler : Handler) (version : Nat) : Prop :=
  handler.phase = .applied ∨ (∃ store, handler.phase = .snapshotted store version) ∨
    ∃ message, handler.response = some (.error ⟨.io, message⟩)

/-- A change made later puts the handler's own snapshot in the past. -/
theorem Handler.Valid.later {handler : Handler} {registry next : HardwareRegistry} {version : Nat}
    (valid : handler.Valid registry version) : handler.Valid next (version + 1) where
  fresh := valid.fresh
  change := by
    intro change made
    obtain ⟨bounded, keyed⟩ := valid.change change made
    exact ⟨by omega, keyed⟩
  snapshot := by
    intro store taken snapshotted
    have bounded := (valid.snapshot store taken snapshotted).1
    refine ⟨by omega, fun current => ?_⟩
    omega
  refused := valid.refused
  acknowledged := valid.acknowledged

/-- Phases in which a handler has no snapshot in hand keep it valid as long as
its change and its answer stay. -/
theorem Handler.Valid.move {handler : Handler} {registry : HardwareRegistry} {version : Nat}
    (valid : handler.Valid registry version) (phase : HandlerPhase)
    (started : phase ≠ .received)
    (snapshot : ∀ store taken, phase = .snapshotted store taken →
      taken ≤ version ∧ (taken = version → KeyMap.Same store.nicknames registry.nicknamesSnapshot))
    (working : handler.phase ≠ .finished) :
    ({ handler with phase } : Handler).Valid registry version where
  fresh same := absurd same started
  change := valid.change
  snapshot := snapshot
  refused error answered := absurd (valid.refused error answered) working
  acknowledged := valid.acknowledged

theorem Handler.Valid.refuse {handler : Handler} {registry : HardwareRegistry} {version : Nat}
    (valid : handler.Valid registry version) (code : ProtoErrorCode) (message : Message) :
    (handler.refuse code message).Valid registry version where
  fresh same := nomatch same
  change := valid.change
  snapshot _ _ same := nomatch same
  refused _ _ := rfl
  acknowledged _ same := nomatch same

namespace Nicknames

section Persistence

variable {Text : Type} {codec : NicknameStore.Codec Text} {world next : Nicknames Text}

/-- Some handler has made the change. -/
def Made (world : Nicknames Text) (change : Change) : Prop :=
  ∃ id handler, world.handlers.lookup id = some handler ∧ handler.change = some change

/-- A later request for the same key replaced the change. -/
def Replaced (world : Nicknames Text) (change : Change) : Prop :=
  ∃ later, world.Made later ∧ later.key = change.key ∧ change.order < later.order

/-- The file holds what the registry holds. -/
def FileCurrent (codec : NicknameStore.Codec Text) (world : Nicknames Text) : Prop :=
  KeyMap.Same (NicknameStore.load codec world.file).1.nicknames world.registry.nicknamesSnapshot

/-- Registry, file and handlers agree. `clean` says whether the file the daemon
started from named only keys that parse. -/
structure Consistent (codec : NicknameStore.Codec Text) (clean : Prop)
    (world : Nicknames Text) : Prop where
  handlers : ∀ id handler, world.handlers.lookup id = some handler →
    handler.Valid world.registry world.version
  changes : ∀ change, world.Made change →
    world.registry.nicknames.lookup change.key = change.value ∨ world.Replaced change
  untouched : clean → world.savedVersion = none → world.version = 0 → world.FileCurrent codec
  file : ∀ saved, world.savedVersion = some saved →
    saved ≤ world.version ∧ (saved = world.version → world.FileCurrent codec)
  progress : world.savedVersion = some world.version ∨
    (world.savedVersion = none ∧ world.version = 0) ∨
    ∃ id handler, world.handlers.lookup id = some handler ∧ handler.Owes world.version

/-- No snapshot that is newer than the one being saved is in the file yet. -/
def SavesInOrder (world : Nicknames Text) : Step → Prop
  | .save id none => ∀ handler store version saved, world.handlers.lookup id = some handler →
      handler.phase = .snapshotted store version → world.savedVersion = some saved →
      saved ≤ version
  | _ => True

variable {clean : Prop}

theorem lookup_withHandler (world : Nicknames Text) (id other : Nat) (handler : Handler) :
    (world.withHandler id handler).handlers.lookup other =
      if other = id then some handler else world.handlers.lookup other :=
  KeyMap.lookup_insert_eq world.handlers id other handler

/-- A handler that keeps its change keeps the set of changes. -/
theorem made_insert {id : Nat} {handler : Handler}
    (same : next.handlers = world.handlers.insert id handler)
    (kept : handler.change = (world.handlers.lookup id).bind (·.change)) (change : Change) :
    next.Made change ↔ world.Made change := by
  constructor
  · intro ⟨other, held, found, made⟩
    rw [same, KeyMap.lookup_insert_eq] at found
    split at found
    · cases found
      rw [kept, Option.bind_eq_some_iff] at made
      obtain ⟨old, present, made⟩ := made
      exact ⟨id, old, present, made⟩
    · exact ⟨other, held, found, made⟩
  · intro ⟨other, held, found, made⟩
    by_cases here : other = id
    · subst here
      refine ⟨other, handler, ?_, ?_⟩
      · rw [same, KeyMap.lookup_insert_eq, if_pos rfl]
      · rw [kept, found]
        exact made
    · refine ⟨other, held, ?_, made⟩
      rw [same, KeyMap.lookup_insert_eq, if_neg here]
      exact found

/-- Steps that only move one handler. -/
theorem Consistent.update (consistent : world.Consistent codec clean) {id : Nat}
    {handler : Handler} (handlers : next.handlers = world.handlers.insert id handler)
    (registry : next.registry = world.registry) (file : next.file = world.file)
    (version : next.version = world.version) (saved : next.savedVersion = world.savedVersion)
    (valid : handler.Valid world.registry world.version)
    (kept : handler.change = (world.handlers.lookup id).bind (·.change))
    (owes : ∀ old, world.handlers.lookup id = some old → old.Owes world.version →
      handler.Owes world.version) : next.Consistent codec clean := by
  have made := fun change => made_insert handlers kept change
  have current : next.FileCurrent codec ↔ world.FileCurrent codec := by
    unfold FileCurrent
    rw [file, registry]
  refine ⟨?_, ?_, ?_, ?_, ?_⟩
  · intro other held found
    rw [registry, version]
    rw [handlers, KeyMap.lookup_insert_eq] at found
    split at found
    · cases found
      exact valid
    · exact consistent.handlers other held found
  · intro change present
    rw [registry]
    rcases consistent.changes change ((made change).mp present) with stored | ⟨later, by_other, rest⟩
    · exact Or.inl stored
    · exact Or.inr ⟨later, (made later).mpr by_other, rest⟩
  · intro started never zero
    exact current.mpr (consistent.untouched started (saved ▸ never) (version ▸ zero))
  · intro last stored
    rw [version]
    obtain ⟨bounded, same⟩ := consistent.file last (saved ▸ stored)
    exact ⟨bounded, fun up_to_date => current.mpr (same up_to_date)⟩
  · rw [saved, version]
    rcases consistent.progress with done | never | ⟨other, held, found, pending⟩
    · exact Or.inl done
    · exact Or.inr (Or.inl never)
    · right
      right
      by_cases here : other = id
      · subst here
        refine ⟨other, handler, ?_, owes held found pending⟩
        rw [handlers, KeyMap.lookup_insert_eq, if_pos rfl]
      · refine ⟨other, held, ?_, pending⟩
        rw [handlers, KeyMap.lookup_insert_eq, if_neg here]
        exact found

/-- A successful `set_nickname` opens a new version, owed by its handler. -/
theorem Consistent.changed (consistent : world.Consistent codec clean) {id : Nat}
    {handler : Handler} (found : world.handlers.lookup id = some handler)
    (received : handler.phase = .received) {key : HardwareDeviceKey} {normalized : Option String}
    {registry : HardwareRegistry} (parsed : HardwareDeviceKey.tryNew handler.deviceKey = .ok key)
    (accepted : normalizeValue handler.value = .ok normalized)
    (stored : world.registry.setNickname key normalized = .ok registry) :
    ({ world.withHandler id { handler with
        phase := .applied
        change := some ⟨key, normalized, world.version + 1⟩ } with
      registry
      version := world.version + 1 } : Nicknames Text).Consistent codec clean := by
  have valid := consistent.handlers id handler found
  have no_change : handler.change = none := valid.fresh received
  have lookup := HardwareRegistry.lookup_setNickname stored (normalizeValue_normalized accepted)
  generalize next_eq : ({ world.withHandler id { handler with
        phase := .applied
        change := some ⟨key, normalized, world.version + 1⟩ } with
      registry
      version := world.version + 1 } : Nicknames Text) = next
  have handlers : ∀ other, next.handlers.lookup other =
      if other = id then some { handler with
        phase := .applied
        change := some ⟨key, normalized, world.version + 1⟩ }
      else world.handlers.lookup other := by
    intro other
    rw [← next_eq]
    exact lookup_withHandler world id other _
  have registry_eq : next.registry = registry := by rw [← next_eq]
  have version : next.version = world.version + 1 := by rw [← next_eq]
  have saved : next.savedVersion = world.savedVersion := by
    rw [← next_eq]
    rfl
  have mine : next.Made ⟨key, normalized, world.version + 1⟩ :=
    ⟨id, _, (handlers id).trans (if_pos rfl), rfl⟩
  have earlier : ∀ change, world.Made change → next.Made change := by
    intro change ⟨other, held, present, made⟩
    have differs : other ≠ id := by
      intro same
      rw [same, found] at present
      cases present
      rw [no_change] at made
      cases made
    exact ⟨other, held, (handlers other).trans ((if_neg differs).trans present), made⟩
  refine ⟨?_, ?_, ?_, ?_, ?_⟩
  · intro other held present
    rw [registry_eq, version]
    rw [handlers] at present
    split at present
    · cases present
      refine ⟨fun same => (nomatch same), ?_, fun _ _ same => (nomatch same), ?_, ?_⟩
      · intro change made
        cases made
        exact ⟨Nat.le_refl _, HardwareDeviceKey.asStr_of_tryNew parsed⟩
      · intro error answered
        have finished := valid.refused error answered
        rw [received] at finished
        cases finished
      · intro payload answered
        obtain ⟨change, made, _⟩ := valid.acknowledged payload answered
        rw [no_change] at made
        cases made
    · exact (consistent.handlers other held present).later
  · intro change ⟨other, held, present, made⟩
    rw [registry_eq]
    rw [handlers] at present
    split at present
    · cases present
      cases made
      left
      exact (lookup key).trans (if_pos rfl)
    · have before : world.Made change := ⟨other, held, present, made⟩
      have bounded := ((consistent.handlers other held present).change change made).1
      by_cases same : change.key = key
      · right
        exact ⟨_, mine, same.symm, Nat.lt_succ_of_le bounded⟩
      · rcases consistent.changes change before with stays | ⟨later, by_other, rest⟩
        · left
          rw [lookup, if_neg same]
          exact stays
        · exact Or.inr ⟨later, earlier later by_other, rest⟩
  · intro _ _ zero
    rw [version] at zero
    omega
  · intro last stored_version
    rw [version]
    have bounded := (consistent.file last (saved ▸ stored_version)).1
    refine ⟨by omega, fun same => ?_⟩
    omega
  · right
    right
    exact ⟨id, _, (handlers id).trans (if_pos rfl), Or.inl rfl⟩

/-- A save in order brings the file up to the version of its snapshot. -/
theorem Consistent.saved (consistent : world.Consistent codec clean) {id : Nat}
    {handler : Handler} {store : NicknameStore} {taken : Nat}
    (found : world.handlers.lookup id = some handler)
    (snapshotted : handler.phase = .snapshotted store taken)
    (ordered : ∀ saved, world.savedVersion = some saved → saved ≤ taken) :
    ({ world.withHandler id { handler with phase := .saved } with
      file := NicknameStore.save codec store false world.file
      savedVersion := some taken } : Nicknames Text).Consistent codec clean := by
  have valid := consistent.handlers id handler found
  obtain ⟨bounded, fresh⟩ := valid.snapshot store taken snapshotted
  generalize next_eq : ({ world.withHandler id { handler with phase := .saved } with
      file := NicknameStore.save codec store false world.file
      savedVersion := some taken } : Nicknames Text) = next
  have handlers : next.handlers = world.handlers.insert id { handler with phase := .saved } := by
    rw [← next_eq]
    rfl
  have registry : next.registry = world.registry := by
    rw [← next_eq]
    rfl
  have version : next.version = world.version := by
    rw [← next_eq]
    rfl
  have saved : next.savedVersion = some taken := by rw [← next_eq]
  have kept : ({ handler with phase := .saved } : Handler).change =
      (world.handlers.lookup id).bind (·.change) := by
    rw [found]
    rfl
  have made := fun change => made_insert handlers kept change
  refine ⟨?_, ?_, ?_, ?_, ?_⟩
  · intro other held present
    rw [registry, version]
    rw [handlers, KeyMap.lookup_insert_eq] at present
    split at present
    · cases present
      refine valid.move .saved (fun same => nomatch same) (fun _ _ same => nomatch same) ?_
      rw [snapshotted]
      exact fun same => nomatch same
    · exact consistent.handlers other held present
  · intro change present
    rw [registry]
    rcases consistent.changes change ((made change).mp present) with stays | ⟨later, by_other, rest⟩
    · exact Or.inl stays
    · exact Or.inr ⟨later, (made later).mpr by_other, rest⟩
  · intro _ never
    rw [saved] at never
    cases never
  · intro last stored
    rw [saved] at stored
    cases stored
    rw [version]
    refine ⟨bounded, fun current => ?_⟩
    unfold FileCurrent
    rw [registry, ← next_eq]
    intro key
    rw [NicknameStore.load_save codec store world.file key]
    exact fresh current key
  · rw [saved, version]
    by_cases current : taken = world.version
    · left
      rw [current]
    · right
      right
      -- an older snapshot: whoever made the last change has not saved it
      rcases consistent.progress with done | ⟨_, zero⟩ | ⟨other, held, present, pending⟩
      · have late := ordered _ done
        omega
      · omega
      · have differs : other ≠ id := by
          intro same
          rw [same, found] at present
          cases present
          rcases pending with applied | ⟨newest, snapshot⟩ | ⟨message, failed⟩
          · rw [snapshotted] at applied
            cases applied
          · rw [snapshotted] at snapshot
            cases snapshot
            exact current rfl
          · have finished := valid.refused _ failed
            rw [snapshotted] at finished
            cases finished
        refine ⟨other, held, ?_, pending⟩
        rw [handlers, KeyMap.lookup_insert_eq, if_neg differs]
        exact present

/-- Carrying a handler on to a phase in which it owes nothing new. -/
theorem Consistent.advance (consistent : world.Consistent codec clean) {id : Nat}
    {handler : Handler} (found : world.handlers.lookup id = some handler) (phase : HandlerPhase)
    (started : phase ≠ .received) (empty : ∀ store taken, phase ≠ .snapshotted store taken)
    (working : handler.phase ≠ .finished) (paid : ¬ handler.Owes world.version)
    (handlers : next.handlers = world.handlers.insert id { handler with phase })
    (registry : next.registry = world.registry) (file : next.file = world.file)
    (version : next.version = world.version) (saved : next.savedVersion = world.savedVersion) :
    next.Consistent codec clean := by
  have valid := consistent.handlers id handler found
  refine consistent.update handlers registry file version saved
    (valid.move phase started (fun store taken same => absurd same (empty store taken)) working)
    ?_ ?_
  · rw [found]
    rfl
  · intro old present owes
    rw [found] at present
    cases present
    exact absurd owes paid

/-- A handler past its save owes nothing. -/
theorem paid_of_valid {handler : Handler} (valid : handler.Valid world.registry world.version)
    (applied : handler.phase ≠ .applied)
    (snapshotted : ∀ store, handler.phase ≠ .snapshotted store world.version)
    (working : handler.phase ≠ .finished) : ¬ handler.Owes world.version := by
  intro owes
  rcases owes with same | ⟨store, same⟩ | ⟨message, failed⟩
  · exact applied same
  · exact snapshotted store same
  · exact working (valid.refused _ failed)

theorem Consistent.refuse (consistent : world.Consistent codec clean) {id : Nat}
    {handler : Handler} (found : world.handlers.lookup id = some handler)
    (code : ProtoErrorCode) (message : Message)
    (paid : handler.Owes world.version → code = .io)
    (handlers : next.handlers = world.handlers.insert id (handler.refuse code message))
    (registry : next.registry = world.registry) (file : next.file = world.file)
    (version : next.version = world.version) (saved : next.savedVersion = world.savedVersion) :
    next.Consistent codec clean := by
  have valid := consistent.handlers id handler found
  refine consistent.update handlers registry file version saved (valid.refuse code message) ?_ ?_
  · rw [found]
    rfl
  · intro old present owes
    rw [found] at present
    cases present
    rw [paid owes]
    exact Or.inr (Or.inr ⟨message, rfl⟩)

theorem Consistent.applyChange (consistent : world.Consistent codec clean) {id : Nat}
    {handler : Handler} (found : world.handlers.lookup id = some handler)
    (received : handler.phase = .received) :
    (world.applyChange id handler).Consistent codec clean := by
  have valid := consistent.handlers id handler found
  have paid : ¬ handler.Owes world.version := by
    apply paid_of_valid valid
    all_goals
      rw [received]
      intros
      exact fun same => nomatch same
  unfold Nicknames.applyChange
  split
  · exact consistent.refuse found _ _ (fun owes => absurd owes paid) rfl rfl rfl rfl rfl
  · rename_i key parsed
    split
    · exact consistent.refuse found _ _ (fun owes => absurd owes paid) rfl rfl rfl rfl rfl
    · rename_i normalized accepted
      split
      · exact consistent.refuse found _ _ (fun owes => absurd owes paid) rfl rfl rfl rfl rfl
      · rename_i registry stored
        exact consistent.changed found received parsed accepted stored

theorem Consistent.snapshot (consistent : world.Consistent codec clean) {id : Nat}
    {handler : Handler} (found : world.handlers.lookup id = some handler)
    (applied : handler.phase = .applied) :
    (world.withHandler id { handler with
      phase := .snapshotted ⟨1, world.registry.nicknamesSnapshot⟩ world.version }).Consistent
      codec clean := by
  have valid := consistent.handlers id handler found
  refine consistent.update rfl rfl rfl rfl rfl ?_ ?_ ?_
  · refine valid.move _ (fun same => nomatch same) ?_ ?_
    · intro store taken same
      cases same
      exact ⟨Nat.le_refl _, fun _ _ => rfl⟩
    · rw [applied]
      exact fun same => nomatch same
  · rw [found]
    rfl
  · intro _ _ _
    exact Or.inr (Or.inl ⟨_, rfl⟩)

theorem Consistent.respond (consistent : world.Consistent codec clean) {id : Nat}
    {handler : Handler} {change : Change} (found : world.handlers.lookup id = some handler)
    (saved : handler.phase = .saved) (made : handler.change = some change) (delivered : Bool) :
    (world.withHandler id (if delivered then
        { handler with
          phase := .responded
          response := some (.ok (acknowledgement handler change)) }
      else { handler with phase := .finished })).Consistent codec clean := by
  have valid := consistent.handlers id handler found
  have working : handler.phase ≠ .finished := by
    rw [saved]
    exact fun same => nomatch same
  have paid : ¬ handler.Owes world.version := by
    apply paid_of_valid valid
    all_goals
      rw [saved]
      intros
      exact fun same => nomatch same
  cases delivered with
  | false =>
      exact consistent.advance found .finished (fun same => nomatch same)
        (fun _ _ same => nomatch same) working paid rfl rfl rfl rfl rfl
  | true =>
      refine consistent.update rfl rfl rfl rfl rfl ?_ ?_ ?_
      · refine ⟨fun same => (nomatch same), valid.change, fun _ _ same => (nomatch same),
          fun _ same => (nomatch same), ?_⟩
        intro payload answered
        cases answered
        exact ⟨change, made, rfl⟩
      · rw [found]
        rfl
      · intro old present owes
        rw [found] at present
        cases present
        exact absurd owes paid

/-- Every step that saves in order keeps registry and file consistent. -/
theorem step_consistent {pluginIdFor : SensorId → Option String}
    {descriptors : List SensorDescriptor} {label : Step}
    (taken : step codec pluginIdFor descriptors world label = some next)
    (ordered : world.SavesInOrder label) (consistent : world.Consistent codec clean) :
    next.Consistent codec clean := by
  cases label <;>
    simp only [step, Option.bind_eq_some_iff, Run.enabled_eq_some] at taken
  case receive id deviceKey value =>
    obtain ⟨absent, rfl⟩ := taken
    refine consistent.update rfl rfl rfl rfl rfl ?_ ?_ ?_
    · exact ⟨fun _ => rfl, fun _ made => (by cases made), fun _ _ same => (by cases same),
        fun _ same => (by cases same), fun _ same => (by cases same)⟩
    · rw [absent]
      rfl
    · intro old present
      rw [absent] at present
      cases present
  case setNickname id =>
    obtain ⟨handler, found, done⟩ := taken
    split at done <;> cases done
    rename_i received
    exact consistent.applyChange found received
  case snapshot id =>
    obtain ⟨handler, found, done⟩ := taken
    split at done <;> cases done
    rename_i applied
    exact consistent.snapshot found applied
  case save id failure =>
    obtain ⟨handler, found, done⟩ := taken
    split at done <;> cases done
    · rename_i store version snapshotted
      exact consistent.saved found snapshotted fun saved stored =>
        ordered handler store version saved found snapshotted stored
    · exact consistent.refuse found .io _ (fun _ => rfl) rfl rfl rfl rfl rfl
  case respond id delivered =>
    obtain ⟨handler, found, done⟩ := taken
    split at done <;> cases done
    rename_i saved made
    exact consistent.respond found saved made delivered
  case catalogue id =>
    obtain ⟨handler, found, done⟩ := taken
    split at done <;> cases done
    rename_i responded
    refine consistent.advance found (.catalogued _) (fun same => by cases same)
      (fun _ _ same => by cases same) ?_ ?_ rfl rfl rfl rfl rfl
    · rw [responded]
      exact fun same => by cases same
    · apply paid_of_valid (consistent.handlers id handler found)
      all_goals
        rw [responded]
        intros
        exact fun same => by cases same
  case broadcast id =>
    obtain ⟨handler, found, done⟩ := taken
    split at done <;> cases done
    rename_i infos catalogued
    refine consistent.advance found .finished (fun same => by cases same)
      (fun _ _ same => by cases same) ?_ ?_ rfl rfl rfl rfl rfl
    · rw [catalogued]
      exact fun same => by cases same
    · apply paid_of_valid (consistent.handlers id handler found)
      all_goals
        rw [catalogued]
        intros
        exact fun same => by cases same

/-- Every key of the file parses as a device key. -/
def CleanFile (codec : NicknameStore.Codec Text) (file : Option Text) : Prop :=
  ∀ name nickname, (NicknameStore.load codec file).1.nicknames.lookup name = some nickname →
    ∃ key, HardwareDeviceKey.tryNew name = .ok key

/-- A daemon started from a file looks a key up under its name there. -/
theorem lookup_start (codec : NicknameStore.Codec Text) (manifests : List PluginDevices)
    (file : Option Text) (key : HardwareDeviceKey) :
    (start codec manifests file).registry.nicknames.lookup key =
      (NicknameStore.load codec file).1.nicknames.lookup key.asStr :=
  HardwareRegistry.lookup_typedNicknames _ key

/-- The daemon's start keeps every nickname whose key parses. -/
theorem start_consistent (manifests : List PluginDevices) (file : Option Text) :
    (start codec manifests file).Consistent codec (CleanFile codec file) := by
  refine ⟨fun _ _ absent => (nomatch absent), ?_, ?_, fun _ absent => (nomatch absent),
    Or.inr (Or.inl ⟨rfl, rfl⟩)⟩
  · intro change ⟨_, _, absent, _⟩
    cases absent
  · intro clean _ _ name
    change (NicknameStore.load codec (NicknameStore.load codec file).2).1.nicknames.lookup name = _
    rw [NicknameStore.load_again]
    have snapshot := fun key => HardwareRegistry.lookup_nicknamesSnapshot
      (start codec manifests file).registry key
    cases stored : (NicknameStore.load codec file).1.nicknames.lookup name with
    | some nickname =>
        obtain ⟨key, parsed⟩ := clean name nickname stored
        have named := HardwareDeviceKey.asStr_of_tryNew parsed
        rw [← named, snapshot key, lookup_start, named, stored]
    | none =>
        symm
        rw [Option.eq_none_iff_forall_ne_some]
        intro nickname present
        obtain ⟨key, named, held⟩ := KeyMap.exists_of_lookup_rekey present
        rw [lookup_start, named, stored] at held
        cases held

/-- Once every handler is done and none failed to save, the file holds the
registry's nicknames; a restart brings back every acknowledged nickname that no
later request for the same key replaced. -/
theorem nicknames_persist {pluginIdFor : SensorId → Option String}
    {descriptors : List SensorDescriptor} {manifests : List PluginDevices} {file : Option Text}
    {labels : List Step}
    (run : Run.exec (step codec pluginIdFor descriptors) (start codec manifests file) labels =
      some world)
    (ordered : Run.Always (step codec pluginIdFor descriptors) SavesInOrder
      (start codec manifests file) labels)
    (clean : CleanFile codec file ∨ world.savedVersion ≠ none)
    (done : ∀ id handler, world.handlers.lookup id = some handler → handler.phase = .finished)
    (noIo : ∀ id handler message, world.handlers.lookup id = some handler →
      handler.response ≠ some (.error ⟨.io, message⟩)) :
    world.FileCurrent codec ∧
    ∀ id handler deviceKey value, world.handlers.lookup id = some handler →
      handler.response = some (.ok (.nicknameSet deviceKey value)) →
      ∃ change, handler.change = some change ∧ change.key.asStr = deviceKey ∧
        change.value = value ∧
        ((start codec manifests world.file).registry.nicknames.lookup change.key = value ∨
          world.Replaced change) := by
  have consistent : world.Consistent codec (CleanFile codec file) :=
    Run.exec_invariant_of_always (fun state => state.Consistent codec (CleanFile codec file))
      (fun _ _ _ taken allowed valid => step_consistent taken allowed valid) run ordered
      (start_consistent manifests file)
  have current : world.FileCurrent codec := by
    rcases consistent.progress with saved | ⟨never, zero⟩ | ⟨id, handler, found, pending⟩
    · exact (consistent.file _ saved).2 rfl
    · rcases clean with parses | some_save
      · exact consistent.untouched parses never zero
      · exact absurd never some_save
    · rcases pending with applied | ⟨store, snapshotted⟩ | ⟨message, failed⟩
      · have finished := done id handler found
        rw [applied] at finished
        cases finished
      · have finished := done id handler found
        rw [snapshotted] at finished
        cases finished
      · exact absurd failed (noIo id handler message found)
  refine ⟨current, ?_⟩
  intro id handler deviceKey value found answered
  have valid := consistent.handlers id handler found
  obtain ⟨change, made, payload⟩ := valid.acknowledged _ answered
  cases payload
  refine ⟨change, made, (valid.change change made).2, rfl, ?_⟩
  rcases consistent.changes change ⟨id, handler, found, made⟩ with stays | replaced
  · left
    rw [lookup_start, current change.key.asStr,
      HardwareRegistry.lookup_nicknamesSnapshot]
    exact stays
  · exact Or.inr replaced

end Persistence

/-- A store that keeps the value itself. -/
def plainCodec : NicknameStore.Codec NicknameStore where
  toStringPretty store := store
  fromStr store := some store
  roundTrip store := ⟨store, rfl, rfl, fun _ => rfl⟩

def cpuKey : HardwareDeviceKey := ⟨"cpu:0", by decide⟩

/-- The processor as the only device. -/
def cpuManifest : List PluginDevices :=
  [("cpu", [{
    key := cpuKey
    category := .cpu
    model := "CPU"
    vendor := none
    location := none
    pluginId := ""
    pluginDeviceId := "cpu"
    sensorIds := [] }], [])]

def cpuStart : Nicknames NicknameStore := start plainCodec cpuManifest none

/-- Two clients rename the processor. The first takes its snapshot before the second's change, but
saves it before the second's is saved. -/
def renamedInOrder : List Step :=
  [.receive 0 "cpu:0" (some " box "), .receive 1 "cpu:0" (some "tower"), .setNickname 0,
    .snapshot 0, .setNickname 1, .save 0 none, .snapshot 1, .respond 0 true, .save 1 none,
    .catalogue 0, .respond 1 true, .broadcast 0, .catalogue 1, .broadcast 1]

/-- The condition of a save, evaluated. -/
def savesInOrder (world : Nicknames NicknameStore) : Step → Bool
  | .save id none =>
      (world.handlers.lookup id).all fun handler =>
        match handler.phase with
        | .snapshotted _ version => world.savedVersion.all (· ≤ version)
        | _ => true
  | _ => true

theorem savesInOrder_sound (world : Nicknames NicknameStore) (label : Step)
    (passed : savesInOrder world label = true) : world.SavesInOrder label := by
  unfold SavesInOrder
  split
  · rename_i id
    intro handler store version saved found snapshotted stored
    simp only [savesInOrder, found, snapshotted, stored, Option.all_some,
      decide_eq_true_eq] at passed
    exact passed
  · trivial

/-- The handler has answered without an error and finished. -/
def succeeded (handler : Handler) : Bool :=
  match handler.phase, handler.response with
  | .finished, some (.ok _) => true
  | _, _ => false

theorem of_succeeded {handler : Handler} (fine : succeeded handler = true) :
    handler.phase = .finished ∧ ∃ payload, handler.response = some (.ok payload) := by
  unfold succeeded at fine
  split at fine
  · rename_i payload finished answered
    exact ⟨finished, payload, answered⟩
  · cases fine

/-- Both requests are acknowledged; the first value was replaced and the second one survives a
restart. -/
theorem nicknames_persist_overlapping : ∃ world first second,
    Run.exec (step plainCodec (fun _ => none) []) cpuStart renamedInOrder = some world ∧
    world.handlers.lookup 0 = some first ∧
    first.response = some (.ok (.nicknameSet "cpu:0" (some "box"))) ∧
    world.handlers.lookup 1 = some second ∧
    second.response = some (.ok (.nicknameSet "cpu:0" (some "tower"))) ∧
    world.FileCurrent plainCodec ∧
    ∃ change, second.change = some change ∧ change.key.asStr = "cpu:0" ∧
      change.value = some "tower" ∧
      ((start plainCodec cpuManifest world.file).registry.nicknames.lookup change.key =
          some "tower" ∨ world.Replaced change) := by
  have ran : ((Run.exec (step plainCodec (fun _ => none) []) cpuStart renamedInOrder).bind
      fun world => (world.handlers.lookup 0).bind fun first =>
        (world.handlers.lookup 1).map fun second =>
          (first.response, second.response, world.savedVersion,
            world.handlers.entries.all fun entry => succeeded entry.2)) =
      some (some (.ok (.nicknameSet "cpu:0" (some "box"))),
        some (.ok (.nicknameSet "cpu:0" (some "tower"))), some 2, true) := by
    decide +kernel
  simp only [Option.bind_eq_some_iff, Option.map_eq_some_iff, Prod.mk.injEq] at ran
  obtain ⟨world, run, first, found, second, present, answered, acknowledged, saved, finished⟩ := ran
  have each : ∀ id handler, world.handlers.lookup id = some handler →
      handler.phase = .finished ∧ ∃ payload, handler.response = some (.ok payload) := by
    intro id handler held
    exact of_succeeded (List.all_eq_true.mp finished ⟨id, handler⟩
      ((KeyMap.mem_entries_iff _ _ _).mpr held))
  have ordered : Run.Always (step plainCodec (fun _ => none) []) SavesInOrder cpuStart
      renamedInOrder := Run.Always.of_check savesInOrder_sound (by decide +kernel)
  have noIo : ∀ id handler message, world.handlers.lookup id = some handler →
      handler.response ≠ some (.error ⟨.io, message⟩) := by
    intro id handler message held failed
    obtain ⟨payload, response⟩ := (each id handler held).2
    rw [response] at failed
    cases failed
  have done : ∀ id handler, world.handlers.lookup id = some handler → handler.phase = .finished :=
    fun id handler held => (each id handler held).1
  have some_save : world.savedVersion ≠ none := saved ▸ Option.some_ne_none 2
  have persisted := nicknames_persist run ordered (Or.inr some_save) done noIo
  exact ⟨world, first, second, run, found, answered, present, acknowledged, persisted.1,
    persisted.2 1 second "cpu:0" (some "tower") present acknowledged⟩

/-- Two clients rename the processor. The first takes its snapshot before the
second's change and saves it after the second was acknowledged. -/
theorem acknowledged_nickname_lost :
    let lost := Run.exec (step plainCodec (fun _ => none) []) cpuStart
      [.receive 0 "cpu:0" (some "old"), .receive 1 "cpu:0" (some "new"), .setNickname 0,
        .snapshot 0, .setNickname 1, .snapshot 1, .save 1 none, .respond 1 true, .save 0 none,
        .respond 0 true, .catalogue 0, .broadcast 0, .catalogue 1, .broadcast 1]
    lost.map (fun world => world.handlers.entries.all fun entry =>
        entry.2.phase matches .finished) = some true ∧
      lost.map (fun world => world.handlers.entries.map fun entry => entry.2.response) =
        some [some (.ok (.nicknameSet "cpu:0" (some "new"))),
          some (.ok (.nicknameSet "cpu:0" (some "old")))] ∧
      lost.map (fun world =>
        [(NicknameStore.load plainCodec world.file).1.nicknames.lookup "cpu:0",
          world.registry.nicknamesSnapshot.lookup "cpu:0",
          (start plainCodec cpuManifest world.file).registry.nicknames.lookup
            ⟨"cpu:0", by decide⟩]) = some [some "old", some "new", some "old"] := by
  decide +kernel

end Nicknames

end LinSight
