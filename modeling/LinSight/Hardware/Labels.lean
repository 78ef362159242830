import LinSight.Hardware.Registry
import LinSight.Library.Run
import LinSight.Library.Words

set_option autoImplicit false

/-! The display labels of the registry over a run of nickname changes. -/

namespace LinSight

/-- What follows the scheme of a key. -/
def HardwareDeviceKey.payload (key : HardwareDeviceKey) : String :=
  ((splitOnce ':' key.asStr).map (·.2)).getD key.asStr

/-- The label of a device whose model another one shares. -/
def disambiguated (model payload : String) : String := model ++ " (" ++ payload ++ ")"

section Disambiguated

/-- A payload has only the characters that a key may have. -/
theorem HardwareDeviceKey.payload_chars (key : HardwareDeviceKey) :
    ∀ c ∈ key.payload.toList, isKeyChar c = true := by
  have valid := key.valid
  unfold keyError at valid
  split at valid
  · cases valid
  · split at valid
    · cases valid
    · split at valid
      · cases valid
      · rename_i scheme rest parts
        split at valid
        · cases valid
        · split at valid
          · cases valid
          · have payload : key.payload = rest := by
              simp only [HardwareDeviceKey.payload, parts, Option.map_some, Option.getD_some]
            rw [Option.map_eq_none_iff, List.find?_eq_none] at valid
            intro c member
            rw [payload] at member
            simpa using valid c member

/-- The parenthesis before a payload is the last one, so the two parts are told apart. -/
theorem disambiguated_inj {model model' : String} {key key' : HardwareDeviceKey}
    (same : disambiguated model key.payload = disambiguated model' key'.payload) :
    model = model' ∧ key.payload = key'.payload := by
  have no_mark : ∀ key : HardwareDeviceKey, '(' ∉ key.payload.toList.reverse := by
    intro key inside
    have allowed := key.payload_chars '(' (List.mem_reverse.mp inside)
    revert allowed
    decide
  have chars := congrArg (fun text => text.toList.reverse) same
  simp only [disambiguated, String.toList_append, List.reverse_append] at chars
  have cut : key.payload.toList.reverse ++ '(' :: (' ' :: model.toList.reverse) =
      key'.payload.toList.reverse ++ '(' :: (' ' :: model'.toList.reverse) :=
    List.append_cancel_left chars
  obtain ⟨payloads, rest⟩ := Words.cut_first_inj (no_mark key) (no_mark key') cut
  have models := List.reverse_injective (List.cons.inj rest).2
  exact ⟨String.toList_injective models, String.toList_injective (List.reverse_injective payloads)⟩

end Disambiguated

namespace HardwareRegistry

/-- One call of `set_nickname`; a refused one changes nothing. -/
def nicknameStep (registry : HardwareRegistry) (call : HardwareDeviceKey × Option String) :
    Option HardwareRegistry :=
  match registry.setNickname call.1 call.2 with
  | .ok next => some next
  | .error _ => some registry

def allDevices (registry : HardwareRegistry) : List HardwareDevice :=
  registry.devices.entries.map (·.2)

/-- A device of the registry that has no nickname. -/
structure Unnamed (registry : HardwareRegistry) (dev : HardwareDevice) : Prop where
  registered : dev ∈ registry.allDevices
  unnamed : registry.nicknames.lookup dev.key = none

/-- The cached labels are those of the current devices and nicknames. -/
def LabelsCurrent (registry : HardwareRegistry) : Prop :=
  ∀ key dev, registry.devices.lookup key = some dev →
    registry.deviceLabelFor key =
      computeDeviceLabel dev registry.allDevices registry.nicknamesSnapshot

/-- Another device without nickname is of the same model. -/
def SharesModel (registry : HardwareRegistry) (dev : HardwareDevice) : Prop :=
  ∃ other, registry.Unnamed other ∧ other.key ≠ dev.key ∧ other.model = dev.model

/-- No two devices without nickname have one label. -/
def LabelsUnique (registry : HardwareRegistry) : Prop :=
  ∀ first second, registry.Unnamed first → registry.Unnamed second → first.key ≠ second.key →
    registry.deviceLabelFor first.key ≠ registry.deviceLabelFor second.key

/-- Devices of one model differ in the payload of their keys, and no model of its own
is the disambiguated name of another device. -/
structure ModelsApart (registry : HardwareRegistry) : Prop where
  payloads : ∀ first second, registry.Unnamed first → registry.Unnamed second →
    first.key ≠ second.key → first.model = second.model → first.key.payload ≠ second.key.payload
  models : ∀ shared own, registry.Unnamed shared → registry.Unnamed own →
    registry.SharesModel shared → ¬ registry.SharesModel own →
    own.model ≠ disambiguated shared.model shared.key.payload

section Labels

variable {registry : HardwareRegistry}

theorem rebuildLabels_current (registry : HardwareRegistry) :
    registry.rebuildLabels.LabelsCurrent := by
  intro key dev found
  unfold deviceLabelFor rebuildLabels
  rw [KeyMap.lookup_mapValues]
  simp only [rebuildLabels_devices] at found
  simp only [found, Option.map_some, Option.getD_some]
  rfl

theorem LabelsCurrent.setNickname {next : HardwareRegistry} {key : HardwareDeviceKey}
    {value : Option String} (accepted : registry.setNickname key value = .ok next) :
    next.LabelsCurrent := by
  unfold HardwareRegistry.setNickname at accepted
  split at accepted
  · cases accepted
  · split at accepted
    · cases accepted
      exact rebuildLabels_current _
    · split at accepted <;> cases accepted <;> exact rebuildLabels_current _

theorem setNickname_devices {next : HardwareRegistry} {key : HardwareDeviceKey}
    {value : Option String} (accepted : registry.setNickname key value = .ok next) :
    next.devices = registry.devices ∧ next.byPlugin = registry.byPlugin := by
  unfold HardwareRegistry.setNickname at accepted
  split at accepted
  · cases accepted
  · split at accepted
    · cases accepted
      exact ⟨rfl, rfl⟩
    · split at accepted <;> cases accepted <;> exact ⟨rfl, rfl⟩

theorem nicknameStep_devices {next : HardwareRegistry} {call : HardwareDeviceKey × Option String}
    (taken : registry.nicknameStep call = some next) :
    next.devices = registry.devices ∧ next.byPlugin = registry.byPlugin := by
  unfold nicknameStep at taken
  split at taken
  · rename_i accepted
    cases taken
    exact setNickname_devices accepted
  · cases taken
    exact ⟨rfl, rfl⟩

/-- Every device is stored under its own key. -/
def Keyed (devices : KeyMap HardwareDeviceKey HardwareDevice) : Prop :=
  ∀ key dev, devices.lookup key = some dev → dev.key = key

theorem Keyed.insert {devices : KeyMap HardwareDeviceKey HardwareDevice} (keyed : Keyed devices)
    {key : HardwareDeviceKey} {dev : HardwareDevice} (own : dev.key = key) :
    Keyed (devices.insert key dev) := by
  intro other stored found
  rw [KeyMap.lookup_insert_eq] at found
  split at found
  · rename_i same
    cases found
    rw [own, same]
  · exact keyed other stored found

theorem Keyed.linkSensor {devices : KeyMap HardwareDeviceKey HardwareDevice} (keyed : Keyed devices)
    (sensor : SensorDescriptor) : Keyed (HardwareRegistry.linkSensor devices sensor) := by
  unfold HardwareRegistry.linkSensor
  split
  · exact keyed
  · split
    · exact keyed
    · rename_i key keyedBy _ dev found
      exact keyed.insert (keyed key dev found)

theorem Keyed.registerDevice {indices : Indices} (keyed : Keyed indices.1) (pluginId : String)
    (dev : HardwareDevice) : Keyed (HardwareRegistry.registerDevice pluginId indices dev).1 := by
  obtain ⟨devices, byPlugin⟩ := indices
  simp only [HardwareRegistry.registerDevice]
  split
  · exact keyed
  · exact keyed.insert rfl

theorem Keyed.registerPlugin {indices : Indices} (keyed : Keyed indices.1)
    (manifest : PluginDevices) : Keyed (HardwareRegistry.registerPlugin indices manifest).1 := by
  obtain ⟨pluginId, devices, sensors⟩ := manifest
  have registered : Keyed (devices.foldl (HardwareRegistry.registerDevice pluginId) indices).1 := by
    induction devices generalizing indices with
    | nil => exact keyed
    | cons dev rest ih => exact ih (keyed.registerDevice pluginId dev)
  change Keyed (sensors.foldl HardwareRegistry.linkSensor _)
  generalize (devices.foldl (HardwareRegistry.registerDevice pluginId) indices).1 = stored
    at registered
  induction sensors generalizing stored with
  | nil => exact registered
  | cons sensor rest ih => exact ih _ (registered.linkSensor sensor)

theorem build_keyed (manifests : List PluginDevices) (nicknames : KeyMap String String) :
    Keyed (build manifests nicknames).devices := by
  have folded : ∀ indices : Indices, Keyed indices.1 →
      Keyed (manifests.foldl HardwareRegistry.registerPlugin indices).1 := by
    induction manifests with
    | nil => exact fun _ keyed => keyed
    | cons manifest rest ih => exact fun indices keyed => ih _ (keyed.registerPlugin manifest)
  apply folded (∅, ∅)
  intro key dev found
  cases found

theorem mem_allDevices (keyed : Keyed registry.devices) {dev : HardwareDevice} :
    dev ∈ registry.allDevices ↔ registry.devices.lookup dev.key = some dev := by
  unfold allDevices
  rw [List.mem_map]
  constructor
  · rintro ⟨entry, member, rfl⟩
    have found := (KeyMap.mem_entries_iff _ _ _).mp member
    rwa [keyed _ _ found]
  · intro found
    exact ⟨⟨dev.key, dev⟩, (KeyMap.mem_entries_iff _ _ _).mpr found, rfl⟩

open Classical in
/-- The label of a device without nickname. -/
theorem label_of_unnamed (current : registry.LabelsCurrent) (keyed : Keyed registry.devices)
    {dev : HardwareDevice} (unnamed : registry.Unnamed dev) :
    registry.deviceLabelFor dev.key =
      if registry.SharesModel dev then disambiguated dev.model dev.key.payload else dev.model := by
  have shares : (registry.allDevices.any fun d => d.key ≠ dev.key && d.model = dev.model &&
      (registry.nicknamesSnapshot.lookup d.key.asStr).isNone) = true ↔
        registry.SharesModel dev := by
    simp only [List.any_eq_true, Bool.and_eq_true, decide_eq_true_eq, lookup_nicknamesSnapshot,
      Option.isNone_iff_eq_none]
    constructor
    · rintro ⟨other, member, ⟨differs, same⟩, none⟩
      exact ⟨other, ⟨member, none⟩, differs, same⟩
    · rintro ⟨other, ⟨member, none⟩, differs, same⟩
      exact ⟨other, member, ⟨differs, same⟩, none⟩
  rw [current dev.key dev ((mem_allDevices keyed).mp unnamed.registered)]
  unfold computeDeviceLabel
  rw [lookup_nicknamesSnapshot, unnamed.unnamed]
  simp only [shares]
  rfl

/-- Two labels collide in the two ways that `ModelsApart` excludes, and in no other. -/
theorem labelsUnique_iff (current : registry.LabelsCurrent) (keyed : Keyed registry.devices) :
    registry.LabelsUnique ↔ registry.ModelsApart := by
  have label := fun {dev} => @label_of_unnamed registry current keyed dev
  have shares : ∀ {first second}, registry.Unnamed second → first.key ≠ second.key →
      first.model = second.model → registry.SharesModel first :=
    fun unnamed differs same => ⟨_, unnamed, Ne.symm differs, same.symm⟩
  constructor
  · intro unique
    constructor
    · intro first second unnamed unnamed' differs same payload
      apply unique first second unnamed unnamed' differs
      rw [label unnamed, label unnamed', if_pos (shares unnamed' differs same),
        if_pos (shares unnamed (Ne.symm differs) same.symm), same, payload]
    · intro shared own unnamed unnamed' sharing alone model
      have differs : shared.key ≠ own.key := by
        intro same
        apply alone
        have one : shared = own := by
          have first := (mem_allDevices keyed).mp unnamed.registered
          rw [same, (mem_allDevices keyed).mp unnamed'.registered] at first
          exact (Option.some.inj first).symm
        exact one ▸ sharing
      apply unique shared own unnamed unnamed' differs
      rw [label unnamed, label unnamed', if_pos sharing, if_neg alone, model]
  · intro apart first second unnamed unnamed' differs collide
    rw [label unnamed, label unnamed'] at collide
    by_cases sharing : registry.SharesModel first
    · rw [if_pos sharing] at collide
      by_cases sharing' : registry.SharesModel second
      · rw [if_pos sharing'] at collide
        obtain ⟨models, payloads⟩ := disambiguated_inj collide
        exact apart.payloads first second unnamed unnamed' differs models payloads
      · rw [if_neg sharing'] at collide
        exact apart.models first second unnamed unnamed' sharing sharing' collide.symm
    · rw [if_neg sharing] at collide
      by_cases sharing' : registry.SharesModel second
      · rw [if_pos sharing'] at collide
        exact apart.models second first unnamed' unnamed sharing' sharing collide
      · rw [if_neg sharing'] at collide
        exact sharing (shares unnamed' differs collide)

theorem nicknameStep_current {next : HardwareRegistry} {call : HardwareDeviceKey × Option String}
    (taken : registry.nicknameStep call = some next) (current : registry.LabelsCurrent) :
    next.LabelsCurrent := by
  unfold nicknameStep at taken
  split at taken
  · rename_i accepted
    cases taken
    exact LabelsCurrent.setNickname accepted
  · cases taken
    exact current

/-- After any calls of `set_nickname` the cached labels are those of the current devices and
nicknames, and they tell devices apart exactly where `ModelsApart` holds. -/
theorem labels_current_and_unique (manifests : List PluginDevices)
    (nicknames : KeyMap String String)
    (reached : Run.Reaches nicknameStep (build manifests nicknames) registry) :
    registry.LabelsCurrent ∧ (registry.LabelsUnique ↔ registry.ModelsApart) := by
  have current : registry.LabelsCurrent :=
    reached.invariant (fun _ _ _ taken current => nicknameStep_current taken current)
      (rebuildLabels_current _)
  have keyed : Keyed registry.devices := by
    have preserved : ∀ state call next, nicknameStep state call = some next →
        Keyed state.devices → Keyed next.devices :=
      fun _ _ _ taken keyed => (nicknameStep_devices taken).1 ▸ keyed
    exact @Run.Reaches.invariant _ _ _ (fun state => Keyed state.devices) preserved _ _ reached
      (build_keyed manifests nicknames)
  exact ⟨current, labelsUnique_iff current keyed⟩

end Labels

/-- A drive as a plugin registers it. -/
def drive (key : HardwareDeviceKey) (model : String) : HardwareDevice where
  key := key
  category := .storage
  model := model
  vendor := none
  location := none
  pluginId := ""
  pluginDeviceId := key.asStr
  sensorIds := []

def nvmeKey : HardwareDeviceKey := ⟨"nvme:nvme0", by decide +kernel⟩

def blockKey : HardwareDeviceKey := ⟨"block:nvme0", by decide +kernel⟩

def secondNvmeKey : HardwareDeviceKey := ⟨"nvme:nvme1", by decide +kernel⟩

/-- Two drives of one model, of which the first gets a nickname after a refused call. -/
theorem labels_current_and_unique_named :
    let start := build [("nvme", [drive nvmeKey "SSD 990", drive secondNvmeKey "SSD 990"], [])] ∅
    ∃ registry, Run.exec nicknameStep start
        [(blockKey, some "gone"), (nvmeKey, some " OS drive ")] = some registry ∧
      start.deviceLabelFor secondNvmeKey = "SSD 990 (nvme1)" ∧
      registry.deviceLabelFor nvmeKey = "OS drive" ∧
      registry.deviceLabelFor secondNvmeKey = "SSD 990" ∧
      registry.LabelsCurrent ∧ (registry.LabelsUnique ↔ registry.ModelsApart) := by
  intro start
  have ran : (Run.exec nicknameStep start
      [(blockKey, some "gone"), (nvmeKey, some " OS drive ")]).isSome = true := by decide +kernel
  have shown : start.deviceLabelFor secondNvmeKey = "SSD 990 (nvme1)" ∧
      (Option.get _ ran).deviceLabelFor nvmeKey = "OS drive" ∧
      (Option.get _ ran).deviceLabelFor secondNvmeKey = "SSD 990" := by
    decide +kernel +revert
  exact ⟨_, (Option.some_get ran).symm, shown.1, shown.2.1, shown.2.2,
    labels_current_and_unique _ _ (Run.Reaches.of_isSome ran)⟩

/-- Two plugins of one drive give it keys with one payload, and both labels agree. -/
theorem labels_collide :
    let registry := build [("nvme", [drive nvmeKey "SSD 990"], []),
      ("disk", [drive blockKey "SSD 990"], [])] ∅
    registry.nicknames.lookup nvmeKey = none ∧ registry.nicknames.lookup blockKey = none ∧
      nvmeKey ≠ blockKey ∧ registry.deviceLabelFor nvmeKey = "SSD 990 (nvme0)" ∧
      registry.deviceLabelFor blockKey = "SSD 990 (nvme0)" ∧ ¬ registry.LabelsUnique := by
  intro registry
  have stored : registry.allDevices = [{ drive blockKey "SSD 990" with pluginId := "disk" },
      { drive nvmeKey "SSD 990" with pluginId := "nvme" }] := by
    decide +kernel
  have unnamed : registry.nicknames.lookup nvmeKey = none ∧
      registry.nicknames.lookup blockKey = none := by
    decide +kernel
  have differs : nvmeKey ≠ blockKey := by decide +kernel
  have labels : registry.deviceLabelFor nvmeKey = "SSD 990 (nvme0)" ∧
      registry.deviceLabelFor blockKey = "SSD 990 (nvme0)" := by
    decide +kernel
  refine ⟨unnamed.1, unnamed.2, differs, labels.1, labels.2, ?_⟩
  intro unique
  have first : registry.Unnamed { drive nvmeKey "SSD 990" with pluginId := "nvme" } :=
    ⟨by rw [stored]; simp, unnamed.1⟩
  have second : registry.Unnamed { drive blockKey "SSD 990" with pluginId := "disk" } :=
    ⟨by rw [stored]; simp, unnamed.2⟩
  exact unique _ _ first second differs (labels.1.trans labels.2.symm)

end HardwareRegistry

end LinSight
