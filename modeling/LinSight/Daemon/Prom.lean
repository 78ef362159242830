import LinSight.Library.ExpositionFamilies
import LinSight.Library.FloatText
import LinSight.Plugin.Manifest

set_option autoImplicit false

/-! The page that the Prometheus exporter renders. -/

namespace LinSight

open Exposition (Family MetricType Label)

def Unit.symbol : Unit → String
  | .percent => "%"
  | .celsius => "°C"
  | .bytes => "B"
  | .bytesPerSec => "B/s"
  | .hertz => "Hz"
  | .watts => "W"
  | .volts => "V"
  | .rpm => "rpm"
  | .count => ""
  | .custom symbol => symbol

def HardwareCategory.asStr : HardwareCategory → String
  | .gpu => "gpu"
  | .storage => "storage"
  | .network => "network"
  | .cpu => "cpu"
  | .other => "other"

/-- Descriptor, sample, plugin id and the device key that the registry resolved. -/
abbrev ScrapeRow := SensorDescriptor × Option Sample × String × Option HardwareDeviceKey

def pushEscapedLabel (out value : String) : String :=
  value.toList.foldl
    (fun out c =>
      if c = '\\' then out ++ "\\\\"
      else if c = '"' then out ++ "\\\""
      else if c = '\n' then out ++ "\\n"
      else out.push c)
    out

def sanitizeMetricName (s : String) : String :=
  s.toList.foldl (fun out c => if c.isAlphanum then out.push c else out.push '_') "linsight_"

/-- The `device_key` label is left out where the sensor has no device. -/
def emitSampleLine (out metric unit : String) (deviceKey : Option HardwareDeviceKey)
    (value : String) : String :=
  let out := out ++ metric ++ "\x7bunit=\""
  let out := pushEscapedLabel out unit
  let out :=
    match deviceKey with
    | some k => pushEscapedLabel (out ++ "\",device_key=\"") k.asStr
    | none => out
  out ++ "\"\x7d " ++ value ++ "\n"

/-- One turn of the loop over the sensors. The display name is written as it is. The numbers do not
tell the two zeros apart, so `minus` says which samples have the negative one. -/
def renderRow (minus : Sample → Bool) (out : String) : ScrapeRow → String
  | (_, none, _, _) => out
  | (d, some sample, _, deviceKey) =>
      let metric := sanitizeMetricName d.id.asStr
      let unit := d.unit.symbol
      let deviceKey := deviceKey.or d.deviceKey
      match sample.reading with
      | .scalar v =>
          let out := out ++ "# HELP " ++ metric ++ " " ++ d.displayName ++ "\n"
          let out := out ++ "# TYPE " ++ metric ++ " gauge\n"
          emitSampleLine out metric unit deviceKey (String.ofList (v.displaySigned (minus sample)))
      | .counter v =>
          let out := out ++ "# HELP " ++ metric ++ " " ++ d.displayName ++ "\n"
          let out := out ++ "# TYPE " ++ metric ++ " counter\n"
          emitSampleLine out metric unit deviceKey (Nat.repr v)
      | .state _ | .table _ => out

/-- One turn of the loop over the devices. -/
def renderDevice (nicknames : KeyMap String String) (out : String) (dev : HardwareDevice) : String :=
  let nickname := (nicknames.lookup dev.key.asStr).getD ""
  let vendor := dev.vendor.getD ""
  let out := pushEscapedLabel (out ++ "linsight_hardware_info\x7bdevice_key=\"") dev.key.asStr
  let out := out ++ "\",category=\"" ++ dev.category.asStr ++ "\",model=\""
  let out := pushEscapedLabel out dev.model
  let out := pushEscapedLabel (out ++ "\",vendor=\"") vendor
  let out := pushEscapedLabel (out ++ "\",nickname=\"") nickname
  let out := pushEscapedLabel (out ++ "\",plugin_id=\"") dev.pluginId
  out ++ "\"\x7d 1\n"

def render (minus : Sample → Bool) (devices : List HardwareDevice)
    (nicknames : KeyMap String String) (snapshot : List ScrapeRow) : String :=
  let out := "# linsight Prometheus exporter\n"
  let out := snapshot.foldl (renderRow minus) out
  let out := out ++ "# HELP linsight_hardware_info Static hardware metadata\n"
  let out := out ++ "# TYPE linsight_hardware_info gauge\n"
  devices.foldl (renderDevice nicknames) out

/-! ### What a scraper should read -/

/-- The kinds of readings that Prometheus has. -/
def exported (minus : Bool) : Reading → Option (MetricType × List Char)
  | .scalar v => some (.gauge, v.displaySigned minus)
  | .counter v => some (.counter, (Nat.repr v).toList)
  | .state _ | .table _ => none

def deviceKeyLabel : Option HardwareDeviceKey → List (String × String)
  | some k => [("device_key", k.asStr)]
  | none => []

def sensorLabels (d : SensorDescriptor) (deviceKey : Option HardwareDeviceKey) :
    List (String × String) :=
  ("unit", d.unit.symbol) :: deviceKeyLabel (deviceKey.or d.deviceKey)

def deviceLabels (nicknames : KeyMap String String) (dev : HardwareDevice) :
    List (String × String) :=
  [("device_key", dev.key.asStr), ("category", dev.category.asStr), ("model", dev.model),
    ("vendor", dev.vendor.getD ""), ("nickname", (nicknames.lookup dev.key.asStr).getD ""),
    ("plugin_id", dev.pluginId)]

def labelsOf (labels : List (String × String)) : List Label :=
  labels.map fun label => (label.1.toList, label.2.toList)

def sensorSample (minus : Sample → Bool) : ScrapeRow → Option Exposition.Sample
  | (_, none, _, _) => none
  | (d, some sample, _, deviceKey) =>
      (exported (minus sample) sample.reading).map fun (_, value) =>
        ⟨(sanitizeMetricName d.id.asStr).toList, labelsOf (sensorLabels d deviceKey), value, none⟩

def deviceSample (nicknames : KeyMap String String) (dev : HardwareDevice) : Exposition.Sample :=
  ⟨"linsight_hardware_info".toList, labelsOf (deviceLabels nicknames dev), ['1'], none⟩

/-- The samples of a page, each with the strings that went into its labels. -/
def pageSamples (minus : Sample → Bool) (devices : List HardwareDevice)
    (nicknames : KeyMap String String) (snapshot : List ScrapeRow) : List Exposition.Sample :=
  snapshot.filterMap (sensorSample minus) ++ devices.map (deviceSample nicknames)

/-! ### The texts -/

theorem toList_pushEscapedLabel (out value : String) :
    (pushEscapedLabel out value).toList = out.toList ++ Exposition.escapeLabel value.toList := by
  unfold pushEscapedLabel
  generalize value.toList = chars
  induction chars generalizing out with
  | nil => exact (List.append_nil _).symm
  | cons c rest ih =>
      rw [List.foldl_cons, ih, Exposition.escapeLabel_cons, ← List.append_assoc]
      congr 1
      split_ifs
      · simp
      · simp
      · simp
      · simp

theorem toList_sanitizeMetricName (s : String) :
    (sanitizeMetricName s).toList =
      "linsight_".toList ++ s.toList.map fun c => if c.isAlphanum then c else '_' := by
  have step : ∀ (chars : List Char) (out : String),
      (chars.foldl (fun out c => if c.isAlphanum then out.push c else out.push '_') out).toList =
        out.toList ++ chars.map fun c => if c.isAlphanum then c else '_' := by
    intro chars
    induction chars with
    | nil => exact fun out => (List.append_nil _).symm
    | cons c rest ih =>
        intro out
        rw [List.foldl_cons, ih, List.map_cons]
        split_ifs <;> simp
  exact step _ _

theorem isMetricName_sanitizeMetricName (s : String) :
    Exposition.isMetricName (sanitizeMetricName s).toList := by
  have valid : ∀ c : Char, Exposition.isMetricChar (if c.isAlphanum then c else '_') := by
    intro c
    split
    · rename_i kept
      simp only [Exposition.isMetricChar, Exposition.isMetricStart, Exposition.isLabelStart,
        Bool.or_eq_true]
      rcases (Bool.or_eq_true _ _).mp kept with letter | digit
      · exact .inl (.inl (.inl letter))
      · exact .inr digit
    · rfl
  have front : "linsight_".toList = ['l', 'i', 'n', 's', 'i', 'g', 'h', 't', '_'] := by simp
  have kept : (s.toList.map fun c => if c.isAlphanum then c else '_').all
      Exposition.isMetricChar :=
    List.all_eq_true.mpr (List.forall_mem_map.mpr fun c _ => valid c)
  rw [toList_sanitizeMetricName, front, List.cons_append, Exposition.isMetricName, List.all_append,
    kept]
  rfl

/-! ### The values -/

theorem isNumber_digits {whole : List Char} (nonempty : whole ≠ [])
    (digits : ∀ c ∈ whole, c.isDigit) : Exposition.IsNumber whole := by
  refine ⟨?_, fun c member => Exposition.not_isBlank_of_isDigit (digits c member)⟩
  refine Exposition.isFloat_of_isDecimal (Exposition.isDecimal_digits nonempty digits) fun rest => ?_
  constructor <;> rintro rfl <;> cases digits _ List.mem_cons_self

theorem isNumber_repr (n : Nat) : Exposition.IsNumber (Nat.repr n).toList := by
  rw [Nat.toList_repr]
  exact isNumber_digits Nat.toDigits_ne_nil Ieee.isDigit_of_mem_toDigits

theorem isNumber_decimalText (digits : Nat) (place : Int) :
    Exposition.IsNumber (Ieee.decimalText digits place) ∧
      Exposition.IsNumber ('-' :: Ieee.decimalText digits place) := by
  obtain ⟨whole, fraction, nonempty, digitsWhole, digitsFraction, text⟩ :=
    Ieee.decimalText_cases digits place
  have decimal : Exposition.isDecimal (Ieee.decimalText digits place) := by
    rcases text with text | text <;> rw [text]
    · exact Exposition.isDecimal_digits nonempty digitsWhole
    · exact Exposition.isDecimal_fraction nonempty digitsWhole digitsFraction
  have word : ∀ c ∈ Ieee.decimalText digits place, c.isDigit ∨ c = '.' := by
    intro c member
    rcases text with text | text <;> rw [text] at member
    · exact .inl (digitsWhole c member)
    · rcases List.mem_append.mp member with inside | inside
      · exact .inl (digitsWhole c inside)
      · rcases List.mem_cons.mp inside with point | behind
        · exact .inr point
        · exact .inl (digitsFraction c behind)
  have plain : ∀ c ∈ Ieee.decimalText digits place, Exposition.isBlank c = false ∧ c ≠ '\n' := by
    intro c member
    rcases word c member with digit | rfl
    · exact Exposition.not_isBlank_of_isDigit digit
    · exact ⟨rfl, by decide⟩
  constructor
  · refine ⟨Exposition.isFloat_of_isDecimal decimal fun rest => ?_, plain⟩
    constructor <;> intro same <;>
      rcases word _ (same ▸ List.mem_cons_self) with sign | sign <;> cases sign
  · exact ⟨Exposition.isFloat_negative decimal,
      List.forall_mem_cons.mpr ⟨⟨rfl, by decide⟩, plain⟩⟩

theorem isNumber_display (v : Ieee.Value) : Exposition.IsNumber v.display := by
  cases v with
  | nan => exact ⟨by decide, by simp [Ieee.Value.display, Exposition.isBlank]⟩
  | posInf => exact ⟨by decide, by simp [Ieee.Value.display, Exposition.isBlank]⟩
  | negInf => exact ⟨by decide, by simp [Ieee.Value.display, Exposition.isBlank]⟩
  | finite q =>
      unfold Ieee.Value.display
      dsimp only
      split
      · exact (isNumber_decimalText _ _).2
      · exact (isNumber_decimalText _ _).1

theorem isNumber_displaySigned (minus : Bool) (v : Ieee.Value) :
    Exposition.IsNumber (v.displaySigned minus) := by
  unfold Ieee.Value.displaySigned
  split
  · exact (isNumber_decimalText 0 0).2
  · exact isNumber_display v

/-! ### The page as families -/

theorem isLabelName_names : ∀ name ∈ ["unit", "device_key", "category", "model", "vendor",
    "nickname", "plugin_id"], Exposition.isLabelName name.toList := by
  simp only [List.forall_mem_cons]
  refine ⟨?_, ?_, ?_, ?_, ?_, ?_, ?_, nofun⟩ <;> rfl

theorem isLabelName_sensorLabels (d : SensorDescriptor) (deviceKey : Option HardwareDeviceKey) :
    ∀ label ∈ labelsOf (sensorLabels d deviceKey), Exposition.isLabelName label.1 := by
  refine List.forall_mem_map.mpr fun label member => isLabelName_names _ ?_
  rcases List.mem_cons.mp member with rfl | member
  · exact List.mem_cons_self
  · unfold deviceKeyLabel at member
    split at member
    · rw [List.mem_singleton.mp member]
      exact List.mem_cons_of_mem _ List.mem_cons_self
    · cases member

theorem isLabelName_deviceLabels (nicknames : KeyMap String String) (dev : HardwareDevice) :
    ∀ label ∈ labelsOf (deviceLabels nicknames dev), Exposition.isLabelName label.1 := by
  refine List.forall_mem_map.mpr fun label member => isLabelName_names _ ?_
  have names : (deviceLabels nicknames dev).map Prod.fst ⊆ ["unit", "device_key", "category",
      "model", "vendor", "nickname", "plugin_id"] := List.subset_cons_self _ _
  exact names (List.mem_map.mpr ⟨label, member, rfl⟩)

def familyOf (d : SensorDescriptor) (deviceKey : Option HardwareDeviceKey) (kind : MetricType)
    (value : List Char) (number : Exposition.IsNumber value) : Family where
  metric := (sanitizeMetricName d.id.asStr).toList
  doc := d.displayName.toList
  kind := kind
  samples := [(labelsOf (sensorLabels d deviceKey), value)]
  name := isMetricName_sanitizeMetricName _
  labels := List.forall_mem_singleton.mpr (isLabelName_sensorLabels d deviceKey)
  numbers := List.forall_mem_singleton.mpr number

def sensorFamily (minus : Sample → Bool) : ScrapeRow → Option Family
  | (_, none, _, _) => none
  | (d, some sample, _, deviceKey) =>
      match sample.reading with
      | .scalar v => some (familyOf d deviceKey .gauge (v.displaySigned (minus sample))
          (isNumber_displaySigned _ v))
      | .counter v => some (familyOf d deviceKey .counter (Nat.repr v).toList (isNumber_repr v))
      | .state _ | .table _ => none

theorem isNumber_one : Exposition.IsNumber ['1'] :=
  isNumber_digits (List.cons_ne_nil _ _) (List.forall_mem_singleton.mpr rfl)

def hardwareInfo (devices : List HardwareDevice) (nicknames : KeyMap String String) : Family where
  metric := "linsight_hardware_info".toList
  doc := "Static hardware metadata".toList
  kind := .gauge
  samples := devices.map fun dev => (labelsOf (deviceLabels nicknames dev), ['1'])
  name := rfl
  labels := List.forall_mem_map.mpr fun dev _ => isLabelName_deviceLabels nicknames dev
  numbers := List.forall_mem_map.mpr fun _ _ => isNumber_one

theorem toList_emitSampleLine (out metric unit value : String)
    (deviceKey : Option HardwareDeviceKey) :
    (emitSampleLine out metric unit deviceKey value).toList =
      out.toList ++ (Exposition.sampleText metric.toList (labelsOf (("unit", unit) ::
        deviceKeyLabel deviceKey)) value.toList ++ ['\n']) := by
  unfold emitSampleLine
  cases deviceKey with
  | none =>
      simp only [String.toList_append, toList_pushEscapedLabel, String.reduceToList,
        List.append_assoc, List.cons_append, List.nil_append, Exposition.sampleText, labelsOf,
        deviceKeyLabel, List.map_cons, List.map_nil, Exposition.labelsText, Exposition.labelText]
  | some k =>
      simp only [String.toList_append, toList_pushEscapedLabel, String.reduceToList,
        List.append_assoc, List.cons_append, List.nil_append, Exposition.sampleText, labelsOf,
        deviceKeyLabel, List.map_cons, List.map_nil, Exposition.labelsText, Exposition.labelText]

/-- The lines of one sensor. -/
theorem unlines_familyOf (d : SensorDescriptor) (deviceKey : Option HardwareDeviceKey)
    (kind : MetricType) (value : List Char) (number : Exposition.IsNumber value) :
    Exposition.unlines (familyOf d deviceKey kind value number).texts =
      Exposition.helpText (sanitizeMetricName d.id.asStr).toList d.displayName.toList ++ '\n' ::
        (Exposition.typeText (sanitizeMetricName d.id.asStr).toList kind ++ '\n' ::
          (Exposition.sampleText (sanitizeMetricName d.id.asStr).toList
            (labelsOf (sensorLabels d deviceKey)) value ++ ['\n'])) := by
  rw [Exposition.Family.unlines_texts]
  simp only [familyOf, List.map_cons, List.map_nil, Exposition.unlines_cons]
  rfl

theorem toList_renderRow (minus : Sample → Bool) (out : String) (row : ScrapeRow) :
    (renderRow minus out row).toList =
      out.toList ++ Exposition.unlines ((sensorFamily minus row).toList.flatMap Family.texts) := by
  obtain ⟨d, sample, pluginId, deviceKey⟩ := row
  cases sample with
  | none => exact (List.append_nil _).symm
  | some sample =>
      obtain ⟨sensor, ts, reading⟩ := sample
      cases reading with
      | scalar v =>
          simp only [renderRow, toList_emitSampleLine, String.toList_append, String.reduceToList,
            String.toList_ofList, List.append_assoc, List.cons_append, List.nil_append,
            sensorFamily, Option.toList_some, List.flatMap_cons, List.flatMap_nil, List.append_nil,
            unlines_familyOf, Exposition.helpText, Exposition.typeText, MetricType.text,
            sensorLabels]
      | counter v =>
          simp only [renderRow, toList_emitSampleLine, String.toList_append, String.reduceToList,
            List.append_assoc, List.cons_append, List.nil_append, sensorFamily, Option.toList_some,
            List.flatMap_cons, List.flatMap_nil, List.append_nil, unlines_familyOf,
            Exposition.helpText, Exposition.typeText, MetricType.text,
            sensorLabels]
      | state | table => exact (List.append_nil _).symm

theorem toList_renderDevice (nicknames : KeyMap String String) (out : String)
    (dev : HardwareDevice) :
    (renderDevice nicknames out dev).toList =
      out.toList ++ (Exposition.sampleText "linsight_hardware_info".toList
        (labelsOf (deviceLabels nicknames dev)) ['1'] ++ ['\n']) := by
  have category : Exposition.escapeLabel dev.category.asStr.toList = dev.category.asStr.toList := by
    cases dev.category <;> rfl
  simp only [renderDevice, String.toList_append, toList_pushEscapedLabel, String.reduceToList,
    List.append_assoc, List.cons_append, List.nil_append, Exposition.sampleText, labelsOf,
    deviceLabels, List.map_cons, List.map_nil, Exposition.labelsText, Exposition.labelText,
    category]

def pageFamilies (minus : Sample → Bool) (devices : List HardwareDevice)
    (nicknames : KeyMap String String) (snapshot : List ScrapeRow) : List Family :=
  snapshot.filterMap (sensorFamily minus) ++ [hardwareInfo devices nicknames]

theorem toList_foldl_renderRow (minus : Sample → Bool) (out : String)
    (snapshot : List ScrapeRow) :
    (snapshot.foldl (renderRow minus) out).toList =
      out.toList ++
        Exposition.unlines ((snapshot.filterMap (sensorFamily minus)).flatMap Family.texts) := by
  induction snapshot generalizing out with
  | nil => exact (List.append_nil _).symm
  | cons row rest ih =>
      rw [List.foldl_cons, ih, toList_renderRow, List.append_assoc, ← Exposition.unlines_append,
        ← List.flatMap_append]
      simp only [List.filterMap_eq_flatMap_toList, List.flatMap_cons]

theorem toList_foldl_renderDevice (nicknames : KeyMap String String) (out : String)
    (devices : List HardwareDevice) :
    (devices.foldl (renderDevice nicknames) out).toList =
      out.toList ++ Exposition.unlines (devices.map fun dev =>
        Exposition.sampleText "linsight_hardware_info".toList
          (labelsOf (deviceLabels nicknames dev)) ['1']) := by
  induction devices generalizing out with
  | nil => exact (List.append_nil _).symm
  | cons dev rest ih =>
      rw [List.foldl_cons, ih, toList_renderDevice, List.map_cons, Exposition.unlines_cons,
        List.append_assoc, List.append_assoc]
      rfl

/-- The page is a comment and the families. -/
theorem toList_render (minus : Sample → Bool) (devices : List HardwareDevice)
    (nicknames : KeyMap String String) (snapshot : List ScrapeRow) :
    (render minus devices nicknames snapshot).toList =
      Exposition.unlines ("# linsight Prometheus exporter".toList ::
        (pageFamilies minus devices nicknames snapshot).flatMap Family.texts) := by
  have info : Exposition.unlines (hardwareInfo devices nicknames).texts =
      Exposition.helpText "linsight_hardware_info".toList "Static hardware metadata".toList ++
        '\n' :: (Exposition.typeText "linsight_hardware_info".toList .gauge ++
          '\n' :: Exposition.unlines (devices.map fun dev =>
            Exposition.sampleText "linsight_hardware_info".toList
              (labelsOf (deviceLabels nicknames dev)) ['1'])) := by
    have samples : ((hardwareInfo devices nicknames).samples.map fun sample =>
        Exposition.sampleText (hardwareInfo devices nicknames).metric sample.1 sample.2) =
          devices.map fun dev => Exposition.sampleText "linsight_hardware_info".toList
            (labelsOf (deviceLabels nicknames dev)) ['1'] := List.map_map
    rw [Family.unlines_texts, samples]
    rfl
  rw [Exposition.unlines_cons, pageFamilies, List.flatMap_append, Exposition.unlines_append,
    List.flatMap_cons, List.flatMap_nil, List.append_nil, info]
  simp only [render, toList_foldl_renderDevice, String.toList_append, toList_foldl_renderRow,
    String.reduceToList, List.append_assoc, List.cons_append, List.nil_append,
    Exposition.helpText, Exposition.typeText, MetricType.text]

theorem read_hardwareInfo (devices : List HardwareDevice) (nicknames : KeyMap String String) :
    (hardwareInfo devices nicknames).read = devices.map (deviceSample nicknames) :=
  List.map_map

theorem flatMap_read (minus : Sample → Bool) (devices : List HardwareDevice)
    (nicknames : KeyMap String String) (snapshot : List ScrapeRow) :
    (pageFamilies minus devices nicknames snapshot).flatMap Family.read =
      pageSamples minus devices nicknames snapshot := by
  have row_read : ∀ row, (sensorFamily minus row).toList.flatMap Family.read =
      (sensorSample minus row).toList := by
    rintro ⟨d, sample, pluginId, deviceKey⟩
    cases sample with
    | none => rfl
    | some sample =>
        obtain ⟨sensor, ts, reading⟩ := sample
        cases reading <;> rfl
  have rows : (snapshot.filterMap (sensorFamily minus)).flatMap Family.read =
      snapshot.filterMap (sensorSample minus) := by
    rw [List.filterMap_eq_flatMap_toList, List.flatMap_assoc, List.filterMap_eq_flatMap_toList]
    exact List.flatMap_congr fun row _ => row_read row
  rw [pageFamilies, pageSamples, List.flatMap_append, rows, List.flatMap_cons, List.flatMap_nil,
    List.append_nil, read_hardwareInfo]

/-! ### When the page is valid -/

/-- The sensors that are on the page. -/
def exportedDescriptor : ScrapeRow → Option SensorDescriptor
  | (_, none, _, _) => none
  | (d, some sample, _, _) => (exported false sample.reading).map fun _ => d

/-- The nickname hangs on the key and tells no devices apart. -/
def SameInfo (a b : HardwareDevice) : Prop :=
  a.key = b.key ∧ a.category = b.category ∧ a.model = b.model ∧
    a.vendor.getD "" = b.vendor.getD "" ∧ a.pluginId = b.pluginId

structure Exportable (devices : List HardwareDevice) (snapshot : List ScrapeRow) : Prop where
  names : ((snapshot.filterMap exportedDescriptor).map (fun d => sanitizeMetricName d.id.asStr) ++
    ["linsight_hardware_info"]).Nodup
  helps : ∀ d ∈ snapshot.filterMap exportedDescriptor, Exposition.HelpReads d.displayName.toList
  devices : devices.Pairwise fun a b => ¬ SameInfo a b

theorem HardwareCategory.asStr_injective {a b : HardwareCategory} (same : a.asStr = b.asStr) :
    a = b := by
  cases a <;> cases b <;> first | rfl | (revert same; decide)

theorem sameLabels_deviceSample_iff (nicknames : KeyMap String String) (a b : HardwareDevice) :
    Exposition.SameLabels (deviceSample nicknames a) (deviceSample nicknames b) ↔
      SameInfo a b := by
  constructor
  · intro same
    have names : (labelsOf (deviceLabels nicknames a)).map Prod.fst =
        (labelsOf (deviceLabels nicknames b)).map Prod.fst := rfl
    have strings : ((deviceLabels nicknames a).map Prod.fst).Nodup := by
      show ["device_key", "category", "model", "vendor", "nickname", "plugin_id"].Nodup
      decide
    have nodup : ((labelsOf (deviceLabels nicknames a)).map Prod.fst).Nodup := by
      have chars : (labelsOf (deviceLabels nicknames a)).map Prod.fst =
          ((deviceLabels nicknames a).map Prod.fst).map String.toList := by
        rw [labelsOf, List.map_map, List.map_map]
        rfl
      rw [chars]
      exact strings.map fun _ _ => String.toList_injective
    have equal := Exposition.eq_of_same_members names nodup same
    simp only [labelsOf, deviceLabels, List.map_cons, List.map_nil, List.cons.injEq,
      Prod.mk.injEq, true_and, and_true, String.toList_inj] at equal
    obtain ⟨key, category, model, vendor, _, plugin⟩ := equal
    exact ⟨HardwareDeviceKey.asStr_injective key, HardwareCategory.asStr_injective category,
      model, vendor, plugin⟩
  · rintro ⟨key, category, model, vendor, plugin⟩ label
    have equal : deviceLabels nicknames a = deviceLabels nicknames b := by
      rw [deviceLabels, key, category, model, vendor, plugin]
      rfl
    show label ∈ labelsOf (deviceLabels nicknames a) ↔ label ∈ labelsOf (deviceLabels nicknames b)
    rw [equal]

/-- The page reads back if and only if its families do. -/
theorem valid_render_iff (minus : Sample → Bool) (devices : List HardwareDevice)
    (nicknames : KeyMap String String) (snapshot : List ScrapeRow) :
    Exposition.Valid (render minus devices nicknames snapshot).toList
        (pageSamples minus devices nicknames snapshot) ↔
      ((pageFamilies minus devices nicknames snapshot).map Family.metric).Nodup ∧
        ∀ family ∈ pageFamilies minus devices nicknames snapshot,
          Exposition.HelpReads family.doc ∧
            family.read.Pairwise fun a b => ¬ Exposition.SameLabels a b := by
  rw [toList_render, ← flatMap_read]
  refine Exposition.valid_families_iff ?_ ?_
  · simp only [String.reduceToList]
    decide
  · rfl

theorem map_metric_pageFamilies (minus : Sample → Bool) (devices : List HardwareDevice)
    (nicknames : KeyMap String String) (snapshot : List ScrapeRow) :
    (pageFamilies minus devices nicknames snapshot).map Family.metric =
      ((snapshot.filterMap exportedDescriptor).map (fun d => sanitizeMetricName d.id.asStr) ++
        ["linsight_hardware_info"]).map String.toList := by
  have row_metric : ∀ row, (sensorFamily minus row).map Family.metric =
      (exportedDescriptor row).map fun d => (sanitizeMetricName d.id.asStr).toList := by
    rintro ⟨d, sample, pluginId, deviceKey⟩
    cases sample with
    | none => rfl
    | some sample =>
        obtain ⟨sensor, ts, reading⟩ := sample
        cases reading <;> rfl
  rw [pageFamilies, List.map_append, List.map_append, List.map_filterMap, List.map_map,
    List.map_filterMap]
  simp only [row_metric]
  rfl

theorem exists_exportedDescriptor {minus : Sample → Bool} {row : ScrapeRow} {family : Family}
    (written : sensorFamily minus row = some family) :
    ∃ d, exportedDescriptor row = some d ∧ family.doc = d.displayName.toList ∧
      ∃ sample, family.read = [sample] := by
  obtain ⟨d, sample, pluginId, deviceKey⟩ := row
  cases sample with
  | none => cases written
  | some sample =>
      obtain ⟨sensor, ts, reading⟩ := sample
      cases reading <;> cases written <;> exact ⟨d, rfl, rfl, _, rfl⟩

theorem exists_sensorFamily (minus : Sample → Bool) {row : ScrapeRow} {d : SensorDescriptor}
    (here : exportedDescriptor row = some d) :
    ∃ family, sensorFamily minus row = some family ∧ family.doc = d.displayName.toList := by
  obtain ⟨d, sample, pluginId, deviceKey⟩ := row
  cases sample with
  | none => cases here
  | some sample =>
      obtain ⟨sensor, ts, reading⟩ := sample
      cases reading <;> cases here <;> exact ⟨_, rfl, rfl⟩

/-- The page reads back exactly as written if and only if the sanitized names are distinct and
none is the name of the metadata, the display names fit on their lines and no two devices are
written alike. -/
theorem valid_page_iff (minus : Sample → Bool) (devices : List HardwareDevice)
    (nicknames : KeyMap String String) (snapshot : List ScrapeRow) :
    Exposition.Valid (render minus devices nicknames snapshot).toList
        (pageSamples minus devices nicknames snapshot) ↔ Exportable devices snapshot := by
  have rows : (∀ family ∈ snapshot.filterMap (sensorFamily minus),
        Exposition.HelpReads family.doc ∧
        family.read.Pairwise fun a b => ¬ Exposition.SameLabels a b) ↔
      ∀ d ∈ snapshot.filterMap exportedDescriptor,
        Exposition.HelpReads d.displayName.toList := by
    constructor
    · intro each d member
      obtain ⟨row, inside, here⟩ := List.mem_filterMap.mp member
      obtain ⟨family, written, doc⟩ := exists_sensorFamily minus here
      rw [← doc]
      exact (each family (List.mem_filterMap.mpr ⟨row, inside, written⟩)).1
    · intro each family member
      obtain ⟨row, inside, written⟩ := List.mem_filterMap.mp member
      obtain ⟨d, here, doc, sample, read⟩ := exists_exportedDescriptor written
      rw [doc, read]
      exact ⟨each d (List.mem_filterMap.mpr ⟨row, inside, here⟩), List.pairwise_singleton ..⟩
  have info : Exposition.HelpReads (hardwareInfo devices nicknames).doc := ⟨rfl, nofun⟩
  have apart : ((hardwareInfo devices nicknames).read.Pairwise fun a b =>
      ¬ Exposition.SameLabels a b) ↔ devices.Pairwise fun a b => ¬ SameInfo a b := by
    rw [read_hardwareInfo, List.pairwise_map]
    simp only [sameLabels_deviceSample_iff]
  rw [valid_render_iff, map_metric_pageFamilies,
    List.nodup_map_iff fun _ _ => String.toList_injective, pageFamilies, List.forall_mem_append,
    rows, List.forall_mem_singleton, apart, and_iff_right info]
  exact ⟨fun ⟨names, helps, devices⟩ => ⟨names, helps, devices⟩,
    fun ⟨names, helps, devices⟩ => ⟨names, helps, devices⟩⟩

/-- Two sensors under one sanitized name. -/
def collidingRows : List ScrapeRow :=
  [({ memUsedBytes with id := ⟨"a.b"⟩ }, some ⟨⟨"a.b"⟩, 0, .counter 1⟩, "plugin", none),
    ({ memUsedBytes with id := ⟨"a_b"⟩ }, some ⟨⟨"a_b"⟩, 0, .counter 2⟩, "plugin", none)]

theorem colliding_ids_break_page :
    (∀ row ∈ collidingRows, SensorId.tryNew row.1.id.asStr = .ok row.1.id) ∧
      (collidingRows.map (·.1.id)).Nodup ∧
      ¬ Exposition.Valid (render (fun _ => false) [] ∅ collidingRows).toList
        (pageSamples (fun _ => false) [] ∅ collidingRows) := by
  refine ⟨by decide, by decide, fun valid => ?_⟩
  have nodup := ((valid_render_iff (fun _ => false) [] ∅ collidingRows).mp valid).1
  rw [map_metric_pageFamilies] at nodup
  have same : sanitizeMetricName "a.b" = sanitizeMetricName "a_b" := by decide
  have names : (collidingRows.filterMap exportedDescriptor).map
      (fun d => sanitizeMetricName d.id.asStr) =
        [sanitizeMetricName "a_b", sanitizeMetricName "a_b"] := by
    rw [← same]
    exact congrArg (fun name => [_, name]) same.symm
  rw [names] at nodup
  exact (List.nodup_cons.mp nodup).1 List.mem_cons_self

end LinSight
