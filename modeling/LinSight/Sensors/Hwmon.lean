import LinSight.Library.Suffixes
import LinSight.Plugin.Manifest

set_option autoImplicit false

/-! The sensors of the hwmon plugin and the thermal zones of the system plugin. -/

namespace LinSight.Hwmon

open Ieee (Value binary64)
open Words (stripPrefix stripSuffix rsplitOnce parseUnsigned)

inductive IntErrorKind where
  | empty
  | invalidDigit
  | posOverflow
  | negOverflow
deriving DecidableEq

def IntErrorKind.toString : IntErrorKind → String
  | empty => "cannot parse integer from empty string"
  | invalidDigit => "invalid digit found in string"
  | posOverflow => "number too large to fit in target type"
  | negOverflow => "number too small to fit in target type"

/-- The digits of a number of at most `limit`; the first one that is wrong decides the error. -/
def parseDigits (limit : Nat) (overflow : IntErrorKind) (digits : List Char) :
    Except IntErrorKind Nat :=
  digits.foldlM (fun n c =>
    if !c.isDigit then .error .invalidDigit
    else
      let next := 10 * n + (c.toNat - '0'.toNat)
      if limit < next then .error overflow else .ok next) 0

/-- `str::parse::<i64>`. -/
def parseI64 : List Char → Except IntErrorKind Int
  | [] => .error .empty
  | ['+'] | ['-'] => .error .invalidDigit
  | '-' :: digits => (parseDigits 9223372036854775808 .negOverflow digits).map fun n => -(n : Int)
  | '+' :: digits => (parseDigits 9223372036854775807 .posOverflow digits).map fun n => (n : Int)
  | digits => (parseDigits 9223372036854775807 .posOverflow digits).map fun n => (n : Int)

/-- A file of a directory. -/
structure SysPath where
  dir : String
  file : String
deriving DecidableEq

/-- `path.display()`. -/
def SysPath.display (path : SysPath) : String := path.dir ++ "/" ++ path.file

/-- One `hwmonN` of the class directory: its entries in any order, and what reading a file of it
gives. -/
structure HwmonDir where
  parent : String
  dname : String
  files : Option (List String)
  read : String → Except String String

/-- The `N` of a directory's name. -/
def dirIndex (front : List Char) (dname : String) : Option Nat :=
  (stripPrefix front dname.toList).bind (parseUnsigned 4294967296)

def hwmonIndex (dir : HwmonDir) : Option Nat := dirIndex "hwmon".toList dir.dname

def cpuMonitoredHwmons : List String := ["coretemp", "k10temp", "zenpower"]

structure HwmonSensorInfo where
  id : String
  displayName : String
  unit : LinSight.Unit
  kind : SensorKind
  path : SysPath
deriving DecidableEq

structure HwmonDeviceInfo where
  name : String
  sensors : List HwmonSensorInfo
deriving DecidableEq

/-- The unit, the kind and the end of the id, by the kind of the input. -/
def inputKind (typePrefix : List Char) : Option (LinSight.Unit × SensorKind × String) :=
  if typePrefix = "temp".toList then some (.celsius, .scalar, "_temp_c")
  else if typePrefix = "fan".toList then some (.rpm, .scalar, "_fan_rpm")
  else if typePrefix = "in".toList then some (.volts, .scalar, "_volts")
  else if typePrefix = "power".toList then some (.watts, .scalar, "_power_w")
  else if typePrefix = "curr".toList then some (.count, .scalar, "_amps")
  else none

/-- Lower case letters, digits and underscores. -/
def safeLabel (label : String) : String :=
  String.ofList (label.toList.map fun c => if c.isAlphanum || c = '_' then c.toLower else '_')

/-- An input file that can be read, with the text of its label. -/
structure Input where
  file : String
  label : String
  unit : LinSight.Unit
  kind : SensorKind
  labelSuffix : String

def readInput (dir : HwmonDir) (fname : String) : Option Input :=
  match rsplitOnce '_' fname.toList with
  | none => none
  | some (stem, suffix) =>
      if suffix ≠ "input".toList then none
      else
        match inputKind (stem.rdropWhile Char.isDigit) with
        | none => none
        | some (unit, kind, labelSuffix) =>
            match dir.read fname with
            | .error _ => none
            | .ok _ =>
                let label := match dir.read (String.ofList stem ++ "_label") with
                  | .ok text => String.ofList (Words.trim isWhitespace text.toList)
                  | .error _ => String.ofList stem
                some ⟨fname, label, unit, kind, labelSuffix⟩

/-- What the id of a sensor ends with. -/
def Input.tail (input : Input) : String := safeLabel input.label ++ input.labelSuffix

def Input.info (dir : HwmonDir) (hwmonName : String) (input : Input) : HwmonSensorInfo where
  id := "hwmon." ++ hwmonName ++ "." ++ input.tail
  displayName := input.label
  unit := input.unit
  kind := input.kind
  path := ⟨dir.parent ++ "/" ++ dir.dname, input.file⟩

def inputs (dir : HwmonDir) : List Input :=
  match dir.files with
  | none => []
  | some entries => entries.filterMap (readInput dir)

def discoverSensors (dir : HwmonDir) (hwmonName : String) : List HwmonSensorInfo :=
  (inputs dir).map (Input.info dir hwmonName)

/-- A chip of the first pass. -/
structure Raw where
  index : Nat
  name : String
  dir : HwmonDir

def rawChip (dir : HwmonDir) : Option Raw :=
  match hwmonIndex dir with
  | none => none
  | some index =>
      match dir.read "name" with
      | .error _ => none
      | .ok text =>
          let name := String.ofList (Words.trim isWhitespace text.toList)
          if name ∈ cpuMonitoredHwmons then none else some ⟨index, name, dir⟩

/-- The second pass: a repeated name gets the index of its directory. -/
def nameChips (taken : List String) : List Raw → List HwmonDeviceInfo
  | [] => []
  | raw :: rest =>
      let (name, taken) := Suffixes.claim taken raw.name raw.index
      let sensors := discoverSensors raw.dir name
      if sensors.isEmpty then nameChips taken rest else ⟨name, sensors⟩ :: nameChips taken rest

/-- The class directory; no two directories have one index. -/
structure HwmonClass where
  dirs : List HwmonDir
  distinct : (dirs.filterMap hwmonIndex).Nodup

def rawChips (hwmon : HwmonClass) : List Raw :=
  (hwmon.dirs.filterMap rawChip).insertionSort fun a b => a.index ≤ b.index

def enumerateHwmon (hwmon : HwmonClass) : List HwmonDeviceInfo := nameChips [] (rawChips hwmon)

/-- The value of an input file, in the unit of its sensor. -/
def scaled (unit : LinSight.Unit) (val : Int) : Value :=
  match unit with
  | .celsius | .volts => binary64.div (binary64.round val) (.finite 1000)
  | .watts => binary64.div (binary64.round val) (.finite 1000000)
  | _ => binary64.round val

/-- Read the input file of a sensor. -/
def readSensor (read : SysPath → Except String String) (s : HwmonSensorInfo) :
    Except PluginError Reading :=
  match read s.path with
  | .error e => .error (.io (s.path.display ++ ": " ++ e))
  | .ok raw =>
      match parseI64 (Words.trim isWhitespace raw.toList) with
      | .error e => .error (.parse (s.path.display ++ ": " ++ e.toString))
      | .ok val => .ok (.scalar (scaled s.unit val))

/-- The first sensor with the id is read. -/
def sampleInner (devices : List HwmonDeviceInfo) (read : SysPath → Except String String)
    (sensor : SensorId) : Except PluginError Reading :=
  match (devices.flatMap (·.sensors)).find? fun s => s.id = sensor.asStr with
  | some s => readSensor read s
  | none => .error (.unsupported sensor.asStr)

/-- A `thermal_zoneN`; its temperature file may be missing. -/
structure ZoneDir where
  parent : String
  dname : String
  typeText : Except String String
  hasTemp : Bool

def zoneIndex (dir : ZoneDir) : Option Nat := dirIndex "thermal_zone".toList dir.dname

structure RawZone where
  zoneIndex : Nat
  label : String
  tempPath : SysPath

def RawZone.baseSafeLabel (raw : RawZone) : String := safeLabel raw.label

structure ThermalZone where
  label : String
  safeLabel : String
  tempPath : SysPath
deriving DecidableEq

def rawZone (dir : ZoneDir) : Option RawZone :=
  match zoneIndex dir, dir.typeText with
  | some index, .ok text =>
      if dir.hasTemp then
        some ⟨index, String.ofList (Words.trim isWhitespace text.toList),
          ⟨dir.parent ++ "/" ++ dir.dname, "temp"⟩⟩
      else none
  | _, _ => none

/-- The second pass: a repeated label gets the index of its zone. -/
def nameZones (taken : List String) : List RawZone → List ThermalZone
  | [] => []
  | raw :: rest =>
      let (safeLabel, taken) := Suffixes.claim taken raw.baseSafeLabel raw.zoneIndex
      ⟨raw.label, safeLabel, raw.tempPath⟩ :: nameZones taken rest

structure ThermalClass where
  dirs : List ZoneDir
  distinct : (dirs.filterMap zoneIndex).Nodup

def rawZones (thermal : ThermalClass) : List RawZone :=
  (thermal.dirs.filterMap rawZone).insertionSort fun a b => a.zoneIndex ≤ b.zoneIndex

def enumerateThermalZones (thermal : ThermalClass) : List ThermalZone :=
  nameZones [] (rawZones thermal)

/-- The id that the zone is advertised under. -/
def ThermalZone.id (zone : ThermalZone) : SensorId := ⟨"thermal." ++ zone.safeLabel ++ ".temp_c"⟩

def readU64 (read : SysPath → Except String String) (path : SysPath) : Option Nat :=
  match read path with
  | .ok text => parseUnsigned u64Bound (Words.trim isWhitespace text.toList)
  | .error _ => none

def milliCelsius (milli : Nat) : Value := binary64.div (binary64.round milli) (.finite 1000)

/-- The temperatures of a snapshot; a zone that cannot be read is not in it. -/
def thermalSnapshot (zones : List ThermalZone) (read : SysPath → Except String String) :
    KeyMap String Value :=
  zones.foldl (fun thermal zone =>
    match readU64 read zone.tempPath with
    | some milli => thermal.insert zone.safeLabel (milliCelsius milli)
    | none => thermal) ∅

/-- The thermal ids of `sample_inner`, once the snapshot is there. An id that is too short for
both of its ends is a panic, which is `none`. -/
def sampleThermal (thermal : KeyMap String Value) (sensor : SensorId) :
    Option (Except PluginError Reading) :=
  let id := sensor.asStr.toList
  if "thermal.".toList <+: id ∧ ".temp_c".toList <:+ id then
    ((stripPrefix "thermal.".toList id).bind (stripSuffix ".temp_c".toList)).map fun label =>
      match thermal.lookup (String.ofList label) with
      | some temp => .ok (.scalar temp)
      | none => .error (.unsupported sensor.asStr)
  else some (.error (.unsupported sensor.asStr))

end LinSight.Hwmon
