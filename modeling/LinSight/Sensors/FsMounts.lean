import LinSight.Hardware.Labels
import LinSight.Library.Suffixes
import LinSight.Plugin.Mirror

set_option autoImplicit false

/-! The mounts of the filesystem plugin, their keys and their sensors. -/

namespace LinSight.Fs

open Ieee (Value binary64)
open Words (words stripPrefix lines rsplitOnce)

/-- A mount table: `none` is a file that does not exist, and a content of `none` one that cannot
be read. -/
structure MountTables where
  etcMtab : Option (Option String)
  procMounts : Option String

structure MtabEntry where
  source : String
  mountpoint : String
  fstype : String
deriving DecidableEq

def pseudoFs : List String :=
  ["proc", "sysfs", "tmpfs", "devtmpfs", "devpts", "cgroup", "cgroup2", "cpuset", "efivarfs",
    "hugetlbfs", "mqueue", "pstore", "ramfs", "securityfs", "tracefs", "debugfs", "bpf", "autofs",
    "overlay", "fuse.gvfsd-fuse", "fusectl", "configfs", "squashfs"]

def skipPrefixes : List String := ["/sys", "/proc", "/dev", "/run"]

/-- A line of the table, where it is a mount that the plugin shows. -/
def mtabEntry (line : List Char) : Option MtabEntry :=
  match words isWhitespace line with
  | source :: mountpoint :: fstype :: _ =>
      if String.ofList fstype ∈ pseudoFs then none
      else if skipPrefixes.any fun front => front.toList.isPrefixOf mountpoint then none
      else if String.ofList source = "none" ∨ String.ofList source = "tmpfs" then none
      else some ⟨String.ofList source, String.ofList mountpoint, String.ofList fstype⟩
  | _ => none

def readMtab (tables : MountTables) : List MtabEntry :=
  match tables.etcMtab.getD tables.procMounts with
  | some content => (lines content.toList).filterMap mtabEntry
  | none => []

def mountSafekey (mountpoint : String) : String :=
  let s := mountpoint.toList.dropWhile (· = '/')
  if s.isEmpty then "root" else replaceChar '/' "_" (String.ofList s)

/-- What is below `/sys/block`, by the paths from there. -/
structure SysBlock where
  isDir : String → Bool
  present : String → Bool
  entries : Option (List String)

/-- The disk that has the device: itself, or the entry with a directory of its name. -/
def findBlockDisk (sysBlock : SysBlock) (dev : String) : Option String :=
  if sysBlock.isDir dev && !sysBlock.present (dev ++ "/partition") then some dev
  else sysBlock.entries.bind fun entries =>
    entries.find? fun entry => sysBlock.isDir (entry ++ "/" ++ dev)

/-- `nvme0n1` is a namespace of `nvme0`. -/
def nvmeController (disk : String) : String :=
  match stripPrefix "nvme".toList disk.toList with
  | some rest =>
      let ctrl := rest.takeWhile (· ≠ 'n')
      if 'n' ∈ rest && !ctrl.isEmpty && ctrl.all Char.isDigit then "nvme" ++ String.ofList ctrl
      else disk
  | none => disk

def unresolved : List String := ["mapper/", "dm-", "loop", "md", "zram"]

def resolveParentDevice (sysBlock : SysBlock) (source : String) : Option String := do
  let dev ← stripPrefix "/dev/".toList source.toList
  if unresolved.any fun front => front.toList.isPrefixOf dev then none
  else
    let disk ← findBlockDisk sysBlock (String.ofList dev)
    return nvmeController disk

/-- The sizes in bytes and the counts of inodes that `statvfs` gives. -/
structure FsStat where
  total : Nat
  avail : Nat
  inodes : Nat
  inodesFree : Nat

abbrev FsStats := KeyMap String FsStat

/-- What the plugin finds on the host besides the mount table. -/
structure Host where
  sysBlock : SysBlock
  statvfsRaw : String → Except PluginError FsStat

def Host.reportsInodes (host : Host) (mountpoint : String) : Bool :=
  match host.statvfsRaw mountpoint with
  | .ok stat => 0 < stat.inodes
  | .error _ => true

/-- The `f32` nearest to 0.2. -/
def slowRateHz : Value := .finite (13421773 / 67108864)

def fsSensor (safe : String) (key : HardwareDeviceKey) (tags : List String)
    (metric name : String) (unit : LinSight.Unit) (rate : Value) : SensorDescriptor where
  id := ⟨"fs." ++ safe ++ "." ++ metric⟩
  displayName := name
  unit := unit
  kind := .scalar
  category := .storage
  nativeRateHz := rate
  min := some (.finite 0)
  max := none
  deviceId := some safe
  deviceKey := some key
  tags := tags

/-- The sensors of one mount; those of the inodes only where it counts them. -/
def fsSensors (safe : String) (key : HardwareDeviceKey) (tags : List String)
    (reportsInodes : Bool) : List SensorDescriptor :=
  [fsSensor safe key tags "total_bytes" "Filesystem total" .bytes slowRateHz,
    fsSensor safe key tags "used_bytes" "Filesystem used" .bytes (.finite 1),
    fsSensor safe key tags "avail_bytes" "Filesystem available" .bytes (.finite 1)] ++
  if reportsInodes then
    [fsSensor safe key tags "inodes_total" "Inodes total" .count slowRateHz,
      fsSensor safe key tags "inodes_used" "Inodes used" .count (.finite 1)]
  else []

def fsDevice (m : MtabEntry) (safe : String) (key : HardwareDeviceKey) : HardwareDevice where
  key := key
  category := .storage
  model := m.fstype ++ " (" ++ m.mountpoint ++ ")"
  vendor := none
  location := some m.mountpoint
  pluginId := ""
  pluginDeviceId := safe
  sensorIds := []

/-- What the loop of `init_inner` has so far. -/
structure Built where
  taken : List String
  mounts : List (String × String)
  sensors : List SensorDescriptor
  devices : List HardwareDevice

/-- One mount. A key that is not valid ends the loop, and with it `init`. -/
def initMount (host : Host) (b : Built) (mtabIdx : Nat) (m : MtabEntry) :
    Except PluginError Built :=
  let tags := ((resolveParentDevice host.sysBlock m.source).map fun p => "parent:" ++ p).toList
  let (safe, taken) := Suffixes.claim b.taken (mountSafekey m.mountpoint) (mtabIdx + 1)
  match HardwareDeviceKey.tryNew ("fs:" ++ safe) with
  | .error e => .error (.io ("fs " ++ safe ++ ": " ++ e.toString))
  | .ok key => .ok {
      taken
      mounts := b.mounts ++ [(m.mountpoint, safe)]
      sensors := b.sensors ++ fsSensors safe key tags (host.reportsInodes m.mountpoint)
      devices := b.devices ++ [fsDevice m safe key] }

def initMounts (host : Host) : List (MtabEntry × Nat) → Built → Except PluginError Built
  | [], b => .ok b
  | (m, mtabIdx) :: rest, b => do
      let b ← initMount host b mtabIdx m
      initMounts host rest b

/-- The manifest, and the mounts with their keys that the plugin keeps. -/
def initInner (host : Host) (tables : MountTables) :
    Except PluginError (PluginManifest × List (String × String)) := do
  let b ← initMounts host (readMtab tables).zipIdx ⟨[], [], [], []⟩
  return (⟨"com.visorcraft.linsight.fs", "Filesystem", "1.20.5", b.sensors, b.devices⟩, b.mounts)

def metricValue (metric : String) : Option (FsStat → Nat) :=
  if metric = "total_bytes" then some fun stat => stat.total
  else if metric = "used_bytes" then some fun stat => stat.total - stat.avail
  else if metric = "avail_bytes" then some fun stat => stat.avail
  else if metric = "inodes_total" then some fun stat => stat.inodes
  else if metric = "inodes_used" then some fun stat => stat.inodes - stat.inodesFree
  else none

/-- A sample; the snapshot is taken after the mount is found. -/
def sampleInner (mounts : List (String × String)) (snapshot : Except PluginError FsStats)
    (sensor : SensorId) : Except PluginError Reading :=
  let unsupported := .error (.unsupported sensor.asStr)
  match (stripPrefix "fs.".toList sensor.asStr.toList).bind (rsplitOnce '.') with
  | none => unsupported
  | some (safe, metric) =>
      match mounts.find? fun mount => mount.2 = String.ofList safe with
      | none => unsupported
      | some mount =>
          match snapshot with
          | .error e => .error e
          | .ok stats =>
              match stats.lookup mount.1 with
              | none =>
                  .error (.unsupported ("fs " ++ String.ofList safe ++ " not in snapshot"))
              | some stat =>
                  match metricValue (String.ofList metric) with
                  | some value => .ok (.scalar (binary64.round (value stat)))
                  | none => unsupported

end LinSight.Fs
