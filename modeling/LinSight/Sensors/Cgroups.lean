import LinSight.Library.KeyMap
import LinSight.Library.Words
import LinSight.Plugin.Manifest

set_option autoImplicit false

/-! The tables of containers and of systemd units that are read from the cgroup hierarchy. -/

namespace LinSight.Cgroups

open Ieee (binary64)
open Words (stripPrefix stripSuffix lines parseUnsigned)

/-- An entry of a slice directory, with the files below it that can be read. The cgroup that it
stands for is a record: no function reads it. -/
structure DirEntry where
  name : String
  isDir : Bool
  cpuStat : Option String
  memoryCurrent : Option String
  pidsCurrent : Option String
  cgroupProcs : Option String
  cgroup : Nat
deriving DecidableEq

/-- A slice; `read_dir` lists its entries in any order, or fails. -/
structure SliceDir where
  isDir : Bool
  entries : Option (List DirEntry)

structure CgroupRoot where
  systemSlice : SliceDir
  machineSlice : SliceDir

/-- `MAX_CONTAINERS` and `MAX_UNITS`. -/
def maxEntries : Nat := 512

def usageUsec : List Char := ['u', 's', 'a', 'g', 'e', '_', 'u', 's', 'e', 'c', ' ']

/-- The first line with the usage decides, and a text without one shows none. -/
def usageIn : List (List Char) → Option Nat
  | [] => some 0
  | line :: rest =>
      match stripPrefix usageUsec line with
      | some val => parseUnsigned u64Bound (Words.trim isWhitespace val)
      | none => usageIn rest

/-- `none` is an error, of which no caller reads more. -/
def readCpuUsage (entry : DirEntry) : Option Nat :=
  entry.cpuStat.bind fun content => usageIn (lines content.toList)

/-- `read_memory_current` and `read_pids_current`. -/
def readCurrent (content : Option String) : Option Nat :=
  content.bind fun content => parseUnsigned u64Bound (Words.trim isWhitespace content.toList)

def cgroupHasProcs (entry : DirEntry) : Bool :=
  entry.cgroupProcs.any fun content => !(Words.trim isWhitespace content.toList).isEmpty

/-- An entry that gets a row: the key of its counter and the first cells of the row. -/
structure Polled where
  key : String
  lead : List Cell
  entry : DirEntry
deriving DecidableEq

namespace Polled

def cpu (p : Polled) : Nat := (readCpuUsage p.entry).getD 0

/-- A missing counter counts as 0, and so does everything where none is known. -/
def delta (prevCpu : KeyMap String Nat) (p : Polled) : Nat :=
  if prevCpu.keys.isEmpty then 0 else p.cpu - (prevCpu.lookup p.key).getD 0

def row (prevCpu : KeyMap String Nat) (p : Polled) : TableRow where
  cells := p.lead ++
    [.number (binary64.round (p.delta prevCpu)),
      .bytes ((readCurrent p.entry.memoryCurrent).getD 0),
      .number (binary64.round ((readCurrent p.entry.pidsCurrent).getD 0 : Nat))]

end Polled

/-- The loop over the entries: their rows and the counters for the next sample. -/
def pollEntries (prevCpu : KeyMap String Nat) (polled : List Polled) :
    List TableRow × KeyMap String Nat :=
  polled.foldl (fun (rows, currentCpu) p =>
    (rows ++ [p.row prevCpu], currentCpu.insert p.key p.cpu)) ([], ∅)

def rowLe (a b : TableRow) : Bool :=
  match a.cells.head?, b.cells.head? with
  | some (.text l), some (.text r) => decide (l ≤ r)
  | _, _ => true

def sortRows (rows : List TableRow) : List TableRow :=
  rows.insertionSort fun a b => rowLe a b = true

/-- The counters by the keys of the previous sample. -/
structure Inner where
  prevCpu : KeyMap String Nat

/-- One slice: at most `max` entries are kept. -/
def enumerateSlice {α : Type} (keep : DirEntry → Option α) (max : Nat) :
    List DirEntry → List α → List α
  | [], out => out
  | entry :: rest, out =>
      if max ≤ out.length then out
      else
        match keep entry with
        | some kept => enumerateSlice keep max rest (out ++ [kept])
        | none => enumerateSlice keep max rest out

namespace Containers

def shortIdLen : Nat := 12

def shortId (id : List Char) : String := String.ofList (id.take shortIdLen)

/-- The runtime and the short id; the conmon sibling of a container is none. -/
def parseContainerScope (dirname : String) : Option (String × String) := do
  let stem ← stripSuffix ".scope".toList dirname.toList
  match stripPrefix "docker-".toList stem with
  | some id => some ("docker", shortId id)
  | none =>
      match stripPrefix "libpod-".toList stem with
      | some rest => if "conmon-".toList <+: rest then none else some ("podman", shortId rest)
      | none => none

structure ContainerEntry where
  runtime : String
  shortId : String
  scopeName : String
  entry : DirEntry

def containerEntry (entry : DirEntry) : Option ContainerEntry :=
  if !entry.isDir then none
  else (parseContainerScope entry.name).map fun (runtime, shortId) =>
    ⟨runtime, shortId, entry.name, entry⟩

/-- Both slices; a full list keeps nothing of the second one. -/
def enumerateContainers (root : CgroupRoot) (max : Nat) : List ContainerEntry :=
  [root.systemSlice, root.machineSlice].foldl (fun out slice =>
    match slice.entries with
    | some entries => enumerateSlice containerEntry max entries out
    | none => out) []

def ContainerEntry.polled (c : ContainerEntry) : Polled where
  key := c.scopeName
  lead := [.text c.shortId, .text c.runtime]
  entry := c.entry

def sampleInner (inner : Inner) (sensor : SensorId) (root : CgroupRoot) :
    Except PluginError Reading × Inner :=
  if sensor.asStr ≠ "containers.list" then (.error (.unsupported sensor.asStr), inner)
  else
    let containers := enumerateContainers root maxEntries
    let (rows, currentCpu) := pollEntries inner.prevCpu (containers.map ContainerEntry.polled)
    (.ok (.table (sortRows rows)), ⟨currentCpu⟩)

end Containers

namespace Systemd

structure UnitEntry where
  name : String
  entry : DirEntry

def unitEntry (entry : DirEntry) : Option UnitEntry :=
  if !(".service".toList <:+ entry.name.toList) then none
  else if !entry.isDir then none
  else some ⟨entry.name, entry⟩

def enumerateUnits (slice : SliceDir) (max : Nat) : List UnitEntry :=
  match slice.entries with
  | none => []
  | some entries =>
      (enumerateSlice unitEntry max entries []).insertionSort fun a b => a.name ≤ b.name

def UnitEntry.polled (unit : UnitEntry) : Polled where
  key := unit.name
  lead := [.text unit.name, .text (if cgroupHasProcs unit.entry then "running" else "inactive")]
  entry := unit.entry

def sampleInner (inner : Inner) (sensor : SensorId) (root : CgroupRoot) :
    Except PluginError Reading × Inner :=
  if sensor.asStr ≠ "systemd.units" then (.error (.unsupported sensor.asStr), inner)
  else if !root.systemSlice.isDir then (.ok (.table []), inner)
  else
    let units := enumerateUnits root.systemSlice maxEntries
    let (rows, currentCpu) := pollEntries inner.prevCpu (units.map UnitEntry.polled)
    (.ok (.table (sortRows rows)), ⟨currentCpu⟩)

end Systemd

section Poll

variable {prevCpu : KeyMap String Nat} {polled : List Polled}

theorem pollEntries_eq : pollEntries prevCpu polled =
    (polled.map (Polled.row prevCpu),
      polled.foldl (fun currentCpu p => currentCpu.insert p.key p.cpu) ∅) := by
  suffices from_any : ∀ (rows : List TableRow) (currentCpu : KeyMap String Nat),
      polled.foldl (fun (rows, currentCpu) p =>
        (rows ++ [p.row prevCpu], currentCpu.insert p.key p.cpu)) (rows, currentCpu) =
      (rows ++ polled.map (Polled.row prevCpu),
        polled.foldl (fun currentCpu p => currentCpu.insert p.key p.cpu) currentCpu) from
    from_any [] ∅
  induction polled with
  | nil =>
      intro rows currentCpu
      rw [List.map_nil, List.append_nil]
      rfl
  | cons p rest ih =>
      intro rows currentCpu
      rw [List.foldl_cons, ih, List.map_cons, List.append_assoc]
      rfl

/-- The counter of an entry, where no other one has its key. -/
theorem lookup_pollEntries (distinct : (polled.map Polled.key).Nodup) (key : String) (n : Nat) :
    (pollEntries prevCpu polled).2.lookup key = some n ↔
      ∃ p ∈ polled, p.key = key ∧ p.cpu = n := by
  rw [pollEntries_eq]
  refine (KeyMap.lookup_foldl_insert Polled.key Polled.cpu distinct ∅ key n).trans ?_
  constructor
  · rintro (found | ⟨_, nothing⟩)
    · exact found
    · rw [AList.lookup_empty] at nothing
      cases nothing
  · exact .inl

theorem sortRows_perm (rows : List TableRow) : (sortRows rows).Perm rows :=
  List.perm_insertionSort _ rows

end Poll

section Enumerate

variable {α : Type} {keep : DirEntry → Option α} {max : Nat}

/-- What is kept is of a listed entry. -/
theorem of_mem_enumerateSlice {entries : List DirEntry} {out : List α} {kept : α}
    (member : kept ∈ enumerateSlice keep max entries out) :
    kept ∈ out ∨ ∃ entry ∈ entries, keep entry = some kept := by
  induction entries generalizing out with
  | nil => exact .inl member
  | cons entry rest ih =>
      unfold enumerateSlice at member
      split at member
      · exact .inl member
      · split at member
        · rename_i first found
          rcases ih member with before | ⟨other, later, same⟩
          · rcases List.mem_append.mp before with old | new
            · exact .inl old
            · rw [List.mem_singleton.mp new]
              exact .inr ⟨entry, List.mem_cons_self, found⟩
          · exact .inr ⟨other, List.mem_cons_of_mem entry later, same⟩
        · rcases ih member with before | ⟨other, later, same⟩
          · exact .inl before
          · exact .inr ⟨other, List.mem_cons_of_mem entry later, same⟩

theorem Containers.of_mem_enumerateContainers {root : CgroupRoot} {c : ContainerEntry}
    (member : c ∈ enumerateContainers root max) :
    c.scopeName = c.entry.name ∧ ∃ slice ∈ [root.systemSlice, root.machineSlice],
      ∃ entries, slice.entries = some entries ∧ c.entry ∈ entries := by
  have kept (slice : SliceDir) (out : List ContainerEntry)
      (inside : c ∈ match slice.entries with
        | some entries => enumerateSlice containerEntry max entries out
        | none => out) :
      c ∈ out ∨ c.scopeName = c.entry.name ∧
        ∃ entries, slice.entries = some entries ∧ c.entry ∈ entries := by
    split at inside
    · rename_i entries listed
      rcases of_mem_enumerateSlice inside with before | ⟨entry, there, made⟩
      · exact .inl before
      · unfold containerEntry at made
        split at made
        · cases made
        · obtain ⟨_, _, rfl⟩ := Option.map_eq_some_iff.mp made
          exact .inr ⟨rfl, entries, listed, there⟩
    · exact .inl inside
  rcases kept root.machineSlice _ member with before | ⟨named, listed⟩
  · rcases kept root.systemSlice _ before with nothing | ⟨named, listed⟩
    · cases nothing
    · exact ⟨named, _, List.mem_cons_self, listed⟩
  · exact ⟨named, _, List.mem_cons_of_mem _ List.mem_cons_self, listed⟩

theorem Systemd.of_mem_enumerateUnits {slice : SliceDir} {unit : UnitEntry}
    (member : unit ∈ enumerateUnits slice max) :
    unit.name = unit.entry.name ∧
      ∃ entries, slice.entries = some entries ∧ unit.entry ∈ entries := by
  unfold enumerateUnits at member
  split at member
  · cases member
  · rename_i entries listed
    rw [List.mem_insertionSort] at member
    rcases of_mem_enumerateSlice member with nothing | ⟨entry, there, made⟩
    · cases nothing
    · unfold unitEntry at made
      split at made
      · cases made
      · split at made
        · cases made
        · cases made
          exact ⟨rfl, entries, listed, there⟩

end Enumerate

end LinSight.Cgroups
