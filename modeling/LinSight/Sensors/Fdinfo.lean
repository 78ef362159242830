import LinSight.Core.Types
import LinSight.Library.Ieee
import LinSight.Library.KeyMap
import LinSight.Library.Words

set_option autoImplicit false

/-! The busy cycles of the clients of the xe driver, from `/proc/<pid>/fdinfo`, and the share
of each engine class in them. -/

namespace LinSight.Fdinfo

open Ieee (Value binary64)
open Words (stripPrefix lines parseUnsigned)

structure PdevSnapshot where
  busy : KeyMap (Nat × String) Nat
  total : KeyMap String Nat

def PdevSnapshot.empty : PdevSnapshot := ⟨∅, ∅⟩

/-- By PCI device. -/
abbrev Snapshots := KeyMap String PdevSnapshot

/-- The file descriptors of a process that are known to be DRM nodes. -/
abbrev DrmFdIndex := KeyMap Nat (List Nat)

/-- `str::split_once`. -/
def splitOnce (c : Char) (text : List Char) : Option (List Char × List Char) :=
  match text.span (· ≠ c) with
  | (front, _ :: back) => some (front, back)
  | (_, []) => none

/-- What the loop of `parse_into_any` has read. -/
structure Fields where
  isXe : Bool
  pdev : Option String
  clientId : Option Nat
  busy : List (String × Nat)
  total : List (String × Nat)

def Fields.none : Fields := ⟨false, Option.none, Option.none, [], []⟩

def Fields.line (fields : Fields) (line : List Char) : Fields :=
  match splitOnce ':' line with
  | Option.none => fields
  | some (k, v) =>
      let v := Words.trim isWhitespace v
      if k = "drm-driver".toList then { fields with isXe := v = "xe".toList }
      else if k = "drm-pdev".toList then { fields with pdev := some (String.ofList v) }
      else if k = "drm-client-id".toList then
        { fields with clientId := parseUnsigned u64Bound v }
      else
        match stripPrefix "drm-cycles-".toList k with
        | some cls =>
            match parseUnsigned u64Bound v with
            | some n => { fields with busy := fields.busy ++ [(String.ofList cls, n)] }
            | Option.none => fields
        | Option.none =>
            match stripPrefix "drm-total-cycles-".toList k, parseUnsigned u64Bound v with
            | some cls, some n => { fields with total := fields.total ++ [(String.ofList cls, n)] }
            | _, _ => fields

/-- An entry of the xe driver. -/
structure Entry where
  pdev : String
  clientId : Nat
  busy : List (String × Nat)
  total : List (String × Nat)
deriving DecidableEq

def parseEntry (text : String) : Option Entry :=
  let fields := (lines text.toList).foldl Fields.line Fields.none
  match fields.isXe, fields.pdev, fields.clientId with
  | true, some pdev, some clientId => some ⟨pdev, clientId, fields.busy, fields.total⟩
  | _, _, _ => none

def PdevSnapshot.insertBusy (snap : PdevSnapshot) (clientId : Nat) (busy : String × Nat) :
    PdevSnapshot :=
  { snap with busy := snap.busy.insert (clientId, busy.1) busy.2 }

/-- Totals keep the highest value. -/
def PdevSnapshot.insertTotal (snap : PdevSnapshot) (total : String × Nat) : PdevSnapshot :=
  let highest := max ((snap.total.lookup total.1).getD 0) total.2
  { snap with total := snap.total.insert total.1 highest }

def PdevSnapshot.add (snap : PdevSnapshot) (entry : Entry) : PdevSnapshot :=
  entry.total.foldl insertTotal
    (entry.busy.foldl (fun snap busy => snap.insertBusy entry.clientId busy) snap)

def parseIntoAny (text : String) (out : Snapshots) : Bool × Snapshots :=
  match parseEntry text with
  | some entry => (true, out.insert entry.pdev (((out.lookup entry.pdev).getD .empty).add entry))
  | none => (false, out)

/-- What can be read of `/proc`: the processes, the links of their file descriptors and the
`fdinfo` files. -/
structure Proc where
  pids : List Nat
  fds : Nat → List (Nat × String)
  fdinfo : Nat → Nat → Option String

section Capture

variable (proc : Proc)

/-- Read one `fdinfo` file, and keep its descriptor where it is an entry of the driver. -/
def readFdinfo (pid : Nat) (acc : Snapshots × List Nat) (fd : Nat) : Snapshots × List Nat :=
  match proc.fdinfo pid fd with
  | none => acc
  | some text =>
      let (isXe, snap) := parseIntoAny text acc.1
      (snap, if isXe then acc.2 ++ [fd] else acc.2)

/-- Read descriptors of a process, and index those that were kept. -/
def readFds (pid : Nat) (fds : List Nat) (acc : Snapshots × DrmFdIndex) :
    Snapshots × DrmFdIndex :=
  let (snap, kept) := fds.foldl (readFdinfo proc pid) (acc.1, [])
  (snap, if kept.isEmpty then acc.2 else acc.2.insert pid kept)

def discoverPidDrmFds (acc : Snapshots × DrmFdIndex) (pid : Nat) : Snapshots × DrmFdIndex :=
  let drm := (proc.fds pid).filter fun fd => "/dev/dri/".toList.isPrefixOf fd.2.toList
  readFds proc pid (drm.map Prod.fst) acc

def readKnownDrmFdinfos (acc : Snapshots × DrmFdIndex) (known : (_ : Nat) × List Nat) :
    Snapshots × DrmFdIndex :=
  readFds proc known.1 known.2 acc

def captureAllFiltered (pidIndex : Option DrmFdIndex) : Snapshots × DrmFdIndex :=
  match pidIndex with
  | some index => index.entries.foldl (readKnownDrmFdinfos proc) (∅, ∅)
  | none => proc.pids.foldl (discoverPidDrmFds proc) (∅, ∅)

end Capture

section Util

variable (prev cur : PdevSnapshot)

/-- The cycles that a client is credited with. -/
def credit (clientId : Nat) (cls : String) (busyNow : Nat) : Nat :=
  busyNow - (prev.busy.lookup (clientId, cls)).getD 0

/-- `busy_delta` of one class; the sum of the `u64`s wraps. -/
def busyDelta (cls : String) : Nat :=
  (cur.busy.entries.filter fun entry => entry.1.2 = cls).foldl
    (fun sum entry => wrappingAdd sum (credit prev entry.1.1 entry.1.2 entry.2)) 0

/-- Both as `f64`. -/
def quotient (busy total : Nat) : Value := binary64.div (binary64.round busy) (binary64.round total)

/-- The entries of the map. -/
def perClassUtil : List (String × Value) :=
  cur.total.entries.filterMap fun entry =>
    (prev.total.lookup entry.1).bind fun prevTotal =>
      let totalDelta := entry.2 - prevTotal
      if totalDelta = 0 then none
      else ((quotient (busyDelta prev cur entry.1) totalDelta).clamp (.finite 0) (.finite 1)).map
        fun util => (entry.1, util)

def maxUtil : Value := ((perClassUtil prev cur).map Prod.snd).foldl Value.max (.finite 0)

end Util

/-- The clients at one moment, by device: the busy cycles of each since it started and the total
cycles of the engines. A client that has ended stays with what it has spent. -/
structure World where
  clients : String → Finset Nat
  busy : String → Nat → String → Nat
  total : String → String → Nat

/-- No counter goes backwards. -/
structure World.Before (first second : World) : Prop where
  clients : ∀ pdev, first.clients pdev ⊆ second.clients pdev
  busy : ∀ pdev clientId cls, first.busy pdev clientId cls ≤ second.busy pdev clientId cls
  total : ∀ pdev cls, first.total pdev cls ≤ second.total pdev cls

/-- The cycles that all clients of a device spend in a class in between. -/
def World.spent (first second : World) (pdev cls : String) : Nat :=
  ∑ clientId ∈ second.clients pdev,
    (second.busy pdev clientId cls - first.busy pdev clientId cls)

/-- The entries of `/proc` have the counters of the moment. -/
def World.Shows (world : World) (proc : Proc) : Prop :=
  ∀ pid fd text, proc.fdinfo pid fd = some text → ∀ entry, parseEntry text = some entry →
    (∀ busy ∈ entry.busy, entry.clientId ∈ world.clients entry.pdev ∧
      busy.2 = world.busy entry.pdev entry.clientId busy.1) ∧
    ∀ total ∈ entry.total, total.2 = world.total entry.pdev total.1

/-- A snapshot has counters of one moment, and they are `u64`s. -/
structure PdevSnapshot.Of (snap : PdevSnapshot) (world : World) (pdev : String) : Prop where
  busy : ∀ clientId cls n, snap.busy.lookup (clientId, cls) = some n →
    clientId ∈ world.clients pdev ∧ n = world.busy pdev clientId cls
  total : ∀ cls n, snap.total.lookup cls = some n → n = world.total pdev cls ∧ n < u64Bound

def SnapshotsOf (world : World) (snaps : Snapshots) : Prop :=
  ∀ pdev snap, snaps.lookup pdev = some snap → snap.Of world pdev

section Numbers

theorem total_lt_of_line {fields : Fields} (small : ∀ total ∈ fields.total, total.2 < u64Bound)
    (line : List Char) : ∀ total ∈ (fields.line line).total, total.2 < u64Bound := by
  unfold Fields.line
  split
  · exact small
  · dsimp only
    split
    · exact small
    · split
      · exact small
      · split
        · exact small
        · split
          · split <;> exact small
          · split
            · rename_i read
              intro total member
              rcases List.mem_append.mp member with old | new
              · exact small total old
              · rw [List.mem_singleton.mp new]
                exact Words.parseUnsigned_lt read
            · exact small

theorem total_lt_of_parseEntry {text : String} {entry : Entry}
    (found : parseEntry text = some entry) : ∀ total ∈ entry.total, total.2 < u64Bound := by
  have small : ∀ total ∈ ((lines text.toList).foldl Fields.line Fields.none).total,
      total.2 < u64Bound :=
    List.foldlRecOn (motive := fun fields : Fields => ∀ total ∈ fields.total, total.2 < u64Bound)
      _ _ (fun _ member => by cases member) fun fields kept line _ => total_lt_of_line kept line
  unfold parseEntry at found
  dsimp only at found
  split at found
  · cases found
    exact small
  · cases found

end Numbers

section Moments

variable {world : World} {proc : Proc} {snap : PdevSnapshot} {snaps : Snapshots} {pdev : String}

theorem World.Before.refl (world : World) : world.Before world :=
  ⟨fun _ => Finset.Subset.refl _, fun _ _ _ => le_rfl, fun _ _ => le_rfl⟩

theorem World.Before.trans {first second third : World} (one : first.Before second)
    (two : second.Before third) : first.Before third :=
  ⟨fun pdev => (one.clients pdev).trans (two.clients pdev),
    fun pdev clientId cls => (one.busy pdev clientId cls).trans (two.busy pdev clientId cls),
    fun pdev cls => (one.total pdev cls).trans (two.total pdev cls)⟩

theorem empty_of : PdevSnapshot.empty.Of world pdev :=
  ⟨(fun _ _ _ found => by cases found), (fun _ _ found => by cases found)⟩

theorem PdevSnapshot.Of.insertBusy (of : snap.Of world pdev) {clientId : Nat}
    {busy : String × Nat} (known : clientId ∈ world.clients pdev)
    (same : busy.2 = world.busy pdev clientId busy.1) :
    (snap.insertBusy clientId busy).Of world pdev := by
  refine ⟨fun other cls n found => ?_, of.total⟩
  rw [PdevSnapshot.insertBusy, KeyMap.lookup_insert_eq] at found
  split at found
  · rename_i here
    cases here
    cases found
    exact ⟨known, same⟩
  · exact of.busy other cls n found

theorem PdevSnapshot.Of.insertTotal (of : snap.Of world pdev) {total : String × Nat}
    (same : total.2 = world.total pdev total.1) (small : total.2 < u64Bound) :
    (snap.insertTotal total).Of world pdev := by
  refine ⟨of.busy, fun cls n found => ?_⟩
  rw [PdevSnapshot.insertTotal, KeyMap.lookup_insert_eq] at found
  split at found
  · rename_i here
    subst here
    cases found
    have kept : max ((snap.total.lookup total.1).getD 0) total.2 = total.2 := by
      cases before : snap.total.lookup total.1 with
      | none => rw [Option.getD_none, Nat.zero_max]
      | some m => rw [Option.getD_some, (of.total _ _ before).1, same, Nat.max_self]
    rw [kept]
    exact ⟨same, small⟩
  · exact of.total cls n found

theorem PdevSnapshot.Of.add (of : snap.Of world pdev) {entry : Entry} (here : entry.pdev = pdev)
    (busy : ∀ busy ∈ entry.busy, entry.clientId ∈ world.clients entry.pdev ∧
      busy.2 = world.busy entry.pdev entry.clientId busy.1)
    (total : ∀ total ∈ entry.total, total.2 = world.total entry.pdev total.1)
    (small : ∀ total ∈ entry.total, total.2 < u64Bound) : (snap.add entry).Of world pdev := by
  subst here
  have with_busy : (entry.busy.foldl (fun snap busy => snap.insertBusy entry.clientId busy) snap).Of
      world entry.pdev :=
    List.foldlRecOn (motive := fun snap : PdevSnapshot => snap.Of world entry.pdev) entry.busy _ of
      fun before kept one member => kept.insertBusy (busy one member).1 (busy one member).2
  exact List.foldlRecOn (motive := fun snap : PdevSnapshot => snap.Of world entry.pdev) entry.total
    _ with_busy fun before kept one member =>
      kept.insertTotal (total one member) (small one member)

theorem snapshotsOf_readFdinfo (shows : world.Shows proc) {pid fd : Nat}
    {acc : Snapshots × List Nat} (of : SnapshotsOf world acc.1) :
    SnapshotsOf world (readFdinfo proc pid acc fd).1 := by
  unfold readFdinfo
  split
  · exact of
  · rename_i text read
    unfold parseIntoAny
    split
    · rename_i isXe snaps parsed
      split at parsed
      · rename_i entry found
        cases parsed
        obtain ⟨busy, total⟩ := shows pid fd text read entry found
        intro pdev snap stored
        rw [KeyMap.lookup_insert_eq] at stored
        split at stored
        · rename_i here
          subst here
          cases stored
          refine PdevSnapshot.Of.add ?_ rfl busy total (total_lt_of_parseEntry found)
          cases before : acc.1.lookup entry.pdev with
          | none => exact empty_of
          | some snap => exact of _ _ before
        · exact of pdev snap stored
      · cases parsed
        exact of

theorem snapshotsOf_readFds (shows : world.Shows proc) {pid : Nat} {fds : List Nat}
    {acc : Snapshots × DrmFdIndex} (of : SnapshotsOf world acc.1) :
    SnapshotsOf world (readFds proc pid fds acc).1 := by
  have read : SnapshotsOf world (fds.foldl (readFdinfo proc pid) (acc.1, [])).1 :=
    List.foldlRecOn (motive := fun acc : Snapshots × List Nat => SnapshotsOf world acc.1) fds _ of
      fun before kept fd _ => snapshotsOf_readFdinfo shows kept
  exact read

/-- Whatever the scan reads is of the moment of the scan. -/
theorem snapshotsOf_capture (shows : world.Shows proc) (pidIndex : Option DrmFdIndex) :
    SnapshotsOf world (captureAllFiltered proc pidIndex).1 := by
  have nothing : SnapshotsOf world ((∅, ∅) : Snapshots × DrmFdIndex).1 :=
    (fun _ _ found => by cases found)
  unfold captureAllFiltered
  split
  · exact List.foldlRecOn (motive := fun acc : Snapshots × DrmFdIndex => SnapshotsOf world acc.1)
      _ _ nothing fun before kept known _ => snapshotsOf_readFds shows kept
  · exact List.foldlRecOn (motive := fun acc : Snapshots × DrmFdIndex => SnapshotsOf world acc.1)
      _ _ nothing fun before kept pid _ => snapshotsOf_readFds shows kept

end Moments

end LinSight.Fdinfo
