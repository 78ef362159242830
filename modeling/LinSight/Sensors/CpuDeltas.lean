import LinSight.Library.Rounding
import LinSight.Sensors.Cgroups

set_option autoImplicit false

/-! What the CPU deltas of both tables say about the time between two samples. -/

namespace LinSight.Cgroups

open Ieee (binary64)
open Words (Numeral lines)

/-- The two table sensors. -/
inductive Table where
  | containersList
  | systemdUnits

namespace Table

def sensor : Table → SensorId
  | containersList => ⟨"containers.list"⟩
  | systemdUnits => ⟨"systemd.units"⟩

def sampleInner : Table → Inner → SensorId → CgroupRoot → Except PluginError Reading × Inner
  | containersList => Containers.sampleInner
  | systemdUnits => Systemd.sampleInner

/-- The entries that get a row; `none` where the table is empty and the counters are kept. -/
def polled : Table → CgroupRoot → Option (List Polled)
  | containersList, root =>
      some ((Containers.enumerateContainers root maxEntries).map Containers.ContainerEntry.polled)
  | systemdUnits, root =>
      if !root.systemSlice.isDir then none
      else some ((Systemd.enumerateUnits root.systemSlice maxEntries).map Systemd.UnitEntry.polled)

def slices : Table → CgroupRoot → List SliceDir
  | containersList, root => [root.systemSlice, root.machineSlice]
  | systemdUnits, root => [root.systemSlice]

/-- The entry stands in a slice of the table. -/
def Lists (table : Table) (root : CgroupRoot) (entry : DirEntry) : Prop :=
  ∃ slice ∈ table.slices root, ∃ entries, slice.entries = some entries ∧ entry ∈ entries

theorem sampleInner_eq (table : Table) (inner : Inner) (root : CgroupRoot) :
    table.sampleInner inner table.sensor root =
      match table.polled root with
      | none => (.ok (.table []), inner)
      | some ps => (.ok (.table (sortRows (ps.map (Polled.row inner.prevCpu)))),
          ⟨(pollEntries inner.prevCpu ps).2⟩) := by
  cases table with
  | containersList =>
      simp only [sampleInner, Containers.sampleInner, sensor, polled, ne_eq, not_true_eq_false,
        if_false, pollEntries_eq]
  | systemdUnits =>
      simp only [sampleInner, Systemd.sampleInner, sensor, polled, ne_eq, not_true_eq_false,
        if_false]
      split
      · rfl
      · simp only [pollEntries_eq]

/-- A row is of a listed entry, and its counter is kept under the entry's name. -/
theorem of_mem_polled {table : Table} {root : CgroupRoot} {ps : List Polled} {p : Polled}
    (found : table.polled root = some ps) (member : p ∈ ps) :
    p.key = p.entry.name ∧ table.Lists root p.entry := by
  cases table with
  | containersList =>
      cases found
      obtain ⟨c, inside, rfl⟩ := List.mem_map.mp member
      exact Containers.of_mem_enumerateContainers inside
  | systemdUnits =>
      simp only [polled] at found
      split at found
      · cases found
      · cases found
        obtain ⟨unit, inside, rfl⟩ := List.mem_map.mp member
        obtain ⟨named, listed⟩ := Systemd.of_mem_enumerateUnits inside
        exact ⟨named, _, List.mem_cons_self, listed⟩

end Table

/-- A sample finds the cgroup tree, and what each living cgroup has used by then. -/
structure Moment where
  root : CgroupRoot
  used : Nat → Option Nat

/-- What a cgroup used between two samples, or since its creation where the first did not see it
alive. -/
def Moment.spent (before now : Moment) (cgroup : Nat) : Nat :=
  (now.used cgroup).getD 0 - (before.used cgroup).getD 0

namespace Table

variable (table : Table)

/-- The plugin after the samples. -/
def run (samples : List Moment) : Inner :=
  samples.foldl (fun inner m => (table.sampleInner inner table.sensor m.root).2) ⟨∅⟩

end Table

/-- The `cpu.stat` that the kernel writes for a counter. -/
def KernelStat (text : String) (n : Nat) : Prop :=
  ∃ (digits : Numeral) (rest : List Char), digits.value = n ∧
    text.toList = (usageUsec ++ digits.chars) ++ '\n' :: rest

/-- Cgroups that come and go: a cgroup keeps its name, a file that is read shows the counter, no
counter leaves 64 bits or decreases while its cgroup lives, and without a slice there is no cgroup
in it. -/
structure Honest (table : Table) (naming : Nat → String) (samples : List Moment) : Prop where
  small : ∀ m ∈ samples, ∀ cgroup n, m.used cgroup = some n → n < u64Bound
  names : ∀ m ∈ samples, ∀ entry, table.Lists m.root entry → entry.name = naming entry.cgroup
  shows : ∀ m ∈ samples, ∀ entry, table.Lists m.root entry → ∀ text, entry.cpuStat = some text →
    ∃ n, m.used entry.cgroup = some n ∧ KernelStat text n
  grows : samples.Pairwise fun one two => ∀ cgroup a b,
    one.used cgroup = some a → two.used cgroup = some b → a ≤ b
  inside : ∀ one ∈ samples, ∀ two ∈ samples, table.polled one.root = none →
    ∀ entry, table.Lists two.root entry → one.used entry.cgroup = none

/-- The table has a row for each polled entry, with a delta that is no more than what its cgroup
spent in the window. -/
def Windowed (table : Table) (inner : Inner) (before now : Moment) : Prop :=
  ∀ ps, table.polled now.root = some ps →
    (∃ rows, (table.sampleInner inner table.sensor now.root).1 = .ok (.table rows) ∧
      rows.Perm (ps.map (Polled.row inner.prevCpu))) ∧
    ∀ p ∈ ps, p.delta inner.prevCpu ≤ before.spent now p.entry.cgroup ∧
      (binary64.round (p.delta inner.prevCpu)).le
        (binary64.round (before.spent now p.entry.cgroup : Nat)) = true

/-- No counter is known, or for each counter that the sample reads the one of the previous sample
is. -/
def Remembered (table : Table) (inner : Inner) (before now : Moment) : Prop :=
  inner.prevCpu.keys.isEmpty = true ∨
    ∀ ps, table.polled now.root = some ps → ∀ p ∈ ps, (readCpuUsage p.entry).isSome = true →
      ∀ u, before.used p.entry.cgroup = some u → u ≤ (inner.prevCpu.lookup p.key).getD 0

/-- At the previous sample the cgroup of a counter that is read now had used nothing, or was among
the polled entries, with a file that could be read. -/
def Seen (table : Table) (inner : Inner) (before now : Moment) : Prop :=
  inner.prevCpu.keys.isEmpty = true ∨
    ∀ ps, table.polled now.root = some ps → ∀ p ∈ ps, (readCpuUsage p.entry).isSome = true →
      ∀ u, before.used p.entry.cgroup = some u → u = 0 ∨ ∃ qs, table.polled before.root = some qs ∧
        ∃ q ∈ qs, q.entry.cgroup = p.entry.cgroup ∧ (readCpuUsage q.entry).isSome = true

/-- No name stands for two cgroups. -/
structure Distinct (table : Table) (naming : Nat → String) (m : Moment) : Prop where
  polled : ∀ ps, table.polled m.root = some ps → (ps.map Polled.key).Nodup
  living : ∀ c c', (m.used c).isSome = true → (m.used c').isSome = true → naming c = naming c' →
    c = c'

section Window

variable {table : Table} {naming : Nat → String} {samples front rest : List Moment}
  {m before now : Moment} {inner : Inner} {p : Polled} {ps : List Polled}

theorem readCpuUsage_kernel {entry : DirEntry} {text : String} {n : Nat}
    (content : entry.cpuStat = some text) (stat : KernelStat text n) (small : n < u64Bound) :
    readCpuUsage entry = some n := by
  obtain ⟨digits, rest, rfl, layout⟩ := stat
  have plain : '\n' ∉ usageUsec := by simp [usageUsec]
  have broken : '\n' ∉ usageUsec ++ digits.chars := by
    intro member
    rcases List.mem_append.mp member with word | digit
    · exact plain word
    · exact absurd (digits.digits _ digit) (by decide)
  have ends : (usageUsec ++ digits.chars).getLast? ≠ some '\r' := by
    rw [List.getLast?_append_of_ne_nil _ digits.nonempty]
    intro last
    exact absurd (digits.digits _ (List.mem_of_getLast? last)) (by decide)
  have trimmed : Words.trim isWhitespace digits.chars = digits.chars :=
    Words.trim_plain fun c member => isWhitespace_of_isDigit (digits.digits c member)
  rw [readCpuUsage, content, Option.bind_some, layout, Words.lines_append broken ends, usageIn,
    Words.stripPrefix_append]
  dsimp only
  rw [trimmed, digits.parse small]

/-- A counter that is read is the one of the moment. -/
theorem Honest.read (honest : Honest table naming samples) (member : m ∈ samples)
    {entry : DirEntry} (listed : table.Lists m.root entry) {n : Nat}
    (read : readCpuUsage entry = some n) : m.used entry.cgroup = some n := by
  obtain ⟨text, content, _⟩ := Option.bind_eq_some_iff.mp read
  obtain ⟨n', used, stat⟩ := honest.shows m member entry listed text content
  have same := readCpuUsage_kernel content stat (honest.small m member _ _ used)
  rw [read, Option.some.injEq] at same
  exact same ▸ used

theorem Honest.spent_lt (honest : Honest table naming samples) (member : now ∈ samples)
    (cgroup : Nat) : before.spent now cgroup < 2 ^ 64 := by
  unfold Moment.spent
  cases used : now.used cgroup with
  | none =>
      rw [Option.getD_none, Nat.zero_sub]
      decide
  | some n =>
      have small : n < 2 ^ 64 := honest.small now member cgroup n used
      rw [Option.getD_some]
      omega

/-- What a sample keeps. -/
theorem run_append (samples : List Moment) (m : Moment) :
    table.run (samples ++ [m]) = match table.polled m.root with
      | none => table.run samples
      | some ps => ⟨(pollEntries (table.run samples).prevCpu ps).2⟩ := by
  unfold Table.run
  rw [List.foldl_append, List.foldl_cons, List.foldl_nil, Table.sampleInner_eq]
  split <;> rfl

/-- One entry: its delta is in the window exactly where its previous counter is known. -/
theorem delta_le_iff (known : inner.prevCpu.keys.isEmpty = false) {n : Nat}
    (read : readCpuUsage p.entry = some n) (used : now.used p.entry.cgroup = some n)
    (grows : ∀ a b, before.used p.entry.cgroup = some a →
      now.used p.entry.cgroup = some b → a ≤ b) :
    p.delta inner.prevCpu ≤ before.spent now p.entry.cgroup ↔
      ∀ u, before.used p.entry.cgroup = some u → u ≤ (inner.prevCpu.lookup p.key).getD 0 := by
  have delta : p.delta inner.prevCpu = n - (inner.prevCpu.lookup p.key).getD 0 := by
    rw [Polled.delta, known, if_neg Bool.false_ne_true, Polled.cpu, read, Option.getD_some]
  rw [delta, Moment.spent, used, Option.getD_some]
  cases earlier : before.used p.entry.cgroup with
  | none =>
      rw [Option.getD_none]
      exact iff_of_true (by omega) (fun u found => by cases found)
  | some a =>
      have order := grows a n earlier used
      rw [Option.getD_some]
      constructor
      · intro within u same
        cases same
        omega
      · intro kept
        have bound := kept a rfl
        omega

theorem delta_unread (unread : readCpuUsage p.entry = none) : p.delta inner.prevCpu = 0 := by
  rw [Polled.delta, Polled.cpu, unread, Option.getD_none, Nat.zero_sub, ite_self]

theorem delta_unknown (unknown : inner.prevCpu.keys.isEmpty = true) :
    p.delta inner.prevCpu = 0 := by
  rw [Polled.delta, if_pos unknown]

/-- The deltas of a sample are in the window exactly where the previous counters are known. -/
theorem windowed_iff (honest : Honest table naming samples) (member : now ∈ samples)
    (grows : ∀ cgroup a b, before.used cgroup = some a → now.used cgroup = some b → a ≤ b) :
    Windowed table inner before now ↔ Remembered table inner before now := by
  have exactly {ps : List Polled} {p : Polled} (found : table.polled now.root = some ps)
      (inside : p ∈ ps) (known : inner.prevCpu.keys.isEmpty = false) {n : Nat}
      (read : readCpuUsage p.entry = some n) :=
    delta_le_iff known read
      (honest.read member (Table.of_mem_polled found inside).2 read) (grows p.entry.cgroup)
  constructor
  · intro windowed
    cases known : inner.prevCpu.keys.isEmpty with
    | true => exact .inl known
    | false =>
        refine .inr fun ps found p inside readable => ?_
        obtain ⟨n, read⟩ := Option.isSome_iff_exists.mp readable
        exact (exactly found inside known read).mp ((windowed ps found).2 p inside).1
  · intro remembered ps found
    refine ⟨⟨_, ?_, sortRows_perm _⟩, fun p inside => ?_⟩
    · rw [Table.sampleInner_eq, found]
    · have within : p.delta inner.prevCpu ≤ before.spent now p.entry.cgroup := by
        cases read : readCpuUsage p.entry with
        | none =>
            rw [delta_unread read]
            exact Nat.zero_le _
        | some n =>
            cases known : inner.prevCpu.keys.isEmpty with
            | true =>
                rw [delta_unknown known]
                exact Nat.zero_le _
            | false =>
                rcases remembered with unknown | kept
                · rw [known] at unknown
                  cases unknown
                · exact (exactly found inside known read).mpr
                    (kept ps found p inside (by rw [read]; rfl))
      exact ⟨within, Ieee.round_count_le within (honest.spent_lt member _)⟩

/-- What a sample keeps of a cgroup is what it read of it. -/
theorem remembered_iff (honest : Honest table naming samples)
    (whole : samples = front ++ before :: now :: rest) (distinct : Distinct table naming before) :
    Remembered table (table.run (front ++ [before])) before now ↔
      Seen table (table.run (front ++ [before])) before now := by
  have earlier : before ∈ samples := whole ▸ List.mem_append_right _ List.mem_cons_self
  have later : now ∈ samples :=
    whole ▸ List.mem_append_right _ (List.mem_cons_of_mem _ List.mem_cons_self)
  refine or_congr_right ?_
  refine forall₄_congr fun ps found p inside => ?_
  refine forall₃_congr fun readable u used => ?_
  obtain ⟨named, listed⟩ := Table.of_mem_polled found inside
  cases slices : table.polled before.root with
  | none =>
      have gone := honest.inside before earlier now later slices p.entry listed
      rw [used] at gone
      cases gone
  | some qs =>
      have stored : (table.run (front ++ [before])).prevCpu =
          (pollEntries (table.run front).prevCpu qs).2 := by
        rw [run_append, slices]
      have lookup := @lookup_pollEntries (table.run front).prevCpu qs (distinct.polled qs slices)
      rw [stored]
      constructor
      · intro kept
        rcases Nat.eq_zero_or_pos u with zero | positive
        · exact .inl zero
        · refine .inr ⟨qs, rfl, ?_⟩
          cases known : (pollEntries (table.run front).prevCpu qs).2.lookup p.key with
          | none =>
              rw [known, Option.getD_none] at kept
              omega
          | some n =>
              rw [known, Option.getD_some] at kept
              obtain ⟨q, polled, same, cpu⟩ := (lookup p.key n).mp known
              obtain ⟨named', listed'⟩ := Table.of_mem_polled slices polled
              cases read : readCpuUsage q.entry with
              | none =>
                  rw [Polled.cpu, read, Option.getD_none] at cpu
                  omega
              | some n' =>
                  refine ⟨q, polled, distinct.living _ _ ?_ ?_ ?_, read ▸ rfl⟩
                  · rw [honest.read earlier listed' read]
                    rfl
                  · rw [used]
                    rfl
                  · rw [← honest.names before earlier _ listed', ← honest.names now later _ listed,
                      ← named', ← named, same]
      · rintro (rfl | ⟨_, whole, q, polled, same, readable'⟩)
        · exact Nat.zero_le _
        · cases whole
          obtain ⟨n, read⟩ := Option.isSome_iff_exists.mp readable'
          obtain ⟨named', listed'⟩ := Table.of_mem_polled slices polled
          have counter := honest.read earlier listed' read
          rw [same, used, Option.some.injEq] at counter
          have key : q.key = p.key := by
            rw [named', named, honest.names before earlier _ listed',
              honest.names now later _ listed, same]
          have found' := (lookup p.key q.cpu).mpr ⟨q, polled, key, rfl⟩
          rw [found', Option.getD_some, Polled.cpu, read, Option.getD_some, counter]

end Window

/-- Exactly when the deltas of a table are of the window, in every run and for every two samples
in a row. The first sample reports 0. -/
theorem cpu_delta_windowed_iff (table : Table) (naming : Nat → String) (samples : List Moment)
    (honest : Honest table naming samples) :
    (∀ p : Polled, p.delta (table.run []).prevCpu = 0) ∧
    ∀ front before now rest, samples = front ++ before :: now :: rest →
      (Windowed table (table.run (front ++ [before])) before now ↔
        Remembered table (table.run (front ++ [before])) before now) ∧
      (Distinct table naming before →
        (Windowed table (table.run (front ++ [before])) before now ↔
          Seen table (table.run (front ++ [before])) before now)) := by
  refine ⟨fun p => delta_unknown rfl, fun front before now rest whole => ?_⟩
  have grows : ∀ cgroup a b, before.used cgroup = some a → now.used cgroup = some b → a ≤ b := by
    have order := honest.grows
    rw [whole, List.pairwise_append] at order
    exact List.rel_of_pairwise_cons order.2.1 List.mem_cons_self
  have later : now ∈ samples :=
    whole ▸ List.mem_append_right _ (List.mem_cons_of_mem _ List.mem_cons_self)
  have exactly := @windowed_iff table naming samples before now (table.run (front ++ [before]))
    honest later grows
  exact ⟨exactly, fun distinct => exactly.trans (remembered_iff honest whole distinct)⟩

/-- Two names of one slice. -/
def names : Table → String × String
  | .containersList => ("docker-a.scope", "docker-b.scope")
  | .systemdUnits => ("a.service", "b.service")

def naming (table : Table) (cgroup : Nat) : String :=
  if cgroup = 0 then (names table).1 else (names table).2

/-- A slice with two cgroups, which used 10 and 500 microseconds long ago; the counter of the
second one may not be readable. -/
def idle (table : Table) (second : Option String) : Moment where
  root := ⟨⟨true, some [⟨(names table).1, true, some "usage_usec 10\n", none, none, none, 0⟩,
    ⟨(names table).2, true, second, none, none, none, 1⟩]⟩, ⟨false, none⟩⟩
  used cgroup := if cgroup = 0 then some 10 else if cgroup = 1 then some 500 else none

def idleTwice (table : Table) (second : Option String) : List Moment :=
  [idle table second, idle table (some "usage_usec 500\n")]

theorem of_lists_idle {table : Table} {second : Option String} {entry : DirEntry}
    (listed : table.Lists (idle table second).root entry) :
    entry = ⟨(names table).1, true, some "usage_usec 10\n", none, none, none, 0⟩ ∨
      entry = ⟨(names table).2, true, second, none, none, none, 1⟩ := by
  obtain ⟨slice, inside, entries, found, member⟩ := listed
  have system : entries = [⟨(names table).1, true, some "usage_usec 10\n", none, none, none, 0⟩,
      ⟨(names table).2, true, second, none, none, none, 1⟩] := by
    cases table with
    | containersList =>
        rcases List.mem_cons.mp inside with rfl | machine
        · exact (Option.some.inj found).symm
        · rw [List.mem_singleton.mp machine] at found
          cases found
    | systemdUnits =>
        rw [List.mem_singleton.mp inside] at found
        exact (Option.some.inj found).symm
  rw [system] at member
  simpa only [List.mem_cons, List.not_mem_nil, or_false] using member

theorem idleTwice_honest (table : Table) {second : Option String}
    (kernel : ∀ text, second = some text → text = "usage_usec 500\n") :
    Honest table (naming table) (idleTwice table second) := by
  have moments : ∀ m ∈ idleTwice table second, ∃ second', m = idle table second' ∧
      ∀ text, second' = some text → text = "usage_usec 500\n" := by
    intro m member
    rcases List.mem_cons.mp member with rfl | later
    · exact ⟨second, rfl, kernel⟩
    · rw [List.mem_singleton.mp later]
      exact ⟨_, rfl, fun text same => (Option.some.inj same).symm⟩
  constructor
  · intro m member cgroup n used
    obtain ⟨_, rfl, _⟩ := moments m member
    simp only [idle] at used
    split at used
    · cases used
      decide
    · split at used
      · cases used
        decide
      · cases used
  · intro m member entry listed
    obtain ⟨_, rfl, _⟩ := moments m member
    rcases of_lists_idle listed with rfl | rfl <;> rfl
  · intro m member entry listed text content
    obtain ⟨_, rfl, kernel'⟩ := moments m member
    rcases of_lists_idle listed with rfl | rfl
    · cases content
      exact ⟨10, rfl, ⟨['1', '0'], List.cons_ne_nil _ _, by simp⟩, [], rfl, by decide +kernel⟩
    · rw [kernel' text content]
      exact ⟨500, rfl, ⟨['5', '0', '0'], List.cons_ne_nil _ _, by simp⟩, [], rfl,
        by decide +kernel⟩
  · refine List.pairwise_pair.mpr fun cgroup a b first last => ?_
    have same : some a = some b := first.symm.trans last
    exact (Option.some.inj same).le
  · intro one member two _ nothing
    obtain ⟨_, rfl, _⟩ := moments one member
    cases table <;> cases nothing

theorem idle_remembered (table : Table) :
    Remembered table (table.run [idle table (some "usage_usec 500\n")])
      (idle table (some "usage_usec 500\n")) (idle table (some "usage_usec 500\n")) := by
  have known :
      (table.run [idle table (some "usage_usec 500\n")]).prevCpu.lookup (names table).1 = some 10 ∧
      (table.run [idle table (some "usage_usec 500\n")]).prevCpu.lookup (names table).2 =
        some 500 := by
    cases table <;> decide +kernel
  refine .inr fun ps found p inside _ u used => ?_
  obtain ⟨named, listed⟩ := Table.of_mem_polled found inside
  rw [named]
  rcases of_lists_idle listed with entry | entry
  · rw [entry] at used ⊢
    cases used
    rw [known.1, Option.getD_some]
  · rw [entry] at used ⊢
    cases used
    rw [known.2, Option.getD_some]

/-- Both counters are read twice. -/
theorem cpu_delta_windowed_read :
    Windowed .containersList
        (Table.containersList.run [idle .containersList (some "usage_usec 500\n")])
        (idle .containersList (some "usage_usec 500\n"))
        (idle .containersList (some "usage_usec 500\n")) ∧
      Windowed .systemdUnits
        (Table.systemdUnits.run [idle .systemdUnits (some "usage_usec 500\n")])
        (idle .systemdUnits (some "usage_usec 500\n"))
        (idle .systemdUnits (some "usage_usec 500\n")) := by
  have kernel : ∀ text, some "usage_usec 500\n" = some text → text = "usage_usec 500\n" :=
    fun text same => (Option.some.inj same).symm
  constructor
  · exact (((cpu_delta_windowed_iff .containersList _ _ (idleTwice_honest _ kernel)).2 [] _ _ []
      rfl).1).mpr (idle_remembered _)
  · exact (((cpu_delta_windowed_iff .systemdUnits _ _ (idleTwice_honest _ kernel)).2 [] _ _ []
      rfl).1).mpr (idle_remembered _)

/-- The counter of the second cgroup cannot be read once; the next sample reports all of it. -/
theorem idle_credited (table : Table) :
    Honest table (naming table) (idleTwice table none) ∧
    ¬ Windowed table (table.run [idle table none]) (idle table none)
      (idle table (some "usage_usec 500\n")) := by
  refine ⟨idleTwice_honest table (fun text same => by cases same), fun windowed => ?_⟩
  have credited : ∃ ps, table.polled (idle table (some "usage_usec 500\n")).root = some ps ∧
      ∃ p ∈ ps, p.delta (table.run [idle table none]).prevCpu = 500 ∧ p.entry.cgroup = 1 := by
    cases table with
    | containersList =>
        refine ⟨_, rfl, ⟨"docker-b.scope", [.text "b", .text "docker"], ⟨"docker-b.scope", true,
          some "usage_usec 500\n", none, none, none, 1⟩⟩, ?_, ?_, rfl⟩ <;> decide +kernel
    | systemdUnits =>
        refine ⟨_, rfl, ⟨"b.service", [.text "b.service", .text "inactive"], ⟨"b.service", true,
          some "usage_usec 500\n", none, none, none, 1⟩⟩, ?_, ?_, rfl⟩ <;> decide +kernel
  obtain ⟨ps, polled, p, inside, delta, cgroup⟩ := credited
  have within := ((windowed ps polled).2 p inside).1
  have still : (idle table none).spent (idle table (some "usage_usec 500\n")) 1 = 0 :=
    Nat.sub_self 500
  rw [delta, cgroup, still] at within
  exact absurd within (by decide)

theorem cpu_delta_lifetime :
    (Honest .containersList (naming .containersList) (idleTwice .containersList none) ∧
      ¬ Windowed .containersList (Table.containersList.run [idle .containersList none])
        (idle .containersList none) (idle .containersList (some "usage_usec 500\n"))) ∧
    Honest .systemdUnits (naming .systemdUnits) (idleTwice .systemdUnits none) ∧
      ¬ Windowed .systemdUnits (Table.systemdUnits.run [idle .systemdUnits none])
        (idle .systemdUnits none) (idle .systemdUnits (some "usage_usec 500\n")) :=
  ⟨idle_credited .containersList, idle_credited .systemdUnits⟩

end LinSight.Cgroups
