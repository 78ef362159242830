import LinSight.Core.Time
import LinSight.Daemon.History

set_option autoImplicit false

/-! Pruning the history database, by the daemon's writer thread and by
`linsight-cli db prune`. A wall clock is its nanoseconds since the epoch, a monotonic
instant its nanoseconds. -/

namespace LinSight

open DebugText (Message debugStr)

/-- The kinds of the rows of `alert_events` by rule and time. -/
abbrev AlertEventTable := KeyMap (String × Int) String

structure HistoryDb where
  samples : HistoryTable
  alertEvents : AlertEventTable

section Tables

variable {Row : Type}

/-- `DELETE` of the rows with `ts < cutoff`, and how many they were. -/
def deleteBefore (table : KeyMap (String × Int) Row) (cutoff : Int) :
    KeyMap (String × Int) Row × Nat :=
  let kept := table.retain fun key _ => decide (cutoff ≤ key.2)
  (kept, table.entries.length - kept.entries.length)

end Tables

def pruneOlderThan (db : HistoryDb) (cutoffMicros : Nat) : HistoryDb × Nat :=
  let samples := deleteBefore db.samples (asI64 cutoffMicros)
  let events := deleteBefore db.alertEvents (asI64 cutoffMicros)
  (⟨samples.1, events.1⟩, samples.2 + events.2)

/-- `as_micros() as u64` of the time since the epoch; a clock before it reads zero. -/
def nowMicros (clock : Int) : Nat := asMicros clock.toNat % u64Bound

def pruneInterval : Nat := fromSecs 3600

/-- The database and `last_prune` after it. -/
def maybePrune (db : HistoryDb) (retention : Option Nat) (lastPrune now : Nat) (clock : Int) :
    HistoryDb × Nat :=
  match retention with
  | none => (db, lastPrune)
  | some retention =>
      if now - lastPrune < pruneInterval then (db, lastPrune)
      else
        let cutoff := nowMicros clock - asMicros retention % u64Bound
        ((pruneOlderThan db cutoff).1, now)

/-- `LINSIGHT_HISTORY_RETENTION`; no retention keeps the rows forever. -/
def retentionFromEnv (raw : Option String) : Option Nat :=
  let default_ := fromSecs (30 * 86400)
  match raw with
  | none => some default_
  | some s =>
      if trim s = "0" then none
      else match parseDurationDhm (trim s) with
        | some d => some d
        | none => some default_

def parseOlderThan (s : String) : Except Message Nat :=
  match parseDurationDhm s with
  | some d => .ok d
  | none => .error ("invalid duration " ++ debugStr (trim s) ++
      "; expected a positive integer with d/h/m suffix (e.g. 30d, 12h, 45m)")

/-- `linsight-cli db prune`: the database afterwards and the lines it prints; `db` is an
error where the database cannot be opened. -/
def prune (db : Except Message HistoryDb) (olderThan : String) (vacuum : Bool) (clock : Int) :
    Except Message (HistoryDb × List String) := do
  let db ← db
  let dur ← parseOlderThan olderThan
  let cutoffMicros := nowMicros clock - asMicros dur % u64Bound
  let samples := deleteBefore db.samples (asI64 cutoffMicros)
  let events := deleteBefore db.alertEvents (asI64 cutoffMicros)
  let removed := s!"removed {samples.2} sample rows and {events.2} alert-event rows older " ++
    s!"than {olderThan} (cutoff ts: {cutoffMicros})"
  return (⟨samples.1, events.1⟩, removed :: if vacuum then ["VACUUM complete"] else [])

/-- Every row has a timestamp below the sign bit. -/
structure HistoryDb.Stamped (db : HistoryDb) : Prop where
  samples : ∀ key ∈ db.samples, 0 ≤ key.2 ∧ key.2 < i64Bound
  alertEvents : ∀ key ∈ db.alertEvents, 0 ≤ key.2 ∧ key.2 < i64Bound

/-- Exactly the rows older than `start` are gone. -/
structure RemovesBefore (start : Int) (before after : HistoryDb) : Prop where
  samples : ∀ key row, after.samples.lookup key = some row ↔
    before.samples.lookup key = some row ∧ ¬ key.2 < start
  alertEvents : ∀ key kind, after.alertEvents.lookup key = some kind ↔
    before.alertEvents.lookup key = some kind ∧ ¬ key.2 < start

/-- The retention reaches back this far, counted over the integers. -/
def retentionStart (clock : Int) (d : Nat) : Int := max 0 (clock / 1000 - asMicros d)

/-- The clock and the retention wrap equally often and are not too far apart, or the
retention wraps more often and what the wraps leave of it still reaches back to the epoch. -/
def PruneFits (clock : Int) (d : Nat) : Prop :=
  let now := asMicros clock.toNat
  let age := asMicros d
  (now / u64Bound = age / u64Bound ∧ now - age < i64Bound) ∨
    (now / u64Bound < age / u64Bound ∧
      (now % u64Bound ≤ age % u64Bound ∨ i64Bound ≤ now % u64Bound - age % u64Bound))

section Cutoff

theorem retentionStart_eq (clock : Int) (d : Nat) :
    retentionStart clock d = ((asMicros clock.toNat - asMicros d : Nat) : Int) := by
  simp only [retentionStart, asMicros]
  omega

/-- Two cutoffs remove the same timestamps where neither sees a difference above zero. -/
theorem cutoffs_agree_iff {a b : Int} (small : a < i64Bound) :
    (∀ ts : Int, 0 ≤ ts → ts < i64Bound → (ts < a ↔ ts < b)) ↔ max 0 a = max 0 b := by
  constructor
  · intro agree
    have here := agree (min (max 0 a) (max 0 b))
    simp only [i64Bound] at small here
    omega
  · intro same ts low high
    omega

/-- The cutoff of the programs is the right one exactly where the casts fit. -/
theorem cutoff_eq_iff (clock : Int) (d : Nat) :
    max 0 (asI64 (nowMicros clock - asMicros d % u64Bound)) = max 0 (retentionStart clock d) ↔
      PruneFits clock d := by
  rw [retentionStart_eq]
  simp only [nowMicros, PruneFits]
  generalize asMicros clock.toNat = now
  generalize asMicros d = age
  have now_parts := Nat.div_add_mod now u64Bound
  have age_parts := Nat.div_add_mod age u64Bound
  have now_rest : now % u64Bound < u64Bound := Nat.mod_lt _ (by decide)
  have age_rest : age % u64Bound < u64Bound := Nat.mod_lt _ (by decide)
  generalize now / u64Bound = now_wraps at *
  generalize now % u64Bound = now_left at *
  generalize age / u64Bound = age_wraps at *
  generalize age % u64Bound = age_left at *
  simp only [asI64, i64Bound, u64Bound] at *
  split_ifs <;> omega

theorem asI64_lt (n : Nat) (small : n < u64Bound) : asI64 n < i64Bound := by
  simp only [asI64, i64Bound, u64Bound] at *
  split_ifs <;> omega

end Cutoff

section Delete

variable {Row : Type}

theorem lookup_deleteBefore (table : KeyMap (String × Int) Row) (cutoff : Int)
    (key : String × Int) (row : Row) :
    (deleteBefore table cutoff).1.lookup key = some row ↔
      table.lookup key = some row ∧ ¬ key.2 < cutoff := by
  simp only [deleteBefore, KeyMap.lookup_retain, Option.filter_eq_some_iff, decide_eq_true_eq,
    not_lt]

/-- Where the cutoff treats every timestamp right, it removes the right rows. -/
theorem deleteBefore_iff {table : KeyMap (String × Int) Row} {cutoff start : Int}
    (agree : ∀ ts : Int, 0 ≤ ts → ts < i64Bound → (ts < cutoff ↔ ts < start))
    (stamped : ∀ key ∈ table, 0 ≤ key.2 ∧ key.2 < i64Bound) (key : String × Int) (row : Row) :
    (deleteBefore table cutoff).1.lookup key = some row ↔
      table.lookup key = some row ∧ ¬ key.2 < start := by
  rw [lookup_deleteBefore]
  apply and_congr_right
  intro stored
  have range := stamped key (KeyMap.mem_of_lookup stored)
  rw [agree key.2 range.1 range.2]

end Delete

section Exact

/-- The database of one sample. -/
def oneRow (ts : Int) : HistoryDb where
  samples := (∅ : HistoryTable).insert ("cpu.util", ts) ⟨none, none, none⟩
  alertEvents := ∅

theorem oneRow_stamped {ts : Int} (low : 0 ≤ ts) (high : ts < i64Bound) : (oneRow ts).Stamped where
  samples := by
    intro key member
    simp only [oneRow, AList.mem_insert, AList.notMem_empty, or_false] at member
    subst member
    exact ⟨low, high⟩
  alertEvents := fun key member => absurd member (AList.notMem_empty key)

/-- A cutoff is right for every database exactly where it agrees with the start of the
retention above zero. -/
theorem pruneOlderThan_exact_iff {cutoff : Nat} (small : cutoff < u64Bound) (start : Int) :
    (∀ db : HistoryDb, db.Stamped → RemovesBefore start db (pruneOlderThan db cutoff).1) ↔
      max 0 (asI64 cutoff) = max 0 start := by
  rw [← cutoffs_agree_iff (asI64_lt cutoff small)]
  constructor
  · intro exact_ ts low high
    have removed := (exact_ (oneRow ts) (oneRow_stamped low high)).samples
      ("cpu.util", ts) ⟨none, none, none⟩
    have stored : (oneRow ts).samples.lookup ("cpu.util", ts) = some ⟨none, none, none⟩ :=
      AList.lookup_insert _
    simp only [pruneOlderThan, lookup_deleteBefore, stored, true_and] at removed
    exact not_iff_not.mp removed
  · intro agree db stamped
    constructor
    · exact deleteBefore_iff agree stamped.samples
    · exact deleteBefore_iff agree stamped.alertEvents

theorem prune_ok {text : String} {d : Nat} (accepted : parseDurationDhm text = some d)
    (db : HistoryDb) (vacuum : Bool) (clock : Int) :
    ∃ lines, prune (.ok db) text vacuum clock =
      .ok ((pruneOlderThan db (nowMicros clock - asMicros d % u64Bound)).1, lines) := by
  have parsed : parseOlderThan text = .ok d := by
    delta parseOlderThan
    rw [accepted]
  simp only [prune, parsed, bind, Except.bind, pure, Except.pure, pruneOlderThan]
  exact ⟨_, rfl⟩

theorem retentionFromEnv_accepted {text : String} {d : Nat}
    (accepted : parseDurationDhm text = some d) : retentionFromEnv (some text) = some d := by
  have not_sentinel : trim text ≠ "0" := by
    intro sentinel
    have parsed : parseDurationDhm "0" = some d := by
      rw [← sentinel, parseDurationDhm_trim]
      exact accepted
    have rejected : parseDurationDhm "0" = none := by decide +kernel
    rw [rejected] at parsed
    cases parsed
  simp only [retentionFromEnv, not_sentinel, if_false, parseDurationDhm_trim, accepted]

theorem maybePrune_due {lastPrune now : Nat} (due : pruneInterval ≤ now - lastPrune)
    (db : HistoryDb) (d : Nat) (clock : Int) :
    maybePrune db (some d) lastPrune now clock =
      ((pruneOlderThan db (nowMicros clock - asMicros d % u64Bound)).1, now) := by
  have waited : ¬ now - lastPrune < pruneInterval := by omega
  simp only [maybePrune, waited, if_false]

/-- The daemon and `db prune` remove what an accepted retention allows exactly where the
casts fit; a retention of zero removes nothing. -/
theorem prune_exact_iff {text : String} {d : Nat} (accepted : parseDurationDhm text = some d)
    (clock : Int) :
    ((∀ (db : HistoryDb) (lastPrune now : Nat), db.Stamped → pruneInterval ≤ now - lastPrune →
        RemovesBefore (retentionStart clock d) db
          (maybePrune db (retentionFromEnv (some text)) lastPrune now clock).1) ↔
      PruneFits clock d) ∧
    ((∀ (db : HistoryDb) (vacuum : Bool), db.Stamped → ∃ pruned lines,
        prune (.ok db) text vacuum clock = .ok (pruned, lines) ∧
          RemovesBefore (retentionStart clock d) db pruned) ↔
      PruneFits clock d) ∧
    ∀ (sentinel : String) (db : HistoryDb) (lastPrune now : Nat), trim sentinel = "0" →
      maybePrune db (retentionFromEnv (some sentinel)) lastPrune now clock = (db, lastPrune) := by
  have small : nowMicros clock - asMicros d % u64Bound < u64Bound := by
    have reduced : nowMicros clock < u64Bound := Nat.mod_lt _ (by decide)
    omega
  have exact_iff := (pruneOlderThan_exact_iff small (retentionStart clock d)).trans
    (cutoff_eq_iff clock d)
  refine ⟨?daemon, ?command, ?forever⟩
  case daemon =>
    rw [← exact_iff, retentionFromEnv_accepted accepted]
    constructor
    · intro removes db stamped
      have due : pruneInterval ≤ pruneInterval - 0 := Nat.le_refl _
      have here := removes db 0 pruneInterval stamped due
      rw [maybePrune_due due] at here
      exact here
    · intro removes db lastPrune now stamped due
      rw [maybePrune_due due]
      exact removes db stamped
  case command =>
    rw [← exact_iff]
    constructor
    · intro removes db stamped
      obtain ⟨pruned, lines, ran, here⟩ := removes db false stamped
      obtain ⟨lines', same⟩ := prune_ok accepted db false clock
      rw [same, Except.ok.injEq, Prod.mk.injEq] at ran
      rw [ran.1]
      exact here
    · intro removes db vacuum stamped
      obtain ⟨lines, ran⟩ := prune_ok accepted db vacuum clock
      exact ⟨_, lines, ran, removes db stamped⟩
  case forever =>
    intro sentinel db lastPrune now zero
    simp only [retentionFromEnv, zero, if_true, maybePrune]

theorem prune_exact_month :
    (∀ (db : HistoryDb) (lastPrune now : Nat), db.Stamped → pruneInterval ≤ now - lastPrune →
      RemovesBefore (retentionStart 1780000000000000000 (fromSecs 2592000)) db
        (maybePrune db (retentionFromEnv (some "30d")) lastPrune now 1780000000000000000).1) ∧
    ∀ (db : HistoryDb) (vacuum : Bool), db.Stamped → ∃ pruned lines,
      prune (.ok db) "30d" vacuum 1780000000000000000 = .ok (pruned, lines) ∧
        RemovesBefore (retentionStart 1780000000000000000 (fromSecs 2592000)) db pruned := by
  have accepted : parseDurationDhm "30d" = some (fromSecs 2592000) := by decide +kernel
  have fits : PruneFits 1780000000000000000 (fromSecs 2592000) := by
    unfold PruneFits
    decide +kernel
  have exact_iff := prune_exact_iff accepted 1780000000000000000
  exact ⟨exact_iff.1.mpr fits, exact_iff.2.1.mpr fits⟩

/-- A retention of half a million years deletes a sample of the last minute. -/
theorem long_retention_deletes :
    parseDurationDhm "307445734562m" = some (fromSecs 18446744073720) ∧
    (oneRow 1779999940000000).Stamped ∧
    (oneRow 1779999940000000).samples.lookup ("cpu.util", 1779999940000000) =
      some ⟨none, none, none⟩ ∧
    ¬ (1779999940000000 < retentionStart 1780000000000000000 (fromSecs 18446744073720)) ∧
    (maybePrune (oneRow 1779999940000000) (retentionFromEnv (some "307445734562m")) 0
      pruneInterval 1780000000000000000).1.samples.lookup ("cpu.util", 1779999940000000) = none ∧
    (prune (.ok (oneRow 1779999940000000)) "307445734562m" false 1780000000000000000).toOption.map
      (fun pruned => pruned.1.samples.lookup ("cpu.util", 1779999940000000)) = some none := by
  have stamped : (oneRow 1779999940000000).Stamped := oneRow_stamped (by decide) (by decide)
  exact ⟨by decide +kernel, stamped, by decide +kernel, by decide +kernel, by decide +kernel,
    by decide +kernel⟩

end Exact

end LinSight
