import LinSight.Library.Fallible
import LinSight.Library.KeyMap
import LinSight.Library.Rounding
import LinSight.Library.Utf8
import LinSight.Plugin.Mirror
import LinSight.Sensors.ProcStat

set_option autoImplicit false

/-! The process plugin: what it reads of `/proc`, and the table that a sample makes of it. -/

namespace LinSight.ProcList

open Ieee (Value binary64)
open ProcStat (u32Bound)
open Words (words lines stripPrefix rsplitOnce parseUnsigned Numeral)

/-- How a call ends that returns no value. -/
inductive Stop where
  | panicked
  | failed (e : PluginError)
deriving DecidableEq

/-- The directories and the files by their paths; an entry that cannot be read is `none`. -/
structure Host where
  readDir : String → Option (List (Option (List UInt8)))
  read : String → Except String (List UInt8)

/-- A pid with its jiffies and those of the whole system at that time. -/
structure CpuSnapshot where
  byPid : KeyMap Nat (Nat × Nat)

structure Inner where
  sysroot : Option String
  prev : Option CpuSnapshot
  prevTotalJiffies : Nat
  numCpus : UInt32

structure ProcessInfo where
  pid : Nat
  comm : String
  cpuPct : Value
  memPct : Value
  rssBytes : Nat
  threads : Nat
  state : String
  cpuJiffies : Nat

def maxPidsPerSample : Nat := 4096

/-- `Path::join` with a path that is not absolute. -/
def join (base path : String) : String :=
  if base.isEmpty || base.endsWith "/" then base ++ path else base ++ "/" ++ path

def readToString (host : Host) (path : String) : Except String (List Char) :=
  (host.read path).bind fun bytes =>
    (Utf8.decode bytes).elim (.error "stream did not contain valid UTF-8") .ok

/-- A value of `u64`. Where overflows are checked one panics, and elsewhere it wraps around. -/
def fit (checks : Bool) (n : Nat) : Except Stop Nat :=
  if n < u64Bound then .ok n else if checks = true then .error .panicked else .ok (n % u64Bound)

def procRoot (sysroot : Option String) : String :=
  match sysroot with
  | some r => join r "proc"
  | none => "/proc"

/-! Files of the whole system. -/

def procStatPath (sysroot : Option String) : String :=
  match sysroot with
  | some r => join r "proc/stat"
  | none => "/proc/stat"

def totalCpuJiffies (checks : Bool) (host : Host) (sysroot : Option String) : Except Stop Nat :=
  let path := procStatPath sysroot
  match readToString host path with
  | .error e => .error (.failed (.io s!"{path}: {e}"))
  | .ok s =>
      match (lines s).findSome? (stripPrefix "cpu ".toList) with
      | some rest =>
          (((words isWhitespace rest).take 8).filterMap (parseUnsigned u64Bound)).foldlM
            (fun total n => fit checks (total + n)) 0
      | none => .error (.failed (.parse s!"{path}: no cpu line"))

def numCpus (host : Host) (sysroot : Option String) : Except PluginError UInt32 :=
  let path := procStatPath sysroot
  match readToString host path with
  | .error e => .error (.io s!"{path}: {e}")
  | .ok s =>
      let count := (lines s).countP fun l =>
        (stripPrefix "cpu".toList l).any fun rest => rest.head?.any Char.isDigit
      .ok (max (UInt32.ofNat count) 1)

def totalRamKb (host : Host) (procDir : String) : Except PluginError Nat :=
  let path := join procDir "meminfo"
  match readToString host path with
  | .error e => .error (.io s!"{path}: {e}")
  | .ok content =>
      match (lines content).findSome? (stripPrefix "MemTotal:".toList) with
      | some val =>
          ((words isWhitespace val).head?.bind (parseUnsigned u64Bound)).elim
            (.error (.parse "MemTotal parse")) .ok
      | none => .error (.parse "MemTotal not found")

/-- The process that an entry of the directory names. -/
def pidOf (entry : Option (List UInt8)) : Option Nat := do
  let pid ← parseUnsigned u32Bound (Utf8.lossy (← entry))
  if pid = 0 then none else some pid

def enumeratePids (host : Host) (root : String) (max : Nat) : List Nat :=
  match host.readDir root with
  | none => []
  | some entries => ((entries.filterMap pidOf).take max).mergeSort fun a b => a ≤ b

/-! Files of a process. -/

/-- The name between the first opening parenthesis and the last closing one, and what comes after
this and one more byte. Slices that cross or do not end at a character panic. -/
def cutStat (content : List Char) : Except Stop (List Char × List Char) :=
  match rsplitOnce ')' content with
  | none => .error (.failed (.parse "no closing paren in stat"))
  | some (front, back) =>
      if '(' ∉ content then .error (.failed (.parse "no opening paren in stat"))
      else
        match front.dropWhile (· ≠ '('), back with
        | _ :: comm, c :: fields =>
            if c.utf8Size = 1 then .ok (comm, fields) else .error .panicked
        | _, _ => .error .panicked

structure StatFields where
  comm : List Char
  state : List Char
  utime : Nat
  stime : Nat

/-- A field as a number, and zero where it is none. -/
def numberAt (fields : List (List Char)) (i : Nat) : Nat :=
  (parseUnsigned u64Bound (fields.getD i [])).getD 0

def parseStat (content : List Char) : Except Stop StatFields := do
  let (comm, rest) ← cutStat content
  let fields := words isWhitespace rest
  if fields.length < 15 then .error (.failed (.parse "stat: too few fields"))
  else .ok ⟨comm, fields.getD 0 [], numberAt fields 11, numberAt fields 12⟩

/-- One line of the status file: the resident memory in kilobytes and the number of threads. -/
def statusLine (found : Nat × Nat) (line : List Char) : Nat × Nat :=
  match stripPrefix "VmRSS:".toList line with
  | some val => (((words isWhitespace val).head?.bind (parseUnsigned u64Bound)).getD 0, found.2)
  | none =>
      match stripPrefix "Threads:".toList line with
      | some val => (found.1, (parseUnsigned u64Bound (Words.trim isWhitespace val)).getD 0)
      | none => found

def parseStatus (content : List Char) : Nat × Nat := (lines content).foldl statusLine (0, 0)

def extractPidFromStat (content : List Char) : Except PluginError Nat :=
  if ' ' ∉ content then .error (.parse "stat: no space")
  else (parseUnsigned u32Bound (content.takeWhile (· ≠ ' '))).elim
    (.error (.parse "stat: bad pid")) .ok

/-- `a as f64 / b as f64 * 100.0`. -/
def percent (a b : Nat) : Value :=
  binary64.mul (binary64.div (binary64.round a) (binary64.round b)) (.finite 100)

def memPct (rssKb memTotalKb : Nat) : Value :=
  if memTotalKb > 0 then percent rssKb memTotalKb else .finite 0

/-- The content of a file of a process, which may be gone. -/
def readGone (host : Host) (path : String) : Except Stop (List Char) :=
  (readToString host path).mapError fun _ => .failed (.transient "process gone")

def readProcessInfo (checks : Bool) (host : Host) (statPath statusPath : String)
    (memTotalKb : Nat) : Except Stop ProcessInfo := do
  let content ← readGone host statPath
  let stat ← parseStat content
  let status ← readGone host statusPath
  let (rssKb, threads) := parseStatus status
  let pid ← (extractPidFromStat content).mapError .failed
  let rssBytes ← fit checks (rssKb * 1024)
  let cpuJiffies ← fit checks (stat.utime + stat.stime)
  return {
    pid
    comm := String.ofList stat.comm
    cpuPct := .finite 0
    memPct := memPct rssKb memTotalKb
    rssBytes
    threads
    state := String.ofList stat.state
    cpuJiffies }

/-! A sample. -/

/-- The share of the jiffies since the last sample; both subtractions saturate. -/
def Inner.cpuPct (inner : Inner) (totalJiffies pid cpuJiffies : Nat) : Value :=
  match inner.prev.bind fun prev => prev.byPid.lookup pid with
  | none => .finite 0
  | some (prevJiffies, prevTotal) =>
      let deltaJiffies := cpuJiffies - prevJiffies
      let deltaTotal := totalJiffies - prevTotal
      if deltaTotal = 0 then .finite 0
      else binary64.mul (percent deltaJiffies deltaTotal) (binary64.round inner.numCpus.toNat)

def pidPath (root : String) (pid : Nat) (file : String) : String :=
  join (join root (toString pid)) file

/-- One turn of the loop: a process whose files give an error is left out, and `none` is a
panic. -/
def readProcess (checks : Bool) (host : Host) (inner : Inner) (totalJiffies memTotalKb pid : Nat) :
    Option (Option ProcessInfo) :=
  let root := procRoot inner.sysroot
  match readProcessInfo checks host (pidPath root pid "stat") (pidPath root pid "status")
      memTotalKb with
  | .ok info =>
      some (some { info with pid, cpuPct := inner.cpuPct totalJiffies pid info.cpuJiffies })
  | .error .panicked => none
  | .error (.failed _) => some none

/-- The larger share comes first. -/
def byCpu (a b : ProcessInfo) : Bool := !(a.cpuPct.lt b.cpuPct)

/-- The sort by the share. It may panic where one is no number, which is where the order is not
total. -/
def sortByCpu (procs : List ProcessInfo) : Option (List ProcessInfo) :=
  if procs.all fun p => p.cpuPct ≠ .nan then some (procs.mergeSort byCpu) else none

def ProcessInfo.row (p : ProcessInfo) : TableRow where
  cells :=
    [.number (binary64.round p.pid), .text p.comm, .number p.cpuPct, .number p.memPct,
      .bytes p.rssBytes, .number (binary64.round p.threads), .text p.state]

/-- The snapshot of the processes that were read. -/
def current (procs : List ProcessInfo) (totalJiffies : Nat) : KeyMap Nat (Nat × Nat) :=
  procs.foldl (fun current p => current.insert p.pid (p.cpuJiffies, totalJiffies)) ∅

/-- The loop over the processes, the sort and the rows; `none` is a panic. -/
def readTable (checks : Bool) (host : Host) (inner : Inner) (totalJiffies memTotalKb : Nat)
    (pids : List Nat) : Option (List TableRow × Inner) := do
  let found ← pids.mapM (readProcess checks host inner totalJiffies memTotalKb)
  let procs := found.reduceOption
  let sorted ← sortByCpu procs
  return (sorted.map ProcessInfo.row, { inner with
    prev := some ⟨current procs totalJiffies⟩
    prevTotalJiffies := totalJiffies })

def sampleTable (checks : Bool) (host : Host) (inner : Inner) :
    Except Stop (List TableRow × Inner) := do
  let totalJiffies ← totalCpuJiffies checks host inner.sysroot
  let root := procRoot inner.sysroot
  let pids := enumeratePids host root maxPidsPerSample
  let memTotalKb ← (totalRamKb host root).mapError .failed
  (readTable checks host inner totalJiffies memTotalKb pids).elim (.error .panicked) .ok

/-- A sample, and what the lock holds after it; `none` is a lock that a panic poisoned. -/
def sampleInner (checks : Bool) (host : Host) (lock : Option Inner) (sensor : SensorId) :
    Except Stop Reading × Option Inner :=
  if sensor.asStr ≠ "proc.list" then (.error (.failed (.unsupported sensor.asStr)), lock)
  else
    match lock with
    | none => (.error .panicked, none)
    | some inner =>
        match sampleTable checks host inner with
        | .ok (rows, inner) => (.ok (.table rows), some inner)
        | .error .panicked => (.error .panicked, none)
        | .error (.failed e) => (.error (.failed e), some inner)

/-- The state and the manifest after `init` with a lock that is not poisoned. -/
def initInner (host : Host) (sysroot : Option String) : Inner × PluginManifest :=
  ({ sysroot
     prev := none
     prevTotalJiffies := 0
     numCpus := max ((numCpus host sysroot).toOption.getD 1) 1 },
    { pluginId := "com.visorcraft.linsight.proc"
      displayName := "Process List"
      version := "1.20.5"
      sensors := [{
        id := ⟨"proc.list"⟩
        displayName := "Process list"
        unit := .count
        kind := .table
        category := .custom
        nativeRateHz := binary64.round (1 / 5)
        min := none
        max := none
        deviceId := none
        deviceKey := none
        tags := [] }]
      devices := [] })

/-! What the kernel writes. -/

/-- A field without blanks and parentheses that close. -/
structure Field where
  chars : List Char
  nonempty : chars ≠ []
  plain : ∀ c ∈ chars, 33 ≤ c.toNat ∧ c.toNat ≤ 126 ∧ c ≠ ')'

theorem digit_plain {c : Char} (digit : c.isDigit = true) :
    33 ≤ c.toNat ∧ c.toNat ≤ 126 ∧ c ≠ ')' := by
  have bounds : '0'.val ≤ c.val ∧ c.val ≤ '9'.val := by
    simpa only [Char.isDigit, Bool.and_eq_true, decide_eq_true_eq] using digit
  have low : '0'.toNat ≤ c.toNat := bounds.1
  have high : c.toNat ≤ '9'.toNat := bounds.2
  have zero : '0'.toNat = 48 := rfl
  have nine : '9'.toNat = 57 := rfl
  refine ⟨by omega, by omega, ?_⟩
  rintro rfl
  exact absurd digit (by decide)

def Field.number (n : Nat) : Field where
  chars := (Numeral.ofNat n).chars
  nonempty := (Numeral.ofNat n).nonempty
  plain := fun c member => digit_plain ((Numeral.ofNat n).digits c member)

/-- A process: its name, the fields of its stat file, and its status file. -/
structure Process where
  pid : Nat
  pid_pos : 0 < pid
  pid_small : pid < u32Bound
  comm : List UInt8
  comm_short : comm.length ≤ 15
  state : Field
  /-- From the parent to the page faults. -/
  others : List Field
  ten : others.length = 10
  utime : Nat
  stime : Nat
  fits : utime + stime < u64Bound
  more : List Field
  enough : 2 ≤ more.length
  status : List UInt8
  rss_fits : ∀ text, Utf8.decode status = some text → (parseStatus text).1 * 1024 < u64Bound

namespace Process

def fields (p : Process) : List Field :=
  p.state :: (p.others ++ Field.number p.utime :: Field.number p.stime :: p.more)

/-- What is in front of the name. -/
def front (p : Process) : List Char := (Numeral.ofNat p.pid).chars ++ [' ', '(']

def fieldsText (p : Process) : List Char := [' '].intercalate (p.fields.map Field.chars) ++ ['\n']

def statBytes (p : Process) : List UInt8 :=
  Utf8.ascii p.front ++ p.comm ++ Utf8.ascii (')' :: ' ' :: p.fieldsText)

/-- The name of the directory of the process. -/
def entry (p : Process) : Option (List UInt8) := some (Utf8.ascii (Numeral.ofNat p.pid).chars)

/-- The row of the process, with its name and the fields as they were written. -/
def row (p : Process) (inner : Inner) (totalJiffies memTotalKb : Nat) : TableRow :=
  let status := parseStatus ((Utf8.decode p.status).getD [])
  { cells :=
      [.number (binary64.round p.pid), .text (String.ofList (Utf8.lossy p.comm)),
        .number (inner.cpuPct totalJiffies p.pid (p.utime + p.stime)),
        .number (memPct status.1 memTotalKb), .bytes (status.1 * 1024),
        .number (binary64.round status.2), .text (String.ofList p.state.chars)] }

/-- The name and the status file are text. -/
def IsText (p : Process) : Prop :=
  (Utf8.decode p.comm).isSome = true ∧ (Utf8.decode p.status).isSome = true

instance (p : Process) : Decidable p.IsText := inferInstanceAs (Decidable (_ ∧ _))

end Process

/-- The directory lists these processes, and their files are those of the kernel. -/
structure Kernel (host : Host) (root : String) (procs : List Process) : Prop where
  entries : ∃ entries others, host.readDir root = some entries ∧
    entries.Perm (procs.map Process.entry ++ others) ∧ ∀ entry ∈ others, pidOf entry = none
  distinct : (procs.map Process.pid).Nodup
  few : procs.length ≤ maxPidsPerSample
  stat : ∀ p ∈ procs, host.read (pidPath root p.pid "stat") = .ok p.statBytes
  status : ∀ p ∈ procs, host.read (pidPath root p.pid "status") = .ok p.status

def listId : SensorId := ⟨"proc.list"⟩

/-- One row for each process, and the jiffies of each one are kept for the next sample. -/
def Complete (checks : Bool) (host : Host) (inner : Inner) (totalJiffies memTotalKb : Nat)
    (procs : List Process) : Prop :=
  ∃ rows snapshot, sampleInner checks host (some inner) listId =
      (.ok (.table rows), some { inner with
        prev := some snapshot
        prevTotalJiffies := totalJiffies }) ∧
    rows.Perm (procs.map fun p => p.row inner totalJiffies memTotalKb) ∧
    ∀ p ∈ procs, snapshot.byPid.lookup p.pid = some (p.utime + p.stime, totalJiffies)

/-- What the process list is for: a sample does not panic, and has all processes. -/
def Lists (checks : Bool) (host : Host) (inner : Inner) (totalJiffies memTotalKb : Nat) : Prop :=
  (sampleInner checks host (some inner) listId).1 ≠ .error .panicked ∧
    ∀ procs, Kernel host (procRoot inner.sysroot) procs →
      Complete checks host inner totalJiffies memTotalKb procs

/-- An opening parenthesis is in front of the last closing one, and a character of one byte
comes after this. -/
def Slices (content : List Char) : Prop :=
  ∀ front back, content = front ++ ')' :: back → ')' ∉ back → '(' ∈ content →
    '(' ∈ front ∧ ∃ c rest, back = c :: rest ∧ c.utf8Size = 1

/-- The resident bytes and the jiffies are below `2^64`. -/
def Fits (content status : List Char) : Prop :=
  ∀ stat pid, parseStat content = .ok stat → extractPidFromStat content = .ok pid →
    (parseStatus status).1 * 1024 < u64Bound ∧ stat.utime + stat.stime < u64Bound

/-- No text of the process makes the sample panic. -/
def Safe (checks : Bool) (host : Host) (statPath statusPath : String) : Prop :=
  ∀ content, readToString host statPath = .ok content → Slices content ∧
    ∀ status, readToString host statusPath = .ok status → checks = true → Fits content status

section Panics

variable {checks : Bool} {host : Host}

theorem fit_of_lt {n : Nat} (small : n < u64Bound) : fit checks n = .ok n := if_pos small

theorem fit_lt {n m : Nat} (done : fit checks n = .ok m) : m < u64Bound := by
  unfold fit at done
  split_ifs at done with small
  · cases done
    exact small
  · cases done
    exact Nat.mod_lt n (by decide)

theorem fit_error {n : Nat} {stop : Stop} :
    fit checks n = .error stop ↔ stop = .panicked ∧ checks = true ∧ ¬ n < u64Bound := by
  unfold fit
  split_ifs with small checked
  · simp [small]
  · simp [small, checked, eq_comm]
  · simp [checked]

theorem dropWhile_eq_nil {c : Char} {text : List Char} :
    text.dropWhile (· ≠ c) = [] ↔ c ∉ text := by
  rw [List.dropWhile_eq_nil_iff]
  constructor
  · intro all member
    exact absurd (all c member) (by simp)
  · intro absent other member
    exact decide_eq_true fun same => absent (same ▸ member)

theorem cutStat_panics_iff {content : List Char} :
    cutStat content = .error .panicked ↔ ¬ Slices content := by
  unfold cutStat
  rcases Words.rsplitOnce_cases ')' content with ⟨absent, cut⟩ | ⟨front, back, whole, plain, cut⟩
  · rw [cut]
    refine iff_of_false (by simp) (not_not.mpr fun front back whole _ _ => ?_)
    exact absurd (by rw [whole]; simp) absent
  · have slices : Slices content ↔
        ('(' ∈ content → '(' ∈ front ∧ ∃ c rest, back = c :: rest ∧ c.utf8Size = 1) := by
      refine ⟨fun slices => slices front back whole plain, fun here front' back' whole' plain' => ?_⟩
      obtain ⟨rfl, rfl⟩ := Words.cut_last_inj plain' plain (whole'.symm.trans whole)
      exact here
    rw [cut, slices]
    dsimp only
    by_cases inside : '(' ∈ content
    · rw [if_neg (not_not.mpr inside)]
      cases opened : front.dropWhile (· ≠ '(') with
      | nil =>
          have missing := dropWhile_eq_nil.mp opened
          exact iff_of_true rfl fun both => missing (both inside).1
      | cons paren comm =>
          have found : '(' ∈ front := by
            by_contra missing
            rw [dropWhile_eq_nil.mpr missing] at opened
            cases opened
          cases back with
          | nil =>
              refine iff_of_true rfl fun both => ?_
              obtain ⟨_, _, empty, _⟩ := (both inside).2
              cases empty
          | cons c fields =>
              dsimp only
              split_ifs with single
              · exact iff_of_false (by simp) (not_not.mpr fun _ => ⟨found, c, fields, rfl, single⟩)
              · refine iff_of_true rfl fun both => ?_
                obtain ⟨_, _, same, single'⟩ := (both inside).2
                cases same
                exact single single'
    · rw [if_pos inside]
      exact iff_of_false (by simp) (not_not.mpr fun here => absurd here inside)

theorem parseStat_panics_iff {content : List Char} :
    parseStat content = .error .panicked ↔ ¬ Slices content := by
  rw [← cutStat_panics_iff, parseStat, Fallible.bind_eq_error]
  refine ⟨fun stopped => stopped.resolve_right ?_, .inl⟩
  rintro ⟨⟨comm, rest⟩, _, few⟩
  dsimp only at few
  split at few
  · cases few
  · cases few

theorem readGone_error {path : String} {stop : Stop}
    (failed : readGone host path = .error stop) : stop ≠ .panicked := by
  unfold readGone at failed
  cases read : readToString host path with
  | ok text => rw [read] at failed; cases failed
  | error e => rw [read] at failed; cases failed; simp

theorem readGone_ok {path : String} {text : List Char} :
    readGone host path = .ok text ↔ readToString host path = .ok text := by
  unfold readGone
  cases readToString host path with
  | ok other => simp [Except.mapError]
  | error e => simp [Except.mapError]

theorem readProcessInfo_panics_iff {statPath statusPath : String} {memTotalKb : Nat} :
    readProcessInfo checks host statPath statusPath memTotalKb = .error .panicked ↔
      ¬ Safe checks host statPath statusPath := by
  unfold readProcessInfo
  simp only [Fallible.bind_eq_error, readGone_ok, parseStat_panics_iff]
  constructor
  · intro stopped safe
    rcases stopped with stopped | ⟨content, read, stopped⟩
    · exact readGone_error stopped rfl
    obtain ⟨slices, fits⟩ := safe content read
    rcases stopped with stopped | ⟨stat, parsed, stopped⟩
    · exact stopped slices
    rcases stopped with stopped | ⟨status, read', stopped⟩
    · exact readGone_error stopped rfl
    rcases stopped with stopped | ⟨pid, named, stopped⟩
    · cases extracted : extractPidFromStat content with
      | ok pid => rw [extracted] at stopped; cases stopped
      | error e => rw [extracted] at stopped; cases stopped
    have extracted : extractPidFromStat content = .ok pid := by
      cases extracted : extractPidFromStat content with
      | ok pid' => rw [extracted] at named; cases named; rfl
      | error e => rw [extracted] at named; cases named
    rcases stopped with stopped | ⟨rss, _, stopped⟩
    · obtain ⟨_, checked, large⟩ := fit_error.mp stopped
      exact large (fits status read' checked stat pid parsed extracted).1
    rcases stopped with stopped | ⟨jiffies, _, stopped⟩
    · obtain ⟨_, checked, large⟩ := fit_error.mp stopped
      exact large (fits status read' checked stat pid parsed extracted).2
    · cases stopped
  · refine fun crossed => by_contra fun calm => crossed fun content read => ⟨?_, ?_⟩
    · exact by_contra fun slices => calm (.inr ⟨content, read, .inl slices⟩)
    · intro status read' checked stat pid parsed extracted
      have named : (extractPidFromStat content).mapError Stop.failed = .ok pid := by
        rw [extracted]
        rfl
      -- both sums are made in a row, and the first one that does not fit ends the call
      have at_sums := fun stopped => calm (.inr ⟨content, read, .inr ⟨stat, parsed,
        .inr ⟨status, read', .inr ⟨pid, named, stopped⟩⟩⟩⟩)
      have rss : (parseStatus status).1 * 1024 < u64Bound :=
        by_contra fun large => at_sums (.inl (fit_error.mpr ⟨rfl, checked, large⟩))
      refine ⟨rss, by_contra fun large => at_sums (.inr ⟨_, fit_of_lt rss, .inl ?_⟩)⟩
      exact fit_error.mpr ⟨rfl, checked, large⟩

theorem readProcess_none_iff {inner : Inner} {totalJiffies memTotalKb pid : Nat} :
    readProcess checks host inner totalJiffies memTotalKb pid = none ↔
      ¬ Safe checks host (pidPath (procRoot inner.sysroot) pid "stat")
        (pidPath (procRoot inner.sysroot) pid "status") := by
  rw [← @readProcessInfo_panics_iff _ _ _ _ memTotalKb, readProcess]
  cases readProcessInfo checks host (pidPath (procRoot inner.sysroot) pid "stat")
      (pidPath (procRoot inner.sysroot) pid "status") memTotalKb with
  | ok info => simp
  | error stop =>
      cases stop with
      | panicked => simp
      | failed e => simp

end Panics

section Shares

variable {checks : Bool} {host : Host} {inner : Inner}

theorem round_ne_nan (q : ℚ) : binary64.round q ≠ .nan := by
  rw [Ieee.Format.round_eq]
  split_ifs <;> simp

/-- A quotient of counts overflows nowhere. -/
theorem percent_finite {a b : Nat} (small : a < u64Bound) (small' : b < u64Bound)
    (positive : 0 < b) : ∃ r, percent a b = .finite r := by
  obtain ⟨x, count, nonneg, high, _⟩ := @Ieee.round_count a small
  obtain ⟨y, count', _, _, one⟩ := @Ieee.round_count b small'
  have low : 1 ≤ y := one positive
  have quotient_nonneg : 0 ≤ x / y := div_nonneg nonneg (zero_le_one.trans low)
  have quotient_high : x / y ≤ 2 ^ (64 : Int) := by
    have step : x / y ≤ x := div_le_self nonneg low
    exact step.trans (by exact_mod_cast high)
  have float : binary64.IsFloat ((2 : ℚ) ^ (64 : Int)) :=
    Ieee.isFloat_two_zpow (by decide) (by decide)
  have bound : x / y ≤ 2 ^ (100 : Nat) := quotient_high.trans (by norm_num)
  obtain ⟨q, rounded, positive'⟩ := Ieee.round_exists quotient_nonneg bound
  have q_high : q ≤ 2 ^ (64 : Int) :=
    Ieee.Format.round_mono quotient_nonneg quotient_high rounded float Ieee.binary64_ordinary
  have hundredfold : q * 100 ≤ 2 ^ (100 : Nat) := by
    calc q * 100 ≤ 2 ^ (64 : Int) * 100 := by gcongr
      _ ≤ 2 ^ (100 : Nat) := by norm_num
  obtain ⟨r, rounded', _⟩ := Ieee.round_exists (by positivity : 0 ≤ q * 100) hundredfold
  refine ⟨r, ?_⟩
  have divided : binary64.div (.finite x) (.finite y) = .finite q := by
    rw [← rounded]
    exact if_neg (by linarith)
  rw [percent, count, count', divided]
  exact rounded'

/-- A share is a number, so that the order of the rows is total. -/
theorem cpuPct_ne_nan {totalJiffies pid cpuJiffies : Nat} (small : totalJiffies < u64Bound)
    (small' : cpuJiffies < u64Bound) : inner.cpuPct totalJiffies pid cpuJiffies ≠ .nan := by
  unfold Inner.cpuPct
  cases inner.prev.bind fun prev => prev.byPid.lookup pid with
  | none => simp
  | some before =>
      dsimp only
      split_ifs with still
      · simp
      · obtain ⟨share, finite⟩ := @percent_finite (cpuJiffies - before.1)
          (totalJiffies - before.2) (by omega) (by omega) (by omega)
        obtain ⟨cpus, count, _⟩ := @Ieee.round_count inner.numCpus.toNat
          (by have bound := inner.numCpus.toNat_lt; omega)
        rw [finite, count]
        exact round_ne_nan _

theorem totalCpuJiffies_lt {total : Nat}
    (done : totalCpuJiffies checks host inner.sysroot = .ok total) : total < u64Bound := by
  unfold totalCpuJiffies at done
  dsimp only at done
  split at done
  · cases done
  split at done
  · rename_i rest _
    generalize (((words isWhitespace rest).take 8).filterMap (parseUnsigned u64Bound)) = numbers
      at done
    cases numbers using List.reverseRecOn with
    | nil => cases done; decide
    | append_singleton front n =>
        rw [List.foldlM_append] at done
        obtain ⟨before, _, last⟩ := Fallible.bind_eq_ok.mp done
        rw [List.foldlM_cons] at last
        obtain ⟨after, here, same⟩ := Fallible.bind_eq_ok.mp last
        cases same
        exact fit_lt here
  · cases done

theorem readProcess_ne_nan {totalJiffies memTotalKb pid : Nat} {info : ProcessInfo}
    (small : totalJiffies < u64Bound)
    (read : readProcess checks host inner totalJiffies memTotalKb pid = some (some info)) :
    info.cpuPct ≠ .nan := by
  unfold readProcess at read
  dsimp only at read
  split at read
  · rename_i before done
    cases read
    apply cpuPct_ne_nan small
    unfold readProcessInfo at done
    simp only [Fallible.bind_eq_ok] at done
    obtain ⟨content, _, stat, _, status, _, pid, _, rss, _, jiffies, summed, whole⟩ := done
    cases whole
    exact fit_lt summed
  · cases read
  · cases read

end Shares

namespace Process

section Files

variable {p : Process} {checks : Bool} {host : Host} {inner : Inner} {root : String}
  {totalJiffies memTotalKb : Nat}

theorem pid_ascii (p : Process) : ∀ c ∈ (Numeral.ofNat p.pid).chars, c.toNat < 128 := by
  intro c member
  have plain := digit_plain ((Numeral.ofNat p.pid).digits c member)
  omega

theorem front_ascii (p : Process) : ∀ c ∈ p.front, c.toNat < 128 := by
  intro c member
  rcases List.mem_append.mp member with digit | mark
  · exact p.pid_ascii c digit
  · rcases List.mem_cons.mp mark with rfl | mark
    · decide
    · rw [List.mem_singleton.mp mark]
      decide

/-- A character of a field, or one between the fields. -/
theorem mem_fieldsText {c : Char} (member : c ∈ p.fieldsText) :
    (∃ field ∈ p.fields, c ∈ field.chars) ∨ c = ' ' ∨ c = '\n' := by
  rw [fieldsText, List.mem_append, List.mem_singleton] at member
  rcases member with inside | rfl
  · rcases Words.mem_intercalate inside with rfl | ⟨word, among, here⟩
    · exact .inr (.inl rfl)
    · obtain ⟨field, known, rfl⟩ := List.mem_map.mp among
      exact .inl ⟨field, known, here⟩
  · exact .inr (.inr rfl)

theorem back_ascii (p : Process) : ∀ c ∈ ')' :: ' ' :: p.fieldsText, c.toNat < 128 := by
  intro c member
  rcases List.mem_cons.mp member with rfl | member
  · decide
  rcases List.mem_cons.mp member with rfl | member
  · decide
  rcases mem_fieldsText member with ⟨field, _, inside⟩ | rfl | rfl
  · have plain := field.plain c inside
    omega
  · decide
  · decide

theorem unclosed (p : Process) : ')' ∉ ' ' :: p.fieldsText := by
  intro member
  rcases List.mem_cons.mp member with same | member
  · cases same
  rcases mem_fieldsText member with ⟨field, _, inside⟩ | same | same
  · exact (field.plain ')' inside).2.2 rfl
  · cases same
  · cases same

theorem decode_statBytes (p : Process) : Utf8.decode p.statBytes =
    (Utf8.decode p.comm).map fun text => p.front ++ text ++ ')' :: ' ' :: p.fieldsText :=
  Utf8.decode_ascii_around p.front_ascii p.back_ascii (List.cons_ne_nil _ _) p.comm

/-- The fields are read as they were written. -/
theorem words_fieldsText (p : Process) :
    words isWhitespace p.fieldsText = p.fields.map Field.chars := by
  have separate : words isWhitespace ([' '].intercalate (p.fields.map Field.chars)) =
      p.fields.map Field.chars := by
    apply Words.words_intercalate
    · intro word member
      obtain ⟨field, _, rfl⟩ := List.mem_map.mp member
      exact field.nonempty
    · intro word member c inside
      obtain ⟨field, _, rfl⟩ := List.mem_map.mp member
      have plain := field.plain c inside
      simp only [isWhitespace, Bool.or_eq_false_iff, Bool.and_eq_false_iff,
        decide_eq_false_iff_not, beq_eq_false_iff_ne]
      omega
    · decide
  have ended : ∀ c ∈ ['\n'], isWhitespace c = true := by
    intro c member
    rw [List.mem_singleton.mp member]
    decide
  rw [fieldsText, Words.words_append_blanks _ ended, separate]

theorem numberAt_of {fields : List Field} {i n : Nat} (here : fields[i]? = some (Field.number n))
    (small : n < u64Bound) : numberAt (fields.map Field.chars) i = n := by
  have chars : (fields.map Field.chars).getD i [] = (Numeral.ofNat n).chars := by
    rw [List.getD_eq_getElem?_getD, List.getElem?_map, here]
    rfl
  have value := Numeral.value_ofNat n
  rw [numberAt, chars, Numeral.parse _ (value.symm ▸ small), value]
  rfl

theorem fields_at (p : Process) : p.fields[11]? = some (Field.number p.utime) ∧
    p.fields[12]? = some (Field.number p.stime) := by
  have ten := p.ten
  rw [fields]
  constructor
  · rw [List.getElem?_cons_succ, List.getElem?_append_right (by omega), ten]
    rfl
  · rw [List.getElem?_cons_succ, List.getElem?_append_right (by omega), ten]
    rfl

/-- The last closing parenthesis is that of the kernel, whatever the name is. -/
theorem parseStat_eq (p : Process) (text : List Char) :
    parseStat (p.front ++ text ++ ')' :: ' ' :: p.fieldsText) =
      .ok ⟨text, p.state.chars, p.utime, p.stime⟩ := by
  have cut : cutStat (p.front ++ text ++ ')' :: ' ' :: p.fieldsText) =
      .ok (text, p.fieldsText) := by
    have inside : '(' ∈ p.front ++ text ++ ')' :: ' ' :: p.fieldsText := by
      rw [front]
      simp
    have opened : (p.front ++ text).dropWhile (· ≠ '(') = '(' :: text := by
      have digits : ∀ c ∈ (Numeral.ofNat p.pid).chars ++ [' '], decide (c ≠ '(') = true := by
        intro c member
        rcases List.mem_append.mp member with digit | mark
        · rw [decide_eq_true_eq]
          rintro rfl
          exact absurd ((Numeral.ofNat p.pid).digits '(' digit) (by decide)
        · rw [List.mem_singleton.mp mark]
          rfl
      have whole : p.front ++ text = ((Numeral.ofNat p.pid).chars ++ [' ']) ++ '(' :: text := by
        rw [front]
        simp
      rw [whole, List.dropWhile_append_of_pos digits, List.dropWhile_cons_of_neg (by simp)]
    rw [cutStat, Words.rsplitOnce_append _ p.unclosed]
    dsimp only
    rw [if_neg (not_not.mpr inside), opened]
    rfl
  have enough : 15 ≤ p.fields.length := by
    have ten := p.ten
    have more := p.enough
    simp only [fields, List.length_cons, List.length_append]
    omega
  have fits := p.fits
  rw [parseStat, cut]
  refine Fallible.bind_eq_ok.mpr ⟨_, rfl, ?_⟩
  dsimp only
  rw [words_fieldsText, if_neg (by rw [List.length_map]; omega),
    numberAt_of p.fields_at.1 (by omega), numberAt_of p.fields_at.2 (by omega)]
  rfl

theorem extractPid_eq (p : Process) (rest : List Char) :
    extractPidFromStat (p.front ++ rest) = .ok p.pid := by
  have whole : p.front ++ rest = (Numeral.ofNat p.pid).chars ++ ' ' :: '(' :: rest := by
    rw [front]
    simp
  have digits : ∀ c ∈ (Numeral.ofNat p.pid).chars, decide (c ≠ ' ') = true := by
    intro c member
    rw [decide_eq_true_eq]
    rintro rfl
    exact absurd ((Numeral.ofNat p.pid).digits ' ' member) (by decide)
  have value := Numeral.value_ofNat p.pid
  rw [extractPidFromStat, whole, if_neg (by simp), List.takeWhile_append_of_pos digits,
    List.takeWhile_cons_of_neg (by simp), List.append_nil,
    Numeral.parse _ (value.symm ▸ p.pid_small), value]
  rfl

/-- The entry of the process is its pid. -/
theorem pidOf_entry (p : Process) : pidOf p.entry = some p.pid := by
  have value := Numeral.value_ofNat p.pid
  rw [pidOf, entry]
  simp only [Option.bind_eq_bind, Option.bind_some]
  rw [Utf8.lossy_ascii p.pid_ascii, Numeral.parse _ (value.symm ▸ p.pid_small), value]
  exact if_neg p.pid_pos.ne'

/-- What is read of a process whose files are text. -/
def info (p : Process) (inner : Inner) (totalJiffies memTotalKb : Nat) : ProcessInfo :=
  let status := parseStatus ((Utf8.decode p.status).getD [])
  { pid := p.pid
    comm := String.ofList (Utf8.lossy p.comm)
    cpuPct := inner.cpuPct totalJiffies p.pid (p.utime + p.stime)
    memPct := memPct status.1 memTotalKb
    rssBytes := status.1 * 1024
    threads := status.2
    state := String.ofList p.state.chars
    cpuJiffies := p.utime + p.stime }

theorem readGone_eq {path : String} {bytes : List UInt8} (found : host.read path = .ok bytes) :
    readGone host path =
      (Utf8.decode bytes).elim (.error (.failed (.transient "process gone"))) .ok := by
  rw [readGone, readToString, found]
  cases text : Utf8.decode bytes with
  | none => simp only [Except.bind, text, Option.elim_none, Except.mapError]
  | some text => simp only [Except.bind, text, Option.elim_some, Except.mapError]

section OneProcess

variable {statPath statusPath : String} {memTotalKb : Nat}

theorem readProcessInfo_ok (stat : host.read statPath = .ok p.statBytes)
    (status : host.read statusPath = .ok p.status) {text text' : List Char}
    (name : Utf8.decode p.comm = some text) (read : Utf8.decode p.status = some text') :
    readProcessInfo checks host statPath statusPath memTotalKb =
      .ok { p.info inner totalJiffies memTotalKb with cpuPct := .finite 0 } := by
  have first : readGone host statPath = .ok (p.front ++ text ++ ')' :: ' ' :: p.fieldsText) := by
    rw [readGone_eq stat, p.decode_statBytes, name]
    rfl
  have second : readGone host statusPath = .ok text' := by
    rw [readGone_eq status, read]
    rfl
  have pid : (extractPidFromStat (p.front ++ text ++ ')' :: ' ' :: p.fieldsText)).mapError
      Stop.failed = .ok p.pid := by
    rw [List.append_assoc, p.extractPid_eq]
    rfl
  refine Fallible.bind_eq_ok.mpr ⟨_, first, ?_⟩
  refine Fallible.bind_eq_ok.mpr ⟨_, p.parseStat_eq text, ?_⟩
  refine Fallible.bind_eq_ok.mpr ⟨_, second, ?_⟩
  refine Fallible.bind_eq_ok.mpr ⟨_, pid, ?_⟩
  refine Fallible.bind_eq_ok.mpr ⟨_, fit_of_lt (p.rss_fits text' read), ?_⟩
  refine Fallible.bind_eq_ok.mpr ⟨_, fit_of_lt p.fits, ?_⟩
  rw [info, read, Utf8.lossy_of_decode name]
  rfl

theorem readProcessInfo_gone (stat : host.read statPath = .ok p.statBytes)
    (status : host.read statusPath = .ok p.status) (odd : ¬ p.IsText) :
    readProcessInfo checks host statPath statusPath memTotalKb =
      .error (.failed (.transient "process gone")) := by
  cases name : Utf8.decode p.comm with
  | none =>
      refine Fallible.bind_eq_error.mpr (.inl ?_)
      rw [readGone_eq stat, p.decode_statBytes, name]
      rfl
  | some text =>
      have first : readGone host statPath =
          .ok (p.front ++ text ++ ')' :: ' ' :: p.fieldsText) := by
        rw [readGone_eq stat, p.decode_statBytes, name]
        rfl
      have unread : Utf8.decode p.status = none := by
        rw [← Option.not_isSome_iff_eq_none]
        exact fun read => odd ⟨by rw [name]; rfl, read⟩
      refine Fallible.bind_eq_error.mpr (.inr ⟨_, first, ?_⟩)
      refine Fallible.bind_eq_error.mpr (.inr ⟨_, p.parseStat_eq text, ?_⟩)
      refine Fallible.bind_eq_error.mpr (.inl ?_)
      rw [readGone_eq status, unread]
      rfl

end OneProcess

/-- A process whose files are text is read, and another one is left out. -/
theorem readProcess_eq
    (stat : host.read (pidPath (procRoot inner.sysroot) p.pid "stat") = .ok p.statBytes)
    (status : host.read (pidPath (procRoot inner.sysroot) p.pid "status") = .ok p.status) :
    readProcess checks host inner totalJiffies memTotalKb p.pid =
      some (if p.IsText then some (p.info inner totalJiffies memTotalKb) else none) := by
  rw [readProcess]
  by_cases texts : p.IsText
  · obtain ⟨text, name⟩ := Option.isSome_iff_exists.mp texts.1
    obtain ⟨text', read⟩ := Option.isSome_iff_exists.mp texts.2
    rw [@readProcessInfo_ok p checks host inner totalJiffies _ _ _ stat status _ _ name read,
      if_pos texts]
    rfl
  · rw [readProcessInfo_gone stat status texts, if_neg texts]

end Files

end Process

section Sampling

variable {checks : Bool} {host : Host} {inner : Inner} {totalJiffies memTotalKb : Nat}
  {procs : List Process}

/-- What a sample gives once the files of the system are read. -/
theorem sampleInner_cases (stat : totalCpuJiffies checks host inner.sysroot = .ok totalJiffies)
    (meminfo : totalRamKb host (procRoot inner.sysroot) = .ok memTotalKb) :
    let pids := enumeratePids host (procRoot inner.sysroot) maxPidsPerSample
    (pids.mapM (readProcess checks host inner totalJiffies memTotalKb) = none ∧
      (sampleInner checks host (some inner) listId).1 = .error .panicked) ∨
    ∃ found : List (Option ProcessInfo), ∃ sorted : List ProcessInfo,
      pids.mapM (readProcess checks host inner totalJiffies memTotalKb) = some found ∧
      sorted.Perm found.reduceOption ∧
      sampleInner checks host (some inner) listId =
        (.ok (.table (sorted.map ProcessInfo.row)), some { inner with
          prev := some ⟨current found.reduceOption totalJiffies⟩
          prevTotalJiffies := totalJiffies }) := by
  intro pids
  have table : sampleTable checks host inner =
      (readTable checks host inner totalJiffies memTotalKb pids).elim (.error .panicked) .ok := by
    rw [sampleTable, stat]
    change (totalRamKb host (procRoot inner.sysroot)).mapError Stop.failed >>= _ = _
    rw [meminfo]
    rfl
  have listed : ¬ listId.asStr ≠ "proc.list" := not_not.mpr rfl
  cases read : pids.mapM (readProcess checks host inner totalJiffies memTotalKb) with
  | none =>
      have failed : readTable checks host inner totalJiffies memTotalKb pids = none := by
        rw [readTable, read]
        rfl
      refine .inl ⟨rfl, ?_⟩
      rw [sampleInner, if_neg listed, table, failed]
      rfl
  | some found =>
      have numbers : found.reduceOption.all (fun p => p.cpuPct ≠ .nan) = true := by
        rw [List.all_eq_true]
        intro info member
        rw [List.reduceOption_mem_iff] at member
        obtain ⟨pid, _, here⟩ := Fallible.exists_of_mem_mapM read member
        exact decide_eq_true (readProcess_ne_nan (totalCpuJiffies_lt stat) here)
      have done : readTable checks host inner totalJiffies memTotalKb pids =
          some ((found.reduceOption.mergeSort byCpu).map ProcessInfo.row, { inner with
              prev := some ⟨current found.reduceOption totalJiffies⟩
              prevTotalJiffies := totalJiffies }) := by
        rw [readTable, read]
        change (sortByCpu found.reduceOption).bind _ = _
        rw [sortByCpu, if_pos numbers]
        rfl
      refine .inr ⟨found, _, rfl, List.mergeSort_perm _ byCpu, ?_⟩
      rw [sampleInner, if_neg listed, table, done]
      rfl

/-- A sample panics with the first process that makes it panic. -/
theorem sample_panics_iff (stat : totalCpuJiffies checks host inner.sysroot = .ok totalJiffies)
    (meminfo : totalRamKb host (procRoot inner.sysroot) = .ok memTotalKb) :
    (sampleInner checks host (some inner) listId).1 ≠ .error .panicked ↔
      ∀ pid ∈ enumeratePids host (procRoot inner.sysroot) maxPidsPerSample,
        Safe checks host (pidPath (procRoot inner.sysroot) pid "stat")
          (pidPath (procRoot inner.sysroot) pid "status") := by
  rcases sampleInner_cases stat meminfo with ⟨failed, panicked⟩ | ⟨found, sorted, read, _, done⟩
  · refine iff_of_false (not_not.mpr panicked) fun safe => ?_
    obtain ⟨found, read⟩ := Fallible.mapM_exists fun pid member =>
      Option.ne_none_iff_exists'.mp fun none_read => readProcess_none_iff.mp none_read (safe pid member)
    rw [read] at failed
    cases failed
  · refine iff_of_true (by rw [done]; simp) fun pid member => ?_
    by_contra crossed
    have inside := List.mem_map_of_mem
      (f := readProcess checks host inner totalJiffies memTotalKb) member
    rw [readProcess_none_iff.mpr crossed, ← Fallible.map_some_of_mapM read] at inside
    obtain ⟨_, _, same⟩ := List.mem_map.mp inside
    cases same

/-- The processes that are read are those of the directory. -/
theorem pids_perm (kernel : Kernel host (procRoot inner.sysroot) procs) :
    (enumeratePids host (procRoot inner.sysroot) maxPidsPerSample).Perm
      (procs.map Process.pid) := by
  obtain ⟨entries, others, listing, order, unnamed⟩ := kernel.entries
  have own : (procs.map Process.entry).filterMap pidOf = procs.map Process.pid := by
    rw [List.filterMap_map, ← List.filterMap_eq_map]
    exact List.filterMap_congr fun p _ => p.pidOf_entry
  have none_left : others.filterMap pidOf = [] := List.filterMap_eq_nil_iff.mpr unnamed
  have named := order.filterMap pidOf
  rw [List.filterMap_append, own, none_left, List.append_nil] at named
  have few : (entries.filterMap pidOf).length ≤ maxPidsPerSample := by
    rw [named.length_eq, List.length_map]
    exact kernel.few
  unfold enumeratePids
  rw [listing]
  dsimp only
  rw [List.take_of_length_le few]
  exact (List.mergeSort_perm _ _).trans named

/-- The processes whose files are text are read. -/
theorem found_perm (kernel : Kernel host (procRoot inner.sysroot) procs)
    {found : List (Option ProcessInfo)}
    (read : (enumeratePids host (procRoot inner.sysroot) maxPidsPerSample).mapM
      (readProcess checks host inner totalJiffies memTotalKb) = some found) :
    found.Perm (procs.map fun p =>
      if p.IsText then some (p.info inner totalJiffies memTotalKb) else none) := by
  have pairs := (pids_perm kernel).map (readProcess checks host inner totalJiffies memTotalKb)
  have each : (procs.map Process.pid).map
      (readProcess checks host inner totalJiffies memTotalKb) = (procs.map fun p =>
        if p.IsText then some (p.info inner totalJiffies memTotalKb) else none).map some := by
    rw [List.map_map, List.map_map]
    apply List.map_congr_left
    intro p member
    exact Process.readProcess_eq (kernel.stat p member) (kernel.status p member)
  rw [← Fallible.map_some_of_mapM read, each] at pairs
  exact (List.map_perm_map_iff (Option.some_injective _)).mp pairs

/-- The rows of processes whose files are text are complete. -/
theorem complete_of_text (stat : totalCpuJiffies checks host inner.sysroot = .ok totalJiffies)
    (meminfo : totalRamKb host (procRoot inner.sysroot) = .ok memTotalKb)
    (calm : (sampleInner checks host (some inner) listId).1 ≠ .error .panicked)
    (kernel : Kernel host (procRoot inner.sysroot) procs) (text : ∀ p ∈ procs, p.IsText) :
    Complete checks host inner totalJiffies memTotalKb procs := by
  rcases sampleInner_cases stat meminfo with ⟨_, panicked⟩ | ⟨found, sorted, read, order, done⟩
  · exact absurd panicked calm
  have infos : found.reduceOption.Perm (procs.map fun p => p.info inner totalJiffies memTotalKb) := by
    have whole := (found_perm kernel read).filterMap id
    have each : (procs.map fun p => if p.IsText then
        some (p.info inner totalJiffies memTotalKb) else none).filterMap id =
        procs.map fun p => p.info inner totalJiffies memTotalKb := by
      rw [List.filterMap_map, ← List.filterMap_eq_map]
      exact List.filterMap_congr fun p member => if_pos (text p member)
    rw [each] at whole
    exact whole
  refine ⟨_, _, done, ?_, fun p member => ?_⟩
  · have rows := (order.trans infos).map ProcessInfo.row
    rw [List.map_map] at rows
    exact rows
  · have distinct : (found.reduceOption.map ProcessInfo.pid).Nodup := by
      have pids := infos.map ProcessInfo.pid
      rw [List.map_map] at pids
      exact pids.nodup_iff.mpr kernel.distinct
    refine (KeyMap.lookup_foldl_insert ProcessInfo.pid (fun info => (info.cpuJiffies, totalJiffies))
      distinct ∅ p.pid _).mpr (.inl ⟨p.info inner totalJiffies memTotalKb, ?_, rfl, rfl⟩)
    exact infos.mem_iff.mpr (List.mem_map_of_mem member)

/-- Where the rows are complete, the files of all processes are text. -/
theorem text_of_complete (stat : totalCpuJiffies checks host inner.sysroot = .ok totalJiffies)
    (meminfo : totalRamKb host (procRoot inner.sysroot) = .ok memTotalKb)
    (kernel : Kernel host (procRoot inner.sysroot) procs)
    (complete : Complete checks host inner totalJiffies memTotalKb procs) :
    ∀ p ∈ procs, p.IsText := by
  obtain ⟨rows, snapshot, sampled, order, _⟩ := complete
  rcases sampleInner_cases stat meminfo with ⟨_, panicked⟩ | ⟨found, sorted, read, same, done⟩
  · rw [sampled] at panicked
    cases panicked
  have table : rows = sorted.map ProcessInfo.row := by
    rw [sampled] at done
    exact Reading.table.inj (Except.ok.inj (congrArg Prod.fst done))
  have all := found_perm kernel read
  have count : found.reduceOption.length = found.length := by
    rw [← same.length_eq, all.length_eq, List.length_map, ← List.length_map (f := ProcessInfo.row),
      ← table, order.length_eq, List.length_map]
  intro p member
  by_contra bytes
  refine absurd count (ne_of_lt (List.reduceOption_length_lt_iff.mpr (all.mem_iff.mpr ?_)))
  exact List.mem_map.mpr ⟨p, member, if_neg bytes⟩

end Sampling

/-- The process list is complete and a sample does not panic exactly where no text of a listed
process makes it panic, and the names and the status files of the processes are text. -/
theorem lists_iff {checks : Bool} {host : Host} {inner : Inner} {totalJiffies memTotalKb : Nat}
    (stat : totalCpuJiffies checks host inner.sysroot = .ok totalJiffies)
    (meminfo : totalRamKb host (procRoot inner.sysroot) = .ok memTotalKb) :
    Lists checks host inner totalJiffies memTotalKb ↔
      (∀ pid ∈ enumeratePids host (procRoot inner.sysroot) maxPidsPerSample,
        Safe checks host (pidPath (procRoot inner.sysroot) pid "stat")
          (pidPath (procRoot inner.sysroot) pid "status")) ∧
      ∀ procs, Kernel host (procRoot inner.sysroot) procs → ∀ p ∈ procs, p.IsText := by
  rw [Lists, sample_panics_iff stat meminfo]
  refine and_congr_right fun safe => forall_congr' fun procs => forall_congr' fun kernel => ?_
  have calm := (sample_panics_iff stat meminfo).mpr safe
  exact ⟨text_of_complete stat meminfo kernel, complete_of_text stat meminfo calm kernel⟩

/-- A host with one process. -/
def hostOf (stat status : List UInt8) : Host where
  readDir := fun _ => some [some (Utf8.ascii ['7']), some (Utf8.ascii "self".toList)]
  read := fun path =>
    if path = "/proc/7/stat" then .ok stat
    else if path = "/proc/7/status" then .ok status
    else if path = "/proc/stat" then .ok (Utf8.ascii "cpu 1 2 3 4 5 6 7 8\n".toList)
    else if path = "/proc/meminfo" then .ok (Utf8.ascii "MemTotal: 100 kB\n".toList)
    else .error "No such file or directory (os error 2)"

/-- The process with this name. -/
def named (comm : List UInt8) (short : comm.length ≤ 15) : Process where
  pid := 7
  pid_pos := by decide
  pid_small := by decide
  comm
  comm_short := short
  state := ⟨['S'], by decide, List.forall_mem_singleton.mpr (by decide)⟩
  others := List.replicate 10 (.number 0)
  ten := rfl
  utime := 2
  stime := 3
  fits := by decide
  more := [.number 20, .number 0]
  enough := le_rfl
  status := Utf8.ascii "VmRSS:\t10 kB\nThreads:\t1\n".toList
  rss_fits := by
    intro text read
    have known : Utf8.decode (Utf8.ascii "VmRSS:\t10 kB\nThreads:\t1\n".toList) =
      some "VmRSS:\t10 kB\nThreads:\t1\n".toList := by decide +kernel
    rw [known] at read
    cases read
    decide +kernel

def started : Inner := ⟨none, none, 0, 1⟩

/-- The host of one process with this name. -/
def hostNamed (comm : List UInt8) (short : comm.length ≤ 15) : Host :=
  hostOf (named comm short).statBytes (named comm short).status

/-- A name with parentheses, a space and a line feed. -/
theorem lists_iff_odd_name :
    Lists true (hostNamed (Utf8.ascii ") (\n)".toList) (by decide)) started 36 100 := by
  have pids : enumeratePids (hostNamed (Utf8.ascii ") (\n)".toList) (by decide)) "/proc"
      maxPidsPerSample = [7] := by
    decide +kernel
  refine (@lists_iff _ _ started _ _ (by decide +kernel) (by decide +kernel)).mpr
    ⟨fun pid member => ?_, fun procs kernel p member => ?_⟩
  · change pid ∈ enumeratePids _ "/proc" maxPidsPerSample at member
    rw [pids, List.mem_singleton] at member
    subst member
    by_contra crossed
    have panicked := (@readProcess_none_iff _ _ started 36 100 7).mpr crossed
    rw [← Option.isNone_iff_eq_none] at panicked
    exact absurd panicked (by decide +kernel)
  · have listed := (pids_perm kernel).mem_iff.mpr (List.mem_map_of_mem member)
    change p.pid ∈ enumeratePids _ "/proc" maxPidsPerSample at listed
    rw [pids, List.mem_singleton] at listed
    have stat := kernel.stat p member
    have status := kernel.status p member
    rw [listed] at stat status
    have stat_eq : (named (Utf8.ascii ") (\n)".toList) (by decide)).statBytes = p.statBytes :=
      Except.ok.inj ((by decide +kernel : _ = _).trans stat)
    have status_eq : (named (Utf8.ascii ") (\n)".toList) (by decide)).status = p.status :=
      Except.ok.inj ((by decide +kernel : _ = _).trans status)
    have text : (Utf8.decode p.statBytes).isSome = true := by
      rw [← stat_eq]
      decide +kernel
    rw [p.decode_statBytes, Option.isSome_map] at text
    refine ⟨text, ?_⟩
    rw [← status_eq]
    decide +kernel

theorem kernel_hostNamed : Kernel (hostNamed [0xFF] (by decide)) "/proc"
    [named [0xFF] (by decide)] where
  entries := ⟨_, [some (Utf8.ascii "self".toList)], rfl, .refl _, by decide +kernel⟩
  distinct := by decide
  few := by decide
  stat := List.forall_mem_singleton.mpr (by decide +kernel)
  status := List.forall_mem_singleton.mpr (by decide +kernel)

/-- A name that is no text leaves its process out, and a text of a stat file ends the sample. -/
theorem bytes_left_out :
    (Kernel (hostNamed [0xFF] (by decide)) "/proc" [named [0xFF] (by decide)] ∧
      (sampleInner false (hostNamed [0xFF] (by decide)) (some started) listId).1 =
        .ok (.table []) ∧
      ¬ Lists false (hostNamed [0xFF] (by decide)) started 36 100) ∧
    (sampleInner false (hostOf (Utf8.ascii ")(".toList) []) (some started) listId).1 =
      .error .panicked ∧
    ¬ Lists false (hostOf (Utf8.ascii ")(".toList) []) started 36 100 := by
  have sampled : (sampleInner false (hostNamed [0xFF] (by decide)) (some started) listId).1 =
      .ok (.table []) := by
    decide +kernel
  have panicked : (sampleInner false (hostOf (Utf8.ascii ")(".toList) []) (some started)
      listId).1 = .error .panicked := by
    decide +kernel
  refine ⟨⟨kernel_hostNamed, sampled, fun lists => ?_⟩, panicked, fun lists => lists.1 panicked⟩
  obtain ⟨rows, snapshot, done, order, _⟩ := lists.2 _ kernel_hostNamed
  rw [done] at sampled
  have empty : rows = [] := Reading.table.inj (Except.ok.inj sampled)
  rw [empty] at order
  exact absurd order.length_eq (by decide)

end LinSight.ProcList
