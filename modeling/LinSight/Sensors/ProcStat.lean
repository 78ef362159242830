import LinSight.Core.Types
import LinSight.Library.Words

set_option autoImplicit false

/-! The per-core counters of `/proc/stat`. -/

namespace LinSight.ProcStat

open Words (words stripPrefix lines parseUnsigned Numeral)

inductive StatError where
  | missingAggregate
  | tooShort
  | badNumber (field : String)
  | io (message : String)
deriving DecidableEq

structure CoreStat where
  user : Nat
  nice : Nat
  system : Nat
  idle : Nat
  iowait : Nat
  irq : Nat
  softirq : Nat
  steal : Nat
deriving DecidableEq

def cpu : List Char := ['c', 'p', 'u']

def u32Bound : Nat := 4294967296

/-- `char::is_ascii_whitespace`. -/
def isAsciiWhitespace (c : Char) : Bool :=
  c = ' ' || c = '\t' || c = '\n' || c = '\x0C' || c = '\r'

/-- The next word as a number, and the words after it. -/
def parseField : List (List Char) → Except StatError (Nat × List (List Char))
  | [] => .error .tooShort
  | tok :: it =>
      match parseUnsigned u64Bound tok with
      | some n => .ok (n, it)
      | none => .error (.badNumber (String.ofList tok))

def parseCoreStat (line : List Char) : Except StatError CoreStat :=
  match words isWhitespace line with
  | [] => .error .missingAggregate
  | _ :: it => do
      let (user, it) ← parseField it
      let (nice, it) ← parseField it
      let (system, it) ← parseField it
      let (idle, it) ← parseField it
      let (iowait, it) ← parseField it
      let (irq, it) ← parseField it
      let (softirq, it) ← parseField it
      let (steal, _) ← parseField it
      return { user, nice, system, idle, iowait, irq, softirq, steal }

/-- One turn of the loop of `parse_core_stats`. -/
def parseCoreLine (line : List Char) : Except StatError (Option (Nat × CoreStat)) :=
  let trimmed := Words.trim isWhitespace line
  match stripPrefix cpu trimmed with
  | none | some [] => .ok none
  | some (c :: digits) =>
      if c.isDigit then
        -- one digit is stripped, and what follows it must be blank
        if !digits.isEmpty && !(digits.head?.any isAsciiWhitespace) then .ok none
        else
          match (words isWhitespace (c :: digits)).head?.bind (parseUnsigned u32Bound) with
          | none => .error (.badNumber (String.ofList trimmed))
          | some idx => (parseCoreStat trimmed).map fun stat => some (idx, stat)
      else .ok none

/-- The loop, which the first error ends. -/
def parseCoreLines : List (List Char) → Except StatError (List (Nat × CoreStat))
  | [] => .ok []
  | line :: rest => do
      let found ← parseCoreLine line
      let others ← parseCoreLines rest
      return found.toList ++ others

def parseCoreStats (s : String) : Except StatError (List (Nat × CoreStat)) := do
  let cores ← parseCoreLines (lines s.toList)
  return cores.insertionSort fun a b => a.1 ≤ b.1

/-- The content of `path`, or the error of reading it. -/
def readProcCoreStats (path : String) (content : Except String String) :
    Except StatError (List (Nat × CoreStat)) :=
  match content with
  | .ok content => parseCoreStats content
  | .error e => .error (.io s!"reading {path}: {e}")

/-- A line of a core: its number in digits, a space, and at least eight counters. -/
structure CoreLine where
  core : Numeral
  user : Numeral
  nice : Numeral
  system : Numeral
  idle : Numeral
  iowait : Numeral
  irq : Numeral
  softirq : Numeral
  steal : Numeral
  small : ∀ n ∈ [user, nice, system, idle, iowait, irq, softirq, steal], n.value < u64Bound
  tail : List Char
  more : List (List Char)
  counters : words isWhitespace tail =
    [user.chars, nice.chars, system.chars, idle.chars, iowait.chars, irq.chars, softirq.chars,
      steal.chars] ++ more

namespace CoreLine

def line (l : CoreLine) : List Char := cpu ++ l.core.chars ++ ' ' :: l.tail

def stat (l : CoreLine) : CoreStat where
  user := l.user.value
  nice := l.nice.value
  system := l.system.value
  idle := l.idle.value
  iowait := l.iowait.value
  irq := l.irq.value
  softirq := l.softirq.value
  steal := l.steal.value

def entry (l : CoreLine) : Nat × CoreStat := (l.core.value, l.stat)

end CoreLine

/-- The first word of the line names a core. -/
def NamesCore (line : List Char) : Prop :=
  ∃ n : Numeral, (words isWhitespace line).head? = some (cpu ++ n.chars)

/-- A text of the kernel: the aggregate line, a line for each core, and others. -/
structure StatText where
  text : String
  aggregate : List Char
  cores : List CoreLine
  others : List (List Char)
  layout : lines text.toList =
    (cpu ++ ' ' :: aggregate) :: (cores.map CoreLine.line ++ others)
  distinct : (cores.map fun l => l.core.value).Nodup
  unnamed : ∀ line ∈ others, ¬ NamesCore line

/-- Each core is returned with its counters, in order of the cores, and nothing else. -/
def Complete (t : StatText) : Prop :=
  ∃ found, parseCoreStats t.text = .ok found ∧ found.Perm (t.cores.map CoreLine.entry) ∧
    found.Pairwise fun a b => a.1 < b.1

section Fields

theorem parseField_numeral (n : Numeral) (small : n.value < u64Bound) (it : List (List Char)) :
    parseField (n.chars :: it) = .ok (n.value, it) := by
  rw [parseField, n.parse small]

theorem not_isWhitespace (n : Numeral) : ∀ c ∈ n.chars, isWhitespace c = false :=
  fun c member => isWhitespace_of_isDigit (n.digits c member)

theorem not_isWhitespace_cpu : ∀ c ∈ cpu, isWhitespace c = false := by
  simp [cpu, isWhitespace]

theorem isWhitespace_space : isWhitespace ' ' = true := by decide

variable (l : CoreLine)

/-- What is left of a core's line when its end is trimmed. -/
def CoreLine.trimmedTail (l : CoreLine) : List Char := l.tail.rdropWhile isWhitespace

theorem CoreLine.trim_line :
    Words.trim isWhitespace l.line = cpu ++ (l.core.chars ++ ' ' :: l.trimmedTail) := by
  have some_word : words isWhitespace l.tail ≠ [] := by
    rw [l.counters]
    exact List.cons_ne_nil _ _
  have split : l.line = (cpu ++ l.core.chars ++ [' ']) ++ l.tail := by
    simp only [CoreLine.line, List.append_assoc, List.cons_append, List.nil_append]
  have plain : isWhitespace 'c' = false := not_isWhitespace_cpu 'c' List.mem_cons_self
  have front : l.line.dropWhile isWhitespace = l.line := by
    simp only [CoreLine.line, cpu, List.cons_append, List.dropWhile_cons, plain,
      Bool.false_eq_true, if_false]
  rw [Words.trim, front, split, Words.rdropWhile_append some_word]
  simp only [CoreLine.trimmedTail, List.append_assoc, List.cons_append, List.nil_append]

theorem CoreLine.parseCoreStat_trim :
    parseCoreStat (Words.trim isWhitespace l.line) = .ok l.stat := by
  have name : words isWhitespace (Words.trim isWhitespace l.line) =
      (cpu ++ l.core.chars) :: words isWhitespace l.tail := by
    rw [Words.words_trim]
    refine Words.words_word_append (List.cons_ne_nil _ _) ?_ isWhitespace_space l.tail
    exact List.forall_mem_append.mpr ⟨not_isWhitespace_cpu, not_isWhitespace l.core⟩
  have small := l.small
  simp only [List.mem_cons, List.not_mem_nil, or_false, forall_eq_or_imp, forall_eq] at small
  obtain ⟨user, nice, system, idle, iowait, irq, softirq, steal⟩ := small
  unfold parseCoreStat
  rw [name, l.counters]
  simp only [List.cons_append, List.nil_append, bind, Except.bind, pure, Except.pure,
    parseField_numeral l.user user, parseField_numeral l.nice nice,
    parseField_numeral l.system system, parseField_numeral l.idle idle,
    parseField_numeral l.iowait iowait, parseField_numeral l.irq irq,
    parseField_numeral l.softirq softirq, parseField_numeral l.steal steal]
  rfl

end Fields

section Lines

theorem isWhitespace_of_ascii {c : Char} (blank : isAsciiWhitespace c = true) :
    isWhitespace c = true := by
  simp only [isAsciiWhitespace, Bool.or_eq_true, decide_eq_true_eq] at blank
  rcases blank with (((rfl | rfl) | rfl) | rfl) | rfl <;> decide

theorem not_ascii_of_not_isWhitespace {c : Char} (plain : isWhitespace c = false) :
    isAsciiWhitespace c = false := by
  rw [Bool.eq_false_iff]
  intro blank
  rw [isWhitespace_of_ascii blank] at plain
  cases plain

/-- A core is found where its number has one digit, and skipped elsewhere. -/
theorem parseCoreLine_core (l : CoreLine) : parseCoreLine l.line =
    .ok (if l.core.chars.length = 1 then some l.entry else none) := by
  obtain ⟨c, digits, chars⟩ := List.exists_cons_of_ne_nil l.core.nonempty
  have digit : c.isDigit = true := l.core.digits c (by rw [chars]; exact List.mem_cons_self)
  have trimmed := l.trim_line
  have stripped : stripPrefix cpu (Words.trim isWhitespace l.line) =
      some (c :: (digits ++ ' ' :: l.trimmedTail)) := by
    rw [trimmed, Words.stripPrefix_append, chars, List.cons_append]
  unfold parseCoreLine
  simp only [stripped, if_pos digit]
  cases digits with
  | nil =>
      have single : l.core.chars.length = 1 := by rw [chars]; rfl
      have first : (words isWhitespace (c :: ([] ++ ' ' :: l.trimmedTail))).head? =
          some l.core.chars := by
        have word := Words.words_word_append l.core.nonempty (not_isWhitespace l.core)
          isWhitespace_space l.trimmedTail
        rw [chars] at word
        rw [chars]
        exact congrArg List.head? word
      have bounded : l.core.value < u32Bound :=
        (Words.Numeral.value_lt_of_single single).trans (by decide)
      have ends : (!([] ++ ' ' :: l.trimmedTail).isEmpty &&
          !([] ++ ' ' :: l.trimmedTail).head?.any isAsciiWhitespace) = false := rfl
      simp only [first, Option.bind_some, l.core.parse bounded, l.parseCoreStat_trim, ends,
        Bool.false_eq_true, if_false, if_pos single]
      rfl
  | cons d more =>
      have inside : d ∈ l.core.chars := by
        rw [chars]
        exact List.mem_cons_of_mem _ List.mem_cons_self
      have second : isAsciiWhitespace d = false :=
        not_ascii_of_not_isWhitespace (not_isWhitespace l.core d inside)
      have several : l.core.chars.length ≠ 1 := by
        rw [chars]
        exact fun single => Nat.succ_ne_zero _ (Nat.succ.inj single)
      have skipped : (!(d :: more ++ ' ' :: l.trimmedTail).isEmpty &&
          !(d :: more ++ ' ' :: l.trimmedTail).head?.any isAsciiWhitespace) = true := by
        simp only [List.cons_append, List.isEmpty_cons, List.head?_cons, Option.any_some, second,
          Bool.not_false, Bool.and_self]
      rw [if_pos skipped, if_neg several]

/-- A trimmed line that goes on after `cpu` and a digit with a blank, or ends, names a core. -/
theorem parseCoreLine_unnamed {line : List Char} (unnamed : ¬ NamesCore line) :
    parseCoreLine line = .ok none := by
  unfold parseCoreLine
  dsimp only
  split
  · rfl
  · rfl
  · rename_i c digits stripped
    split
    · rename_i digit
      split
      · rfl
      · rename_i ends
        refine absurd ⟨⟨[c], List.cons_ne_nil _ _, by simpa using digit⟩, ?_⟩ unnamed
        have plain : ∀ x ∈ cpu ++ [c], isWhitespace x = false :=
          List.forall_mem_append.mpr
            ⟨not_isWhitespace_cpu, by simpa using isWhitespace_of_isDigit digit⟩
        have nonempty : cpu ++ [c] ≠ [] := List.cons_ne_nil _ _
        rw [← Words.words_trim, Words.of_stripPrefix stripped]
        cases digits with
        | nil =>
            have word := Words.words_word nonempty plain
            exact congrArg List.head? word
        | cons d more =>
            have blank : isAsciiWhitespace d = true := by simpa using ends
            have word := Words.words_word_append nonempty plain
              (isWhitespace_of_ascii blank) more
            rw [List.append_assoc] at word
            exact congrArg List.head? word
    · rfl

/-- The aggregate line names none. -/
theorem aggregate_unnamed (tail : List Char) : ¬ NamesCore (cpu ++ ' ' :: tail) := by
  rintro ⟨n, first⟩
  have some_char : cpu ≠ [] := by decide
  rw [Words.words_word_append some_char not_isWhitespace_cpu isWhitespace_space,
    List.head?_cons, Option.some.injEq] at first
  have empty : n.chars = [] := by
    have lengths := congrArg List.length first
    rw [List.length_append] at lengths
    exact List.eq_nil_of_length_eq_zero (by omega)
  exact n.nonempty empty

/-- The loop finds the cores that have one digit. -/
theorem parseCoreLines_unnamed {rest : List (List Char)}
    (unnamed : ∀ line ∈ rest, ¬ NamesCore line) : parseCoreLines rest = .ok [] := by
  induction rest with
  | nil => rfl
  | cons line rest ih =>
      have later := ih fun other member => unnamed other (List.mem_cons_of_mem line member)
      rw [parseCoreLines, parseCoreLine_unnamed (unnamed line List.mem_cons_self), later]
      rfl

theorem parseCoreLines_cores (cores : List CoreLine) {others : List (List Char)}
    (unnamed : ∀ line ∈ others, ¬ NamesCore line) :
    parseCoreLines (cores.map CoreLine.line ++ others) =
      .ok ((cores.filter fun l => l.core.chars.length = 1).map CoreLine.entry) := by
  induction cores with
  | nil => exact parseCoreLines_unnamed unnamed
  | cons l rest ih =>
      rw [List.map_cons, List.cons_append, parseCoreLines, parseCoreLine_core, ih]
      by_cases single : l.core.chars.length = 1
      · simp only [single, if_true, List.filter_cons, decide_true]
        rfl
      · simp only [single, if_false, List.filter_cons, decide_false, Bool.false_eq_true]
        rfl

theorem parseCoreStats_eq (t : StatText) : parseCoreStats t.text =
    .ok (((t.cores.filter fun l => l.core.chars.length = 1).map CoreLine.entry).insertionSort
      fun a b => a.1 ≤ b.1) := by
  have loop := parseCoreLines_cores t.cores t.unnamed
  rw [parseCoreStats, t.layout, parseCoreLines,
    parseCoreLine_unnamed (aggregate_unnamed t.aggregate), loop]
  rfl

end Lines

/-- All cores are returned where each number has one digit, and only there. -/
theorem complete_iff (t : StatText) :
    Complete t ↔ ∀ l ∈ t.cores, l.core.chars.length = 1 := by
  have perm := List.perm_insertionSort (fun a b : Nat × CoreStat => a.1 ≤ b.1)
    ((t.cores.filter fun l => l.core.chars.length = 1).map CoreLine.entry)
  constructor
  · rintro ⟨found, parsed, all, _⟩
    rw [parseCoreStats_eq, Except.ok.injEq] at parsed
    rw [← parsed] at all
    have lengths := (perm.symm.trans all).length_eq
    rw [List.length_map, List.length_map] at lengths
    have every := List.length_filter_eq_length_iff.mp lengths
    exact fun l member => of_decide_eq_true (every l member)
  · intro single
    have every : (t.cores.filter fun l => l.core.chars.length = 1) = t.cores :=
      List.filter_eq_self.mpr fun l member => decide_eq_true (single l member)
    have parsed := parseCoreStats_eq t
    rw [every] at perm parsed
    refine ⟨_, parsed, perm, ?_⟩
    have total : Std.Total fun a b : Nat × CoreStat => a.1 ≤ b.1 := ⟨fun a b => le_total a.1 b.1⟩
    have trans : IsTrans (Nat × CoreStat) fun a b => a.1 ≤ b.1 :=
      ⟨fun _ _ _ first second => le_trans first second⟩
    have sorted := List.pairwise_insertionSort (fun a b : Nat × CoreStat => a.1 ≤ b.1)
      (t.cores.map CoreLine.entry)
    have distinct : (t.cores.map CoreLine.entry).Pairwise fun a b => a.1 ≠ b.1 := by
      rw [List.pairwise_map]
      exact List.pairwise_map.mp t.distinct
    have apart := (perm.pairwise_iff fun {a b} differ same => differ same.symm).mpr distinct
    exact (sorted.and apart).imp fun order => lt_of_le_of_ne order.1 order.2

def zero : Numeral := ⟨['0'], List.cons_ne_nil _ _, by simp⟩

/-- Eight zeros after a number of two digits. -/
def core10 : CoreLine where
  core := ⟨['1', '0'], List.cons_ne_nil _ _, by simp⟩
  user := zero
  nice := zero
  system := zero
  idle := zero
  iowait := zero
  irq := zero
  softirq := zero
  steal := zero
  small := by decide
  tail := "0 0 0 0 0 0 0 0".toList
  more := []
  counters := by decide

/-- The aggregate line and the line of core 10. -/
def core10Text : StatText where
  text := "cpu 0\ncpu10 0 0 0 0 0 0 0 0\n"
  aggregate := ['0']
  cores := [core10]
  others := []
  layout := by decide
  distinct := List.nodup_singleton _
  unnamed := nofun

/-- Core 10 is lost. -/
theorem core10_lost : ¬ Complete core10Text := by
  rintro ⟨found, parsed, all, _⟩
  have none : parseCoreStats core10Text.text = .ok [] := by decide
  rw [none, Except.ok.injEq] at parsed
  rw [← parsed] at all
  exact absurd all.length_eq (by decide)

end LinSight.ProcStat
