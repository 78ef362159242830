import Mathlib

set_option autoImplicit false

/-! The Prometheus text format: how a page is read, and when what was read is well formed. -/

namespace Exposition

/-- A label's name and value. -/
abbrev Label := List Char × List Char

inductive MetricType where
  | counter
  | gauge
  | histogram
  | summary
  | untyped
deriving DecidableEq

structure Sample where
  metric : List Char
  labels : List Label
  value : List Char
  timestamp : Option Int
deriving DecidableEq

inductive Line where
  | blank
  | comment
  | help (metric doc : List Char)
  | type (metric : List Char) (kind : MetricType)
  | sample (sample : Sample)
deriving DecidableEq

/-! ### Reading -/

def isBlank (c : Char) : Bool := c = ' ' || c = '\t'

def skipBlanks (s : List Char) : List Char := s.dropWhile isBlank

def token (s : List Char) : List Char := s.takeWhile (!isBlank ·)

def afterToken (s : List Char) : List Char := s.dropWhile (!isBlank ·)

def isLabelStart (c : Char) : Bool := c.isAlpha || c = '_'

def isLabelChar (c : Char) : Bool := isLabelStart c || c.isDigit

def isMetricStart (c : Char) : Bool := isLabelStart c || c = ':'

def isMetricChar (c : Char) : Bool := isMetricStart c || c.isDigit

def isLabelName : List Char → Bool
  | [] => false
  | c :: rest => isLabelStart c && rest.all isLabelChar

def isMetricName : List Char → Bool
  | [] => false
  | c :: rest => isMetricStart c && rest.all isMetricChar

/-- The text of a HELP line. -/
def unescapeDoc : List Char → Option (List Char)
  | [] => some []
  | '\\' :: '\\' :: rest => (unescapeDoc rest).map ('\\' :: ·)
  | '\\' :: 'n' :: rest => (unescapeDoc rest).map ('\n' :: ·)
  | '\\' :: _ => none
  | c :: rest => (unescapeDoc rest).map (c :: ·)

/-- A label value up to its closing quote. -/
def readLabelValue : List Char → Option (List Char × List Char)
  | [] => none
  | '"' :: rest => some ([], rest)
  | '\\' :: '\\' :: rest => (readLabelValue rest).map fun read => ('\\' :: read.1, read.2)
  | '\\' :: '"' :: rest => (readLabelValue rest).map fun read => ('"' :: read.1, read.2)
  | '\\' :: 'n' :: rest => (readLabelValue rest).map fun read => ('\n' :: read.1, read.2)
  | '\\' :: _ => none
  | c :: rest => (readLabelValue rest).map fun read => (c :: read.1, read.2)

/-- The labels behind an opening brace. Every label takes some of the fuel. -/
def readLabels : Nat → List Char → Option (List Label × List Char)
  | 0, _ => none
  | fuel + 1, s =>
      match skipBlanks s with
      | '}' :: rest => some ([], rest)
      | s =>
          let name := s.takeWhile isLabelChar
          if isLabelName name then
            match skipBlanks (s.dropWhile isLabelChar) with
            | '=' :: rest =>
                match skipBlanks rest with
                | '"' :: rest =>
                    (readLabelValue rest).bind fun (value, rest) =>
                      match skipBlanks rest with
                      | ',' :: rest =>
                          (readLabels fuel rest).map fun read => ((name, value) :: read.1, read.2)
                      | '}' :: rest => some ([(name, value)], rest)
                      | _ => none
                | _ => none
            | _ => none
          else none

/-- Digits with an optional fraction and an optional exponent. -/
def isDecimal (s : List Char) : Bool :=
  let whole := s.takeWhile Char.isDigit
  let (fraction, rest) :=
    match s.dropWhile Char.isDigit with
    | '.' :: rest => (rest.takeWhile Char.isDigit, rest.dropWhile Char.isDigit)
    | rest => ([], rest)
  let exponent (digits : List Char) : Bool := digits ≠ [] && digits.all Char.isDigit
  whole ++ fraction ≠ [] &&
    match rest with
    | [] => true
    | e :: '+' :: digits | e :: '-' :: digits => (e = 'e' || e = 'E') && exponent digits
    | e :: digits => (e = 'e' || e = 'E') && exponent digits

def isFloat (s : List Char) : Bool :=
  let unsigned :=
    match s with
    | '+' :: rest | '-' :: rest => rest
    | _ => s
  let word := unsigned.map Char.toLower
  s.map Char.toLower = ['n', 'a', 'n'] || word = ['i', 'n', 'f'] ||
    word = ['i', 'n', 'f', 'i', 'n', 'i', 't', 'y'] || isDecimal unsigned

def readTimestamp (s : List Char) : Option Int :=
  match s with
  | '-' :: digits =>
      if digits ≠ [] ∧ digits.all Char.isDigit then
        some (-(Nat.ofDigitChars 10 digits 0 : Int))
      else none
  | digits =>
      if digits ≠ [] ∧ digits.all Char.isDigit then some (Nat.ofDigitChars 10 digits 0) else none

/-- The value and the timestamp of a sample. -/
def readValue (metric : List Char) (labels : List Label) (s : List Char) : Option Line :=
  let s := skipBlanks s
  let value := token s
  let rest := skipBlanks (afterToken s)
  if isFloat value then
    if rest = [] then some (.sample ⟨metric, labels, value, none⟩)
    else if skipBlanks (afterToken rest) = [] then
      (readTimestamp (token rest)).map fun time => .sample ⟨metric, labels, value, some time⟩
    else none
  else none

def readSample (s : List Char) : Option Line :=
  let metric := s.takeWhile isMetricChar
  if isMetricName metric then
    match skipBlanks (s.dropWhile isMetricChar) with
    | '{' :: inner => (readLabels (inner.length + 1) inner).bind fun (labels, rest) =>
        readValue metric labels rest
    | rest => readValue metric [] rest
  else none

def metricType (s : List Char) : Option MetricType :=
  if s = ['c', 'o', 'u', 'n', 't', 'e', 'r'] then some .counter
  else if s = ['g', 'a', 'u', 'g', 'e'] then some .gauge
  else if s = ['h', 'i', 's', 't', 'o', 'g', 'r', 'a', 'm'] then some .histogram
  else if s = ['s', 'u', 'm', 'm', 'a', 'r', 'y'] then some .summary
  else if s = ['u', 'n', 't', 'y', 'p', 'e', 'd'] then some .untyped
  else none

/-- What stands behind a `#`. -/
def readComment (s : List Char) : Option Line :=
  let s := skipBlanks s
  let rest := skipBlanks (afterToken s)
  let metric := token rest
  let rest := skipBlanks (afterToken rest)
  if token s = ['H', 'E', 'L', 'P'] then
    if isMetricName metric then (unescapeDoc rest).map (.help metric) else none
  else if token s = ['T', 'Y', 'P', 'E'] then
    if isMetricName metric ∧ skipBlanks (afterToken rest) = [] then
      (metricType (token rest)).map (.type metric)
    else none
  else some .comment

def readLine (s : List Char) : Option Line :=
  match skipBlanks s with
  | [] => some .blank
  | '#' :: rest => readComment rest
  | s => readSample s

/-- The lines of a page, each of which ends with a line feed. -/
def readPage (text : List Char) : Option (List Line) :=
  let pieces := text.splitOn '\n'
  if pieces.getLast? = some [] then pieces.dropLast.mapM readLine else none

/-! ### Well-formed pages -/

namespace Line

def help? : Line → Option (List Char)
  | help metric _ => some metric
  | _ => none

def type? : Line → Option (List Char)
  | type metric _ => some metric
  | _ => none

def sample? : Line → Option Sample
  | sample s => some s
  | _ => none

/-- The metric that a line is about. -/
def metric? : Line → Option (List Char)
  | blank | comment => none
  | help metric _ | type metric _ => some metric
  | sample s => some s.metric

end Line

/-- The list goes through each of its values in one run. -/
def Contiguous {α : Type} [DecidableEq α] : List α → Prop
  | [] => True
  | a :: rest => a ∉ rest.dropWhile (· = a) ∧ Contiguous rest

def SameLabels (a b : Sample) : Prop := ∀ label, label ∈ a.labels ↔ label ∈ b.labels

structure WellFormed (lines : List Line) : Prop where
  oneHelp : (lines.filterMap Line.help?).Nodup
  oneType : (lines.filterMap Line.type?).Nodup
  /-- No TYPE line follows a sample of its metric. -/
  typeFirst : lines.Pairwise fun earlier later =>
    ∀ s, earlier.sample? = some s → later.type? ≠ some s.metric
  contiguous : Contiguous (lines.filterMap Line.metric?)
  distinct : (lines.filterMap Line.sample?).Pairwise fun a b =>
    a.metric = b.metric → ¬ SameLabels a b

section Contiguous

variable {α : Type} [DecidableEq α] {a : α} {front back : List α}

omit [DecidableEq α] in
theorem mem_dropWhile_append {p : α → Bool} (member : a ∈ (front ++ back).dropWhile p) :
    a ∈ front.dropWhile p ∨ a ∈ back := by
  rw [List.dropWhile_append] at member
  split at member
  · exact .inr ((List.dropWhile_suffix p).subset member)
  · exact List.mem_append.mp member

theorem Contiguous.right (contiguous : Contiguous (front ++ back)) : Contiguous back := by
  induction front with
  | nil => exact contiguous
  | cons first rest ih => exact ih contiguous.2

theorem Contiguous.left (contiguous : Contiguous (front ++ back)) : Contiguous front := by
  induction front with
  | nil => trivial
  | cons first rest ih =>
      refine ⟨fun member => contiguous.1 ?_, ih contiguous.2⟩
      have nonempty : rest.dropWhile (· = first) ≠ [] := List.ne_nil_of_mem member
      rw [List.append_eq, List.dropWhile_append, if_neg (by simpa using nonempty)]
      exact List.mem_append_left back member

theorem Contiguous.append (first : Contiguous front) (second : Contiguous back)
    (disjoint : ∀ a ∈ front, a ∉ back) : Contiguous (front ++ back) := by
  induction front with
  | nil => exact second
  | cons a rest ih =>
      have later := (List.forall_mem_cons.mp disjoint).2
      refine ⟨fun member => ?_, ih first.2 later⟩
      rcases mem_dropWhile_append member with inside | inside
      · exact first.1 inside
      · exact disjoint a List.mem_cons_self inside

/-- A run that ends as it starts has nothing else in it. -/
theorem Contiguous.eq_of_mem {between : List α}
    (contiguous : Contiguous (a :: (between ++ [a]))) : ∀ b ∈ between, b = a := by
  intro b member
  by_contra other
  refine contiguous.1 ?_
  have nonempty : between.dropWhile (· = a) ≠ [] := fun empty =>
    other (of_decide_eq_true (List.dropWhile_eq_nil_iff.mp empty b member))
  rw [List.dropWhile_append, if_neg (by simpa using nonempty)]
  exact List.mem_append_right _ List.mem_cons_self

theorem contiguous_of_forall_eq (same : ∀ b ∈ front, b = a) : Contiguous front := by
  induction front with
  | nil => trivial
  | cons first rest ih =>
      obtain ⟨here, later⟩ := List.forall_mem_cons.mp same
      refine ⟨?_, ih later⟩
      have gone : rest.dropWhile (· = first) = [] :=
        List.dropWhile_eq_nil_iff.mpr fun b member =>
          decide_eq_true ((later b member).trans here.symm)
      rw [gone]
      exact List.not_mem_nil

end Contiguous

section Blocks

variable {front back lines : List Line} {metric : List Char}

/-- The metrics that the lines are about. -/
def metrics (lines : List Line) : List (List Char) := lines.filterMap Line.metric?

theorem Line.metric_of_help {line : Line} (help : line.help? = some metric) :
    line.metric? = some metric := by
  cases line <;> cases help
  rfl

theorem Line.metric_of_type {line : Line} (type : line.type? = some metric) :
    line.metric? = some metric := by
  cases line <;> cases type
  rfl

theorem Line.metric_of_sample {line : Line} {s : Sample} (sample : line.sample? = some s) :
    line.metric? = some s.metric := by
  cases line <;> cases sample
  rfl

theorem mem_metrics_of_help (member : metric ∈ lines.filterMap Line.help?) :
    metric ∈ metrics lines := by
  obtain ⟨line, inside, help⟩ := List.mem_filterMap.mp member
  exact List.mem_filterMap.mpr ⟨line, inside, Line.metric_of_help help⟩

theorem mem_metrics_of_type (member : metric ∈ lines.filterMap Line.type?) :
    metric ∈ metrics lines := by
  obtain ⟨line, inside, type⟩ := List.mem_filterMap.mp member
  exact List.mem_filterMap.mpr ⟨line, inside, Line.metric_of_type type⟩

theorem mem_metrics_of_sample {s : Sample} (member : s ∈ lines.filterMap Line.sample?) :
    s.metric ∈ metrics lines := by
  obtain ⟨line, inside, sample⟩ := List.mem_filterMap.mp member
  exact List.mem_filterMap.mpr ⟨line, inside, Line.metric_of_sample sample⟩

theorem wellFormed_nil : WellFormed [] :=
  ⟨List.nodup_nil, List.nodup_nil, .nil, trivial, .nil⟩

theorem WellFormed.left (formed : WellFormed (front ++ back)) : WellFormed front := by
  obtain ⟨oneHelp, oneType, typeFirst, contiguous, distinct⟩ := formed
  rw [List.filterMap_append] at oneHelp oneType contiguous distinct
  exact ⟨(List.nodup_append.mp oneHelp).1, (List.nodup_append.mp oneType).1,
    (List.pairwise_append.mp typeFirst).1, contiguous.left, (List.pairwise_append.mp distinct).1⟩

theorem WellFormed.right (formed : WellFormed (front ++ back)) : WellFormed back := by
  obtain ⟨oneHelp, oneType, typeFirst, contiguous, distinct⟩ := formed
  rw [List.filterMap_append] at oneHelp oneType contiguous distinct
  exact ⟨(List.nodup_append.mp oneHelp).2.1, (List.nodup_append.mp oneType).2.1,
    (List.pairwise_append.mp typeFirst).2.1, contiguous.right,
    (List.pairwise_append.mp distinct).2.1⟩

/-- Pages about different metrics can follow each other. -/
theorem WellFormed.append (first : WellFormed front) (second : WellFormed back)
    (disjoint : ∀ metric ∈ metrics front, metric ∉ metrics back) :
    WellFormed (front ++ back) where
  oneHelp := by
    rw [List.filterMap_append, List.nodup_append]
    refine ⟨first.oneHelp, second.oneHelp, fun metric member other later same => ?_⟩
    exact disjoint metric (mem_metrics_of_help member) (same ▸ mem_metrics_of_help later)
  oneType := by
    rw [List.filterMap_append, List.nodup_append]
    refine ⟨first.oneType, second.oneType, fun metric member other later same => ?_⟩
    exact disjoint metric (mem_metrics_of_type member) (same ▸ mem_metrics_of_type later)
  typeFirst := by
    refine List.pairwise_append.mpr ⟨first.typeFirst, second.typeFirst, ?_⟩
    intro earlier member later member' s sample type
    refine disjoint s.metric ?_ ?_
    · exact List.mem_filterMap.mpr ⟨earlier, member, Line.metric_of_sample sample⟩
    · exact List.mem_filterMap.mpr ⟨later, member', Line.metric_of_type type⟩
  contiguous := by
    rw [List.filterMap_append]
    exact first.contiguous.append second.contiguous disjoint
  distinct := by
    rw [List.filterMap_append, List.pairwise_append]
    refine ⟨first.distinct, second.distinct, fun a member b later same => ?_⟩
    exact absurd (same ▸ mem_metrics_of_sample later)
      (disjoint a.metric (mem_metrics_of_sample member))

/-- Lines about a metric from the first to the last, with its TYPE line among them. -/
structure Headed (metric : List Char) (lines : List Line) : Prop where
  typed : metric ∈ lines.filterMap Line.type?
  ends : ∃ between, metrics lines = metric :: (between ++ [metric])

/-- The lines are about no other metric. -/
def Only (metric : List Char) (lines : List Line) : Prop := ∀ other ∈ metrics lines, other = metric

theorem Headed.only (headed : Headed metric lines) (formed : WellFormed lines) :
    Only metric lines := by
  obtain ⟨between, same⟩ := headed.ends
  have contiguous : Contiguous (metrics lines) := formed.contiguous
  rw [same] at contiguous
  intro other member
  rw [same] at member
  simp only [List.mem_cons, List.mem_append, List.not_mem_nil, or_false] at member
  rcases member with here | inside | here
  · exact here
  · exact contiguous.eq_of_mem other inside
  · exact here

/-- A page of headed blocks is well formed where they are about different metrics and each is
well formed and about its own metric only. -/
theorem wellFormed_blocks_iff {blocks : List (List Char × List Line)}
    (headed : ∀ block ∈ blocks, Headed block.1 block.2) :
    WellFormed (blocks.flatMap Prod.snd) ↔ (blocks.map Prod.fst).Nodup ∧
      ∀ block ∈ blocks, WellFormed block.2 ∧ Only block.1 block.2 := by
  induction blocks with
  | nil => exact iff_of_true wellFormed_nil ⟨List.nodup_nil, nofun⟩
  | cons block rest ih =>
      obtain ⟨here, later⟩ := List.forall_mem_cons.mp headed
      rw [List.flatMap_cons, List.map_cons, List.nodup_cons, List.forall_mem_cons]
      constructor
      · intro formed
        obtain ⟨nodup, each⟩ := (ih later).mp formed.right
        refine ⟨⟨fun member => ?_, nodup⟩, ⟨formed.left, here.only formed.left⟩, each⟩
        obtain ⟨other, inside, same⟩ := List.mem_map.mp member
        have types := formed.oneType
        rw [List.filterMap_append, List.nodup_append] at types
        refine types.2.2 _ here.typed _ ?_ rfl
        obtain ⟨line, found, type⟩ := List.mem_filterMap.mp (same ▸ (later other inside).typed)
        exact List.mem_filterMap.mpr ⟨line, List.mem_flatMap.mpr ⟨other, inside, found⟩, type⟩
      · rintro ⟨⟨new, nodup⟩, ⟨formed, only⟩, each⟩
        refine formed.append ((ih later).mpr ⟨nodup, each⟩) fun metric member again => new ?_
        obtain ⟨line, found, about⟩ := List.mem_filterMap.mp again
        obtain ⟨other, inside, found⟩ := List.mem_flatMap.mp found
        have same := (each other inside).2 metric (List.mem_filterMap.mpr ⟨line, found, about⟩)
        exact List.mem_map.mpr ⟨other, inside, same.symm.trans (only metric member)⟩

/-- Lines that are about nothing do not count. -/
theorem wellFormed_cons_iff {line : Line} (nothing : line.metric? = none) :
    WellFormed (line :: lines) ↔ WellFormed lines := by
  constructor
  · intro formed
    have whole : WellFormed ([line] ++ lines) := formed
    exact whole.right
  · intro formed
    have alone : WellFormed [line] := by
      cases line with
      | blank | comment =>
          exact ⟨List.nodup_nil, List.nodup_nil, List.pairwise_singleton .., trivial, .nil⟩
      | help | type | sample => cases nothing
    refine alone.append formed fun metric member => ?_
    rw [metrics, List.filterMap_cons, nothing] at member
    exact absurd member List.not_mem_nil

/-- TYPE lines in front of all samples. -/
theorem typeFirst_append (noSample : ∀ line ∈ front, line.sample? = none)
    (noType : ∀ line ∈ back, line.type? = none) :
    (front ++ back).Pairwise fun earlier later =>
      ∀ s, earlier.sample? = some s → later.type? ≠ some s.metric := by
  refine List.pairwise_append.mpr ⟨?_, ?_, ?_⟩
  · refine List.pairwise_of_forall_mem_list fun earlier member _ _ s sample => ?_
    cases (noSample earlier member).symm.trans sample
  · refine List.pairwise_of_forall_mem_list fun _ _ later member s _ type => ?_
    cases (noType later member).symm.trans type
  · intro earlier member _ _ s sample
    cases (noSample earlier member).symm.trans sample

/-- A metric's lines: nothing between the HELP line and the TYPE line may be about a metric, and
no two samples may have the same labels. -/
theorem wellFormed_family_iff {doc : List Char} {kind : MetricType} {between : List Line}
    {samples : List Sample} (same : ∀ s ∈ samples, s.metric = metric) :
    WellFormed (.help metric doc :: (between ++ .type metric kind :: samples.map .sample)) ∧
        Only metric (.help metric doc :: (between ++ .type metric kind :: samples.map .sample)) ↔
      (∀ line ∈ between, line.metric? = none) ∧
        samples.Pairwise fun a b => ¬ SameLabels a b := by
  have own : (samples.map Line.sample).filterMap Line.sample? = samples := by
    rw [List.filterMap_map]
    exact List.filterMap_some
  have pairwise_iff : (samples.Pairwise fun a b => a.metric = b.metric → ¬ SameLabels a b) ↔
      samples.Pairwise fun a b => ¬ SameLabels a b := by
    refine List.Pairwise.iff_of_mem fun {a b} member member' => ?_
    simp only [(same a member).trans (same b member').symm, true_implies]
  constructor
  · rintro ⟨⟨oneHelp, oneType, typeFirst, _, distinct⟩, only⟩
    constructor
    · intro line member
      by_contra about
      obtain ⟨other, about⟩ := Option.ne_none_iff_exists'.mp about
      have inside : line ∈ Line.help metric doc ::
          (between ++ .type metric kind :: samples.map .sample) :=
        List.mem_cons_of_mem _ (List.mem_append_left _ member)
      have here : other = metric := only other (List.mem_filterMap.mpr ⟨line, inside, about⟩)
      cases line with
      | blank | comment => cases about
      | help name text =>
          cases about
          simp only [List.filterMap_cons, Line.help?, List.nodup_cons] at oneHelp
          refine oneHelp.1 (List.mem_filterMap.mpr ⟨_, List.mem_append_left _ member, ?_⟩)
          exact congrArg some here
      | type name kind' =>
          cases about
          simp only [List.filterMap_cons, Line.type?, List.filterMap_append,
            List.nodup_append] at oneType
          refine oneType.2.2 metric ?_ metric List.mem_cons_self rfl
          exact List.mem_filterMap.mpr ⟨_, member, congrArg some here⟩
      | sample s =>
          cases about
          have cross := (List.pairwise_append.mp (List.pairwise_cons.mp typeFirst).2).2.2
          refine cross _ member (.type metric kind) List.mem_cons_self s rfl ?_
          exact congrArg some here.symm
    · simp only [List.filterMap_cons, Line.sample?, List.filterMap_append, own] at distinct
      exact pairwise_iff.mp (List.pairwise_append.mp distinct).2.1
  · rintro ⟨nothing, distinct⟩
    have helps : between.filterMap Line.help? = [] :=
      List.filterMap_eq_nil_iff.mpr fun line member => by
        have about := nothing line member
        cases line <;> cases about <;> rfl
    have types : between.filterMap Line.type? = [] :=
      List.filterMap_eq_nil_iff.mpr fun line member => by
        have about := nothing line member
        cases line <;> cases about <;> rfl
    have noSample : between.filterMap Line.sample? = [] :=
      List.filterMap_eq_nil_iff.mpr fun line member => by
        have about := nothing line member
        cases line <;> cases about <;> rfl
    have noHelp : (samples.map Line.sample).filterMap Line.help? = [] :=
      List.filterMap_eq_nil_iff.mpr (List.forall_mem_map.mpr fun _ _ => rfl)
    have noType : ∀ line ∈ samples.map Line.sample, line.type? = none :=
      List.forall_mem_map.mpr fun _ _ => rfl
    have only : Only metric
        (.help metric doc :: (between ++ .type metric kind :: samples.map .sample)) := by
      intro other member
      simp only [metrics, List.filterMap_cons, Line.metric?, List.filterMap_append,
        List.filterMap_eq_nil_iff.mpr nothing, List.nil_append, List.mem_cons] at member
      rcases member with here | here | inside
      · exact here
      · exact here
      · obtain ⟨line, found, about⟩ := List.mem_filterMap.mp inside
        obtain ⟨s, sampled, rfl⟩ := List.mem_map.mp found
        cases about
        exact same s sampled
    refine ⟨⟨?_, ?_, ?_, contiguous_of_forall_eq only, ?_⟩, only⟩
    · simp only [List.filterMap_cons, Line.help?, List.filterMap_append, helps, noHelp,
        List.append_nil]
      exact List.nodup_singleton _
    · simp only [List.filterMap_cons, Line.type?, List.filterMap_append, types,
        List.filterMap_eq_nil_iff.mpr noType, List.nil_append]
      exact List.nodup_singleton _
    · have parts : Line.help metric doc ::
            (between ++ .type metric kind :: samples.map Line.sample) =
          (.help metric doc :: (between ++ [.type metric kind])) ++ samples.map .sample := by
        rw [List.cons_append, List.append_assoc]
        rfl
      rw [parts]
      refine typeFirst_append (List.forall_mem_cons.mpr ⟨rfl, ?_⟩) noType
      refine List.forall_mem_append.mpr ⟨List.filterMap_eq_nil_iff.mp noSample, ?_⟩
      exact List.forall_mem_singleton.mpr rfl
    · simp only [List.filterMap_cons, Line.sample?, List.filterMap_append, noSample, own,
        List.nil_append]
      exact pairwise_iff.mpr distinct

end Blocks

end Exposition
