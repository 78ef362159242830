import LinSight.Library.Exposition
import LinSight.Library.Words

set_option autoImplicit false

/-! Writing the text format, and what a reader makes of it. -/

namespace Exposition

/-! ### Pages -/

/-- Each line with its line feed. -/
def unlines (lines : List (List Char)) : List Char := lines.flatMap (· ++ ['\n'])

theorem unlines_cons (line : List Char) (rest : List (List Char)) :
    unlines (line :: rest) = line ++ '\n' :: unlines rest := by
  rw [unlines, List.flatMap_cons, List.append_assoc]
  rfl

theorem unlines_append (front back : List (List Char)) :
    unlines (front ++ back) = unlines front ++ unlines back :=
  List.flatMap_append

theorem splitOn_cons (c : Char) (text : List Char) :
    (c :: text).splitOn '\n' =
      if c = '\n' then [] :: text.splitOn '\n' else (text.splitOn '\n').modifyHead (c :: ·) := by
  rw [List.splitOn, List.splitOnP_cons_eq_if_modifyHead]
  simp only [beq_iff_eq]
  rfl

theorem exists_splitOn (text : List Char) :
    ∃ first more, text.splitOn '\n' = first :: more :=
  List.exists_cons_of_ne_nil (List.splitOnP_ne_nil _ text)

theorem splitOn_append {front : List Char} (single : '\n' ∉ front) (text : List Char) :
    (front ++ text).splitOn '\n' = (text.splitOn '\n').modifyHead (front ++ ·) := by
  obtain ⟨first, more, split⟩ := exists_splitOn text
  induction front with
  | nil => rw [List.nil_append, split]; rfl
  | cons c rest ih =>
      obtain ⟨here, later⟩ := not_or.mp (List.mem_cons.not.mp single)
      rw [List.cons_append, splitOn_cons, if_neg (Ne.symm here), ih later, split]
      rfl

theorem unlines_splitOn (text : List Char) : unlines (text.splitOn '\n') = text ++ ['\n'] := by
  induction text with
  | nil => rfl
  | cons c rest ih =>
      rw [splitOn_cons]
      split
      · rename_i same
        rw [unlines_cons, ih, same]
        rfl
      · obtain ⟨first, more, split⟩ := exists_splitOn rest
        rw [split, List.modifyHead_cons, unlines_cons, List.cons_append, ← unlines_cons, ← split,
          ih]
        rfl

theorem splitOn_unlines {lines : List (List Char)} (single : ∀ line ∈ lines, '\n' ∉ line) :
    (unlines lines).splitOn '\n' = lines ++ [[]] := by
  induction lines with
  | nil => rfl
  | cons line rest ih =>
      obtain ⟨here, later⟩ := List.forall_mem_cons.mp single
      rw [unlines_cons, splitOn_append here, splitOn_cons, if_pos rfl, ih later,
        List.modifyHead_cons, List.append_nil]
      rfl

/-- A page of lines is read line by line. -/
theorem readPage_unlines {lines : List (List Char)} (single : ∀ line ∈ lines, '\n' ∉ line) :
    readPage (unlines lines) = lines.mapM readLine := by
  unfold readPage
  rw [splitOn_unlines single]
  simp only [List.getLast?_append, List.getLast?_singleton, Option.some_or, if_true,
    List.dropLast_concat]

/-! ### Words -/

theorem not_isBlank_of_isMetricChar {c : Char} (valid : isMetricChar c) : isBlank c = false := by
  by_contra blank
  simp only [isBlank, Bool.not_eq_false, Bool.or_eq_true, decide_eq_true_eq] at blank
  rcases blank with rfl | rfl <;> revert valid <;> decide

theorem skipBlanks_of_head {c : Char} {rest : List Char} (word : isBlank c = false) :
    skipBlanks (c :: rest) = c :: rest :=
  List.dropWhile_cons_of_neg (by rw [word]; exact Bool.false_ne_true)

theorem skipBlanks_space (rest : List Char) : skipBlanks (' ' :: rest) = skipBlanks rest := rfl

theorem token_append {word : List Char} (single : ∀ c ∈ word, isBlank c = false)
    (rest : List Char) : token (word ++ ' ' :: rest) = word := by
  unfold token
  rw [List.takeWhile_append_of_pos fun c member => by rw [single c member]; rfl]
  exact List.append_nil word

theorem afterToken_append {word : List Char} (single : ∀ c ∈ word, isBlank c = false)
    (rest : List Char) : afterToken (word ++ ' ' :: rest) = ' ' :: rest := by
  unfold afterToken
  rw [List.dropWhile_append_of_pos fun c member => by rw [single c member]; rfl]
  rfl

theorem token_all {word : List Char} (single : ∀ c ∈ word, isBlank c = false) :
    token word = word :=
  List.takeWhile_eq_self_iff.mpr fun c member => by rw [single c member]; rfl

theorem afterToken_all {word : List Char} (single : ∀ c ∈ word, isBlank c = false) :
    afterToken word = [] :=
  List.dropWhile_eq_nil_iff.mpr fun c member => by rw [single c member]; rfl

theorem isMetricName_cases {metric : List Char} (valid : isMetricName metric) :
    ∃ c rest, metric = c :: rest ∧ isMetricStart c ∧ ∀ c ∈ metric, isMetricChar c := by
  cases metric with
  | nil => cases valid
  | cons c rest =>
      have parts : isMetricStart c ∧ rest.all isMetricChar := (Bool.and_eq_true _ _).mp valid
      refine ⟨c, rest, rfl, parts.1, List.forall_mem_cons.mpr ⟨?_, List.all_eq_true.mp parts.2⟩⟩
      rw [isMetricChar, parts.1]
      rfl

theorem isMetricName_word {metric : List Char} (valid : isMetricName metric) :
    ∀ c ∈ metric, isBlank c = false := by
  obtain ⟨_, _, _, _, chars⟩ := isMetricName_cases valid
  exact fun c member => not_isBlank_of_isMetricChar (chars c member)

theorem skipBlanks_metric {metric : List Char} (valid : isMetricName metric) (rest : List Char) :
    skipBlanks (metric ++ rest) = metric ++ rest := by
  have word := isMetricName_word valid
  obtain ⟨c, tail, rfl, _⟩ := isMetricName_cases valid
  exact skipBlanks_of_head (word c List.mem_cons_self)

/-! ### Comments -/

def MetricType.text : MetricType → List Char
  | counter => ['c', 'o', 'u', 'n', 't', 'e', 'r']
  | gauge => ['g', 'a', 'u', 'g', 'e']
  | histogram => ['h', 'i', 's', 't', 'o', 'g', 'r', 'a', 'm']
  | summary => ['s', 'u', 'm', 'm', 'a', 'r', 'y']
  | untyped => ['u', 'n', 't', 'y', 'p', 'e', 'd']

theorem metricType_text (kind : MetricType) : metricType kind.text = some kind := by
  cases kind <;> decide

def helpText (metric doc : List Char) : List Char :=
  ['#', ' ', 'H', 'E', 'L', 'P', ' '] ++ metric ++ ' ' :: doc

def typeText (metric : List Char) (kind : MetricType) : List Char :=
  ['#', ' ', 'T', 'Y', 'P', 'E', ' '] ++ metric ++ ' ' :: kind.text

/-- The keyword, the metric and the rest of a HELP or a TYPE line. -/
theorem comment_parts {metric keyword : List Char} (valid : isMetricName metric)
    (word : ∀ c ∈ keyword, isBlank c = false) (rest : List Char) :
    token (keyword ++ ' ' :: (metric ++ ' ' :: rest)) = keyword ∧
      skipBlanks (afterToken (keyword ++ ' ' :: (metric ++ ' ' :: rest))) = metric ++ ' ' :: rest ∧
      token (metric ++ ' ' :: rest) = metric ∧
      skipBlanks (afterToken (metric ++ ' ' :: rest)) = skipBlanks rest := by
  refine ⟨token_append word _, ?_, token_append (isMetricName_word valid) _, ?_⟩
  · rw [afterToken_append word, skipBlanks_space, skipBlanks_metric valid]
  · rw [afterToken_append (isMetricName_word valid), skipBlanks_space]

theorem readLine_help {metric : List Char} (valid : isMetricName metric) (doc : List Char) :
    readLine (helpText metric doc) = (unescapeDoc (skipBlanks doc)).map (.help metric) := by
  have keyword : ∀ c ∈ ['H', 'E', 'L', 'P'], isBlank c = false := by simp [isBlank]
  obtain ⟨first, behind, name, text⟩ := comment_parts valid keyword doc
  have line : readLine (helpText metric doc) =
      readComment (' ' :: (['H', 'E', 'L', 'P'] ++ ' ' :: (metric ++ ' ' :: doc))) := by
    rw [helpText, List.append_assoc]
    rfl
  have start : skipBlanks (' ' :: (['H', 'E', 'L', 'P'] ++ ' ' :: (metric ++ ' ' :: doc))) =
      ['H', 'E', 'L', 'P'] ++ ' ' :: (metric ++ ' ' :: doc) := rfl
  rw [line, readComment]
  simp only [start, first, behind, name, text, valid, if_true]

theorem readLine_type {metric : List Char} (valid : isMetricName metric) (kind : MetricType) :
    readLine (typeText metric kind) = some (.type metric kind) := by
  have keyword : ∀ c ∈ ['T', 'Y', 'P', 'E'], isBlank c = false := by simp [isBlank]
  obtain ⟨first, behind, name, text⟩ := comment_parts valid keyword kind.text
  have line : readLine (typeText metric kind) =
      readComment (' ' :: (['T', 'Y', 'P', 'E'] ++ ' ' :: (metric ++ ' ' :: kind.text))) := by
    rw [typeText, List.append_assoc]
    rfl
  have start : skipBlanks (' ' :: (['T', 'Y', 'P', 'E'] ++ ' ' :: (metric ++ ' ' :: kind.text))) =
      ['T', 'Y', 'P', 'E'] ++ ' ' :: (metric ++ ' ' :: kind.text) := rfl
  have other : ['T', 'Y', 'P', 'E'] ≠ ['H', 'E', 'L', 'P'] := by decide
  have kindWord : ∀ c ∈ kind.text, isBlank c = false := by
    cases kind <;> simp [MetricType.text, isBlank]
  have kindStart : skipBlanks kind.text = kind.text := by cases kind <;> decide
  rw [line, readComment]
  simp only [start, first, behind, name, text, valid, kindStart, afterToken_all kindWord,
    token_all kindWord, metricType_text, other, if_true, if_false]
  rfl

/-! ### Samples -/

/-- A label value with its escapes. -/
def escapeLabel (value : List Char) : List Char :=
  value.flatMap fun c =>
    if c = '\\' then ['\\', '\\'] else if c = '"' then ['\\', '"']
    else if c = '\n' then ['\\', 'n'] else [c]

theorem escapeLabel_cons (c : Char) (rest : List Char) :
    escapeLabel (c :: rest) =
      (if c = '\\' then ['\\', '\\'] else if c = '"' then ['\\', '"']
        else if c = '\n' then ['\\', 'n'] else [c]) ++ escapeLabel rest :=
  List.flatMap_cons

theorem not_mem_escapeLabel (value : List Char) : '\n' ∉ escapeLabel value := by
  intro member
  obtain ⟨c, _, written⟩ := List.mem_flatMap.mp member
  split_ifs at written with slash quote feed
  · revert written
    decide
  · revert written
    decide
  · revert written
    decide
  · exact feed (List.mem_singleton.mp written).symm

/-- A reader gets a label's value back. -/
theorem readLabelValue_escapeLabel (value rest : List Char) :
    readLabelValue (escapeLabel value ++ '"' :: rest) = some (value, rest) := by
  induction value with
  | nil => rfl
  | cons c tail ih =>
      rw [escapeLabel_cons, List.append_assoc]
      split_ifs with slash quote feed
      · rw [slash]
        exact congrArg (Option.map _) ih
      · rw [quote]
        exact congrArg (Option.map _) ih
      · rw [feed]
        exact congrArg (Option.map _) ih
      · have plain : readLabelValue (c :: (escapeLabel tail ++ '"' :: rest)) =
            (readLabelValue (escapeLabel tail ++ '"' :: rest)).map
              fun read => (c :: read.1, read.2) := by
          rw [readLabelValue]
          · exact quote
          · exact fun _ same _ => slash same
          · exact fun _ same _ => slash same
          · exact fun _ same _ => slash same
          · exact slash
        rw [List.singleton_append, plain, ih]
        rfl

def labelText (label : Label) : List Char :=
  label.1 ++ '=' :: '"' :: (escapeLabel label.2 ++ ['"'])

def labelsText : List Label → List Char
  | [] => []
  | [label] => labelText label
  | label :: rest => labelText label ++ ',' :: labelsText rest

theorem not_isBlank_of_isLabelChar {c : Char} (valid : isLabelChar c) : isBlank c = false := by
  refine not_isBlank_of_isMetricChar ?_
  simp only [isLabelChar, isMetricChar, isMetricStart, Bool.or_eq_true] at valid ⊢
  exact valid.imp_left .inl

theorem isLabelName_cases {name : List Char} (valid : isLabelName name) :
    ∃ c rest, name = c :: rest ∧ isLabelChar c ∧ ∀ c ∈ name, isLabelChar c := by
  cases name with
  | nil => cases valid
  | cons c rest =>
      have parts : isLabelStart c ∧ rest.all isLabelChar := (Bool.and_eq_true _ _).mp valid
      have first : isLabelChar c := by
        rw [isLabelChar, parts.1]
        rfl
      exact ⟨c, rest, rfl, first, List.forall_mem_cons.mpr ⟨first, List.all_eq_true.mp parts.2⟩⟩

/-- What a reader makes of the text behind a label. -/
def readFurther (fuel : Nat) (label : Label) (rest : List Char) :
    Option (List Label × List Char) :=
  match skipBlanks rest with
  | ',' :: rest => (readLabels fuel rest).map fun read => (label :: read.1, read.2)
  | '}' :: rest => some ([label], rest)
  | _ => none

/-- A reader takes one label and looks at what follows it. -/
theorem readLabels_label {fuel : Nat} {label : Label} (valid : isLabelName label.1)
    (rest : List Char) :
    readLabels (fuel + 1) (labelText label ++ rest) = readFurther fuel label rest := by
  obtain ⟨name, value⟩ := label
  obtain ⟨c, tail, rfl, first, chars⟩ := isLabelName_cases valid
  have text : labelText (c :: tail, value) ++ rest =
      c :: tail ++ '=' :: '"' :: (escapeLabel value ++ '"' :: rest) := by
    simp only [labelText, List.append_assoc, List.cons_append, List.nil_append]
  have start : skipBlanks (c :: tail ++ '=' :: '"' :: (escapeLabel value ++ '"' :: rest)) =
      c :: tail ++ '=' :: '"' :: (escapeLabel value ++ '"' :: rest) :=
    skipBlanks_of_head (not_isBlank_of_isLabelChar first)
  have inside : c ≠ '}' := by
    rintro rfl
    cases first
  have taken : (c :: tail ++ '=' :: '"' :: (escapeLabel value ++ '"' :: rest)).takeWhile
      isLabelChar = c :: tail := by
    rw [List.takeWhile_append_of_pos chars]
    exact List.append_nil _
  have dropped : (c :: tail ++ '=' :: '"' :: (escapeLabel value ++ '"' :: rest)).dropWhile
      isLabelChar = '=' :: '"' :: (escapeLabel value ++ '"' :: rest) := by
    rw [List.dropWhile_append_of_pos chars]
    rfl
  rw [readLabels, text, start]
  split
  · rename_i brace
    exact absurd (List.cons.inj brace).1 inside
  · have equals : skipBlanks ('=' :: '"' :: (escapeLabel value ++ '"' :: rest)) =
        '=' :: '"' :: (escapeLabel value ++ '"' :: rest) := rfl
    have quote : skipBlanks ('"' :: (escapeLabel value ++ '"' :: rest)) =
        '"' :: (escapeLabel value ++ '"' :: rest) := rfl
    simp only [taken, dropped, valid, if_true, equals, quote, readLabelValue_escapeLabel,
      Option.bind_some]
    rfl

/-- A reader gets the labels back. -/
theorem readLabels_labelsText {labels : List Label} {fuel : Nat} {rest : List Char}
    (valid : ∀ label ∈ labels, isLabelName label.1) (enough : labels.length < fuel) :
    readLabels fuel (labelsText labels ++ '}' :: rest) = some (labels, rest) := by
  induction labels generalizing fuel with
  | nil =>
      obtain ⟨more, rfl⟩ := Nat.exists_eq_succ_of_ne_zero (Nat.ne_of_gt enough)
      rfl
  | cons label others ih =>
      obtain ⟨more, rfl⟩ := Nat.exists_eq_succ_of_ne_zero (Nat.ne_of_gt (Nat.zero_lt_of_lt enough))
      obtain ⟨here, later⟩ := List.forall_mem_cons.mp valid
      cases others with
      | nil => exact readLabels_label here _
      | cons second others =>
          rw [labelsText, List.append_assoc, List.cons_append, readLabels_label here, readFurther]
          · exact congrArg (Option.map _) (ih later (Nat.lt_of_succ_lt_succ enough))
          · exact List.cons_ne_nil _ _

theorem length_le_labelsText (labels : List Label) : labels.length ≤ (labelsText labels).length := by
  induction labels with
  | nil => exact le_rfl
  | cons label others ih =>
      cases others with
      | nil =>
          simp only [labelsText, labelText, List.length_append, List.length_cons, List.length_nil]
          omega
      | cons second others =>
          simp only [labelsText, List.length_append, List.length_cons] at ih ⊢
          omega

def sampleText (metric : List Char) (labels : List Label) (value : List Char) : List Char :=
  metric ++ '{' :: (labelsText labels ++ '}' :: ' ' :: value)

/-- A reader gets a sample back. -/
theorem readLine_sampleText {metric value : List Char} {labels : List Label}
    (name : isMetricName metric) (valid : ∀ label ∈ labels, isLabelName label.1)
    (word : ∀ c ∈ value, isBlank c = false) (number : isFloat value) :
    readLine (sampleText metric labels value) = some (.sample ⟨metric, labels, value, none⟩) := by
  have start : skipBlanks (sampleText metric labels value) = sampleText metric labels value :=
    skipBlanks_metric name _
  obtain ⟨c, rest, same, first, chars⟩ := isMetricName_cases name
  have taken : (sampleText metric labels value).takeWhile isMetricChar = metric := by
    rw [sampleText, List.takeWhile_append_of_pos chars]
    exact List.append_nil _
  have dropped : (sampleText metric labels value).dropWhile isMetricChar =
      '{' :: (labelsText labels ++ '}' :: ' ' :: value) := by
    rw [sampleText, List.dropWhile_append_of_pos chars]
    rfl
  have brace : skipBlanks ('{' :: (labelsText labels ++ '}' :: ' ' :: value)) =
      '{' :: (labelsText labels ++ '}' :: ' ' :: value) := rfl
  have fuel : labels.length < (labelsText labels ++ '}' :: ' ' :: value).length + 1 := by
    have shorter := length_le_labelsText labels
    rw [List.length_append]
    omega
  have valueStart : skipBlanks (' ' :: value) = value := by
    cases value with
    | nil => rfl
    | cons d digits => exact skipBlanks_of_head (word d List.mem_cons_self)
  have sample : readSample (sampleText metric labels value) =
      some (.sample ⟨metric, labels, value, none⟩) := by
    unfold readSample
    simp only [taken, dropped, name, if_true, brace, readLabels_labelsText valid fuel,
      Option.bind_some, readValue, valueStart, token_all word, afterToken_all word, number]
    rfl
  rw [readLine, start]
  split
  · rename_i empty
    rw [sampleText, same] at empty
    cases empty
  · rename_i hash
    rw [sampleText, same] at hash
    rw [(List.cons.inj hash).1] at first
    cases first
  · exact sample

/-! ### Numbers -/

/-- A word that reads as a number. -/
structure IsNumber (value : List Char) : Prop where
  float : isFloat value
  word : ∀ c ∈ value, isBlank c = false ∧ c ≠ '\n'

theorem isDecimal_digits {whole : List Char} (nonempty : whole ≠ [])
    (digits : ∀ c ∈ whole, c.isDigit) : isDecimal whole := by
  have taken : whole.takeWhile Char.isDigit = whole := List.takeWhile_eq_self_iff.mpr digits
  have dropped : whole.dropWhile Char.isDigit = [] := List.dropWhile_eq_nil_iff.mpr digits
  unfold isDecimal
  simp only [taken, dropped, List.append_nil, ne_eq, nonempty, not_false_eq_true, decide_true,
    Bool.and_self]

theorem isDecimal_fraction {whole fraction : List Char} (nonempty : whole ≠ [])
    (digits : ∀ c ∈ whole, c.isDigit) (behind : ∀ c ∈ fraction, c.isDigit) :
    isDecimal (whole ++ '.' :: fraction) := by
  have taken : (whole ++ '.' :: fraction).takeWhile Char.isDigit = whole := by
    rw [List.takeWhile_append_of_pos digits]
    exact List.append_nil _
  have dropped : (whole ++ '.' :: fraction).dropWhile Char.isDigit = '.' :: fraction := by
    rw [List.dropWhile_append_of_pos digits]
    rfl
  have rest : fraction.dropWhile Char.isDigit = [] := List.dropWhile_eq_nil_iff.mpr behind
  have some : whole ++ fraction.takeWhile Char.isDigit ≠ [] :=
    List.append_ne_nil_of_left_ne_nil nonempty _
  unfold isDecimal
  simp only [taken, dropped, rest, ne_eq, some, not_false_eq_true, decide_true, Bool.and_self]

theorem isFloat_of_isDecimal {text : List Char} (decimal : isDecimal text)
    (unsigned : ∀ rest, text ≠ '+' :: rest ∧ text ≠ '-' :: rest) : isFloat text := by
  unfold isFloat
  split
  · exact absurd rfl (unsigned _).1
  · exact absurd rfl (unsigned _).2
  · simp only [decimal, Bool.or_true]

theorem isFloat_negative {text : List Char} (decimal : isDecimal text) : isFloat ('-' :: text) := by
  unfold isFloat
  simp only [decimal, Bool.or_true]

theorem not_isBlank_of_isDigit {c : Char} (digit : c.isDigit) : isBlank c = false ∧ c ≠ '\n' := by
  constructor
  · refine not_isBlank_of_isMetricChar ?_
    rw [isMetricChar, digit]
    exact Bool.or_true _
  · rintro rfl
    cases digit

theorem unescapeDoc_skipBlanks (doc : List Char) :
    (unescapeDoc (skipBlanks doc)).isSome = (unescapeDoc doc).isSome := by
  induction doc with
  | nil => rfl
  | cons c rest ih =>
      cases blank : isBlank c with
      | false => rw [skipBlanks_of_head blank]
      | true =>
          have skipped : skipBlanks (c :: rest) = skipBlanks rest := List.dropWhile_cons_of_pos blank
          have slash : c ≠ '\\' := by
            rintro rfl
            revert blank
            decide
          have plain : unescapeDoc (c :: rest) = (unescapeDoc rest).map (c :: ·) := by
            rw [unescapeDoc]
            · exact fun _ same _ => slash same
            · exact fun _ same _ => slash same
            · exact slash
          rw [skipped, ih, plain, Option.isSome_map]

/-! ### Texts on one line -/

theorem single_of_isMetricName {metric : List Char} (valid : isMetricName metric) :
    '\n' ∉ metric := by
  obtain ⟨_, _, _, _, chars⟩ := isMetricName_cases valid
  intro member
  cases chars _ member

theorem single_of_isLabelName {name : List Char} (valid : isLabelName name) : '\n' ∉ name := by
  obtain ⟨_, _, _, _, chars⟩ := isLabelName_cases valid
  intro member
  cases chars _ member

theorem single_labelText {label : Label} (valid : isLabelName label.1) :
    '\n' ∉ labelText label := by
  simp only [labelText, List.mem_append, List.mem_cons, List.not_mem_nil, or_false, not_or,
    single_of_isLabelName valid, not_mem_escapeLabel, not_false_eq_true, true_and]
  decide

theorem single_labelsText {labels : List Label} (valid : ∀ label ∈ labels, isLabelName label.1) :
    '\n' ∉ labelsText labels := by
  induction labels with
  | nil => exact List.not_mem_nil
  | cons label others ih =>
      obtain ⟨here, later⟩ := List.forall_mem_cons.mp valid
      cases others with
      | nil => exact single_labelText here
      | cons second others =>
          simp only [labelsText, List.mem_append, List.mem_cons, not_or]
          exact ⟨single_labelText here, by decide, ih later⟩

theorem single_sampleText {metric value : List Char} {labels : List Label}
    (name : isMetricName metric) (valid : ∀ label ∈ labels, isLabelName label.1)
    (number : IsNumber value) : '\n' ∉ sampleText metric labels value := by
  simp only [sampleText, List.mem_append, List.mem_cons, not_or]
  exact ⟨single_of_isMetricName name, by decide, single_labelsText valid, by decide, by decide,
    fun member => (number.word _ member).2 rfl⟩

theorem single_typeText {metric : List Char} (name : isMetricName metric) (kind : MetricType) :
    '\n' ∉ typeText metric kind := by
  simp only [typeText, List.mem_append, List.mem_cons, not_or]
  refine ⟨⟨by decide, single_of_isMetricName name⟩, by decide, ?_⟩
  cases kind <;> decide

end Exposition
