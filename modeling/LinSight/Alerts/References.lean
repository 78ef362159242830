import LinSight.Alerts.Rewriting
import LinSight.Alerts.PendingJobs
import LinSight.Library.Words

set_option autoImplicit false

/-! The sensors that a rule is evaluated again for, beside the variables of its
expression. -/

namespace LinSight.Alerts

/-- A character that the scan for sensors takes into its current token. -/
def isRefChar (c : Char) : Bool := c.isAlphanum || c = '.' || c = '_'

/-- A token of the scan that is taken for a sensor. -/
structure SensorShaped (token : List Char) : Prop where
  plain : ∀ c ∈ token, isRefChar c = true
  dotted : '.' ∈ token
  lettered : token.head?.any Char.isAlpha = true

/-- The token is in the text with no character of a token next to it. -/
abbrev StandsAlone (token text : List Char) : Prop :=
  Words.Stands (fun c => !isRefChar c) token text

section Scan

/-- What `pushIfSensorToken` tests. -/
def sensorLike (token : List Char) : Bool := token.contains '.' && token.head?.any Char.isAlpha

theorem pushIfSensorToken_eq (token : List Char) (out : List String) :
    pushIfSensorToken token out = out ++ ([token].filter sensorLike).map String.ofList := by
  unfold pushIfSensorToken sensorLike
  rw [List.filter_singleton]
  cases token.contains '.' with
  | false => simp
  | true => cases token.head?.any Char.isAlpha <;> simp

theorem pushIfSensorToken_of_plain {current : List Char}
    (plain : ∀ c ∈ current, isRefChar c = true) (out : List String) :
    pushIfSensorToken current out =
      out ++ ((Words.words (fun c => !isRefChar c) current).filter sensorLike).map String.ofList := by
  rw [pushIfSensorToken_eq]
  cases current with
  | nil => rfl
  | cons first rest =>
      rw [Words.words_word (List.cons_ne_nil first rest)]
      intro c member
      rw [plain c member]
      rfl

/-- The scan takes one character. -/
def scanStep (state : List Char × List String) (c : Char) : List Char × List String :=
  if isRefChar c then (state.1 ++ [c], state.2) else ([], pushIfSensorToken state.1 state.2)

/-- The scan reads the tokens one after another. -/
theorem scan_eq (text current : List Char) (out : List String)
    (plain : ∀ c ∈ current, isRefChar c = true) :
    let final := text.foldl scanStep (current, out)
    pushIfSensorToken final.1 final.2 =
      out ++ ((Words.words (fun c => !isRefChar c) (current ++ text)).filter sensorLike).map
        String.ofList := by
  induction text generalizing current out with
  | nil =>
      rw [List.append_nil]
      exact pushIfSensorToken_of_plain plain out
  | cons c rest ih =>
      rw [List.foldl_cons]
      by_cases taken : isRefChar c = true
      · have longer : ∀ other ∈ current ++ [c], isRefChar other = true := by
          intro other member
          rcases List.mem_append.mp member with before | last
          · exact plain other before
          · exact List.mem_singleton.mp last ▸ taken
        have step := ih (current ++ [c]) out longer
        rw [List.append_assoc, List.singleton_append] at step
        rw [scanStep, if_pos taken]
        exact step
      · have breaks : (!isRefChar c) = true := by
          rw [Bool.eq_false_iff.mpr taken]
          rfl
        have step := ih [] (pushIfSensorToken current out) fun other member =>
          absurd member List.not_mem_nil
        rw [scanStep, if_neg taken, Words.words_append_blank current rest breaks,
          List.filter_append, List.map_append, ← List.append_assoc,
          ← pushIfSensorToken_of_plain plain]
        exact step

theorem sensorLike_iff {token : List Char} (plain : ∀ c ∈ token, isRefChar c = true) :
    sensorLike token = true ↔ SensorShaped token := by
  rw [sensorLike, Bool.and_eq_true, List.contains_iff_mem]
  exact ⟨fun both => ⟨plain, both.1, both.2⟩, fun shaped => ⟨shaped.dotted, shaped.lettered⟩⟩

/-- The scan finds the tokens of the shape that stand alone. -/
theorem mem_extractSensorRefs {id expr : String} :
    id ∈ extractSensorRefs expr ↔
      SensorShaped id.toList ∧ StandsAlone id.toList expr.toList := by
  have scanned := scan_eq expr.toList [] [] fun _ member => absurd member List.not_mem_nil
  have sorted : extractSensorRefs expr =
      ((((Words.words (fun c => !isRefChar c) expr.toList).filter sensorLike).map
        String.ofList).insertionSort (· ≤ ·)).dedup := by
    rw [← List.Pairwise.destutter_eq_dedup (List.pairwise_insertionSort (· ≤ ·) _)]
    exact congrArg (fun out => (List.insertionSort (· ≤ ·) out).destutter (· ≠ ·)) scanned
  rw [sorted, List.mem_dedup, List.mem_insertionSort, List.mem_map]
  constructor
  · rintro ⟨token, member, rfl⟩
    obtain ⟨word, passed⟩ := List.mem_filter.mp member
    obtain ⟨_, plain, stands⟩ := Words.mem_words.mp word
    rw [String.toList_ofList]
    exact ⟨(sensorLike_iff fun c inside => by simpa using plain c inside).mp passed, stands⟩
  · rintro ⟨shaped, stands⟩
    refine ⟨id.toList, List.mem_filter.mpr ⟨?_, (sensorLike_iff shaped.plain).mpr shaped⟩,
      String.ofList_toList⟩
    refine Words.mem_words.mpr ⟨List.ne_nil_of_mem shaped.dotted, ?_, stands⟩
    intro c inside
    rw [shaped.plain c inside]
    rfl

end Scan

/-- The caches of the rule are those of its expression, as `load` and `upsert_rule`
leave them. -/
structure CompiledRule.Compiled (rule : CompiledRule) : Prop where
  rewritten : rule.rewrittenExpr = rewriteDots rule.expr
  referenced : rule.referencedSensors = extractSensorRefs rule.expr

section Compiled

variable {handle next : Handle} {label : HandleStep}

theorem compileRule_compiled (name expr : String) (forDuration cooldown : Nat)
    (notify : List String) (enabled : Option Bool) :
    (compileRule name expr forDuration cooldown notify enabled).Compiled := ⟨rfl, rfl⟩

theorem settle_compiled {rule : CompiledRule} (compiled : rule.Compiled) (outcome : EvalOutcome)
    (now : Nat) : (rule.settle outcome now).1.Compiled := by
  rw [settle_settings]
  exact ⟨compiled.rewritten, compiled.referenced⟩

theorem Handle.step_compiled (taken : Handle.step handle label = some next)
    (compiled : ∀ rule ∈ handle.engine.rules, rule.Compiled) :
    ∀ rule ∈ next.engine.rules, rule.Compiled := by
  cases label with
  | observe sample =>
      obtain ⟨_, rfl⟩ := Run.enabled_eq_some.mp taken
      change ∀ rule ∈ (handle.engine.observe sample).1.rules, rule.Compiled
      rw [(observe_frame handle.engine sample).1]
      exact compiled
  | apply waiting outcome now wall =>
      obtain ⟨pending, _, enabled⟩ := Option.bind_eq_some_iff.mp taken
      obtain ⟨_, rfl⟩ := Run.enabled_eq_some.mp enabled
      cases found : handle.engine.rules[pending.job.idx]? with
      | none =>
          rw [Handle.applyOutcome_of_missing found]
          exact compiled
      | some settled =>
          rw [Handle.applyOutcome_of_found found]
          simp only [AlertEngine.settled_rules]
          intro rule member
          rcases List.mem_or_eq_of_mem_set member with before | rfl
          · exact compiled rule before
          · exact settle_compiled (compiled settled (List.mem_of_getElem? found)) outcome now
  | upsertRule name expr forDuration cooldown notify enabled now =>
      obtain ⟨_, rfl⟩ := Run.enabled_eq_some.mp taken
      cases first : handle.engine.rules.findIdx? (·.name = name) with
      | some position =>
          obtain ⟨existing, found, _⟩ := findIdx?_name_some first
          simp only [Handle.upsertRule, first, upsertRule_of_some first found]
          intro rule member
          rcases List.mem_or_eq_of_mem_set member with before | rfl
          · exact compiled rule before
          · exact ⟨rfl, rfl⟩
      | none =>
          simp only [Handle.upsertRule, first, upsertRule_of_none first]
          intro rule member
          rcases List.mem_append.mp member with before | added
          · exact compiled rule before
          · rw [List.mem_singleton.mp added]
            exact compileRule_compiled name expr forDuration cooldown notify enabled
  | deleteRule name =>
      obtain ⟨_, rfl⟩ := Run.enabled_eq_some.mp taken
      exact fun rule member => compiled rule (List.mem_of_mem_filter member)

theorem Handle.reaches_compiled {rules : List CompiledRule}
    (compiled : ∀ rule ∈ rules, rule.Compiled)
    (reached : Run.Reaches Handle.step (Handle.start rules) handle) :
    ∀ rule ∈ handle.engine.rules, rule.Compiled :=
  reached.invariant (fun _ _ _ taken => Handle.step_compiled taken) compiled

end Compiled

/-- A sample of the sensor meets an engine with an enabled rule of the expression at
the position. -/
structure Observing (expr id : String) (handle : Handle) (sample : Sample) (idx : Nat) :
    Prop where
  reached : ∃ rules, (∀ rule ∈ rules, rule.Compiled) ∧
    Run.Reaches Handle.step (Handle.start rules) handle
  sensor : sample.sensor.asStr = id
  rule : ∃ rule, handle.engine.rules[idx]? = some rule ∧ rule.enabled = true ∧ rule.expr = expr

section Observing

variable {expr id : String} {handle : Handle} {sample : Sample} {idx : Nat} {job : EvalJob}

theorem observe_jobs {engine : AlertEngine} {value : Ieee.Value}
    (numeric : alertValue sample.reading = some value) :
    (engine.observe sample).2 = (engine.observe sample).1.jobsFor sample.sensor.asStr := by
  simp only [AlertEngine.observe, numeric]

theorem numeric_of_job {engine : AlertEngine} (member : job ∈ (engine.observe sample).2) :
    (alertValue sample.reading).isSome := by
  cases numeric : alertValue sample.reading with
  | some value => rfl
  | none =>
      simp only [AlertEngine.observe, numeric] at member
      cases member

/-- The job of the rule at the position. -/
def dueJob (expr : String) (handle : Handle) (sample : Sample) (idx : Nat) : EvalJob :=
  ⟨idx, rewriteDots expr, (handle.engine.observe sample).1.ctx⟩

/-- A numeric sample gives the rule's job exactly where the scan finds the sensor. -/
theorem Observing.job_iff (observing : Observing expr id handle sample idx)
    (numeric : (alertValue sample.reading).isSome) :
    dueJob expr handle sample idx ∈ (handle.engine.observe sample).2 ↔
      id ∈ extractSensorRefs expr := by
  obtain ⟨value, reading⟩ := Option.isSome_iff_exists.mp numeric
  obtain ⟨rules, fresh, reached⟩ := observing.reached
  obtain ⟨rule, there, enabled, same⟩ := observing.rule
  have compiled := Handle.reaches_compiled fresh reached rule (List.mem_of_getElem? there)
  rw [observe_jobs reading, mem_jobsFor_iff, (observe_frame handle.engine sample).1,
    observing.sensor]
  constructor
  · rintro ⟨other, found, _, mentions, _⟩
    cases there.symm.trans found
    rwa [compiled.referenced, same] at mentions
  · intro mentions
    refine ⟨rule, there, enabled, ?_, ?_⟩
    · rw [compiled.referenced, same]
      exact mentions
    · rw [compiled.rewritten, same]
      rfl

/-- A job at the position is the rule's. -/
theorem Observing.eq_dueJob (observing : Observing expr id handle sample idx)
    (member : job ∈ (handle.engine.observe sample).2) (here : job.idx = idx) :
    job = dueJob expr handle sample idx := by
  obtain ⟨value, reading⟩ := Option.isSome_iff_exists.mp (numeric_of_job member)
  obtain ⟨rules, fresh, reached⟩ := observing.reached
  obtain ⟨rule, there, _, same⟩ := observing.rule
  have compiled := Handle.reaches_compiled fresh reached rule (List.mem_of_getElem? there)
  rw [observe_jobs reading, mem_jobsFor_iff, (observe_frame handle.engine sample).1] at member
  obtain ⟨other, found, _, _, made⟩ := member
  rw [here] at found
  cases there.symm.trans found
  rw [made, here, compiled.rewritten, same]
  rfl

end Observing

namespace Evalexpr

variable {evalexpr : Evalexpr} {expr id : String}

/-- The name is a whole variable token of the expression. -/
def IsVariable (evalexpr : Evalexpr) (expr name : String) : Prop :=
  ∃ tokens, evalexpr.tokens expr = some tokens ∧ .identifier name ∈ tokens

/-- Words end at blanks, operators, parentheses, quotes and comments. None of these
begins or ends with a letter, a digit, a dot or an underscore. -/
structure Delimits (evalexpr : Evalexpr) : Prop where
  words : ∀ text lexemes, evalexpr.lexemes text = .ok lexemes →
    ∀ word, .word word ∈ lexemes → StandsAlone word text

/-- Samples of the sensor give jobs for the enabled rules of the expression exactly
where the sensor is a variable of it. -/
structure Reevaluates (evalexpr : Evalexpr) (expr id : String) : Prop where
  due : evalexpr.IsVariable expr id → ∀ handle sample idx,
    Observing expr id handle sample idx → (alertValue sample.reading).isSome →
      dueJob expr handle sample idx ∈ (handle.engine.observe sample).2
  idle : ¬ evalexpr.IsVariable expr id → ∀ handle sample idx,
    Observing expr id handle sample idx → ∀ job ∈ (handle.engine.observe sample).2, job.idx ≠ idx

/-- A variable of the expression has the shape of a sensor, and where the text has the
sensor standing alone, it has it as a variable. -/
structure Extractable (evalexpr : Evalexpr) (expr id : String) : Prop where
  shaped : evalexpr.IsVariable expr id → SensorShaped id.toList
  unmistaken : SensorShaped id.toList → StandsAlone id.toList expr.toList →
    evalexpr.IsVariable expr id

theorem word_of_identifier {literal : List Char → Bool} {lexemes : List Lexeme} {name : String}
    (member : .identifier name ∈ classify literal lexemes) : .word name.toList ∈ lexemes := by
  fun_induction classify literal lexemes with
  | case1 => cases member
  | case2 text rest ih =>
      rcases List.mem_cons.mp member with equal | later
      · cases equal
      · exact List.mem_cons_of_mem _ (ih later)
  | case3 c rest ih =>
      rcases List.mem_cons.mp member with equal | later
      · cases equal
      · exact List.mem_cons_of_mem _ (ih later)
  | case4 text sign exponent rest is_literal ih =>
      rcases List.mem_cons.mp member with equal | later
      · cases equal
      · exact List.mem_cons_of_mem _ (ih later)
  | case5 text sign exponent rest no_literal merged ih =>
      rcases List.mem_cons.mp member with equal | later
      · cases equal
      · have inside := ih later
        simp [inside]
  | case6 text sign exponent rest no_literal unmerged ih =>
      rcases List.mem_cons.mp member with equal | later
      · cases equal
        rw [String.toList_ofList]
        exact List.mem_cons_self
      · exact List.mem_cons_of_mem _ (ih later)
  | case7 text rest other ih =>
      rcases List.mem_cons.mp member with equal | later
      · split at equal
        · cases equal
        · cases equal
          rw [String.toList_ofList]
          exact List.mem_cons_self
      · exact List.mem_cons_of_mem _ (ih later)

/-- A variable stands alone in its expression. -/
theorem IsVariable.standsAlone (delimits : evalexpr.Delimits)
    (variable_token : evalexpr.IsVariable expr id) : StandsAlone id.toList expr.toList := by
  obtain ⟨tokens, split, member⟩ := variable_token
  obtain ⟨lexemes, cut, rfl⟩ := exists_of_tokens split
  exact delimits.words expr.toList lexemes cut id.toList (word_of_identifier member)

theorem Extractable.reevaluates (extractable : evalexpr.Extractable expr id)
    (delimits : evalexpr.Delimits) : evalexpr.Reevaluates expr id where
  due := by
    intro variable_token handle sample idx observing numeric
    apply (observing.job_iff numeric).mpr
    rw [mem_extractSensorRefs]
    exact ⟨extractable.shaped variable_token, variable_token.standsAlone delimits⟩
  idle := by
    intro no_variable handle sample idx observing job member here
    have same := observing.eq_dueJob member here
    have numeric := numeric_of_job member
    rw [same, observing.job_iff numeric, mem_extractSensorRefs] at member
    exact no_variable (extractable.unmistaken member.1 member.2)

/-- An engine with that one rule shows what the scan misses or mistakes. -/
theorem Reevaluates.extractable (reevaluates : evalexpr.Reevaluates expr id) :
    evalexpr.Extractable expr id := by
  have observing : Observing expr id (Handle.start [compileRule "" expr 0 0 [] none])
      (scalarSample id (.finite 0)) 0 := by
    refine ⟨⟨_, ?_, [], rfl⟩, rfl, _, rfl, rfl, rfl⟩
    intro rule member
    rw [List.mem_singleton.mp member]
    exact compileRule_compiled "" expr 0 0 [] none
  refine ⟨?_, ?_⟩
  · intro variable_token
    have due := reevaluates.due variable_token _ _ _ observing rfl
    rw [observing.job_iff rfl, mem_extractSensorRefs] at due
    exact due.1
  · intro shaped stands
    by_contra no_variable
    have due := (observing.job_iff rfl).mpr (mem_extractSensorRefs.mpr ⟨shaped, stands⟩)
    exact reevaluates.idle no_variable _ _ _ observing _ due rfl

theorem reevaluates_iff (delimits : evalexpr.Delimits) (expr id : String) :
    evalexpr.Reevaluates expr id ↔ evalexpr.Extractable expr id :=
  ⟨Reevaluates.extractable, fun extractable => extractable.reevaluates delimits⟩

end Evalexpr

namespace Comparison

theorem isRefChar_of_isSymbol {c : Char} (symbol : isSymbol c = true) : isRefChar c = false := by
  simp only [isSymbol, Char.isWhitespace, Bool.or_eq_true, decide_eq_true_eq,
    List.contains_iff_mem] at symbol
  have listed : "+-*/%^(),;=!><&|".toList.all (fun c => !isRefChar c) = true := rfl
  rcases symbol with blank | operator
  · rcases blank with ((rfl | rfl) | rfl) | rfl <;> rfl
  · simpa using List.all_eq_true.mp listed c operator

theorem exists_of_map_ok {ε α β : Type} {f : α → β} {result : Except ε α} {mapped : β}
    (made : result.map f = .ok mapped) : ∃ value, result = .ok value ∧ f value = mapped := by
  cases result with
  | error e => cases made
  | ok value => exact ⟨value, rfl, Except.ok.inj made⟩

theorem eq_of_word_mem_flush {word current : List Char} (member : .word word ∈ flush current) :
    word = current := by
  unfold flush at member
  split at member
  · cases member
  · rw [List.mem_singleton, Lexeme.word.injEq] at member
    exact member

/-- The words cut from the text stand alone in it and in what was read before. -/
theorem cut_standsAlone {quoted : Bool} {front current text : List Char} {lexemes : List Lexeme}
    (begins : quoted = false → ∀ c ∈ front.getLast?, (!isRefChar c) = true)
    (result : cut quoted current text = .ok lexemes) {word : List Char}
    (member : .word word ∈ lexemes) : StandsAlone word (front ++ current ++ text) := by
  induction text generalizing quoted front current lexemes with
  | nil =>
      cases quoted with
      | true => cases result
      | false =>
          simp only [cut, Bool.false_eq_true, ↓reduceIte, Except.ok.injEq] at result
          rw [← result] at member
          rw [eq_of_word_mem_flush member]
          exact ⟨front, [], rfl, begins rfl, by simp⟩
  | cons c rest ih =>
      have longer : front ++ current ++ c :: rest = front ++ (current ++ [c]) ++ rest := by simp
      have restarted : front ++ current ++ c :: rest = (front ++ current ++ [c]) ++ [] ++ rest := by
        simp
      -- a word that ends here stands before `c`; later ones are read behind it
      have ended : quoted = false → (!isRefChar c) = true → .word word ∈ flush current →
          StandsAlone word (front ++ current ++ c :: rest) := by
        intro unquoted breaks flushed
        rw [eq_of_word_mem_flush flushed]
        exact ⟨front, c :: rest, rfl, begins unquoted, by simpa using breaks⟩
      have fresh : (!isRefChar c) = true →
          ∀ other ∈ (front ++ current ++ [c]).getLast?, (!isRefChar other) = true := by
        intro breaks other last
        rw [List.getLast?_concat, Option.mem_some] at last
        exact last ▸ breaks
      cases quoted with
      | true =>
          by_cases quote : c = '"'
          · simp only [cut, quote, ↓reduceIte] at result
            obtain ⟨later, read, rfl⟩ := exists_of_map_ok result
            rw [restarted]
            apply ih (fun _ => fresh (by rw [quote]; rfl)) read
            simpa using member
          · simp only [cut, quote, ↓reduceIte] at result
            rw [longer]
            exact ih (fun unquoted => absurd unquoted (by decide)) result member
      | false =>
          by_cases quote : c = '"'
          · simp only [cut, quote, Bool.false_eq_true, ↓reduceIte] at result
            obtain ⟨later, read, rfl⟩ := exists_of_map_ok result
            have breaks : (!isRefChar c) = true := by
              rw [quote]
              rfl
            rcases List.mem_append.mp member with flushed | inside
            · exact ended rfl breaks flushed
            · rw [restarted]
              exact ih (fun unquoted => absurd unquoted (by decide)) read inside
          · by_cases symbol : isSymbol c = true
            · simp only [cut, quote, symbol, Bool.false_eq_true, ↓reduceIte] at result
              obtain ⟨later, read, rfl⟩ := exists_of_map_ok result
              have breaks : (!isRefChar c) = true := by
                rw [isRefChar_of_isSymbol symbol]
                rfl
              rcases List.mem_append.mp member with flushed | inside
              · exact ended rfl breaks flushed
              · rw [restarted]
                apply ih (fun _ => fresh breaks) read
                simpa using inside
            · simp only [cut, quote, symbol, Bool.false_eq_true, ↓reduceIte] at result
              rw [longer]
              exact ih (fun _ => begins rfl) result member

end Comparison

theorem comparisons_delimits : comparisons.Delimits where
  words := by
    intro text lexemes cut word member
    exact @Comparison.cut_standsAlone false [] [] text lexemes
      (fun _ c last => absurd last (by simp)) cut word member

theorem util_shaped : SensorShaped "cpu.util".toList where
  plain := List.all_eq_true.mp rfl
  dotted := List.contains_iff_mem.mp rfl
  lettered := rfl

/-- The usual expression is evaluated again for its sensor. -/
theorem reevaluates_iff_util : comparisons.Reevaluates "cpu.util > 50" "cpu.util" := by
  apply (Evalexpr.reevaluates_iff comparisons_delimits _ _).mpr
  refine ⟨fun _ => util_shaped, fun _ _ => ?_⟩
  exact ⟨_, rfl, by decide⟩

/-- A rule over a sensor without a dot never gets a job, and one that quotes a sensor
gets jobs for it. Both names are sensor ids and variables. -/
theorem undotted_never_reevaluated :
    (SensorId.tryNew "load" = .ok ⟨"load"⟩ ∧
      comparisons.tokens (rewriteDots "load") = some [.identifier (rewriteDots "load")] ∧
      ¬ comparisons.Reevaluates "load > 5" "load") ∧
    (SensorId.tryNew "cpu.util" = .ok ⟨"cpu.util"⟩ ∧
      comparisons.tokens (rewriteDots "cpu.util") = some [.identifier (rewriteDots "cpu.util")] ∧
      ¬ comparisons.Reevaluates "\"cpu.util\" > 5" "cpu.util") := by
  refine ⟨⟨by rfl, by rfl, ?_⟩, by rfl, by rfl, ?_⟩
  · intro reevaluates
    have shaped := reevaluates.extractable.shaped ⟨_, rfl, by decide⟩
    exact absurd shaped.dotted (by decide)
  · intro reevaluates
    have stands : StandsAlone "cpu.util".toList "\"cpu.util\" > 5".toList :=
      ⟨['"'], "\" > 5".toList, by rfl, by simp [isRefChar], by simp [isRefChar]⟩
    obtain ⟨tokens, split, member⟩ := reevaluates.extractable.unmistaken util_shaped stands
    cases Option.some.inj split
    exact absurd member (by decide)

end LinSight.Alerts
