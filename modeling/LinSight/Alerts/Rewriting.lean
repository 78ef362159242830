import LinSight.Alerts.Comparison
import LinSight.Alerts.Context

set_option autoImplicit false

/-! What the blind replacement of dots does to the tokens of an expression. -/

namespace LinSight.Alerts

theorem flatMap_dotted_of_dotFree {text : List Char} (dotFree : '.' ∉ text) :
    text.flatMap dotted = text := by
  induction text with
  | nil => rfl
  | cons c rest ih =>
      have differs : c ≠ '.' := by
        rintro rfl
        exact dotFree List.mem_cons_self
      rw [List.flatMap_cons, ih fun member => dotFree (List.mem_cons_of_mem _ member)]
      simp [dotted, differs]

theorem dot_notMem_flatMap_dotted (text : List Char) : '.' ∉ text.flatMap dotted := by
  intro member
  obtain ⟨c, _, written⟩ := List.mem_flatMap.mp member
  unfold dotted at written
  split at written
  · simp at written
  · rename_i differs
    exact differs (List.mem_singleton.mp written).symm

theorem underscore_mem_flatMap_dotted {text : List Char} (dot : '.' ∈ text) :
    '_' ∈ text.flatMap dotted :=
  List.mem_flatMap.mpr ⟨'.', dot, by simp [dotted]⟩

theorem rewriteDots_ofList (text : List Char) :
    rewriteDots (String.ofList text) = String.ofList (text.flatMap dotted) := by
  simp only [rewriteDots, replaceChar, String.toList_ofList]
  rfl

theorem toList_rewriteDots (text : String) :
    (rewriteDots text).toList = text.toList.flatMap dotted := by
  simp only [rewriteDots, replaceChar, String.toList_ofList]
  rfl

/-- Literals without a dot. -/
def Token.DotFree : Token → Prop
  | .literal text | .quoted text => '.' ∉ text
  | _ => True

def Token.rewrite : Token → Token
  | .identifier name => .identifier (rewriteDots name)
  | other => other

section Classify

variable {literal : List Char → Bool}

/-- A rewritten word is no literal unless it was written without a dot. -/
theorem literal_flatMap_dotted (underscore : ∀ text, '_' ∈ text → literal text = false)
    {text : List Char} (dotFree : literal text = true → '.' ∉ text) :
    literal (text.flatMap dotted) = literal text := by
  by_cases dot : '.' ∈ text
  · have no_literal : literal text = false := by
      by_contra is_literal
      exact dotFree (by simpa using is_literal) dot
    rw [no_literal]
    exact underscore _ (underscore_mem_flatMap_dotted dot)
  · rw [flatMap_dotted_of_dotFree dot]

/-- Where no literal has a dot, only the names of the identifiers change. -/
theorem classify_rewrite (underscore : ∀ text, '_' ∈ text → literal text = false)
    (lexemes : List Lexeme) (dotFree : ∀ token ∈ classify literal lexemes, token.DotFree) :
    classify literal (lexemes.map Lexeme.rewrite) =
      (classify literal lexemes).map Token.rewrite := by
  fun_induction classify literal lexemes with
  | case1 => rfl
  | case2 text rest ih =>
      have first := dotFree _ List.mem_cons_self
      have later := ih fun token member => dotFree token (List.mem_cons_of_mem _ member)
      simp only [List.map_cons, Lexeme.rewrite, classify, later, Token.rewrite,
        flatMap_dotted_of_dotFree first]
  | case3 c rest ih =>
      have later := ih fun token member => dotFree token (List.mem_cons_of_mem _ member)
      simp only [List.map_cons, Lexeme.rewrite, classify, later, Token.rewrite]
  | case4 text sign exponent rest is_literal ih =>
      have first : '.' ∉ text := dotFree _ List.mem_cons_self
      have later := ih fun token member => dotFree token (List.mem_cons_of_mem _ member)
      simp only [List.map_cons, Lexeme.rewrite] at later ⊢
      rw [flatMap_dotted_of_dotFree first, classify.eq_4, if_pos is_literal, later]
      rfl
  | case5 text sign exponent rest no_literal merged ih =>
      have first : '.' ∉ text ++ sign :: exponent := dotFree _ List.mem_cons_self
      have later := ih fun token member => dotFree token (List.mem_cons_of_mem _ member)
      have text_free : '.' ∉ text := fun member => first (List.mem_append_left _ member)
      have exponent_free : '.' ∉ exponent := fun member =>
        first (List.mem_append_right _ (List.mem_cons_of_mem _ member))
      simp only [List.map_cons, Lexeme.rewrite]
      rw [flatMap_dotted_of_dotFree text_free, flatMap_dotted_of_dotFree exponent_free,
        classify.eq_4, if_neg no_literal, if_pos merged, later]
      rfl
  | case6 text sign exponent rest no_literal unmerged ih =>
      have later := ih fun token member => dotFree token (List.mem_cons_of_mem _ member)
      have no_word : ¬ literal (text.flatMap dotted) = true := by
        rw [literal_flatMap_dotted underscore fun is_literal => absurd is_literal no_literal]
        exact no_literal
      have no_merge : ¬ ((sign = '+' ∨ sign = '-') ∧
          literal (text.flatMap dotted ++ sign :: exponent.flatMap dotted) = true) := by
        rintro ⟨signed, is_literal⟩
        have whole : text.flatMap dotted ++ sign :: exponent.flatMap dotted =
            (text ++ sign :: exponent).flatMap dotted := by
          have plain : dotted sign = [sign] := by rcases signed with rfl | rfl <;> rfl
          simp only [List.flatMap_append, List.flatMap_cons, plain, List.cons_append,
            List.nil_append]
        rw [whole, literal_flatMap_dotted underscore fun merged => absurd ⟨signed, merged⟩ unmerged]
          at is_literal
        exact unmerged ⟨signed, is_literal⟩
      simp only [List.map_cons, Lexeme.rewrite] at later ⊢
      rw [classify.eq_4, if_neg no_word, if_neg no_merge, later, ← rewriteDots_ofList]
      rfl
  | case7 text rest other ih =>
      have later := ih fun token member => dotFree token (List.mem_cons_of_mem _ member)
      have shape : ∀ sign exponent tail,
          rest.map Lexeme.rewrite = .symbol sign :: .word exponent :: tail → False := by
        intro sign exponent tail equal
        obtain ⟨first, more, rfl, first_eq, more_eq⟩ := List.map_eq_cons_iff.mp equal
        obtain ⟨second, tail', rfl, second_eq, _⟩ := List.map_eq_cons_iff.mp more_eq
        cases first <;> cases second <;> simp_all [Lexeme.rewrite]
      have first := dotFree _ List.mem_cons_self
      simp only [List.map_cons, Lexeme.rewrite]
      rw [classify.eq_5 _ _ _ shape, later]
      by_cases is_literal : literal text = true
      · rw [if_pos is_literal] at first ⊢
        rw [flatMap_dotted_of_dotFree first, if_pos is_literal]
        rfl
      · have no_word := literal_flatMap_dotted underscore fun yes => absurd yes is_literal
        simp only [no_word, is_literal, Bool.false_eq_true, ↓reduceIte,
          Token.rewrite, rewriteDots_ofList]

/-- Lexemes without dots make literals without dots. -/
theorem classify_dotFree (lexemes : List Lexeme)
    (words : ∀ text, .word text ∈ lexemes → '.' ∉ text)
    (quotes : ∀ text, .quoted text ∈ lexemes → '.' ∉ text) :
    ∀ token ∈ classify literal lexemes, token.DotFree := by
  have rest_words : ∀ {first rest}, (∀ text, .word text ∈ first :: rest → '.' ∉ text) →
      ∀ text, Lexeme.word text ∈ rest → '.' ∉ text :=
    fun words text member => words text (List.mem_cons_of_mem _ member)
  have rest_quotes : ∀ {first rest}, (∀ text, .quoted text ∈ first :: rest → '.' ∉ text) →
      ∀ text, Lexeme.quoted text ∈ rest → '.' ∉ text :=
    fun quotes text member => quotes text (List.mem_cons_of_mem _ member)
  fun_induction classify literal lexemes with
  | case1 =>
      intro token member
      cases member
  | case2 text rest ih =>
      have later := ih (rest_words words) (rest_quotes quotes)
      exact List.forall_mem_cons.mpr ⟨quotes text List.mem_cons_self, later⟩
  | case3 c rest ih =>
      have later := ih (rest_words words) (rest_quotes quotes)
      exact List.forall_mem_cons.mpr ⟨trivial, later⟩
  | case4 text sign exponent rest is_literal ih =>
      have later := ih (rest_words words) (rest_quotes quotes)
      exact List.forall_mem_cons.mpr ⟨words text List.mem_cons_self, later⟩
  | case5 text sign exponent rest no_literal merged ih =>
      have later := ih (rest_words (rest_words (rest_words words)))
        (rest_quotes (rest_quotes (rest_quotes quotes)))
      refine List.forall_mem_cons.mpr ⟨?_, later⟩
      intro member
      rcases List.mem_append.mp member with inside | tail
      · exact words text List.mem_cons_self inside
      · rcases List.mem_cons.mp tail with same | inside
        · rcases merged.1 with rfl | rfl <;> cases same
        · exact words exponent (by simp) inside
  | case6 text sign exponent rest no_literal unmerged ih =>
      have later := ih (rest_words words) (rest_quotes quotes)
      exact List.forall_mem_cons.mpr ⟨trivial, later⟩
  | case7 text rest other ih =>
      have later := ih (rest_words words) (rest_quotes quotes)
      refine List.forall_mem_cons.mpr ⟨?_, later⟩
      split
      · exact words text List.mem_cons_self
      · trivial

/-- No literal of a rewritten text has a dot. -/
theorem classify_map_rewrite_dotFree (lexemes : List Lexeme) :
    ∀ token ∈ classify literal (lexemes.map Lexeme.rewrite), token.DotFree := by
  apply classify_dotFree
  · intro text member
    obtain ⟨lexeme, _, written⟩ := List.mem_map.mp member
    cases lexeme <;> cases written
    exact dot_notMem_flatMap_dotted _
  · intro text member
    obtain ⟨lexeme, _, written⟩ := List.mem_map.mp member
    cases lexeme <;> cases written
    exact dot_notMem_flatMap_dotted _

end Classify

theorem rewriteDots_of_dotFree {name : String} (dotFree : '.' ∉ name.toList) :
    rewriteDots name = name := by
  rw [← String.ofList_toList (s := name), rewriteDots_ofList, flatMap_dotted_of_dotFree dotFree]

namespace Evalexpr

variable (evalexpr : Evalexpr)

def tokens (text : String) : Option (List Token) :=
  (evalexpr.lexemes text.toList).toOption.map (classify evalexpr.literal)

def operands (text : String) (lookup : String → Option Ieee.Value) : Option (List Operand) :=
  (evalexpr.tokens text).map (List.map (operand lookup))

/-- The boolean that the text evaluates to, if it does to one. -/
def truth (text : String) (lookup : String → Option Ieee.Value) : Option Bool :=
  boolean (evalexpr.evalBoolean text lookup)

/-- Names aside, the rewritten expression is evaluated in the engine's context on the
operands of the expression with every sensor's own value. -/
def SameOperands (expr : String) (engine : AlertEngine) : Prop :=
  (evalexpr.operands (rewriteDots expr) engine.ctx.lookup).map
      (List.map (Operand.anonymous evalexpr.builtin)) =
    (evalexpr.operands expr engine.values.lookup).map
      (List.map (Operand.anonymous evalexpr.builtin))

/-- The same lexemes, literals and functions, whatever is made of the operands. -/
structure SameGrammar (other : Evalexpr) : Prop where
  lexemes : other.lexemes = evalexpr.lexemes
  literal : other.literal = evalexpr.literal
  builtin : other.builtin = evalexpr.builtin

/-- The evaluation that recognises `target`, names aside. -/
def recognise (target : List Operand) : Evalexpr :=
  { evalexpr with
    evaluate := fun operands =>
      some (.ok (decide (operands.map (Operand.anonymous evalexpr.builtin) = target)))
    evaluate_anonymous := by
      intro first second same
      simp only [same] }

/-- No number and no string of the expression has a dot, and no identifier of it
shares its rewritten name with another known sensor. -/
structure RewriteSafe (expr : String) (known : String → Prop) : Prop where
  dotFree : ∀ tokens, evalexpr.tokens expr = some tokens → ∀ token ∈ tokens, token.DotFree
  unshared : ∀ tokens, evalexpr.tokens expr = some tokens → ∀ name, .identifier name ∈ tokens →
    ∀ id, known id → rewriteDots id = rewriteDots name → id = name

variable {evalexpr}

theorem truth_eq (text : String) (lookup : String → Option Ieee.Value) :
    evalexpr.truth text lookup =
      (evalexpr.operands text lookup).bind fun operands => boolean (evalexpr.evaluate operands) := by
  unfold truth evalBoolean operands tokens
  cases evalexpr.lexemes text.toList <;> rfl

theorem exists_of_tokens {text : String} {tokens : List Token}
    (split : evalexpr.tokens text = some tokens) :
    ∃ lexemes, evalexpr.lexemes text.toList = .ok lexemes ∧
      classify evalexpr.literal lexemes = tokens := by
  unfold Evalexpr.tokens at split
  cases cut : evalexpr.lexemes text.toList with
  | error error =>
      rw [cut] at split
      cases split
  | ok lexemes =>
      rw [cut] at split
      exact ⟨lexemes, rfl, Option.some.inj split⟩

/-- What a token stands for under a context, names aside. -/
def denote (evalexpr : Evalexpr) (lookup : String → Option Ieee.Value) (token : Token) : Operand :=
  (operand lookup token).anonymous evalexpr.builtin

theorem sameOperands_iff {expr : String} {engine : AlertEngine} {lexemes : List Lexeme}
    (cut : evalexpr.lexemes expr.toList = .ok lexemes) :
    evalexpr.SameOperands expr engine ↔
      (classify evalexpr.literal (lexemes.map Lexeme.rewrite)).map
          (evalexpr.denote engine.ctx.lookup) =
        (classify evalexpr.literal lexemes).map (evalexpr.denote engine.values.lookup) := by
  have rewritten := evalexpr.lexemes_dotted expr.toList
  rw [← toList_rewriteDots, cut] at rewritten
  unfold SameOperands operands Evalexpr.tokens
  rw [rewritten, cut]
  simp only [Except.toOption, Option.map_some, Option.some.injEq, List.map_map]
  rfl

/-- A token and its rewriting denote the same, where the variable is unshared. -/
theorem denote_rewrite {values : KeyMap String Ieee.Value} {ctx : Context} (token : Token)
    (same : ∀ name, token = .identifier name → ctx.lookup (rewriteDots name) = values.lookup name) :
    evalexpr.denote ctx.lookup token.rewrite = evalexpr.denote values.lookup token := by
  cases token with
  | identifier name =>
      have value := same name rfl
      simp only [denote, Token.rewrite, operand, Operand.anonymous, value]
      by_cases dot : '.' ∈ name.toList
      · obtain ⟨before, after⟩ := evalexpr.builtin_dotted name dot
        simp only [before, after, Bool.false_eq_true, ↓reduceIte]
      · rw [rewriteDots_of_dotFree dot]
  | literal text => rfl
  | quoted text => rfl
  | symbol c => rfl

theorem RewriteSafe.sameOperands {expr : String} {engine : AlertEngine}
    (binds : engine.BindsValues)
    (safe : evalexpr.RewriteSafe expr (· ∈ engine.values)) :
    evalexpr.SameOperands expr engine := by
  cases cut : evalexpr.lexemes expr.toList with
  | error error =>
      have rewritten := evalexpr.lexemes_dotted expr.toList
      rw [← toList_rewriteDots, cut] at rewritten
      simp only [SameOperands, operands, Evalexpr.tokens, rewritten, cut]
      rfl
  | ok lexemes =>
      have split : evalexpr.tokens expr = some (classify evalexpr.literal lexemes) := by
        simp only [Evalexpr.tokens, cut, Except.toOption, Option.map_some]
      rw [sameOperands_iff cut,
        classify_rewrite evalexpr.literal_underscore lexemes (safe.dotFree _ split), List.map_map]
      apply List.map_congr_left
      intro token member
      apply denote_rewrite
      rintro name rfl
      exact Bound.lookup binds (safe.unshared _ split name member)

/-- Operands that agree, names aside, have the same truth. -/
theorem SameOperands.truth_eq {expr : String} {engine : AlertEngine}
    (same : evalexpr.SameOperands expr engine) :
    evalexpr.truth (rewriteDots expr) engine.ctx.lookup =
      evalexpr.truth expr engine.values.lookup := by
  rw [Evalexpr.truth_eq, Evalexpr.truth_eq]
  unfold SameOperands at same
  cases live : evalexpr.operands (rewriteDots expr) engine.ctx.lookup with
  | none =>
      rw [live, Option.map_none] at same
      rw [Option.map_eq_none_iff.mp same.symm]
  | some first =>
      rw [live, Option.map_some] at same
      obtain ⟨second, own, equal⟩ := Option.map_eq_some_iff.mp same.symm
      rw [own]
      exact evalexpr.evaluate_anonymous first second equal.symm

theorem SameGrammar.operands {other : Evalexpr} (grammar : evalexpr.SameGrammar other)
    (text : String) (lookup : String → Option Ieee.Value) :
    other.operands text lookup = evalexpr.operands text lookup := by
  simp only [Evalexpr.operands, Evalexpr.tokens, grammar.lexemes, grammar.literal]

theorem SameGrammar.sameOperands {other : Evalexpr} (grammar : evalexpr.SameGrammar other)
    {expr : String} {engine : AlertEngine} (same : evalexpr.SameOperands expr engine) :
    other.SameOperands expr engine := by
  unfold SameOperands at same ⊢
  rw [grammar.operands, grammar.operands, grammar.builtin]
  exact same

/-- Where the truth agrees whatever is made of the operands, the operands do. -/
theorem sameOperands_of_truth {expr : String} {engine : AlertEngine}
    (agrees : ∀ other, evalexpr.SameGrammar other →
      other.truth (rewriteDots expr) engine.ctx.lookup = other.truth expr engine.values.lookup) :
    evalexpr.SameOperands expr engine := by
  unfold SameOperands
  cases own : evalexpr.operands expr engine.values.lookup with
  | none =>
      have cut : evalexpr.tokens expr = none := by simpa [operands] using own
      have rewritten := evalexpr.lexemes_dotted expr.toList
      rw [← toList_rewriteDots, Option.map_eq_none_iff.mp cut] at rewritten
      simp only [operands, Evalexpr.tokens, rewritten, Option.map_none]
  | some target =>
      have grammar : evalexpr.SameGrammar
          (evalexpr.recognise (target.map (Operand.anonymous evalexpr.builtin))) := ⟨rfl, rfl, rfl⟩
      have truth := agrees _ grammar
      rw [Evalexpr.truth_eq, Evalexpr.truth_eq, grammar.operands, grammar.operands, own] at truth
      cases live : evalexpr.operands (rewriteDots expr) engine.ctx.lookup with
      | none =>
          rw [live] at truth
          simp [recognise, boolean] at truth
      | some operands =>
          rw [live] at truth
          simpa [recognise, boolean] using truth

theorem evalSingle_ok {rewrittenExpr : String} {ctx : Context} {truthy : Bool}
    (short : rewrittenExpr.utf8ByteSize ≤ maxExprLen) :
    evalexpr.evalSingle rewrittenExpr ctx = .ok truthy ↔
      evalexpr.truth rewrittenExpr ctx.lookup = some truthy := by
  unfold evalSingle truth
  rw [if_neg (Nat.not_lt.mpr short)]
  cases evalexpr.evalBoolean rewrittenExpr ctx.lookup with
  | none => simp [boolean]
  | some result => cases result <;> simp [boolean]

/-- A dotted literal is lost: no operand of the rewritten text is one. -/
theorem SameOperands.dotFree {expr : String} {engine : AlertEngine}
    (same : evalexpr.SameOperands expr engine) {tokens : List Token}
    (split : evalexpr.tokens expr = some tokens) : ∀ token ∈ tokens, token.DotFree := by
  obtain ⟨lexemes, cut, rfl⟩ := exists_of_tokens split
  rw [sameOperands_iff cut] at same
  intro token member
  have image : evalexpr.denote engine.values.lookup token ∈
      (classify evalexpr.literal lexemes).map (evalexpr.denote engine.values.lookup) :=
    List.mem_map_of_mem member
  rw [← same] at image
  obtain ⟨rewritten, inside, equal⟩ := List.mem_map.mp image
  have free := classify_map_rewrite_dotFree lexemes rewritten inside
  cases token with
  | identifier name => trivial
  | symbol c => trivial
  | literal text => cases rewritten <;> cases equal; exact free
  | quoted text => cases rewritten <;> cases equal; exact free

/-- Operands that agree give every identifier the value of its own sensor. -/
theorem SameOperands.lookup {expr : String} {engine : AlertEngine}
    (same : evalexpr.SameOperands expr engine) {tokens : List Token}
    (split : evalexpr.tokens expr = some tokens) {name : String}
    (member : .identifier name ∈ tokens) :
    engine.ctx.lookup (rewriteDots name) = engine.values.lookup name := by
  have dotFree := same.dotFree split
  obtain ⟨lexemes, cut, rfl⟩ := exists_of_tokens split
  rw [sameOperands_iff cut, classify_rewrite evalexpr.literal_underscore lexemes dotFree,
    List.map_map] at same
  have equal := List.map_inj_left.mp same (.identifier name) member
  simp only [Function.comp_apply, denote, Token.rewrite, operand, Operand.anonymous,
    Operand.identifier.injEq] at equal
  exact equal.2

end Evalexpr

namespace Evalexpr

variable {evalexpr : Evalexpr}

/-- Samples of sensors that the expression is safe for keep its operands. -/
theorem RewriteSafe.observed {expr : String} {sensors : List String}
    (safe : evalexpr.RewriteSafe expr (· ∈ sensors)) (rules : List CompiledRule)
    {samples : List Sample} (among : ∀ sample ∈ samples, sample.sensor.asStr ∈ sensors) :
    evalexpr.SameOperands expr (observeAll rules samples) := by
  apply RewriteSafe.sameOperands (observeAll_bindsValues rules samples)
  refine ⟨safe.dotFree, ?_⟩
  intro tokens split name member id present shares
  obtain ⟨sample, observed, named⟩ := mem_observeAll present
  exact safe.unshared tokens split name member id (named ▸ among sample observed) shares

/-- An expression whose operands all samples of the sensors keep is safe for them:
a shared variable would hold the value of the sensor that was sampled last. -/
theorem rewriteSafe_of_observed {expr : String} {sensors : List String}
    (same : ∀ samples, (∀ sample ∈ samples, sample.sensor.asStr ∈ sensors) →
      evalexpr.SameOperands expr (observeAll [] samples)) :
    evalexpr.RewriteSafe expr (· ∈ sensors) := by
  have empty := same [] (fun sample member => absurd member List.not_mem_nil)
  refine ⟨fun tokens split => empty.dotFree split, ?_⟩
  intro tokens split name member id known shares
  by_contra differs
  have name_ne : name ≠ id := fun equal => differs equal.symm
  by_cases other : name ∈ sensors
  · have among : ∀ sample ∈ [scalarSample name (.finite 0), scalarSample id (.finite 1)],
        sample.sensor.asStr ∈ sensors := by
      intro sample member
      rcases List.mem_cons.mp member with rfl | member
      · exact other
      · cases List.mem_singleton.mp member
        exact known
    have value := (same _ among).lookup split member
    simp [observeAll_pair, AlertEngine.bind, shares, name_ne] at value
  · have among : ∀ sample ∈ [scalarSample id (.finite 1)], sample.sensor.asStr ∈ sensors := by
      intro sample member
      cases List.mem_singleton.mp member
      exact known
    have value := (same _ among).lookup split member
    simp only [observeAll_single, AlertEngine.bind, KeyMap.lookup_insert_eq, shares, name_ne,
      ↓reduceIte, AlertEngine.new, AList.lookup_empty, reduceCtorEq] at value

end Evalexpr

/-- Whatever samples of the sensors come and whatever is made of the operands, the
rewritten expression has the truth of the expression exactly when the expression is
safe for the sensors. In every state the handle reaches, where it is safe for the
sensors with a value, `evalSingle` gives that truth within its bound. -/
theorem rewriting_preserves_meaning (evalexpr : Evalexpr) (expr : String) :
    (∀ sensors : List String,
      (∀ other, evalexpr.SameGrammar other → ∀ rules samples,
        (∀ sample ∈ samples, sample.sensor.asStr ∈ sensors) →
        other.truth (rewriteDots expr) (observeAll rules samples).ctx.lookup =
          other.truth expr (observeAll rules samples).values.lookup) ↔
      evalexpr.RewriteSafe expr (· ∈ sensors)) ∧
    ∀ rules handle, Run.Reaches Handle.step (Handle.start rules) handle →
      evalexpr.RewriteSafe expr (· ∈ handle.engine.values) →
      evalexpr.truth (rewriteDots expr) handle.engine.ctx.lookup =
        evalexpr.truth expr handle.engine.values.lookup ∧
      ((rewriteDots expr).utf8ByteSize ≤ maxExprLen → ∀ truthy,
        evalexpr.evalSingle (rewriteDots expr) handle.engine.ctx = .ok truthy ↔
          evalexpr.truth expr handle.engine.values.lookup = some truthy) := by
  constructor
  · intro sensors
    constructor
    · intro agrees
      apply Evalexpr.rewriteSafe_of_observed
      intro samples among
      apply Evalexpr.sameOperands_of_truth
      intro other grammar
      exact agrees other grammar [] samples among
    · intro safe other grammar rules samples among
      exact (grammar.sameOperands (safe.observed rules among)).truth_eq
  · intro rules handle reached safe
    have same := Evalexpr.RewriteSafe.sameOperands (Handle.reaches_bindsValues reached) safe
    refine ⟨same.truth_eq, fun short truthy => ?_⟩
    rw [Evalexpr.evalSingle_ok short, same.truth_eq]

/-- A fraction becomes the name of an unknown variable, and the variable of one sensor
holds the value of another. -/
theorem rewriting_loses_meaning :
    let busy := observeAll [] [scalarSample "cpu.util" (.finite 90)]
    let fans := observeAll []
      [scalarSample "fan.cpu" (.finite 900), scalarSample "fan__cpu" (.finite 0)]
    (comparisons.truth "cpu.util > 50.5" busy.values.lookup = some true ∧
      comparisons.truth (rewriteDots "cpu.util > 50.5") busy.ctx.lookup = none) ∧
    (comparisons.truth "fan.cpu > 500" fans.values.lookup = some true ∧
      comparisons.truth (rewriteDots "fan.cpu > 500") fans.ctx.lookup = some false) := by
  decide +kernel

end LinSight.Alerts
