import LinSight.Alerts.Expr

set_option autoImplicit false

/-! The part of `evalexpr` that comparisons such as `cpu.util > 50.5` use: words,
string literals without escapes, decimal numbers and `>`. -/

namespace LinSight.Alerts

namespace Comparison

def isSymbol (c : Char) : Bool := c.isWhitespace || "+-*/%^(),;=!><&|".toList.contains c

/-- The word read so far, if one was begun. -/
def flush (current : List Char) : List Lexeme := if current.isEmpty then [] else [.word current]

/-- Cut the text behind `current`, which is in a string literal or not. -/
def cut (quoted : Bool) (current : List Char) : List Char → Except String (List Lexeme)
  | [] => if quoted then .error "a double quote is unmatched" else .ok (flush current)
  | c :: rest =>
      if quoted then
        if c = '"' then (cut false [] rest).map (.quoted current :: ·)
        else cut true (current ++ [c]) rest
      else if c = '"' then (cut true [] rest).map (flush current ++ ·)
      else if isSymbol c then (cut false [] rest).map (flush current ++ .symbol c :: ·)
      else cut false (current ++ [c]) rest

def digitsValue (digits : List Char) : Nat :=
  digits.foldl (fun value c => value * 10 + (c.toNat - '0'.toNat)) 0

/-- A decimal number with or without a fraction. -/
def decimal (text : List Char) : Option Ieee.Value :=
  let whole := text.takeWhile Char.isDigit
  match text.dropWhile Char.isDigit with
  | [] => if whole.isEmpty then none else some (.finite (digitsValue whole))
  | point :: fraction =>
      if point = '.' && fraction.all Char.isDigit && !(whole ++ fraction).isEmpty then
        some (.finite (digitsValue (whole ++ fraction) / 10 ^ fraction.length))
      else none

def literal (text : List Char) : Bool :=
  text.all (fun c => c.isDigit || c = '.') && (decimal text).isSome

def comparand : Operand → Option Ieee.Value
  | .identifier _ value => value
  | .literal text => decimal text
  | _ => none

def isBlank : Operand → Bool
  | .symbol c => c.isWhitespace
  | _ => false

/-- The truth of `left > right`. -/
def comparison (operands : List Operand) : Option Bool :=
  match operands.filter (!isBlank ·) with
  | [left, middle, right] =>
      if middle = .symbol '>' then do
        let left ← comparand left
        let right ← comparand right
        return right.lt left
      else none
  | _ => none

def evaluate (operands : List Operand) : Option (Except String Bool) :=
  match comparison operands with
  | some truthy => some (.ok truthy)
  | none => some (.error "no comparison of two numbers")

section Laws

theorem flush_rewrite (current : List Char) :
    flush (current.flatMap dotted) = (flush current).map Lexeme.rewrite := by
  cases current with
  | nil => rfl
  | cons c rest =>
      have begun : ((c :: rest).flatMap dotted).isEmpty = false := by
        rw [List.flatMap_cons]
        unfold dotted
        split <;> rfl
      unfold flush
      rw [begun]
      rfl

theorem toOption_map {ε α β : Type} (f : α → β) (result : Except ε α) :
    (result.map f).toOption = result.toOption.map f := by
  cases result <;> rfl

theorem cut_ordinary {c : Char} (no_quote : c ≠ '"') (no_symbol : isSymbol c = false)
    (quoted : Bool) (current rest : List Char) :
    cut quoted current (c :: rest) = cut quoted (current ++ [c]) rest := by
  cases quoted <;> simp [cut, no_quote, no_symbol]

theorem cut_dotted (quoted : Bool) (current text : List Char) :
    (cut quoted (current.flatMap dotted) (text.flatMap dotted)).toOption =
      (cut quoted current text).toOption.map (List.map Lexeme.rewrite) := by
  induction text generalizing quoted current with
  | nil =>
      cases quoted with
      | true => rfl
      | false => simp [cut, Except.toOption, flush_rewrite]
  | cons c rest ih =>
      by_cases ordinary : c ≠ '"' ∧ isSymbol c = false
      · have longer := ih quoted (current ++ [c])
        rw [cut_ordinary ordinary.1 ordinary.2, ← longer, List.flatMap_append, List.flatMap_cons]
        by_cases dot : c = '.'
        · subst dot
          change (cut quoted (current.flatMap dotted) ('_' :: '_' :: rest.flatMap dotted)).toOption = _
          rw [cut_ordinary (by decide) (by decide), cut_ordinary (by decide) (by decide),
            List.append_assoc]
          rfl
        · have plain : dotted c = [c] := if_neg dot
          simp only [plain, List.singleton_append, List.flatMap_cons, List.flatMap_nil,
            List.append_nil]
          rw [cut_ordinary ordinary.1 ordinary.2]
      · have dot : c ≠ '.' := by
          rintro rfl
          exact ordinary ⟨by decide, by decide⟩
        have plain : dotted c = [c] := if_neg dot
        have fresh := fun quoted => ih quoted []
        simp only [List.flatMap_nil] at fresh
        rw [List.flatMap_cons, plain, List.singleton_append]
        have extended : (current ++ [c]).flatMap dotted = current.flatMap dotted ++ [c] := by
          rw [List.flatMap_append, List.flatMap_cons, plain]
          rfl
        cases quoted with
        | true =>
            by_cases quote : c = '"'
            · simp only [cut, quote, ↓reduceIte, toOption_map, fresh, Option.map_map]
              rfl
            · simp only [cut, quote, ↓reduceIte, ← extended]
              exact ih true (current ++ [c])
        | false =>
            by_cases quote : c = '"'
            · simp only [cut, quote, Bool.false_eq_true, ↓reduceIte, toOption_map, fresh,
                Option.map_map, flush_rewrite]
              congr 1
              funext lexemes
              simp
            · have symbol : isSymbol c = true := by simpa [quote] using ordinary
              simp only [cut, quote, symbol, Bool.false_eq_true, ↓reduceIte, toOption_map, fresh,
                Option.map_map, flush_rewrite]
              congr 1
              funext lexemes
              simp [Lexeme.rewrite]

theorem literal_underscore (text : List Char) (underscore : '_' ∈ text) :
    literal text = false := by
  have stray : text.all (fun c => c.isDigit || c = '.') = false := by
    rw [List.all_eq_false]
    exact ⟨'_', underscore, by decide⟩
  simp only [literal, stray, Bool.false_and]

def builtin : String → Bool := fun _ => false

theorem comparand_anonymous (operand : Operand) :
    comparand (operand.anonymous builtin) = comparand operand := by
  cases operand <;> rfl

theorem anonymous_eq_symbol (operand : Operand) (c : Char) :
    operand.anonymous builtin = .symbol c ↔ operand = .symbol c := by
  cases operand <;> simp [Operand.anonymous]

theorem isBlank_anonymous (operand : Operand) :
    isBlank (operand.anonymous builtin) = isBlank operand := by
  cases operand <;> rfl

theorem comparison_anonymous (operands : List Operand) :
    comparison (operands.map (Operand.anonymous builtin)) = comparison operands := by
  have kept : (operands.map (Operand.anonymous builtin)).filter (!isBlank ·) =
      (operands.filter (!isBlank ·)).map (Operand.anonymous builtin) := by
    rw [List.filter_map]
    congr 1
    apply List.filter_congr
    intro operand _
    simp only [Function.comp_apply, isBlank_anonymous]
  unfold comparison
  rw [kept]
  generalize operands.filter (!isBlank ·) = shown
  match shown with
  | [] => rfl
  | [_] => rfl
  | [_, _] => rfl
  | [left, middle, right] =>
      simp only [List.map_cons, List.map_nil, anonymous_eq_symbol, comparand_anonymous]
  | _ :: _ :: _ :: _ :: _ => rfl

theorem boolean_evaluate (operands : List Operand) :
    boolean (evaluate operands) = comparison operands := by
  unfold evaluate
  cases comparison operands <;> rfl

end Laws

end Comparison

/-- Comparisons as `evalexpr` evaluates them. -/
def comparisons : Evalexpr where
  lexemes := Comparison.cut false []
  lexemes_dotted := Comparison.cut_dotted false []
  literal := Comparison.literal
  literal_underscore := Comparison.literal_underscore
  builtin := Comparison.builtin
  builtin_dotted := fun _ _ => ⟨rfl, rfl⟩
  evaluate := Comparison.evaluate
  evaluate_anonymous := by
    intro first second same
    rw [Comparison.boolean_evaluate, Comparison.boolean_evaluate,
      ← Comparison.comparison_anonymous first, same, Comparison.comparison_anonymous]

end LinSight.Alerts
