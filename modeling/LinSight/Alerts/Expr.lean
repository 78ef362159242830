import LinSight.Alerts.Engine

set_option autoImplicit false

/-! Alert expressions as `evalexpr` reads them. The crate itself is a parameter: how
it cuts a text into lexemes, which words are literals, which names are its own
functions, and what it makes of the operands. -/

namespace LinSight.Alerts

/-- A word, the content of a string literal, or any other character between them. -/
inductive Lexeme where
  | word (text : List Char)
  | quoted (text : List Char)
  | symbol (c : Char)
deriving DecidableEq

inductive Token where
  | identifier (name : String)
  | literal (text : List Char)
  | quoted (text : List Char)
  | symbol (c : Char)
deriving DecidableEq

/-- A token once the context was asked for its value. -/
inductive Operand where
  | identifier (name : String) (value : Option Ieee.Value)
  | literal (text : List Char)
  | quoted (text : List Char)
  | symbol (c : Char)
deriving DecidableEq

/-- What `rewriteDots` writes for a character. -/
def dotted (c : Char) : List Char := if c = '.' then ['_', '_'] else [c]

def Lexeme.rewrite : Lexeme → Lexeme
  | .word text => .word (text.flatMap dotted)
  | .quoted text => .quoted (text.flatMap dotted)
  | .symbol c => .symbol c

/-- Tokens of a list of lexemes. A word that is no literal may be one together with
a sign and the word after it, as in `1e-3`. -/
def classify (literal : List Char → Bool) : List Lexeme → List Token
  | [] => []
  | .quoted text :: rest => .quoted text :: classify literal rest
  | .symbol c :: rest => .symbol c :: classify literal rest
  | .word text :: .symbol sign :: .word exponent :: rest =>
      if literal text then
        .literal text :: classify literal (.symbol sign :: .word exponent :: rest)
      else if (sign = '+' ∨ sign = '-') ∧ literal (text ++ sign :: exponent) then
        .literal (text ++ sign :: exponent) :: classify literal rest
      else
        .identifier (String.ofList text) ::
          classify literal (.symbol sign :: .word exponent :: rest)
  | .word text :: rest =>
      (if literal text then .literal text else .identifier (String.ofList text)) ::
        classify literal rest

def operand (lookup : String → Option Ieee.Value) : Token → Operand
  | .identifier name => .identifier name (lookup name)
  | .literal text => .literal text
  | .quoted text => .quoted text
  | .symbol c => .symbol c

/-- Forget the names that are none of the crate's own functions. -/
def Operand.anonymous (builtin : String → Bool) : Operand → Operand
  | .identifier name value => .identifier (if builtin name then name else "") value
  | other => other

/-- The boolean of an evaluation that gives one. -/
def boolean : Option (Except String Bool) → Option Bool
  | some (.ok truthy) => some truthy
  | _ => none

/-- What the engine relies on of `evalexpr`. An evaluation that panics is `none`. -/
structure Evalexpr where
  lexemes : List Char → Except String (List Lexeme)
  /-- Dots and underscores are ordinary characters of words, string literals and
  comments, so to write the one for the other moves no boundary. -/
  lexemes_dotted : ∀ text, (lexemes (text.flatMap dotted)).toOption =
    (lexemes text).toOption.map (List.map Lexeme.rewrite)
  literal : List Char → Bool
  /-- Neither numbers nor booleans are written with underscores. -/
  literal_underscore : ∀ text, '_' ∈ text → literal text = false
  builtin : String → Bool
  /-- The crate's own functions have no dot and no two underscores in their names. -/
  builtin_dotted : ∀ name, '.' ∈ name.toList →
    builtin name = false ∧ builtin (rewriteDots name) = false
  evaluate : List Operand → Option (Except String Bool)
  /-- A name matters where it is a function of the crate; elsewhere only its value does. -/
  evaluate_anonymous : ∀ first second,
    first.map (Operand.anonymous builtin) = second.map (Operand.anonymous builtin) →
      boolean (evaluate first) = boolean (evaluate second)

namespace Evalexpr

/-- `eval_boolean_with_context`. -/
def evalBoolean (evalexpr : Evalexpr) (text : String) (lookup : String → Option Ieee.Value) :
    Option (Except String Bool) :=
  match evalexpr.lexemes text.toList with
  | .error error => some (.error error)
  | .ok lexemes => evalexpr.evaluate ((classify evalexpr.literal lexemes).map (operand lookup))

def tooLong (text : String) : String :=
  s!"expression too long ({text.utf8ByteSize} bytes, limit {maxExprLen})"

def evalSingle (evalexpr : Evalexpr) (rewrittenExpr : String) (ctx : Context) : EvalOutcome :=
  if maxExprLen < rewrittenExpr.utf8ByteSize then .err (tooLong rewrittenExpr)
  else match evalexpr.evalBoolean rewrittenExpr ctx.lookup with
    | some (.ok truthy) => .ok truthy
    | some (.error error) => .err error
    | none => .panic

theorem evalSingle_ne_timeout (evalexpr : Evalexpr) (text : String) (ctx : Context) :
    evalexpr.evalSingle text ctx ≠ .timeout := by
  unfold evalSingle
  split
  · intro same
    cases same
  · split <;> intro same <;> cases same

/-- `inTime` tells whether the worker answers within the timeout. -/
def evalLimited (evalexpr : Evalexpr) (rewrittenExpr : String) (ctx : Context) (inTime : Bool) :
    EvalOutcome :=
  if maxExprLen < rewrittenExpr.utf8ByteSize then .err (tooLong rewrittenExpr)
  else if !inTime then .timeout
  else match evalexpr.evalBoolean rewrittenExpr ctx.lookup with
    | some (.ok truthy) => .ok truthy
    | some (.error error) => .err error
    | none => .panic

end Evalexpr

end LinSight.Alerts
