import LinSight.Alerts.Config

set_option autoImplicit false

/-! The texts and the configurations that the parser of durations panics on. -/

namespace LinSight.Alerts

open Ieee (Value binary64 binary64_ordinary)

section Texts

/-- The seconds that a text names. -/
def secondsOf (s : String) : Option Value :=
  let chars := (trim s).toList
  (readDecimal (chars.takeWhile isNumberChar)).bind fun q =>
    inSeconds (String.ofList (chars.dropWhile isNumberChar)) (binary64.round q)

/-- A text of more seconds than a duration holds. -/
def Overlong : Option String → Prop
  | none => False
  | some s => ∃ secs, secondsOf s = some secs ∧ (Value.finite u64Bound).le secs = true

theorem round_nonneg {q : ℚ} (nonneg : 0 ≤ q) :
    (Value.finite 0).le (binary64.round q) = true := by
  rcases Ieee.Format.round_of_nonneg nonneg binary64_ordinary with infinite | ⟨r, finite, _, positive⟩
  · rw [infinite]
    rfl
  · rw [finite]
    exact decide_eq_true positive

theorem inSeconds_nonneg {unit : String} {n secs : Value}
    (nonneg : (Value.finite 0).le n = true) (value : inSeconds unit n = some secs) :
    (Value.finite 0).le secs = true := by
  have cases_n : n = .posInf ∨ ∃ q, n = .finite q ∧ 0 ≤ q := by
    cases n with
    | nan => cases nonneg
    | posInf => exact .inl rfl
    | negInf => cases nonneg
    | finite q => exact .inr ⟨q, rfl, of_decide_eq_true nonneg⟩
  unfold inSeconds at value
  split_ifs at value with plain milli minutes hours
  · cases value
    exact nonneg
  · cases value
    rcases cases_n with rfl | ⟨q, rfl, positive⟩
    · norm_num [Ieee.Format.div, Value.le]
    · simp only [Ieee.Format.div]
      norm_num
      exact round_nonneg (by positivity)
  · cases value
    rcases cases_n with rfl | ⟨q, rfl, positive⟩
    · simp [Ieee.Format.mul, Value.le]
    · exact round_nonneg (by positivity)
  · cases value
    rcases cases_n with rfl | ⟨q, rfl, positive⟩
    · simp [Ieee.Format.mul, Value.le]
    · exact round_nonneg (by positivity)

theorem fromSecsF64_eq_none_iff {secs : Value} (nonneg : (Value.finite 0).le secs = true) :
    fromSecsF64 secs = none ↔ (Value.finite u64Bound).le secs = true := by
  cases secs with
  | nan => cases nonneg
  | posInf => simp [fromSecsF64, Value.le]
  | negInf => cases nonneg
  | finite q =>
    have positive : 0 ≤ q := of_decide_eq_true nonneg
    rw [fromSecsF64, Value.le, decide_eq_true_eq]
    have nonnegative : ¬ q < 0 := not_lt.mpr positive
    split
    · rename_i outside
      exact ⟨fun _ => outside.resolve_left nonnegative, fun _ => rfl⟩
    · rename_i inside
      exact ⟨fun failed => (by cases failed), fun long => absurd (.inr long) inside⟩

theorem parseDuration_eq_none_iff (s : String) : parseDuration s = none ↔ Overlong (some s) := by
  simp only [parseDuration, Overlong, secondsOf]
  cases number : readDecimal ((trim s).toList.takeWhile isNumberChar) with
  | none => simp
  | some q =>
    simp only [Option.bind_some]
    cases unit : inSeconds (String.ofList ((trim s).toList.dropWhile isNumberChar))
        (binary64.round q) with
    | none => simp
    | some secs =>
      have nonneg := inSeconds_nonneg (round_nonneg (readDecimal_nonneg number)) unit
      simp only [Option.map_eq_none_iff, Option.some.injEq, exists_eq_left']
      exact fromSecsF64_eq_none_iff nonneg

/-- The parser panics on overlong texts and no others. -/
theorem optParseDuration_eq_none_iff (text : Option String) :
    optParseDuration text = none ↔ Overlong text := by
  cases text with
  | none => simp [optParseDuration, Overlong]
  | some s =>
    by_cases empty : s.toList.isEmpty = true
    · have nothing : s = "" := by simpa using empty
      subst nothing
      have unread : secondsOf "" = none := by decide +kernel
      simp [optParseDuration, Overlong, unread]
    · simp only [optParseDuration, if_neg empty]
      exact parseDuration_eq_none_iff s

end Texts

section Rules

/-- The loader gets as far as an overlong duration of this rule. -/
def RuleConfig.Overlong (r : RuleConfig) : Prop :=
  Alerts.Overlong r.forDuration ∨
    (∃ held, optParseDuration r.forDuration = some (.ok held)) ∧ Alerts.Overlong r.cooldown

/-- The loader gets as far as an overlong duration. -/
def OverlongRules : List RuleConfig → Prop
  | [] => False
  | r :: rest => r.Overlong ∨ (∃ compiled, loadRule r = some (.ok compiled)) ∧ OverlongRules rest

theorem loadRule_eq_none_iff (r : RuleConfig) : loadRule r = none ↔ r.Overlong := by
  simp only [RuleConfig.Overlong, ← optParseDuration_eq_none_iff, loadRule]
  cases optParseDuration r.forDuration with
  | none => simp
  | some held =>
    cases held with
    | error e => simp
    | ok held =>
      cases optParseDuration r.cooldown with
      | none => simp
      | some cooled => cases cooled <;> simp

theorem loadRules_eq_none_iff (rules : List RuleConfig) :
    loadRules rules = none ↔ OverlongRules rules := by
  induction rules with
  | nil => simp [loadRules, OverlongRules]
  | cons r rest ih =>
    simp only [OverlongRules, ← loadRule_eq_none_iff, ← ih, loadRules]
    cases loadRule r with
    | none => simp
    | some loaded => cases loaded <;> simp

/-- The text of a file with an overlong duration in it. -/
def OverlongFile {Text : Type} (codec : TomlCodec Text) (file : Option Text) : Prop :=
  ∃ content config, file = some content ∧ codec.fromStr content = .ok config ∧
    OverlongRules config.rules

theorem load_eq_none_iff {Text : Type} (codec : TomlCodec Text) (path : String)
    (file : Option Text) : AlertEngine.load codec path file = none ↔ OverlongFile codec file := by
  simp only [OverlongFile, ← loadRules_eq_none_iff, AlertEngine.load]
  cases file with
  | none => simp
  | some content => cases parsed : codec.fromStr content <;> simp [parsed]

end Rules

end LinSight.Alerts
