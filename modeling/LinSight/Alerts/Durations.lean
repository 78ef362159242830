import LinSight.Core.Hardware
import LinSight.Library.Rounding

set_option autoImplicit false

/-! The texts of durations in the alert configuration. A duration is its number of
nanoseconds. -/

namespace LinSight.Alerts

open DebugText (Message debugStr)
open Ieee (Value binary64)

def nanosPerSec : Nat := 1000000000

def nanosPerMilli : Nat := 1000000

/-- `Duration::from_secs_f64`; `none` is its panic. -/
def fromSecsF64 : Value → Option Nat
  | .finite q =>
      if q < 0 ∨ (u64Bound : ℚ) ≤ q then none
      else some (Ieee.roundHalfEven (q * nanosPerSec)).toNat
  | _ => none

def asSecsF64 (d : Nat) : Value :=
  binary64.add (binary64.round ((d / nanosPerSec : Nat) : ℚ))
    (binary64.div (binary64.round ((d % nanosPerSec : Nat) : ℚ)) (.finite nanosPerSec))

/-- What `str::parse::<f64>` reads from digits and dots, before rounding. -/
def readDecimal (chars : List Char) : Option ℚ :=
  let whole := chars.takeWhile (· ≠ '.')
  let fraction := (chars.dropWhile (· ≠ '.')).drop 1
  if (whole ++ fraction).isEmpty || !(whole ++ fraction).all Char.isDigit then none
  else some (Nat.ofDigitChars 10 (whole ++ fraction) 0 / 10 ^ fraction.length)

def isNumberChar (c : Char) : Bool := c.isDigit || c == '.'

/-- A number of the unit as seconds. -/
def inSeconds (unit : String) (n : Value) : Option Value :=
  if unit = "" ∨ unit = "s" then some n
  else if unit = "ms" then some (binary64.div n (.finite 1000))
  else if unit = "m" then some (binary64.mul n (.finite 60))
  else if unit = "h" then some (binary64.mul n (.finite 3600))
  else none

/-- `none` is the panic of `Duration::from_secs_f64`. -/
def parseDuration (s : String) : Option (Except Message Nat) :=
  let s := trim s
  let num := s.toList.takeWhile isNumberChar
  let unit := String.ofList (s.toList.dropWhile isNumberChar)
  match readDecimal num with
  | none => some (.error ("invalid number in " ++ debugStr s))
  | some q =>
      match inSeconds unit (binary64.round q) with
      | none => some (.error ("unknown duration unit " ++ debugStr unit))
      | some secs => (fromSecsF64 secs).map .ok

/-- `m / 10 ^ p` with `p` decimals. -/
def displayDecimal (m p : Nat) : String :=
  if p = 0 then Nat.repr m
  else Nat.repr (m / 10 ^ p) ++ "." ++
    String.ofList ((Nat.repr (m % 10 ^ p)).toList.leftpad p '0')

/-- The decimal of `p` places that reads back as the value and is nearest to it. -/
def decimalAt (q : ℚ) (p : Nat) : Option (Nat × Nat) :=
  let low := (q * 10 ^ p).floor.toNat
  let back (m : Nat) : Bool := decide (binary64.round ((m : ℚ) / 10 ^ p) = .finite q)
  if back low && (!back (low + 1) || q * 10 ^ p - low ≤ low + 1 - q * 10 ^ p) then some (low, p)
  else if back (low + 1) then some (low + 1, p)
  else none

/-- As few decimals as read back as the value. No float from zero to one has more than
1074. -/
def shortestDecimal (q : ℚ) : Option (Nat × Nat) :=
  (List.range 1075).findSome? (decimalAt q)

/-- `{}` of a float from zero to one. -/
def displayFloat : Value → String
  | .finite q =>
      match shortestDecimal q with
      | some (m, p) => displayDecimal m p
      | none => ""
  | .nan => "NaN"
  | .posInf => "inf"
  | .negInf => "-inf"

/-- `f64::EPSILON`. -/
def epsilon : Value := .finite (1 / 2 ^ 52)

/-- `secs` is at least `unit` and a multiple of it. -/
def isWhole (secs : Value) (unit : ℚ) : Bool :=
  (Value.finite unit).le secs && (secs.rem (.finite unit)).abs.lt epsilon

def formatDuration (d : Nat) : String :=
  let secs := asSecsF64 d
  if isWhole secs 3600 then Nat.repr (secs.toUnsigned u64Bound / 3600) ++ "h"
  else if isWhole secs 60 then Nat.repr (secs.toUnsigned u64Bound / 60) ++ "m"
  else if isWhole secs 1 then Nat.repr (secs.toUnsigned u64Bound) ++ "s"
  else if (binary64.round (1 / 1000)).le secs then Nat.repr (d / nanosPerMilli) ++ "ms"
  else displayFloat secs ++ "s"

/-- No text where the duration is zero. -/
def optFormatDuration (d : Nat) : Option String :=
  if d = 0 then none else some (formatDuration d)

/-- No text and the empty one are zero. -/
def optParseDuration : Option String → Option (Except Message Nat)
  | some s => if s.toList.isEmpty then some (.ok 0) else parseDuration s
  | none => some (.ok 0)

section Texts

theorem trim_eq_self {s : String} (plain : ∀ c ∈ s.toList, isWhitespace c = false) :
    trim s = s := by
  have front : s.toList.dropWhile isWhitespace = s.toList := by
    rw [List.dropWhile_eq_self_iff]
    intro nonempty
    simp [plain _ (List.getElem_mem nonempty)]
  have back : s.toList.rdropWhile isWhitespace = s.toList := by
    rw [List.rdropWhile_eq_self_iff]
    intro nonempty
    simp [plain _ (List.getLast_mem nonempty)]
  unfold trim
  rw [front, back, String.ofList_toList]

/-- A number followed by a unit is read as the two of them. -/
theorem parseDuration_of_parts {num unit : List Char} {q : ℚ}
    (digits : ∀ c ∈ num, isNumberChar c = true)
    (ends : ∀ c ∈ unit.head?, isNumberChar c = false)
    (plain : ∀ c ∈ unit, isWhitespace c = false) (value : readDecimal num = some q) :
    parseDuration (String.ofList (num ++ unit)) =
      match inSeconds (String.ofList unit) (binary64.round q) with
      | none => some (.error ("unknown duration unit " ++ debugStr (String.ofList unit)))
      | some secs => (fromSecsF64 secs).map .ok := by
  have untrimmed : trim (String.ofList (num ++ unit)) = String.ofList (num ++ unit) := by
    apply trim_eq_self
    intro c member
    rw [String.toList_ofList] at member
    rcases List.mem_append.mp member with inside | inside
    · have number := digits c inside
      simp only [isNumberChar, Bool.or_eq_true, beq_iff_eq] at number
      rcases number with digit | dot
      · exact isWhitespace_of_isDigit digit
      · rw [dot]
        decide
    · exact plain c inside
  have number : (num ++ unit).takeWhile isNumberChar = num := by
    rw [List.takeWhile_append_of_pos digits]
    cases unit with
    | nil => simp
    | cons c rest => simp [ends c (by simp)]
  have rest : (num ++ unit).dropWhile isNumberChar = unit := by
    rw [List.dropWhile_append_of_pos digits]
    cases unit with
    | nil => rfl
    | cons c rest => simp [ends c (by simp)]
  unfold parseDuration
  simp only [untrimmed, String.toList_ofList, number, rest, value]

theorem readDecimal_repr (n : Nat) : readDecimal (Nat.repr n).toList = some (n : ℚ) := by
  have digit : ∀ c ∈ Nat.toDigits 10 n, c.isDigit = true :=
    fun c member => Nat.isDigit_of_mem_toDigits (by decide) (by decide) member
  have undotted : ∀ c ∈ Nat.toDigits 10 n, decide (c ≠ '.') = true := by
    intro c member
    have is_digit := digit c member
    rw [decide_eq_true_eq]
    intro dot
    rw [dot] at is_digit
    revert is_digit
    decide
  rw [Nat.toList_repr]
  have whole : (Nat.toDigits 10 n).takeWhile (· ≠ '.') = Nat.toDigits 10 n :=
    List.takeWhile_eq_self_iff.mpr undotted
  have fraction : (Nat.toDigits 10 n).dropWhile (· ≠ '.') = [] :=
    List.dropWhile_eq_nil_iff.mpr undotted
  have nonempty : (Nat.toDigits 10 n).isEmpty = false := by
    simp
  have all : (Nat.toDigits 10 n).all Char.isDigit = true := List.all_eq_true.mpr digit
  unfold readDecimal
  simp only [whole, fraction, List.drop_nil, List.append_nil, nonempty, all, Bool.not_true,
    Bool.or_self, Bool.false_eq_true, if_false, List.length_nil, pow_zero, div_one,
    Nat.ofDigitChars_ten_toDigits]

theorem isDigit_of_mem_repr {n : Nat} {c : Char} (member : c ∈ (Nat.repr n).toList) :
    c.isDigit = true := by
  rw [Nat.toList_repr] at member
  exact Nat.isDigit_of_mem_toDigits (by decide) (by decide) member

theorem ne_dot_of_isDigit {c : Char} (digit : c.isDigit = true) : decide (c ≠ '.') = true := by
  rw [decide_eq_true_eq]
  intro dot
  rw [dot] at digit
  revert digit
  decide

theorem readDecimal_displayDecimal (m : Nat) {p : Nat} (places : 0 < p) :
    readDecimal (displayDecimal m p).toList = some ((m : ℚ) / 10 ^ p) := by
  have text : (displayDecimal m p).toList = (Nat.repr (m / 10 ^ p)).toList ++
      '.' :: ((Nat.repr (m % 10 ^ p)).toList.leftpad p '0') := by
    have some_places : p ≠ 0 := by omega
    simp [displayDecimal, some_places]
  generalize whole_eq : (Nat.repr (m / 10 ^ p)).toList = whole at text
  generalize fraction_eq : (Nat.repr (m % 10 ^ p)).toList.leftpad p '0' = fraction at text
  have whole_digits : ∀ c ∈ whole, c.isDigit = true := by
    intro c member
    exact isDigit_of_mem_repr (whole_eq ▸ member)
  have fraction_digits : ∀ c ∈ fraction, c.isDigit = true := by
    intro c member
    rw [← fraction_eq, List.leftpad] at member
    rcases List.mem_append.mp member with pad | digit
    · rw [List.eq_of_mem_replicate pad]
      decide
    · exact isDigit_of_mem_repr digit
  have small : m % 10 ^ p < 10 ^ p := Nat.mod_lt _ (by positivity)
  have length : fraction.length = p := by
    have short : (Nat.toDigits 10 (m % 10 ^ p)).length ≤ p :=
      (Nat.length_toDigits_le_iff (by decide) places).mpr small
    rw [← fraction_eq, List.length_leftpad, Nat.toList_repr]
    omega
  have value : Nat.ofDigitChars 10 (whole ++ fraction) 0 = m := by
    have high : Nat.ofDigitChars 10 whole 0 = m / 10 ^ p := by
      rw [← whole_eq, Nat.toList_repr, Nat.ofDigitChars_ten_toDigits]
    have low : Nat.ofDigitChars 10 fraction 0 = m % 10 ^ p := by
      rw [← fraction_eq, List.leftpad, Nat.ofDigitChars_append, Nat.ofDigitChars_replicate_zero,
        Nat.mul_zero, Nat.toList_repr, Nat.ofDigitChars_ten_toDigits]
    rw [Nat.ofDigitChars_append, high, Nat.ofDigitChars_eq_ofDigitChars_zero, low, length]
    exact Nat.div_add_mod m (10 ^ p)
  have taken : (whole ++ '.' :: fraction).takeWhile (· ≠ '.') = whole := by
    rw [List.takeWhile_append_of_pos fun c member => ne_dot_of_isDigit (whole_digits c member)]
    simp
  have dropped : (whole ++ '.' :: fraction).dropWhile (· ≠ '.') = '.' :: fraction := by
    rw [List.dropWhile_append_of_pos fun c member => ne_dot_of_isDigit (whole_digits c member)]
    simp
  have all : (whole ++ fraction).all Char.isDigit = true := by
    rw [List.all_append, List.all_eq_true.mpr whole_digits, List.all_eq_true.mpr fraction_digits]
    rfl
  have nonempty : (whole ++ fraction).isEmpty = false := by
    rw [List.isEmpty_eq_false_iff_exists_mem]
    have inside : fraction ≠ [] := List.ne_nil_of_length_pos (by omega)
    obtain ⟨c, member⟩ := List.exists_mem_of_ne_nil fraction inside
    exact ⟨c, List.mem_append_right _ member⟩
  unfold readDecimal
  rw [text]
  simp only [taken, dropped, List.drop_one, List.tail_cons, nonempty, all, Bool.not_true,
    Bool.or_self, Bool.false_eq_true, if_false, value, length]

theorem isNumberChar_of_mem_displayDecimal {m p : Nat} {c : Char}
    (member : c ∈ (displayDecimal m p).toList) : isNumberChar c = true := by
  have digit : c.isDigit = true ∨ c = '.' := by
    unfold displayDecimal at member
    split at member
    · exact .inl (isDigit_of_mem_repr member)
    · simp only [String.toList_append, String.toList_ofList, List.mem_append, List.leftpad,
        List.mem_replicate] at member
      rcases member with (whole | dot) | pad | fraction
      · exact .inl (isDigit_of_mem_repr whole)
      · exact .inr (by simpa using dot)
      · rw [pad.2]
        exact .inl (by decide)
      · exact .inl (isDigit_of_mem_repr fraction)
  simp only [isNumberChar, Bool.or_eq_true, beq_iff_eq]
  exact digit

end Texts

end LinSight.Alerts
