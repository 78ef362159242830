import LinSight.Library.DebugText
import LinSight.Library.Ieee

set_option autoImplicit false

namespace LinSight

open DebugText (Message debugStr)

/-- `char::is_whitespace`: the code points with the White_Space property. -/
def isWhitespace (c : Char) : Bool :=
  let n := c.toNat
  (9 ≤ n && n ≤ 13) || n == 0x20 || n == 0x85 || n == 0xA0 || n == 0x1680 ||
    (0x2000 ≤ n && n ≤ 0x200A) || n == 0x2028 || n == 0x2029 || n == 0x202F ||
    n == 0x205F || n == 0x3000

theorem isWhitespace_of_isDigit {c : Char} (digit : c.isDigit = true) :
    isWhitespace c = false := by
  have range := digit
  simp only [Char.isDigit, Bool.and_eq_true, decide_eq_true_eq] at range
  have low : 48 ≤ c.toNat := range.1
  have high : c.toNat ≤ 57 := range.2
  simp only [isWhitespace]
  simp
  omega

/-- `char::is_control`: the general category Cc. -/
def isControl (c : Char) : Bool :=
  c.toNat < 0x20 || (0x7F ≤ c.toNat && c.toNat ≤ 0x9F)

/-- `String::replace` with a one-character pattern. -/
def replaceChar (pattern : Char) (replacement text : String) : String :=
  String.ofList (text.toList.flatMap fun c => if c = pattern then replacement.toList else [c])

inductive CoreError where
  | invalidSensorId (message : Message)
deriving DecidableEq

/-- The wire decodes a sensor id without `try_new`, so any string occurs. -/
structure SensorId where
  asStr : String
deriving DecidableEq

def SensorId.tryNew (s : String) : Except CoreError SensorId :=
  if s.toList.isEmpty then .error (.invalidSensorId "empty")
  else if s.toList.any isWhitespace then
    .error (.invalidSensorId ("whitespace in " ++ debugStr s))
  else .ok ⟨s⟩

theorem SensorId.tryNew_iff (s : String) : SensorId.tryNew s = .ok ⟨s⟩ ↔
    s.toList ≠ [] ∧ s.toList.any isWhitespace = false := by
  unfold SensorId.tryNew
  split
  · rename_i empty
    rw [List.isEmpty_iff] at empty
    exact iff_of_false (fun ok => by cases ok) (fun filled => filled.1 empty)
  · rename_i filled
    rw [List.isEmpty_iff] at filled
    split
    · rename_i blank
      exact iff_of_false (fun ok => by cases ok) (fun plain => by rw [blank] at plain; cases plain.2)
    · rename_i plain
      exact iff_of_true rfl ⟨filled, Bool.not_eq_true _ ▸ plain⟩

inductive Cell where
  | text (s : String)
  | number (v : Ieee.Value)
  | bytes (n : Nat)
deriving DecidableEq

structure TableRow where
  cells : List Cell
deriving DecidableEq

inductive Reading where
  | scalar (v : Ieee.Value)
  | counter (v : Nat)
  | table (rows : List TableRow)
  | state (s : String)
deriving DecidableEq

structure Sample where
  sensor : SensorId
  tsMicros : Nat
  reading : Reading
deriving DecidableEq

/-- Sensor tag of a value that is constant for the process lifetime. -/
def staticTag : String := "static"

/-- One past the largest `u64`. -/
abbrev u64Bound : Nat := 18446744073709551616

abbrev u64Max : Nat := 18446744073709551615

/-- Release builds wrap `u64` addition. -/
def wrappingAdd (a b : Nat) : Nat := (a + b) % u64Bound

def saturatingAdd (a b : Nat) : Nat := min (a + b) u64Max

def saturatingMul (a b : Nat) : Nat := min (a * b) u64Max

end LinSight
