import LinSight.Core.Hardware

set_option autoImplicit false

/-! Durations shared by the daemon and the command line. A duration is its number of
nanoseconds. -/

namespace LinSight

/-- `Duration::from_secs`. -/
def fromSecs (secs : Nat) : Nat := secs * 1000000000

/-- `Duration::as_micros`, a `u128`. -/
def asMicros (d : Nat) : Nat := d / 1000

/-- `str::parse::<u64>` of digits. -/
def parseDigits (digits : List Char) : Option Nat :=
  let n := Nat.ofDigitChars 10 digits 0
  if digits.isEmpty ∨ u64Bound ≤ n then none else some n

def checkedMul (a b : Nat) : Option Nat := if a * b < u64Bound then some (a * b) else none

def parseDurationDhm (s : String) : Option Nat :=
  let s := trim s
  let digits := s.toList.takeWhile Char.isDigit
  let unit := String.ofList (s.toList.dropWhile Char.isDigit)
  ((parseDigits digits).filter fun v => decide (0 < v)).bind fun n =>
    let secs :=
      if unit = "d" then checkedMul n 86400
      else if unit = "h" then checkedMul n 3600
      else if unit = "m" then checkedMul n 60
      else none
    secs.map fromSecs

theorem parseDurationDhm_trim (s : String) :
    parseDurationDhm (trim s) = parseDurationDhm s := by
  simp only [parseDurationDhm, trim_idempotent]

example : parseDurationDhm " 30d " = some (fromSecs (30 * 86400)) := by decide +kernel

end LinSight
