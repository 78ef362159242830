import Mathlib

set_option autoImplicit false

namespace Ieee

/-- The values of a binary floating-point type. The two zeros and the NaN
payloads are not told apart. -/
inductive Value where
  | nan
  | posInf
  | negInf
  | finite (q : ℚ)
deriving DecidableEq

/-- Precision in bits and the exponent range of the leading bit. -/
structure Format where
  precision : Nat
  minExponent : Int
  maxExponent : Int

def binary32 : Format := ⟨24, -126, 127⟩
def binary64 : Format := ⟨53, -1022, 1023⟩

/-- Exponent of the leading bit of a nonzero rational. The bit lengths of the
numerator and the denominator fix it up to one. -/
def leadingExponent (q : ℚ) : Int :=
  let guess : Int := Nat.log2 q.num.natAbs - Nat.log2 q.den
  if (2 : ℚ) ^ guess ≤ |q| then guess else guess - 1

def roundHalfEven (q : ℚ) : Int :=
  let below := q.floor
  if q - below < 1 / 2 then below
  else if 1 / 2 < q - below then below + 1
  else if below % 2 = 0 then below else below + 1

/-- Round to nearest, ties to even; a magnitude past the range is infinite. -/
def Format.round (format : Format) (q : ℚ) : Value :=
  let unit := (2 : ℚ) ^ (max (leadingExponent q) format.minExponent - (format.precision - 1))
  let rounded := roundHalfEven (q / unit) * unit
  if (2 : ℚ) ^ (format.maxExponent + 1) ≤ |rounded| then
    if 0 < rounded then .posInf else .negInf
  else .finite rounded

/-- The IEEE comparison: false as soon as one side is NaN. -/
def Value.lt : Value → Value → Bool
  | .finite a, .finite b => decide (a < b)
  | .negInf, .finite _ | .negInf, .posInf | .finite _, .posInf => true
  | _, _ => false

def Value.le : Value → Value → Bool
  | .finite a, .finite b => decide (a ≤ b)
  | .negInf, .finite _ | .negInf, .posInf | .finite _, .posInf => true
  | .negInf, .negInf | .posInf, .posInf => true
  | _, _ => false

def Value.isFinite : Value → Bool
  | .finite _ => true
  | _ => false

/-- The minimum that ignores a NaN on one side. -/
def Value.min (a b : Value) : Value :=
  match a, b with
  | .nan, b => b
  | a, .nan => a
  | a, b => if a.lt b then a else b

/-- The maximum that ignores a NaN on one side. -/
def Value.max (a b : Value) : Value :=
  match a, b with
  | .nan, b => b
  | a, .nan => a
  | a, b => if a.lt b then b else a

/-- Clamping asserts that the bounds are ordered; `none` is the failed
assertion. A NaN argument passes through. -/
def Value.clamp (x low high : Value) : Option Value :=
  if low.le high then
    let raised := if x.lt low then low else x
    some (if high.lt raised then high else raised)
  else none

/-- Division rounded to the format. A zero divisor counts as positive. -/
def Format.div (format : Format) : Value → Value → Value
  | .nan, _ | _, .nan => .nan
  | .posInf, .posInf | .posInf, .negInf | .negInf, .posInf | .negInf, .negInf => .nan
  | .finite _, .posInf | .finite _, .negInf => .finite 0
  | .posInf, .finite b => if b < 0 then .negInf else .posInf
  | .negInf, .finite b => if b < 0 then .posInf else .negInf
  | .finite a, .finite b =>
      if b = 0 then
        if a = 0 then .nan else if 0 < a then .posInf else .negInf
      else format.round (a / b)

/-- Multiplication rounded to the format. -/
def Format.mul (format : Format) : Value → Value → Value
  | .nan, _ | _, .nan => .nan
  | .posInf, .posInf | .negInf, .negInf => .posInf
  | .posInf, .negInf | .negInf, .posInf => .negInf
  | .posInf, .finite b | .finite b, .posInf =>
      if b = 0 then .nan else if 0 < b then .posInf else .negInf
  | .negInf, .finite b | .finite b, .negInf =>
      if b = 0 then .nan else if 0 < b then .negInf else .posInf
  | .finite a, .finite b => format.round (a * b)

/-- Addition rounded to the format. -/
def Format.add (format : Format) : Value → Value → Value
  | .nan, _ | _, .nan | .posInf, .negInf | .negInf, .posInf => .nan
  | .posInf, _ | _, .posInf => .posInf
  | .negInf, _ | _, .negInf => .negInf
  | .finite a, .finite b => format.round (a + b)

/-- The remainder of the truncating division, which is exact. -/
def Value.rem : Value → Value → Value
  | .finite a, .finite b =>
      if b = 0 then .nan
      else .finite (a - b * (if 0 ≤ a / b then (a / b).floor else (a / b).ceil : Int))
  | .finite a, .posInf | .finite a, .negInf => .finite a
  | _, _ => .nan

def Value.abs : Value → Value
  | .finite q => .finite |q|
  | .negInf => .posInf
  | v => v

/-- The saturating cast to an unsigned integer below `bound`. -/
def Value.toUnsigned (bound : Nat) : Value → Nat
  | .nan | .negInf => 0
  | .posInf => bound - 1
  | .finite q => Nat.min q.floor.toNat (bound - 1)

end Ieee
