import LinSight.Library.Ieee

set_option autoImplicit false

/-! The shortest decimal text that reads back as a floating-point value. -/

namespace Ieee

/-- Place of the leading decimal digit of a positive rational. The digit counts of the
numerator and the denominator fix it up to one. -/
def leadingPlace (q : ℚ) : Int :=
  let guess : Int := Nat.log 10 q.num.natAbs - Nat.log 10 q.den
  if (10 : ℚ) ^ guess ≤ q then guess else guess - 1

/-- So many significant digits that round to the value, with the place of the last one. The
nearest ones come first. -/
def Format.decimalOf (format : Format) (q : ℚ) (significant : Nat) : Option (Nat × Int) :=
  let place := leadingPlace q - (significant - 1)
  let scaled := q / (10 : ℚ) ^ place
  let roundsBack (digits : Int) : Bool := format.round (digits * (10 : ℚ) ^ place) = .finite q
  let found := [roundHalfEven scaled, scaled.floor, scaled.ceil].find? roundsBack
  found.map fun digits => (digits.toNat, place)

/-- Seventeen digits are enough for a value of the format. -/
def shortestDecimal (q : ℚ) : Nat × Int :=
  let found := (List.range 17).findSome? fun n => binary64.decimalOf q (n + 1)
  found.getD (q.floor.toNat, 0)

/-- The digits behind the point, without zeros at the end. -/
def fractionDigits (digits places : Nat) : List Char :=
  ((Nat.toDigits 10 digits).leftpad places '0').rdropWhile (· = '0')

/-- A number without exponent. -/
def decimalText (digits : Nat) (place : Int) : List Char :=
  if 0 ≤ place then Nat.toDigits 10 (digits * 10 ^ place.toNat)
  else
    let places := (-place).toNat
    let fraction := fractionDigits (digits % 10 ^ places) places
    let whole := Nat.toDigits 10 (digits / 10 ^ places)
    if fraction = [] then whole else whole ++ '.' :: fraction

/-- The `Display` text of an `f64`. The sign of a zero is not kept, as a table of SQLite does not
keep it. -/
def Value.display : Value → List Char
  | .nan => ['N', 'a', 'N']
  | .posInf => ['i', 'n', 'f']
  | .negInf => ['-', 'i', 'n', 'f']
  | .finite q =>
      let (digits, place) := shortestDecimal |q|
      if q < 0 then '-' :: decimalText digits place else decimalText digits place

/-- The `Display` text of an `f64`, where `minus` says whether a zero has its sign bit set. -/
def Value.displaySigned (minus : Bool) (v : Value) : List Char :=
  if v = .finite 0 ∧ minus = true then ['-', '0'] else v.display

theorem isDigit_of_mem_toDigits {n : Nat} : ∀ c ∈ Nat.toDigits 10 n, c.isDigit :=
  fun _ member => Nat.isDigit_of_mem_toDigits (by decide) (by decide) member

theorem isDigit_of_mem_fractionDigits {digits places : Nat} :
    ∀ c ∈ fractionDigits digits places, c.isDigit := by
  intro c member
  have padded := (List.rdropWhile_prefix _ _).subset member
  rw [List.leftpad, List.mem_append] at padded
  rcases padded with zero | digit
  · rw [(List.mem_replicate.mp zero).2]
    rfl
  · exact isDigit_of_mem_toDigits c digit

/-- Digits with an optional fraction. -/
theorem decimalText_cases (digits : Nat) (place : Int) :
    ∃ whole fraction : List Char, whole ≠ [] ∧ (∀ c ∈ whole, c.isDigit) ∧
      (∀ c ∈ fraction, c.isDigit) ∧
      (decimalText digits place = whole ∨ decimalText digits place = whole ++ '.' :: fraction) := by
  unfold decimalText
  split
  · exact ⟨_, [], Nat.toDigits_ne_nil, isDigit_of_mem_toDigits, nofun, .inl rfl⟩
  · dsimp only
    split
    · exact ⟨_, [], Nat.toDigits_ne_nil, isDigit_of_mem_toDigits, nofun, .inl rfl⟩
    · exact ⟨_, _, Nat.toDigits_ne_nil, isDigit_of_mem_toDigits, isDigit_of_mem_fractionDigits,
        .inr rfl⟩

end Ieee
