import LinSight.Alerts.Durations

set_option autoImplicit false

/-! Which durations are read back from the text that they are written as. -/

namespace LinSight.Alerts

open DebugText (Message debugStr)
open Ieee (Value binary64 binary64_ordinary round_exists round_nat)

section Floats

/-- Half a unit in the last place of a small rational. -/
theorem round_error {q r : ℚ} {k : Int} (positive : 0 < q) (small : q < 2 ^ k)
    (normal : -1021 ≤ k) (rounded : binary64.round q = .finite r) : |r - q| ≤ 2 ^ (k - 54) := by
  have place : binary64.place q ≤ k - 53 := by
    have leading := Ieee.leadingExponent_lt positive small
    unfold Ieee.Format.place
    simp only [binary64]
    omega
  calc |r - q| ≤ 2 ^ binary64.place q / 2 := Ieee.Format.round_near rounded
    _ ≤ 2 ^ (k - 53) / 2 := by
        gcongr
        norm_num
    _ = 2 ^ (k - 54) := by
        rw [show k - 53 = k - 54 + 1 from by ring, zpow_add_one₀ (by norm_num)]
        ring

theorem round_error_one {q r : ℚ} (nonneg : 0 ≤ q) (below : q < 1)
    (rounded : binary64.round q = .finite r) : |r - q| ≤ 1 / 2 ^ 54 := by
  rcases nonneg.eq_or_lt with zero | positive
  · have same := round_nat (show 0 ≤ 2 ^ 53 by decide)
    rw [Nat.cast_zero, zero, rounded] at same
    rw [Value.finite.inj same]
    norm_num
  · have near := round_error (k := 0) positive (by simpa using below) (by decide) rounded
    rw [zero_sub, zpow_neg, ← one_div] at near
    exact_mod_cast near

/-- A float with no room for a fraction is whole. -/
theorem whole_of_large {x : ℚ} (float : binary64.IsFloat x) (large : 2 ^ (52 : Int) ≤ x) :
    ∃ n : Nat, x = n := by
  have positive : 0 < x := lt_of_lt_of_le (by positivity) large
  have leading := Ieee.le_leadingExponent positive large
  have place : 0 ≤ binary64.place x := by
    unfold Ieee.Format.place
    simp only [binary64]
    omega
  have multiple := float.multiple
  generalize Ieee.roundHalfEven (x / 2 ^ binary64.place x) = m at multiple
  rw [Ieee.Format.zpow_eq_mul place, zpow_zero, mul_one] at multiple
  have whole : x = ((m * (2 ^ (binary64.place x - 0).toNat : Nat) : Int) : ℚ) := by
    push_cast
    push_cast at multiple
    exact multiple
  generalize m * ((2 ^ (binary64.place x - 0).toNat : Nat) : Int) = n at whole
  have n_pos : 0 ≤ n := by
    rw [whole] at positive
    exact_mod_cast positive.le
  obtain ⟨k, same⟩ := Int.eq_ofNat_of_zero_le n_pos
  exact ⟨k, by rw [whole, same, Int.cast_natCast]⟩

/-- A float of one or more that is almost a multiple of a whole unit is one. -/
theorem rem_eq_zero {x : ℚ} {unit : Nat} (float : binary64.IsFloat x) (large : 1 ≤ x)
    (close : x - unit * ((x / unit).floor : ℚ) < 1 / 2 ^ 52)
    (above : 0 ≤ x - unit * ((x / unit).floor : ℚ)) : x = unit * ((x / unit).floor : ℚ) := by
  have positive : 0 < x := lt_of_lt_of_le (by norm_num) large
  have leading := Ieee.le_leadingExponent positive (by simpa using large : (2 : ℚ) ^ (0 : Int) ≤ x)
  have place : -52 ≤ binary64.place x := by
    unfold Ieee.Format.place
    simp only [binary64]
    omega
  have multiple := float.multiple
  generalize Ieee.roundHalfEven (x / 2 ^ binary64.place x) = m at multiple
  rw [Ieee.Format.zpow_eq_mul place] at multiple
  generalize (2 ^ (binary64.place x - -52).toNat : Nat) = scale at multiple
  generalize (x / unit).floor = quotient at close above ⊢
  have grid : x - unit * (quotient : ℚ) =
      ((m * scale - unit * quotient * 2 ^ 52 : Int) : ℚ) / 2 ^ 52 := by
    rw [multiple, zpow_neg]
    push_cast
    norm_num
    ring
  rw [grid, div_lt_div_iff_of_pos_right (by positivity)] at close
  rw [grid] at above
  have numerator : (0 : ℚ) ≤ ((m * scale - unit * quotient * 2 ^ 52 : Int) : ℚ) := by
    by_contra negative
    have below := div_neg_of_neg_of_pos (lt_of_not_ge negative)
      (by positivity : (0 : ℚ) < 2 ^ 52)
    linarith
  have zero : m * scale - unit * quotient * 2 ^ 52 = 0 := by
    have low : 0 ≤ m * scale - unit * quotient * 2 ^ 52 := by exact_mod_cast numerator
    have high : m * scale - unit * quotient * 2 ^ 52 < 1 := by exact_mod_cast close
    omega
  rw [zero, Int.cast_zero, zero_div] at grid
  linarith

theorem fromSecsF64_nat {n : Nat} (small : n < u64Bound) :
    fromSecsF64 (.finite n) = some (n * nanosPerSec) := by
  have bound : ¬ ((u64Bound : ℚ) ≤ n) := by
    rw [not_le]
    exact_mod_cast small
  have positive : ¬ ((n : ℚ) < 0) := not_lt.mpr (by positivity)
  have whole : Ieee.roundHalfEven ((n : ℚ) * nanosPerSec) = ((n * nanosPerSec : Nat) : Int) := by
    have exact_int := Ieee.roundHalfEven_int ((n * nanosPerSec : Nat) : Int)
    push_cast at exact_int ⊢
    exact exact_int
  simp only [fromSecsF64, positive, bound, or_self, if_false, whole, Int.toNat_natCast]

end Floats

section Reading

/-- Some text of the configuration is read as the duration. -/
def Readable (d : Nat) : Prop := ∃ s, optParseDuration s = some (.ok d)

theorem inSeconds_float {unit : String} {q x : ℚ} (nonneg : 0 ≤ q)
    (read : inSeconds unit (binary64.round q) = some (.finite x)) :
    binary64.IsFloat x ∧ 0 ≤ x := by
  have again : ∀ y : ℚ, 0 ≤ y → binary64.round y = .finite x → binary64.IsFloat x ∧ 0 ≤ x :=
    fun y y_nonneg rounded => Ieee.Format.isFloat_of_round y_nonneg rounded binary64_ordinary
  unfold inSeconds at read
  rcases Ieee.Format.round_of_nonneg nonneg binary64_ordinary with infinite | ⟨r, rounded, float, r_nonneg⟩
  · rw [infinite] at read
    simp only [Ieee.Format.div, Ieee.Format.mul] at read
    norm_num at read
    split_ifs at read <;> cases read
  · rw [rounded] at read
    split at read
    · cases read
      exact ⟨float, r_nonneg⟩
    · split at read
      · apply again (r / 1000) (by positivity)
        simpa [Ieee.Format.div] using read
      · split at read
        · exact again (r * 60) (by positivity) (Option.some.inj read)
        · split at read
          · exact again (r * 3600) (by positivity) (Option.some.inj read)
          · cases read

theorem fromSecsF64_near {secs : Value} {d : Nat} (taken : fromSecsF64 secs = some d) :
    ∃ x, secs = .finite x ∧ 0 ≤ x ∧ x < 2 ^ 64 ∧ |(d : ℚ) - x * 10 ^ 9| ≤ 1 / 2 := by
  cases secs with
  | finite x =>
    simp only [fromSecsF64] at taken
    split at taken
    · cases taken
    · rename_i range
      rw [not_or, not_lt, not_le] at range
      have bound : x < 2 ^ 64 := by
        have below := range.2
        simp only [u64Bound] at below
        push_cast at below
        exact below
      have near := Ieee.roundHalfEven_near (x * nanosPerSec)
      have scaled : (0 : ℚ) ≤ x * nanosPerSec := mul_nonneg range.1 (by positivity)
      have above := Ieee.roundHalfEven_nonneg scaled
      have same : ((Ieee.roundHalfEven (x * nanosPerSec)).toNat : ℚ) =
          Ieee.roundHalfEven (x * nanosPerSec) := by
        exact_mod_cast Int.toNat_of_nonneg above
      refine ⟨x, rfl, range.1, bound, ?_⟩
      rw [← Option.some.inj taken, same]
      simp only [nanosPerSec] at near ⊢
      push_cast at near ⊢
      norm_num at near ⊢
      exact near
  | _ => cases taken

theorem readDecimal_nonneg {chars : List Char} {q : ℚ} (read : readDecimal chars = some q) :
    0 ≤ q := by
  simp only [readDecimal] at read
  split at read
  · cases read
  · rw [← Option.some.inj read]
    positivity

theorem Readable.float {d : Nat} (readable : Readable d) :
    ∃ x, binary64.IsFloat x ∧ 0 ≤ x ∧ x < 2 ^ 64 ∧ |(d : ℚ) - x * 10 ^ 9| ≤ 1 / 2 := by
  obtain ⟨text, read⟩ := readable
  have zero : d = 0 → ∃ x, binary64.IsFloat x ∧ 0 ≤ x ∧ x < 2 ^ 64 ∧
      |(d : ℚ) - x * 10 ^ 9| ≤ 1 / 2 := by
    intro none
    have float := round_nat (show 0 ≤ 2 ^ 53 by decide)
    rw [Nat.cast_zero] at float
    exact ⟨0, float, le_refl 0, by norm_num, by norm_num [none]⟩
  unfold optParseDuration at read
  split at read
  · split at read
    · apply zero
      cases read
      rfl
    · unfold parseDuration at read
      dsimp only at read
      split at read
      · cases read
      · rename_i q number
        split at read
        · cases read
        · rename_i secs unit
          obtain ⟨nanos, taken, same⟩ := Option.map_eq_some_iff.mp read
          cases same
          obtain ⟨x, finite, nonneg, bound, near⟩ := fromSecsF64_near taken
          rw [finite] at unit
          exact ⟨x, (inSeconds_float (readDecimal_nonneg number) unit).1, nonneg, bound, near⟩
  · apply zero
    cases read
    rfl

end Reading

section Seconds

theorem fraction_rounds (d : Nat) : ∃ b,
    binary64.round (((d % nanosPerSec : Nat) : ℚ) / nanosPerSec) = .finite b ∧ 0 ≤ b ∧
      |b - ((d % nanosPerSec : Nat) : ℚ) / nanosPerSec| ≤ 1 / 2 ^ 54 := by
  have small : ((d % nanosPerSec : Nat) : ℚ) < nanosPerSec := by
    exact_mod_cast Nat.mod_lt d (by decide : 0 < nanosPerSec)
  have positive : (0 : ℚ) < nanosPerSec := by norm_num [nanosPerSec]
  have below : ((d % nanosPerSec : Nat) : ℚ) / nanosPerSec < 1 := (div_lt_one positive).mpr small
  have nonneg : (0 : ℚ) ≤ ((d % nanosPerSec : Nat) : ℚ) / nanosPerSec := by positivity
  obtain ⟨b, rounded, b_nonneg⟩ := round_exists nonneg (below.le.trans (by norm_num))
  exact ⟨b, rounded, b_nonneg, round_error_one nonneg below rounded⟩

/-- The seconds are the rounded sum of the whole ones and the rounded fraction. -/
theorem asSecsF64_eq {d : Nat} {b : ℚ}
    (whole : binary64.IsFloat ((d / nanosPerSec : Nat) : ℚ))
    (fraction : binary64.round (((d % nanosPerSec : Nat) : ℚ) / nanosPerSec) = .finite b) :
    asSecsF64 d = binary64.round (((d / nanosPerSec : Nat) : ℚ) + b) := by
  have part : d % nanosPerSec ≤ 2 ^ 53 :=
    (Nat.mod_lt d (by decide : 0 < nanosPerSec)).le.trans (by decide)
  have positive : ¬ ((nanosPerSec : ℚ) = 0) := by norm_num [nanosPerSec]
  have float : binary64.round ((d / nanosPerSec : Nat) : ℚ) =
      .finite ((d / nanosPerSec : Nat) : ℚ) := whole
  unfold asSecsF64
  rw [float, round_nat part]
  simp only [Ieee.Format.div, if_neg positive, fraction, Ieee.Format.add]

theorem cast_nanosPerSec : (nanosPerSec : ℚ) = 10 ^ 9 := by norm_num [nanosPerSec]

/-- A float with no room for a fraction reads as whole seconds. -/
theorem lt_of_not_dvd {x : ℚ} {d : Nat} (float : binary64.IsFloat x)
    (near : |(d : ℚ) - x * 10 ^ 9| ≤ 1 / 2) (uneven : ¬ nanosPerSec ∣ d) :
    x < 2 ^ (52 : Int) := by
  by_contra large
  obtain ⟨k, whole⟩ := whole_of_large float (not_lt.mp large)
  rw [whole] at near
  have same : (d : Int) = (k * nanosPerSec : Nat) := by
    apply Ieee.eq_of_near
    push_cast
    rw [cast_nanosPerSec]
    exact lt_of_le_of_lt near (by norm_num)
  apply uneven
  exact ⟨k, by rw [Nat.mul_comm]; exact_mod_cast same⟩

/-- Between whole seconds the float lies strictly between them. -/
theorem asSecsF64_not_whole {d : Nat} (readable : Readable d) (uneven : ¬ nanosPerSec ∣ d) :
    ∃ b s, binary64.round (((d % nanosPerSec : Nat) : ℚ) / nanosPerSec) = .finite b ∧ 0 ≤ b ∧
      binary64.round (((d / nanosPerSec : Nat) : ℚ) + b) = .finite s ∧
      asSecsF64 d = .finite s ∧ 0 ≤ s ∧ ∀ k : Int, s ≠ k := by
  obtain ⟨x, float, nonneg, bound, near⟩ := readable.float
  have fine := lt_of_not_dvd float near uneven
  have small : d / nanosPerSec < 2 ^ 53 := by
    have below : (d : ℚ) < (2 ^ 53 * nanosPerSec : Nat) := by
      have upper := (abs_le.mp near).2
      push_cast
      rw [cast_nanosPerSec]
      norm_num at fine
      linarith
    rw [Nat.div_lt_iff_lt_mul (by decide)]
    exact_mod_cast below
  obtain ⟨b, rounded, b_nonneg, b_near⟩ := fraction_rounds d
  have secs := asSecsF64_eq (round_nat small.le) rounded
  have sum_nonneg : 0 ≤ ((d / nanosPerSec : Nat) : ℚ) + b := by positivity
  have parts : (d : ℚ) / 10 ^ 9 = ((d / nanosPerSec : Nat) : ℚ) +
      ((d % nanosPerSec : Nat) : ℚ) / nanosPerSec := by
    have division : (d : ℚ) = nanosPerSec * ((d / nanosPerSec : Nat) : ℚ) +
        ((d % nanosPerSec : Nat) : ℚ) := by
      exact_mod_cast (Nat.div_add_mod d nanosPerSec).symm
    rw [cast_nanosPerSec] at division ⊢
    conv_lhs => rw [division]
    rw [add_div, mul_div_cancel_left₀ _ (by norm_num)]
  have sum_small : ((d / nanosPerSec : Nat) : ℚ) + b ≤ 2 ^ (100 : Nat) := by
    have n_small : ((d / nanosPerSec : Nat) : ℚ) < 2 ^ 53 := by exact_mod_cast small
    have m_small : ((d % nanosPerSec : Nat) : ℚ) / nanosPerSec < 1 := by
      rw [div_lt_one (by norm_num [nanosPerSec])]
      exact_mod_cast Nat.mod_lt d (by decide : 0 < nanosPerSec)
    have upper := (abs_le.mp b_near).2
    linarith
  obtain ⟨s, s_rounded, s_nonneg⟩ := round_exists sum_nonneg sum_small
  refine ⟨b, s, rounded, b_nonneg, s_rounded, secs.trans s_rounded, s_nonneg, ?_⟩
  intro k whole
  -- the float of the text is nearer to the duration than any whole second
  have nearest := Ieee.Format.round_nearest sum_nonneg s_rounded float binary64_ordinary
  have text : |x - (d : ℚ) / 10 ^ 9| ≤ 1 / 2 / 10 ^ 9 := by
    rw [abs_le] at near ⊢
    constructor <;> linarith
  have apart : |(k : ℚ) - (d : ℚ) / 10 ^ 9| < 1 / 10 ^ 9 := by
    rw [whole] at nearest
    rw [parts] at text ⊢
    have total : |x - (((d / nanosPerSec : Nat) : ℚ) + b)| ≤
        1 / 2 / 10 ^ 9 + 1 / 2 ^ 54 := by
      rw [abs_le] at text b_near ⊢
      constructor <;> linarith
    have distance := nearest.trans total
    rw [abs_le] at distance b_near
    rw [abs_lt]
    norm_num at distance b_near ⊢
    constructor <;> linarith
  have same : k * (nanosPerSec : Int) = (d : Int) := by
    apply Ieee.eq_of_near
    push_cast
    rw [cast_nanosPerSec]
    rw [abs_lt] at apart ⊢
    constructor <;> linarith
  apply uneven
  have multiple : (nanosPerSec : Int) ∣ d := ⟨k, by rw [Int.mul_comm, same]⟩
  exact_mod_cast multiple

end Seconds

section Units

theorem parseDuration_append {num unit : String} {q : ℚ}
    (digits : ∀ c ∈ num.toList, isNumberChar c = true)
    (ends : ∀ c ∈ unit.toList.head?, isNumberChar c = false)
    (plain : ∀ c ∈ unit.toList, isWhitespace c = false)
    (value : readDecimal num.toList = some q) :
    parseDuration (num ++ unit) =
      match inSeconds unit (binary64.round q) with
      | none => some (.error ("unknown duration unit " ++ debugStr unit))
      | some secs => (fromSecsF64 secs).map .ok := by
  have parts := parseDuration_of_parts digits ends plain value
  rw [← String.toList_append, String.ofList_toList, String.ofList_toList] at parts
  exact parts

theorem parseDuration_repr {unit : String} (n : Nat)
    (ends : ∀ c ∈ unit.toList.head?, isNumberChar c = false)
    (plain : ∀ c ∈ unit.toList, isWhitespace c = false) :
    parseDuration (Nat.repr n ++ unit) =
      match inSeconds unit (binary64.round (n : ℚ)) with
      | none => some (.error ("unknown duration unit " ++ debugStr unit))
      | some secs => (fromSecsF64 secs).map .ok := by
  apply parseDuration_append _ ends plain (readDecimal_repr n)
  intro c member
  simp [isNumberChar, isDigit_of_mem_repr member]

theorem isWhole_nat {n unit : Nat} (positive : 0 < unit) :
    isWhole (.finite n) unit = decide (unit ≤ n ∧ unit ∣ n) := by
  have quotient : ((n : ℚ) / unit).floor = ((n / unit : Nat) : Int) :=
    Rat.floor_intCast_div_natCast n unit
  have nonzero : ¬ ((unit : ℚ) = 0) := by
    have unit_ne : unit ≠ 0 := by omega
    exact_mod_cast unit_ne
  have nonneg : (0 : ℚ) ≤ (n : ℚ) / unit := by positivity
  have rest : (n : ℚ) - unit * (((n / unit : Nat) : Int) : ℚ) = ((n % unit : Nat) : ℚ) := by
    have division : (n : ℚ) = unit * ((n / unit : Nat) : ℚ) + ((n % unit : Nat) : ℚ) := by
      exact_mod_cast (Nat.div_add_mod n unit).symm
    rw [Int.cast_natCast]
    linarith
  have rest_nonneg : (0 : ℚ) ≤ ((n % unit : Nat) : ℚ) := by positivity
  simp only [isWhole, Value.rem, if_neg nonzero, if_pos nonneg, quotient, rest, Value.abs,
    Value.le, Value.lt, epsilon, abs_of_nonneg rest_nonneg]
  rw [Bool.eq_iff_iff]
  simp only [Bool.and_eq_true, decide_eq_true_eq, Nat.cast_le]
  apply and_congr_right
  intro large
  rw [Nat.dvd_iff_mod_eq_zero]
  constructor
  · intro close
    have below : ((n % unit : Nat) : ℚ) < 1 := lt_trans close (by norm_num)
    have zero : n % unit < 1 := by exact_mod_cast below
    omega
  · intro zero
    rw [zero]
    norm_num

theorem isWhole_of_ne {s : ℚ} {unit : Nat} (positive : 0 < unit) (float : binary64.IsFloat s)
    (uneven : ∀ k : Int, s ≠ k) : isWhole (.finite s) unit = false := by
  have nonzero : ¬ ((unit : ℚ) = 0) := by
    have unit_ne : unit ≠ 0 := by omega
    exact_mod_cast unit_ne
  by_contra whole
  rw [Bool.not_eq_false] at whole
  simp only [isWhole, Value.le, Bool.and_eq_true, decide_eq_true_eq] at whole
  obtain ⟨large, close⟩ := whole
  have unit_pos : (1 : ℚ) ≤ unit := by exact_mod_cast positive
  have s_pos : 0 ≤ s / unit := by
    have nonneg : 0 ≤ s := by linarith
    positivity
  simp only [Value.rem, if_neg nonzero, if_pos s_pos, Value.abs, Value.lt, epsilon,
    decide_eq_true_eq] at close
  have above : 0 ≤ s - unit * ((s / unit).floor : ℚ) := by
    have low := Int.floor_le (s / unit)
    have scaled := mul_le_mul_of_nonneg_left low (by linarith : (0 : ℚ) ≤ unit)
    rw [mul_div_cancel₀ _ nonzero] at scaled
    have same : ((s / unit).floor : ℚ) = (⌊s / unit⌋ : ℚ) := rfl
    rw [same]
    linarith
  rw [abs_of_nonneg above] at close
  have exact_multiple := rem_eq_zero float (unit_pos.trans large) close above
  apply uneven (unit * (s / unit).floor)
  push_cast
  exact exact_multiple

theorem toUnsigned_nat {n : Nat} (small : n < u64Bound) :
    (Value.finite n).toUnsigned u64Bound = n := by
  have floor : ((n : ℚ)).floor = (n : Int) := Rat.floor_intCast (n : Int)
  simp only [Value.toUnsigned, floor, Int.toNat_natCast]
  exact Nat.min_eq_left (by omega)

end Units

section Cases

/-- A float that is sixty times a number has one for the number. -/
theorem isFloat_of_sixty {k : Nat} (float : binary64.IsFloat ((60 * k : Nat) : ℚ))
    (range : 60 * k < u64Bound) : binary64.IsFloat (k : ℚ) := by
  by_cases small : k ≤ 2 ^ 53
  · exact round_nat small
  · have large : (2 : ℚ) ^ (58 : Int) ≤ (60 * k : Nat) := by
      have bound : 2 ^ 58 ≤ 60 * k := by omega
      exact_mod_cast bound
    have positive : (0 : ℚ) < (60 * k : Nat) := lt_of_lt_of_le (by positivity) large
    have leading := Ieee.le_leadingExponent positive large
    have place : 2 ≤ binary64.place (60 * k : Nat) := by
      unfold Ieee.Format.place
      simp only [binary64]
      omega
    obtain ⟨m, bits, multiple⟩ := float.mantissa positive
    obtain ⟨p, place_eq⟩ :=
      Int.eq_ofNat_of_zero_le (show 0 ≤ binary64.place (60 * k : Nat) - 2 by omega)
    rw [show binary64.place (60 * k : Nat) = ((p + 2 : Nat) : Int) by omega,
      zpow_natCast] at multiple
    have whole : 60 * k = m * 2 ^ (p + 2) := by exact_mod_cast multiple
    have product : 15 * k = m * 2 ^ p := by
      rw [pow_add, ← Nat.mul_assoc] at whole
      omega
    have divides : 15 ∣ m := by
      have coprime : Nat.Coprime 15 (2 ^ p) := Nat.Coprime.pow_right p (by decide)
      exact coprime.dvd_of_dvd_mul_right ⟨k, product.symm⟩
    obtain ⟨j, rfl⟩ := divides
    have value : k = j * 2 ^ p := by
      rw [Nat.mul_assoc] at product
      omega
    have bound : ((j * 2 ^ p : Nat) : ℚ) < 2 ^ (binary64.maxExponent + 1) := by
      have below : j * 2 ^ p < 2 ^ 64 := by
        simp only [u64Bound] at range
        omega
      have rational : ((j * 2 ^ p : Nat) : ℚ) < 2 ^ ((64 : Nat) : Int) := by
        rw [zpow_natCast]
        exact_mod_cast below
      exact rational.trans (zpow_lt_zpow_right₀ (by norm_num) (by decide))
    rw [value]
    push_cast at bound ⊢
    rw [← zpow_natCast] at bound ⊢
    refine Ieee.Format.isFloat_of_lt ?_ ?_ bound
    · simp only [binary64] at bits ⊢
      omega
    · simp only [binary64]
      omega

/-- Whole seconds that some text gives have a float. -/
theorem Readable.isFloat {n : Nat} (readable : Readable (nanosPerSec * n)) :
    binary64.IsFloat (n : ℚ) ∧ n < u64Bound := by
  obtain ⟨x, float, nonneg, bound, near⟩ := readable.float
  have apart : |(n : ℚ) - x| < 1 := by
    rw [Nat.cast_mul, cast_nanosPerSec, abs_le] at near
    rw [abs_lt]
    norm_num at near
    constructor <;> linarith
  by_cases large : (2 : ℚ) ^ (52 : Int) ≤ x
  · obtain ⟨k, whole⟩ := whole_of_large float large
    rw [whole] at apart float bound
    have same : (n : Int) = k := Ieee.eq_of_near (by exact_mod_cast apart)
    have small : k < u64Bound := by
      simp only [u64Bound]
      exact_mod_cast bound
    rw [Int.ofNat_inj.mp same]
    exact ⟨float, small⟩
  · have small : n < 2 ^ 53 := by
      have below : (n : ℚ) < 2 ^ 53 := by
        have upper := (abs_lt.mp apart).2
        norm_num at large
        linarith
      exact_mod_cast below
    simp only [u64Bound]
    exact ⟨round_nat small.le, by omega⟩

theorem asSecsF64_mul {n : Nat} (float : binary64.IsFloat (n : ℚ)) :
    asSecsF64 (nanosPerSec * n) = .finite n := by
  have div : nanosPerSec * n / nanosPerSec = n := Nat.mul_div_cancel_left n (by decide)
  have zero : nanosPerSec * n % nanosPerSec = 0 := Nat.mul_mod_right nanosPerSec n
  have none : binary64.round (((nanosPerSec * n % nanosPerSec : Nat) : ℚ) / nanosPerSec) =
      .finite 0 := by
    have float_zero := round_nat (show 0 ≤ 2 ^ 53 by decide)
    rw [zero, Nat.cast_zero, zero_div]
    exact_mod_cast float_zero
  have sum := asSecsF64_eq (div.symm ▸ float) none
  rw [div, add_zero, float] at sum
  exact sum

/-- Whole seconds are read back from the largest unit that divides them. -/
theorem parseDuration_whole {n : Nat} (float : binary64.IsFloat (n : ℚ)) (range : n < u64Bound)
    (nonzero : n ≠ 0) :
    parseDuration (formatDuration (nanosPerSec * n)) = some (.ok (nanosPerSec * n)) := by
  have hours := @isWhole_nat n 3600 (by decide)
  have minutes := @isWhole_nat n 60 (by decide)
  have seconds := @isWhole_nat n 1 (by decide)
  push_cast at hours minutes seconds
  have result : (fromSecsF64 (.finite n)).map Except.ok =
      some (.ok (nanosPerSec * n) : Except Message Nat) := by
    rw [fromSecsF64_nat range, Nat.mul_comm]
    rfl
  unfold formatDuration
  simp only [asSecsF64_mul float, hours, minutes, seconds, toUnsigned_nat range,
    decide_eq_true_eq]
  split
  · rename_i unit
    obtain ⟨k, rfl⟩ := unit.2
    have small : k ≤ 2 ^ 53 := by
      simp only [u64Bound] at range
      omega
    have value : inSeconds "h" (binary64.round (k : ℚ)) =
        some (.finite ((3600 * k : Nat) : ℚ)) := by
      have product : (k : ℚ) * 3600 = (3600 * k : Nat) := by
        push_cast
        ring
      have seconds_float : binary64.round ((3600 * k : Nat) : ℚ) =
          .finite ((3600 * k : Nat) : ℚ) := float
      rw [round_nat small]
      show some (binary64.round ((k : ℚ) * 3600)) = _
      rw [product, seconds_float]
    rw [Nat.mul_div_cancel_left k (by decide),
      parseDuration_repr k (by simp [isNumberChar]) (by simp [isWhitespace]), value]
    exact result
  · split
    · rename_i unit
      obtain ⟨k, rfl⟩ := unit.2
      have value : inSeconds "m" (binary64.round (k : ℚ)) =
          some (.finite ((60 * k : Nat) : ℚ)) := by
        have product : (k : ℚ) * 60 = (60 * k : Nat) := by
          push_cast
          ring
        have seconds_float : binary64.round ((60 * k : Nat) : ℚ) =
            .finite ((60 * k : Nat) : ℚ) := float
        have minutes_float : binary64.round (k : ℚ) = .finite k := isFloat_of_sixty float range
        rw [minutes_float]
        show some (binary64.round ((k : ℚ) * 60)) = _
        rw [product, seconds_float]
      rw [Nat.mul_div_cancel_left k (by decide),
        parseDuration_repr k (by simp [isNumberChar]) (by simp [isWhitespace]), value]
      exact result
    · have unit : 1 ≤ n ∧ 1 ∣ n := ⟨Nat.one_le_iff_ne_zero.mpr nonzero, Nat.one_dvd n⟩
      have value : inSeconds "s" (binary64.round (n : ℚ)) = some (.finite n) := congrArg some float
      rw [if_pos unit, parseDuration_repr n (by simp [isNumberChar]) (by simp [isWhitespace]),
        value]
      exact result

/-- A duration other than zero has a text for the parser. -/
theorem optParse_optFormat {d : Nat} (nonzero : d ≠ 0) :
    optParseDuration (optFormatDuration d) = parseDuration (formatDuration d) := by
  have nonempty : ¬ ((formatDuration d).toList.isEmpty = true) := by
    rw [List.isEmpty_iff]
    simp only [formatDuration]
    split_ifs <;> simp
  rw [optFormatDuration, if_neg nonzero]
  simp only [optParseDuration, if_neg nonempty]

/-- The seconds that the whole milliseconds are read as, in nanoseconds. -/
def nanosOfMillis (n : Nat) : Option Nat :=
  fromSecsF64 (binary64.div (binary64.round n) (.finite 1000))

/-- From a millisecond on, what is not whole seconds is written in whole milliseconds. -/
theorem formatDuration_millis {d : Nat} (readable : Readable d) (uneven : ¬ nanosPerSec ∣ d)
    (large : nanosPerMilli ≤ d) : formatDuration d = Nat.repr (d / nanosPerMilli) ++ "ms" := by
  obtain ⟨b, s, fraction, b_nonneg, rounded, secs, nonneg, apart⟩ :=
    asSecsF64_not_whole readable uneven
  have sum_nonneg : 0 ≤ ((d / nanosPerSec : Nat) : ℚ) + b := by positivity
  have float := (Ieee.Format.isFloat_of_round sum_nonneg rounded binary64_ordinary).1
  have hours := @isWhole_of_ne s 3600 (by decide) float apart
  have minutes := @isWhole_of_ne s 60 (by decide) float apart
  have seconds := @isWhole_of_ne s 1 (by decide) float apart
  push_cast at hours minutes seconds
  obtain ⟨milli, milli_rounded, milli_nonneg⟩ :=
    round_exists (show (0 : ℚ) ≤ 1 / 1000 by norm_num) (by norm_num)
  have reached : milli ≤ s := by
    by_cases whole : d / nanosPerSec = 0
    · rw [whole, Nat.cast_zero, zero_add] at rounded
      have below : d < nanosPerSec := by
        have cases_zero := Nat.div_eq_zero_iff.mp whole
        simp only [nanosPerSec] at cases_zero ⊢
        omega
      rw [Nat.mod_eq_of_lt below] at fraction
      have order : (1 : ℚ) / 1000 ≤ (d : ℚ) / nanosPerSec := by
        rw [cast_nanosPerSec, div_le_div_iff₀ (by norm_num) (by norm_num)]
        have bound : 1 * 10 ^ 9 ≤ d * 1000 := by
          simp only [nanosPerMilli] at large
          omega
        exact_mod_cast bound
      have b_float := Ieee.Format.isFloat_of_round (by positivity) fraction binary64_ordinary
      have same : b = s := by
        have kept : binary64.round b = .finite b := b_float.1
        rw [kept] at rounded
        exact Value.finite.inj rounded
      rw [← same]
      exact Ieee.Format.round_mono (by norm_num) order milli_rounded fraction binary64_ordinary
    · have one : (1 : ℚ) ≤ ((d / nanosPerSec : Nat) : ℚ) := by
        exact_mod_cast Nat.one_le_iff_ne_zero.mpr whole
      exact Ieee.Format.round_mono (by norm_num) (by linarith) milli_rounded rounded
        binary64_ordinary
  unfold formatDuration
  simp only [secs, hours, minutes, seconds, Bool.false_eq_true, if_false, milli_rounded, Value.le,
    decide_eq_true_eq, if_pos reached]

theorem parseDuration_millis (n : Nat) :
    parseDuration (Nat.repr n ++ "ms") = (nanosOfMillis n).map .ok := by
  rw [parseDuration_repr n (by simp [isNumberChar]) (by simp [isWhitespace])]
  rfl

end Cases

section Decimals

theorem decimalAt_spec {q : ℚ} {p : Nat} {found : Nat × Nat} (some_found : decimalAt q p = some found) :
    found.2 = p ∧ binary64.round ((found.1 : ℚ) / 10 ^ p) = .finite q := by
  unfold decimalAt at some_found
  dsimp only at some_found
  split at some_found
  · rename_i low
    cases some_found
    rw [Bool.and_eq_true] at low
    exact ⟨rfl, of_decide_eq_true low.1⟩
  · split at some_found
    · rename_i high
      cases some_found
      exact ⟨rfl, of_decide_eq_true high⟩
    · cases some_found

theorem decimalAt_isSome {q : ℚ} {m p : Nat} (nonneg : 0 ≤ q)
    (rounded : binary64.round ((m : ℚ) / 10 ^ p) = .finite q) (near : |(m : ℚ) - q * 10 ^ p| < 1) :
    (decimalAt q p).isSome = true := by
  have scaled : 0 ≤ q * 10 ^ p := by positivity
  have floor_nonneg : 0 ≤ ⌊q * 10 ^ p⌋ := Int.floor_nonneg.mpr scaled
  obtain ⟨low, same⟩ := Int.eq_ofNat_of_zero_le floor_nonneg
  have low_eq : (q * 10 ^ p).floor.toNat = low := by
    show (⌊q * 10 ^ p⌋).toNat = low
    rw [same, Int.toNat_natCast]
  have below := Int.floor_le (q * 10 ^ p)
  have above := Int.lt_floor_add_one (q * 10 ^ p)
  rw [same, Int.cast_natCast] at below above
  have either : m = low ∨ m = low + 1 := by
    rw [abs_lt] at near
    have high : m < low + 2 := by
      have rational : (m : ℚ) < low + 2 := by linarith
      exact_mod_cast rational
    have under : low < m + 1 := by
      have rational : (low : ℚ) < m + 1 := by linarith
      exact_mod_cast rational
    omega
  unfold decimalAt
  dsimp only
  rw [low_eq]
  have back := decide_eq_true rounded
  split
  · rfl
  · rename_i refused
    split
    · rfl
    · rename_i refused'
      rcases either with rfl | rfl
      · exfalso
        apply refused
        rw [Bool.not_eq_true] at refused'
        simp only [back, refused', Bool.not_false, Bool.true_or, Bool.and_self]
      · exact absurd back refused'

/-- A value from zero to one shows as a decimal of few places if there is one for it. -/
theorem displayFloat_eq {q : ℚ} {m places : Nat} (nonneg : 0 ≤ q) (few : places < 1075)
    (rounded : binary64.round ((m : ℚ) / 10 ^ places) = .finite q)
    (near : |(m : ℚ) - q * 10 ^ places| < 1) :
    ∃ k p : Nat, p ≤ places ∧ binary64.round ((k : ℚ) / 10 ^ p) = .finite q ∧
      displayFloat (.finite q) = displayDecimal k p := by
  have reached : ((List.range (places + 1)).findSome? (decimalAt q)).isSome = true := by
    rw [List.findSome?_isSome_iff]
    exact ⟨places, List.mem_range.mpr (by omega), decimalAt_isSome nonneg rounded near⟩
  obtain ⟨found, first⟩ := Option.isSome_iff_exists.mp reached
  have all : shortestDecimal q = some found := by
    rw [shortestDecimal, show 1075 = places + 1 + (1074 - places) by omega, List.range_add,
      List.findSome?_append,
      first]
    rfl
  obtain ⟨p, member, at_p⟩ := List.exists_of_findSome?_eq_some first
  obtain ⟨same, back⟩ := decimalAt_spec at_p
  have bound := List.mem_range.mp member
  have shown : displayFloat (.finite q) = displayDecimal found.1 found.2 := by
    unfold displayFloat
    simp only [all]
  rw [same] at shown
  exact ⟨found.1, p, by omega, back, shown⟩

/-- Decimals of nine places below one that round to one float are one. -/
theorem nanos_eq {m d : Nat} {s : ℚ} (small : d < nanosPerSec)
    (rounded : binary64.round ((m : ℚ) / 10 ^ 9) = .finite s)
    (rounded' : binary64.round ((d : ℚ) / 10 ^ 9) = .finite s) : m = d := by
  have last : (d : ℚ) + 1 ≤ 10 ^ 9 := by
    have bound : d + 1 ≤ 10 ^ 9 := by
      simp only [nanosPerSec] at small
      omega
    exact_mod_cast bound
  have d_below : (d : ℚ) / 10 ^ 9 < 1 := by
    rw [div_lt_one (by norm_num)]
    linarith
  have d_error := abs_le.mp (round_error_one (by positivity) d_below rounded')
  have m_below : (m : ℚ) / 10 ^ 9 < 1 := by
    by_contra above
    have one := round_nat (show 1 ≤ 2 ^ 53 by decide)
    rw [Nat.cast_one] at one
    have order := Ieee.Format.round_mono (by norm_num) (not_lt.mp above) one rounded
      binary64_ordinary
    norm_num at d_error
    linarith
  have m_error := abs_le.mp (round_error_one (by positivity) m_below rounded)
  have same : (m : Int) = d := by
    apply Ieee.eq_of_near
    rw [Int.cast_natCast, Int.cast_natCast, abs_lt]
    norm_num at d_error m_error
    constructor <;> linarith
  exact Int.ofNat_inj.mp same

/-- Less than a millisecond is written as the decimal of its seconds. -/
theorem parseDuration_decimal {d : Nat} (nonzero : d ≠ 0) (small : d < nanosPerMilli) :
    parseDuration (formatDuration d) = some (.ok d) := by
  have below : d < nanosPerSec := by
    simp only [nanosPerSec, nanosPerMilli] at small ⊢
    omega
  have d_small : (d : ℚ) + 1 ≤ 10 ^ 6 := by
    have bound : d + 1 ≤ 10 ^ 6 := by
      simp only [nanosPerMilli] at small
      omega
    exact_mod_cast bound
  obtain ⟨s, fraction, nonneg, near⟩ := fraction_rounds d
  rw [Nat.mod_eq_of_lt below, cast_nanosPerSec] at fraction near
  have near' := abs_le.mp near
  have float := (Ieee.Format.isFloat_of_round (by positivity) fraction binary64_ordinary).1
  have secs : asSecsF64 d = .finite s := by
    have zero : binary64.IsFloat ((d / nanosPerSec : Nat) : ℚ) := by
      rw [Nat.div_eq_of_lt below]
      exact round_nat (by decide)
    have sum := asSecsF64_eq zero
      (b := s) (by rw [Nat.mod_eq_of_lt below, cast_nanosPerSec]; exact fraction)
    rw [Nat.div_eq_of_lt below, Nat.cast_zero, zero_add] at sum
    exact sum.trans float
  have s_small : s < 1 / 1000 - 1 / 2 ^ 54 := by
    norm_num at near' ⊢
    linarith
  have no_unit : ∀ unit : ℚ, 1 ≤ unit → isWhole (.finite s) unit = false := by
    intro unit large
    have order : ¬ (unit ≤ s) := by
      norm_num at s_small
      linarith
    simp only [isWhole, Value.le, decide_eq_false order, Bool.false_and]
  obtain ⟨milli, milli_rounded, milli_nonneg⟩ :=
    round_exists (show (0 : ℚ) ≤ 1 / 1000 by norm_num) (by norm_num)
  have milli_near := abs_le.mp (round_error_one (by norm_num) (by norm_num) milli_rounded)
  have missed : ¬ (milli ≤ s) := by
    linarith
  obtain ⟨k, p, few, back, shown⟩ :=
    @displayFloat_eq s d 9 nonneg (by decide) fraction (by
      rw [abs_lt]
      norm_num at near' ⊢
      constructor <;> linarith)
  have text : formatDuration d = displayDecimal k p ++ "s" := by
    unfold formatDuration
    simp only [secs, no_unit 3600 (by norm_num), no_unit 60 (by norm_num), no_unit 1 le_rfl,
      Bool.false_eq_true, if_false, milli_rounded, Value.le, decide_eq_true_eq, if_neg missed,
      shown]
  -- with nine places the decimal that was found is the duration itself
  have ratio : ((k * 10 ^ (9 - p) : Nat) : ℚ) / 10 ^ 9 = k / 10 ^ p := by
    have powers : (10 : ℚ) ^ 9 = 10 ^ (9 - p) * 10 ^ p := by
      rw [← pow_add, show 9 - p + p = 9 by omega]
    rw [div_eq_div_iff (by positivity) (by positivity), powers]
    push_cast
    ring
  have scaled : k * 10 ^ (9 - p) = d := nanos_eq below (ratio ▸ back) fraction
  rw [scaled] at ratio
  have some_places : 0 < p := by
    by_contra none
    have no_places : p = 0 := by omega
    rw [no_places] at scaled
    simp only [nanosPerSec] at below
    omega
  have number : ∀ c ∈ (displayDecimal k p).toList, isNumberChar c = true :=
    fun c member => isNumberChar_of_mem_displayDecimal member
  have value : inSeconds "s" (binary64.round ((k : ℚ) / 10 ^ p)) = some (.finite s) :=
    congrArg some back
  rw [text, parseDuration_append number (by simp [isNumberChar]) (by simp [isWhitespace])
    (readDecimal_displayDecimal k some_places), value]
  have range : ¬ (s < 0 ∨ (u64Bound : ℚ) ≤ s) := by
    rw [not_or, not_lt, not_le]
    refine ⟨nonneg, lt_trans s_small ?_⟩
    norm_num [u64Bound]
  have whole : Ieee.roundHalfEven (s * nanosPerSec) = (d : Int) := by
    apply Ieee.roundHalfEven_eq
    rw [cast_nanosPerSec, Int.cast_natCast, abs_lt]
    norm_num at near' ⊢
    constructor <;> linarith
  simp only [fromSecsF64, if_neg range, whole, Int.toNat_natCast, Option.map_some]

end Decimals
section Kept

/-- Exact milliseconds are read back as they are while floats tell nanoseconds apart. -/
theorem nanosOfMillis_eq {n : Nat} (small : n * nanosPerMilli < 2 ^ 52) :
    nanosOfMillis n = some (n * nanosPerMilli) := by
  have n_small : n ≤ 2 ^ 53 := by
    simp only [nanosPerMilli] at small
    omega
  have bound : (n : ℚ) / 1000 < 2 ^ ((23 : Nat) : Int) := by
    rw [zpow_natCast, div_lt_iff₀ (by norm_num)]
    have below : n < 2 ^ 23 * 1000 := by
      simp only [nanosPerMilli] at small
      omega
    exact_mod_cast below
  obtain ⟨r, rounded, nonneg⟩ := round_exists (show (0 : ℚ) ≤ (n : ℚ) / 1000 by positivity) (by
    rw [zpow_natCast] at bound
    refine bound.le.trans ?_
    norm_num)
  have near : |r - (n : ℚ) / 1000| ≤ 1 / 2 ^ 31 := by
    rcases Nat.eq_zero_or_pos n with rfl | positive
    · rw [Nat.cast_zero, zero_div] at rounded ⊢
      have error := round_error_one le_rfl (by norm_num) rounded
      exact error.trans (by norm_num)
    · have n_pos : (0 : ℚ) < n := by exact_mod_cast positive
      have error := round_error (by positivity) bound (by decide) rounded
      exact error.trans (by norm_num)
  have nanos : Ieee.roundHalfEven (r * nanosPerSec) = ((n * nanosPerMilli : Nat) : Int) := by
    apply Ieee.roundHalfEven_eq
    rw [cast_nanosPerSec, Int.cast_natCast, Nat.cast_mul, abs_lt]
    rw [abs_le] at near
    norm_num [nanosPerMilli] at near ⊢
    constructor <;> linarith
  have range : ¬ (r < 0 ∨ (u64Bound : ℚ) ≤ r) := by
    rw [not_or, not_lt, not_le]
    refine ⟨nonneg, ?_⟩
    have upper := (abs_le.mp near).2
    norm_num [u64Bound] at upper bound ⊢
    linarith
  have division : binary64.div (binary64.round n) (.finite 1000) = .finite r := by
    have nonzero : ¬ ((1000 : ℚ) = 0) := by norm_num
    rw [round_nat n_small]
    simp only [Ieee.Format.div, if_neg nonzero, rounded]
  simp only [nanosOfMillis, division, fromSecsF64, if_neg range, nanos, Int.toNat_natCast]

/-- A duration that its text keeps: less than a millisecond, whole seconds, or one that its
whole milliseconds are read as, which are its exact milliseconds for the first fifty days. -/
def Kept (d : Nat) : Prop :=
  d < nanosPerMilli ∨ nanosPerSec ∣ d ∨
    if d < 2 ^ 52 then nanosPerMilli ∣ d else nanosOfMillis (d / nanosPerMilli) = some d

instance (d : Nat) : Decidable (Kept d) :=
  inferInstanceAs (Decidable (d < nanosPerMilli ∨ nanosPerSec ∣ d ∨
    if d < 2 ^ 52 then nanosPerMilli ∣ d else nanosOfMillis (d / nanosPerMilli) = some d))

theorem kept_millis_iff (d : Nat) :
    (if d < 2 ^ 52 then nanosPerMilli ∣ d else nanosOfMillis (d / nanosPerMilli) = some d) ↔
      nanosOfMillis (d / nanosPerMilli) = some d := by
  split
  · rename_i small
    have below : d / nanosPerMilli * nanosPerMilli < 2 ^ 52 :=
      lt_of_le_of_lt (Nat.div_mul_le_self d nanosPerMilli) small
    rw [nanosOfMillis_eq below, Option.some.injEq]
    exact ⟨Nat.div_mul_cancel, fun same => ⟨d / nanosPerMilli, by rw [Nat.mul_comm, same]⟩⟩
  · rfl

/-- Exactly the kept durations among the readable ones are read back. -/
theorem duration_roundTrip_iff {d : Nat} (readable : Readable d) :
    optParseDuration (optFormatDuration d) = some (.ok d) ↔ Kept d := by
  rw [Kept, kept_millis_iff]
  by_cases zero : d = 0
  · subst zero
    exact ⟨fun _ => .inl (by decide), fun _ => rfl⟩
  rw [optParse_optFormat zero]
  by_cases whole : nanosPerSec ∣ d
  · have back : parseDuration (formatDuration d) = some (.ok d) := by
      obtain ⟨n, rfl⟩ := whole
      have nonzero : n ≠ 0 := by
        rintro rfl
        exact zero (Nat.mul_zero _)
      have float := readable.isFloat
      exact parseDuration_whole float.1 float.2 nonzero
    exact ⟨fun _ => .inr (.inl whole), fun _ => back⟩
  by_cases small : d < nanosPerMilli
  · exact ⟨fun _ => .inl small, fun _ => parseDuration_decimal zero small⟩
  · rw [formatDuration_millis readable whole (not_lt.mp small), parseDuration_millis]
    constructor
    · intro back
      obtain ⟨nanos, read, same⟩ := Option.map_eq_some_iff.mp back
      cases same
      exact .inr (.inr read)
    · intro kept
      rcases kept with small' | whole' | read
      · exact absurd small' small
      · exact absurd whole' whole
      · rw [read]
        rfl

end Kept

end LinSight.Alerts
