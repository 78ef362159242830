import LinSight.Library.FloatText
import LinSight.Library.Rounding

set_option autoImplicit false

/-! The text of a floating-point value reads back as the value. -/

namespace Ieee

section Close

/-- A value is less than `2^53` of its last places. -/
theorem lt_places {q : ℚ} (positive : 0 < q) : q < 2 ^ binary64.place q * 2 ^ 53 := by
  have lead : leadingExponent q + 1 ≤ binary64.place q + (53 : Nat) := by
    unfold Format.place
    simp only [binary64]
    omega
  calc q < 2 ^ (leadingExponent q + 1) := (leadingExponent_spec positive).2
    _ ≤ 2 ^ (binary64.place q + (53 : Nat)) := zpow_le_zpow_right₀ (by norm_num) lead
    _ = 2 ^ binary64.place q * 2 ^ 53 := by rw [zpow_add₀ (by norm_num), zpow_natCast]

/-- A value whose last place is the coarser one is far off. -/
theorem far_of_place_lt {q d : ℚ} (float : binary64.IsFloat q) (positive : 0 < q)
    (positive' : 0 < d) (coarser : binary64.place q < binary64.place d) :
    2 ^ binary64.place q ≤ d - q := by
  have places := coarser
  unfold Format.place at places
  simp only [binary64] at places
  have leads : leadingExponent q + 1 ≤ leadingExponent d := by omega
  have below : q < 2 ^ leadingExponent d :=
    lt_of_lt_of_le (leadingExponent_spec positive).2 (zpow_le_zpow_right₀ (by norm_num) leads)
  have power : binary64.place q ≤ leadingExponent d := by
    unfold Format.place
    simp only [binary64]
    omega
  have unit_pos : (0 : ℚ) < 2 ^ binary64.place q := by positivity
  have whole := Format.zpow_eq_mul power
  generalize (2 ^ (leadingExponent d - binary64.place q).toNat : Nat) = n at whole
  have multiple := float.multiple
  generalize roundHalfEven (q / 2 ^ binary64.place q) = m at multiple
  -- both are multiples of the last place
  have strict : m < n := by
    have scaled : (m : ℚ) * 2 ^ binary64.place q < n * 2 ^ binary64.place q := by
      rw [← multiple, ← whole]
      exact below
    exact_mod_cast lt_of_mul_lt_mul_right scaled unit_pos.le
  have gap : (m : ℚ) + 1 ≤ n := by exact_mod_cast strict
  calc (2 : ℚ) ^ binary64.place q = (m + 1) * 2 ^ binary64.place q - m * 2 ^ binary64.place q := by
        ring
    _ ≤ n * 2 ^ binary64.place q - m * 2 ^ binary64.place q := by gcongr
    _ = 2 ^ leadingExponent d - q := by rw [← whole, ← multiple]
    _ ≤ d - q := by linarith [(leadingExponent_spec positive').1]

/-- What is within half a unit in the seventeenth digit of a value rounds to it. -/
theorem round_of_close {q d : ℚ} (float : binary64.IsFloat q) (positive : 0 < q)
    (close : |d - q| ≤ q / 10 ^ 16 / 2) : binary64.round d = .finite q := by
  have bounds := abs_le.mp close
  have positive' : 0 < d := by linarith
  have unit_pos : (0 : ℚ) < 2 ^ binary64.place d := by positivity
  have places : binary64.place d ≤ binary64.place q := by
    by_contra coarser
    have far := far_of_place_lt float positive positive' (not_le.mp coarser)
    have size := lt_places positive
    linarith [bounds.2]
  obtain ⟨m, multiple⟩ : ∃ m : Int, q = m * 2 ^ binary64.place d := by
    refine ⟨roundHalfEven (q / 2 ^ binary64.place q) *
      ((2 ^ (binary64.place q - binary64.place d).toNat : Nat) : Int), ?_⟩
    rw [Int.cast_mul, Int.cast_natCast, mul_assoc, ← Format.zpow_eq_mul places]
    exact float.multiple
  have half : |d - q| < 2 ^ binary64.place d / 2 := by
    have size := lt_places positive'
    linarith [bounds.1]
  have digits : roundHalfEven (d / 2 ^ binary64.place d) = m := by
    apply roundHalfEven_eq
    have scaled : d / 2 ^ binary64.place d - m = (d - q) / 2 ^ binary64.place d := by
      rw [multiple, sub_div, mul_div_cancel_right₀ _ unit_pos.ne']
    rw [scaled, abs_div, abs_of_pos unit_pos, div_lt_iff₀ unit_pos]
    linarith
  have bounded := (Format.round_eq_finite float).2
  rw [Format.round_eq, digits, ← multiple, if_neg (not_le.mpr bounded)]

end Close

section Shortest

theorem leadingPlace_le {q : ℚ} (positive : 0 < q) : (10 : ℚ) ^ leadingPlace q ≤ q := by
  have num_pos : 0 < q.num := Rat.num_pos.mpr positive
  have num_ne : q.num.natAbs ≠ 0 := by omega
  have den_pos : (0 : ℚ) < q.den := by exact_mod_cast q.den_pos
  have num_low : ((10 : ℚ) ^ Nat.log 10 q.num.natAbs) ≤ q.num.natAbs := by
    exact_mod_cast Nat.pow_log_le_self 10 num_ne
  have den_high : (q.den : ℚ) < 10 ^ (Nat.log 10 q.den + 1) := by
    exact_mod_cast Nat.lt_pow_succ_log_self (by decide) q.den
  have product : (q.num.natAbs : ℚ) = q * q.den := by
    have whole : ((q.num.natAbs : Int) : ℚ) = q.num :=
      congrArg _ (Int.natAbs_of_nonneg (le_of_lt num_pos))
    rw [← Int.cast_natCast, whole]
    exact (div_eq_iff (ne_of_gt den_pos)).mp (Rat.num_div_den q)
  unfold leadingPlace
  dsimp only
  split_ifs with reached
  · exact reached
  · rw [show (Nat.log 10 q.num.natAbs : Int) - Nat.log 10 q.den - 1 =
      (Nat.log 10 q.num.natAbs : Nat) - ((Nat.log 10 q.den + 1 : Nat) : Int) from by push_cast; ring,
      zpow_sub₀ (by norm_num), zpow_natCast, zpow_natCast, div_le_iff₀ (by positivity)]
    calc (10 : ℚ) ^ Nat.log 10 q.num.natAbs ≤ q.num.natAbs := num_low
      _ = q * q.den := product
      _ ≤ q * 10 ^ (Nat.log 10 q.den + 1) := by gcongr

/-- What is found rounds back. -/
theorem decimalOf_rounds {q : ℚ} (nonneg : 0 ≤ q) {significant : Nat} {found : Nat × Int}
    (decimal : binary64.decimalOf q significant = some found) :
    binary64.round (found.1 * (10 : ℚ) ^ found.2) = .finite q := by
  unfold Format.decimalOf at decimal
  dsimp only at decimal
  obtain ⟨digits, chosen, rfl⟩ := Option.map_eq_some_iff.mp decimal
  have rounds := List.find?_some chosen
  rw [decide_eq_true_eq] at rounds
  have scaled : 0 ≤ q / (10 : ℚ) ^ (leadingPlace q - (significant - 1)) := by positivity
  have digits_nonneg : 0 ≤ digits := by
    have member := List.mem_of_find?_eq_some chosen
    simp only [List.mem_cons, List.not_mem_nil, or_false] at member
    rcases member with rfl | rfl | rfl
    · exact roundHalfEven_nonneg scaled
    · exact Int.floor_nonneg.mpr scaled
    · exact_mod_cast scaled.trans Rat.le_ceil
  have whole : ((digits.toNat : Nat) : ℚ) = digits := by
    exact_mod_cast congrArg (Int.cast : Int → ℚ) (Int.toNat_of_nonneg digits_nonneg)
  dsimp only
  rw [whole]
  exact rounds

/-- Seventeen digits are enough. -/
theorem decimalOf_exists {q : ℚ} (float : binary64.IsFloat q) (positive : 0 < q) :
    (binary64.decimalOf q 17).isSome = true := by
  have power : (0 : ℚ) < 10 ^ (leadingPlace q - 16) := by positivity
  have near := roundHalfEven_near (q / (10 : ℚ) ^ (leadingPlace q - 16))
  have unit : (10 : ℚ) ^ (leadingPlace q - 16) ≤ q / 10 ^ 16 := by
    rw [zpow_sub₀ (by norm_num), zpow_ofNat]
    gcongr
    exact leadingPlace_le positive
  have close : |roundHalfEven (q / (10 : ℚ) ^ (leadingPlace q - 16)) *
      (10 : ℚ) ^ (leadingPlace q - 16) - q| ≤ q / 10 ^ 16 / 2 := by
    calc |roundHalfEven (q / (10 : ℚ) ^ (leadingPlace q - 16)) *
          (10 : ℚ) ^ (leadingPlace q - 16) - q|
        = |roundHalfEven (q / (10 : ℚ) ^ (leadingPlace q - 16)) -
            q / (10 : ℚ) ^ (leadingPlace q - 16)| * (10 : ℚ) ^ (leadingPlace q - 16) := by
          rw [← abs_of_pos power, ← abs_mul, sub_mul, abs_of_pos power,
            div_mul_cancel₀ _ power.ne']
      _ ≤ 1 / 2 * (q / 10 ^ 16) := by gcongr
      _ = q / 10 ^ 16 / 2 := by ring
  have rounds := round_of_close float positive close
  unfold Format.decimalOf
  dsimp only
  rw [Option.isSome_map, List.find?_cons_of_pos]
  · rfl
  · exact decide_eq_true (by simpa using rounds)

/-- The shortest decimal rounds to the value. -/
theorem shortestDecimal_rounds {q : ℚ} (float : binary64.IsFloat q) (nonneg : 0 ≤ q) :
    binary64.round ((shortestDecimal q).1 * (10 : ℚ) ^ (shortestDecimal q).2) = .finite q := by
  have found : ∃ d, (List.range 17).findSome? (fun n => binary64.decimalOf q (n + 1)) = some d := by
    rw [← Option.isSome_iff_exists, List.findSome?_isSome_iff]
    refine ⟨16, List.mem_range.mpr (by decide), ?_⟩
    rcases nonneg.eq_or_lt with zero | positive
    · rw [← zero]
      decide +kernel
    · exact decimalOf_exists float positive
  obtain ⟨d, found⟩ := found
  obtain ⟨n, _, decimal⟩ := List.exists_of_findSome?_eq_some found
  rw [shortestDecimal, found, Option.getD_some]
  exact decimalOf_rounds nonneg decimal

end Shortest

section Text

/-- The value of digits with a fraction. -/
def decimalValue (whole fraction : List Char) : ℚ :=
  (Nat.ofDigitChars 10 (whole ++ fraction) 0 : ℚ) / 10 ^ fraction.length

/-- Zeros at the end of a fraction do not count. -/
theorem decimalValue_zeros (whole fraction : List Char) (n : Nat) :
    decimalValue whole (fraction ++ List.replicate n '0') = decimalValue whole fraction := by
  have power : (10 : ℚ) ^ n ≠ 0 := by positivity
  rw [decimalValue, decimalValue, ← List.append_assoc, Nat.ofDigitChars_append,
    Nat.ofDigitChars_replicate_zero, List.length_append, List.length_replicate, pow_add,
    Nat.cast_mul, Nat.cast_pow, Nat.cast_ofNat, mul_comm ((10 : ℚ) ^ n),
    mul_div_mul_right _ _ power]

theorem exists_zeros (text : List Char) :
    ∃ n, text = text.rdropWhile (· = '0') ++ List.replicate n '0' := by
  refine ⟨(text.rtakeWhile (· = '0')).length, ?_⟩
  have zeros : text.rtakeWhile (· = '0') =
      List.replicate (text.rtakeWhile (· = '0')).length '0' := by
    rw [List.eq_replicate_iff]
    refine ⟨rfl, fun c member => ?_⟩
    have zero := List.mem_rtakeWhile_imp member
    exact of_decide_eq_true zero
  rw [← zeros]
  exact List.rdropWhile_append_rtakeWhile.symm

/-- The fraction has the digits behind the point. -/
theorem decimalValue_fractionDigits (whole digits : Nat) {places : Nat} (some_places : 0 < places)
    (small : digits < 10 ^ places) :
    decimalValue (Nat.toDigits 10 whole) (fractionDigits digits places) =
      whole + (digits : ℚ) / 10 ^ places := by
  have length : ((Nat.toDigits 10 digits).leftpad places '0').length = places := by
    have short : (Nat.toDigits 10 digits).length ≤ places :=
      (Nat.length_toDigits_le_iff (by decide) some_places).mpr small
    rw [List.length_leftpad]
    omega
  have low : Nat.ofDigitChars 10 ((Nat.toDigits 10 digits).leftpad places '0') 0 = digits := by
    rw [List.leftpad, Nat.ofDigitChars_append, Nat.ofDigitChars_replicate_zero, Nat.mul_zero,
      Nat.ofDigitChars_ten_toDigits]
  obtain ⟨n, zeros⟩ := exists_zeros ((Nat.toDigits 10 digits).leftpad places '0')
  have power : (10 : ℚ) ^ places ≠ 0 := by positivity
  rw [fractionDigits, ← decimalValue_zeros _ _ n, ← zeros, decimalValue, Nat.ofDigitChars_append,
    Nat.ofDigitChars_eq_ofDigitChars_zero, low, length, Nat.ofDigitChars_ten_toDigits,
    Nat.cast_add, Nat.cast_mul, Nat.cast_pow, Nat.cast_ofNat, add_div, mul_div_cancel_left₀ _ power]

/-- The whole part is a number without a sign, and the fraction is missing or has digits. -/
theorem decimalText_value (digits : Nat) (place : Int) :
    ∃ (n : Nat) (fraction : List Char), (∀ c ∈ fraction, c.isDigit = true) ∧
      decimalValue (Nat.toDigits 10 n) fraction = digits * (10 : ℚ) ^ place ∧
      decimalText digits place =
        if fraction = [] then Nat.toDigits 10 n else Nat.toDigits 10 n ++ '.' :: fraction := by
  unfold decimalText
  split_ifs with large
  · obtain ⟨n, rfl⟩ := Int.eq_ofNat_of_zero_le large
    refine ⟨digits * 10 ^ n, [], by simp, ?_, by simp⟩
    rw [decimalValue, List.append_nil, Nat.ofDigitChars_ten_toDigits]
    simp
  · obtain ⟨n, negative⟩ := Int.eq_ofNat_of_zero_le (by omega : 0 ≤ -place)
    have some_places : 0 < n := by omega
    have power : (10 : ℚ) ^ n ≠ 0 := by positivity
    have place_eq : place = -(n : Int) := by omega
    subst place_eq
    refine ⟨digits / 10 ^ n, fractionDigits (digits % 10 ^ n) n,
      isDigit_of_mem_fractionDigits, ?_, ?_⟩
    · rw [decimalValue_fractionDigits _ _ some_places (Nat.mod_lt _ (by positivity)), zpow_neg,
        zpow_natCast, ← div_eq_mul_inv, eq_div_iff power, add_mul, div_mul_cancel₀ _ power]
      exact_mod_cast Nat.div_add_mod' digits (10 ^ n)
    · rw [neg_neg, Int.toNat_natCast]

/-- Only zero has a zero in front. -/
theorem length_of_leading_zero {n : Nat} (zero : (Nat.toDigits 10 n).head? = some '0') :
    (Nat.toDigits 10 n).length = 1 := by
  induction n using Nat.strongRecOn with
  | ind n ih =>
      by_cases small : n < 10
      · rw [Nat.toDigits_of_lt_base small]
        rfl
      · have split := @Nat.toDigits_of_base_le 10 n (by decide) (by omega)
        have front : (Nat.toDigits 10 (n / 10)).head? = some '0' := by
          rw [split, List.head?_append_of_ne_nil _ Nat.toDigits_ne_nil] at zero
          exact zero
        have single := ih (n / 10) (by omega) front
        obtain ⟨c, digit⟩ := List.length_eq_one_iff.mp single
        rw [digit, List.head?_cons, Option.some.injEq] at front
        have value := @Nat.ofDigitChars_ten_toDigits (n / 10)
        rw [digit, front] at value
        have nothing : Nat.ofDigitChars 10 ['0'] 0 = 0 := by decide
        omega

end Text

section Negation

theorem roundHalfEven_neg (q : ℚ) : roundHalfEven (-q) = -roundHalfEven q := by
  have low := Int.floor_le q
  have high := Int.lt_floor_add_one q
  by_cases whole : (⌊q⌋ : ℚ) = q
  · rw [← whole, ← Int.cast_neg, roundHalfEven_int, roundHalfEven_int]
  have strict : (⌊q⌋ : ℚ) < q := lt_of_le_of_ne low whole
  have floor_eq : ⌊-q⌋ = -⌊q⌋ - 1 := by
    rw [Int.floor_eq_iff]
    push_cast
    constructor <;> linarith
  unfold roundHalfEven
  have same : q.floor = ⌊q⌋ := rfl
  have same' : (-q).floor = ⌊-q⌋ := rfl
  rw [same, same', floor_eq]
  dsimp only
  push_cast
  -- a tie goes to the even neighbour, which is even on both sides
  split_ifs <;> first | omega | linarith

theorem round_neg {d q : ℚ} (rounded : binary64.round d = .finite q) :
    binary64.round (-d) = .finite (-q) := by
  have lead : leadingExponent (-d) = leadingExponent d := by
    unfold leadingExponent
    rw [Rat.num_neg_eq_neg_num, Rat.den_neg_eq_den, Int.natAbs_neg, abs_neg]
  have place : binary64.place (-d) = binary64.place d := by
    rw [Format.place, Format.place, lead]
  have fits := Format.round_eq_finite rounded
  have whole : (roundHalfEven (-d / 2 ^ binary64.place d) : ℚ) * 2 ^ binary64.place d = -q := by
    rw [neg_div, roundHalfEven_neg, Int.cast_neg, neg_mul, ← fits.1]
  rw [Format.round_eq, place, whole, if_neg]
  rw [abs_neg]
  exact not_le.mpr fits.2

end Negation

end Ieee
