import LinSight.Library.Ieee

set_option autoImplicit false

/-! Rounding a rational that is not negative to a binary floating-point format. -/

namespace Ieee

section HalfEven

theorem roundHalfEven_cases (q : ℚ) :
    roundHalfEven q = ⌊q⌋ ∧ q - ⌊q⌋ ≤ 1 / 2 ∨
      roundHalfEven q = ⌊q⌋ + 1 ∧ 1 / 2 ≤ q - ⌊q⌋ := by
  unfold roundHalfEven
  have same : q.floor = ⌊q⌋ := rfl
  rw [same]
  dsimp only
  split
  · rename_i below
    exact .inl ⟨rfl, le_of_lt below⟩
  · rename_i above
    split
    · rename_i strict
      exact .inr ⟨rfl, le_of_lt strict⟩
    · rename_i tie
      have half : q - ⌊q⌋ = 1 / 2 := by linarith
      split
      · exact .inl ⟨rfl, by rw [half]⟩
      · exact .inr ⟨rfl, by rw [half]⟩

theorem roundHalfEven_near (q : ℚ) : |(roundHalfEven q : ℚ) - q| ≤ 1 / 2 := by
  have low := Int.floor_le q
  have high := Int.lt_floor_add_one q
  rcases roundHalfEven_cases q with ⟨same, bound⟩ | ⟨same, bound⟩
  · rw [same, abs_le]
    constructor <;> linarith
  · rw [same, abs_le]
    push_cast
    constructor <;> linarith

theorem roundHalfEven_nonneg {q : ℚ} (nonneg : 0 ≤ q) : 0 ≤ roundHalfEven q := by
  have low := (abs_le.mp (roundHalfEven_near q)).1
  by_contra negative
  have below : (roundHalfEven q : ℚ) ≤ -1 := by
    exact_mod_cast (show roundHalfEven q ≤ -1 by omega)
  linarith

/-- No integer is nearer. -/
theorem roundHalfEven_nearest (q : ℚ) (m : Int) :
    |(roundHalfEven q : ℚ) - q| ≤ |(m : ℚ) - q| := by
  have low := Int.floor_le q
  have high := Int.lt_floor_add_one q
  by_cases side : m ≤ ⌊q⌋
  · have order : (m : ℚ) ≤ ⌊q⌋ := by exact_mod_cast side
    rw [abs_of_nonpos (by linarith : (m : ℚ) - q ≤ 0)]
    rcases roundHalfEven_cases q with ⟨same, bound⟩ | ⟨same, bound⟩
    · rw [same, abs_le]
      constructor <;> linarith
    · rw [same, abs_le]
      push_cast
      constructor <;> linarith
  · have order : (⌊q⌋ : ℚ) + 1 ≤ m := by
      have above : ⌊q⌋ + 1 ≤ m := by omega
      exact_mod_cast above
    rw [abs_of_nonneg (by linarith : 0 ≤ (m : ℚ) - q)]
    rcases roundHalfEven_cases q with ⟨same, bound⟩ | ⟨same, bound⟩
    · rw [same, abs_le]
      constructor <;> linarith
    · rw [same, abs_le]
      push_cast
      constructor <;> linarith

/-- Integers that are less than one apart are one. -/
theorem eq_of_near {a b : Int} (near : |(a : ℚ) - b| < 1) : a = b := by
  rw [abs_lt] at near
  have low : b < a + 1 := by
    have rational : (b : ℚ) < a + 1 := by linarith
    exact_mod_cast rational
  have high : a < b + 1 := by
    have rational : (a : ℚ) < b + 1 := by linarith
    exact_mod_cast rational
  omega

theorem roundHalfEven_eq {q : ℚ} {m : Int} (near : |q - m| < 1 / 2) : roundHalfEven q = m := by
  have bound := roundHalfEven_near q
  apply eq_of_near
  rw [abs_le] at bound
  rw [abs_lt] at near ⊢
  constructor <;> linarith

@[simp] theorem roundHalfEven_int (m : Int) : roundHalfEven (m : ℚ) = m :=
  roundHalfEven_eq (by norm_num)

end HalfEven

section LeadingExponent

theorem leadingExponent_spec {q : ℚ} (positive : 0 < q) :
    (2 : ℚ) ^ leadingExponent q ≤ q ∧ q < (2 : ℚ) ^ (leadingExponent q + 1) := by
  have num_pos : 0 < q.num := Rat.num_pos.mpr positive
  have num_ne : q.num.natAbs ≠ 0 := by omega
  have den_ne : q.den ≠ 0 := q.den_nz
  have num_low : ((2 : ℚ) ^ Nat.log2 q.num.natAbs) ≤ q.num.natAbs := by
    exact_mod_cast Nat.log2_self_le num_ne
  have num_high : (q.num.natAbs : ℚ) < 2 ^ (Nat.log2 q.num.natAbs + 1) := by
    exact_mod_cast Nat.lt_log2_self
  have den_low : ((2 : ℚ) ^ Nat.log2 q.den) ≤ q.den := by
    exact_mod_cast Nat.log2_self_le den_ne
  have den_high : (q.den : ℚ) < 2 ^ (Nat.log2 q.den + 1) := by
    exact_mod_cast Nat.lt_log2_self
  have den_pos : (0 : ℚ) < q.den := by exact_mod_cast q.den_pos
  have product : (q.num.natAbs : ℚ) = q * q.den := by
    have whole : ((q.num.natAbs : Int) : ℚ) = q.num :=
      congrArg _ (Int.natAbs_of_nonneg (le_of_lt num_pos))
    rw [← Int.cast_natCast, whole]
    exact (div_eq_iff (ne_of_gt den_pos)).mp (Rat.num_div_den q)
  have high : q < (2 : ℚ) ^ ((Nat.log2 q.num.natAbs : Int) - Nat.log2 q.den + 1) := by
    rw [show (Nat.log2 q.num.natAbs : Int) - Nat.log2 q.den + 1 =
      ((Nat.log2 q.num.natAbs + 1 : Nat) : Int) - (Nat.log2 q.den : Nat) from by push_cast; ring,
      zpow_sub₀ (by norm_num), zpow_natCast, zpow_natCast, lt_div_iff₀ (by positivity)]
    calc q * 2 ^ Nat.log2 q.den ≤ q * q.den := by gcongr
      _ = q.num.natAbs := product.symm
      _ < 2 ^ (Nat.log2 q.num.natAbs + 1) := num_high
  have low : (2 : ℚ) ^ ((Nat.log2 q.num.natAbs : Int) - Nat.log2 q.den - 1) ≤ q := by
    rw [show (Nat.log2 q.num.natAbs : Int) - Nat.log2 q.den - 1 =
      (Nat.log2 q.num.natAbs : Nat) - ((Nat.log2 q.den + 1 : Nat) : Int) from by push_cast; ring,
      zpow_sub₀ (by norm_num), zpow_natCast, zpow_natCast, div_le_iff₀ (by positivity)]
    calc (2 : ℚ) ^ Nat.log2 q.num.natAbs ≤ q.num.natAbs := num_low
      _ = q * q.den := product
      _ ≤ q * 2 ^ (Nat.log2 q.den + 1) := by gcongr
  unfold leadingExponent
  rw [abs_of_pos positive]
  dsimp only
  split
  · rename_i reached
    exact ⟨reached, high⟩
  · rename_i missed
    refine ⟨low, ?_⟩
    rw [sub_add_cancel]
    exact lt_of_not_ge missed

theorem leadingExponent_lt {q : ℚ} {k : Int} (positive : 0 < q) (below : q < 2 ^ k) :
    leadingExponent q < k := by
  have bound := lt_of_le_of_lt (leadingExponent_spec positive).1 below
  exact (zpow_lt_zpow_iff_right₀ (by norm_num)).mp bound

theorem le_leadingExponent {q : ℚ} {k : Int} (positive : 0 < q) (above : 2 ^ k ≤ q) :
    k ≤ leadingExponent q := by
  have bound := lt_of_le_of_lt above (leadingExponent_spec positive).2
  have strict := (zpow_lt_zpow_iff_right₀ (by norm_num : (1 : ℚ) < 2)).mp bound
  omega

end LeadingExponent

namespace Format

variable {format : Format}

/-- The exponent of the last place of a value. -/
def place (format : Format) (q : ℚ) : Int :=
  max (leadingExponent q) format.minExponent - (format.precision - 1)

/-- What every format in use meets. -/
structure Ordinary (format : Format) : Prop where
  precise : 0 < format.precision
  range : format.minExponent < format.maxExponent
  large : 0 ≤ format.maxExponent

/-- The format has the value. -/
def IsFloat (format : Format) (q : ℚ) : Prop := format.round q = .finite q

section Round

theorem round_eq (q : ℚ) : format.round q =
    if (2 : ℚ) ^ (format.maxExponent + 1) ≤
        |roundHalfEven (q / 2 ^ format.place q) * (2 : ℚ) ^ format.place q| then
      if 0 < roundHalfEven (q / 2 ^ format.place q) * (2 : ℚ) ^ format.place q then .posInf
      else .negInf
    else .finite (roundHalfEven (q / 2 ^ format.place q) * 2 ^ format.place q) := rfl

theorem round_eq_finite {q r : ℚ} (rounded : format.round q = .finite r) :
    r = roundHalfEven (q / 2 ^ format.place q) * 2 ^ format.place q ∧
      |r| < 2 ^ (format.maxExponent + 1) := by
  rw [round_eq] at rounded
  split at rounded
  · split at rounded <;> cases rounded
  · rename_i fits
    cases rounded
    exact ⟨rfl, lt_of_not_ge fits⟩

theorem round_near {q r : ℚ} (rounded : format.round q = .finite r) :
    |r - q| ≤ 2 ^ format.place q / 2 := by
  have unit_pos : (0 : ℚ) < 2 ^ format.place q := by positivity
  rw [(round_eq_finite rounded).1]
  have near := roundHalfEven_near (q / 2 ^ format.place q)
  calc |(roundHalfEven (q / 2 ^ format.place q) : ℚ) * 2 ^ format.place q - q|
      = |(roundHalfEven (q / 2 ^ format.place q) : ℚ) - q / 2 ^ format.place q| *
          2 ^ format.place q := by
        rw [← abs_of_pos unit_pos, ← abs_mul, sub_mul, abs_of_pos unit_pos,
          div_mul_cancel₀ _ (ne_of_gt unit_pos)]
    _ ≤ 1 / 2 * 2 ^ format.place q := by gcongr
    _ = 2 ^ format.place q / 2 := by ring

/-- Values below the range of the format do not overflow. -/
theorem round_finite {q : ℚ} (nonneg : 0 ≤ q) (small : q ≤ 2 ^ (format.maxExponent - 1))
    (ordinary : format.Ordinary) :
    ∃ r, format.round q = .finite r ∧ 0 ≤ r := by
  have unit_pos : (0 : ℚ) < 2 ^ format.place q := by positivity
  have near := abs_le.mp (roundHalfEven_near (q / 2 ^ format.place q))
  have scaled : 0 ≤ q / 2 ^ format.place q := by positivity
  have above := roundHalfEven_nonneg scaled
  have positive : (0 : ℚ) ≤ roundHalfEven (q / 2 ^ format.place q) * 2 ^ format.place q := by
    have whole : (0 : ℚ) ≤ roundHalfEven (q / 2 ^ format.place q) := by exact_mod_cast above
    positivity
  have place_le : format.place q ≤ format.maxExponent - 1 := by
    have leading : leadingExponent q ≤ format.maxExponent - 1 := by
      rcases nonneg.eq_or_lt with zero | strict
      · subst zero
        have none : leadingExponent 0 = -1 := by decide +kernel
        have large := ordinary.large
        omega
      · have strict_bound : q < 2 ^ (format.maxExponent - 1 + 1) :=
          lt_of_le_of_lt small (zpow_lt_zpow_right₀ (by norm_num) (by omega))
        have below := leadingExponent_lt strict strict_bound
        omega
    have range := ordinary.range
    have precise := ordinary.precise
    unfold place
    omega
  refine ⟨_, ?_, positive⟩
  rw [round_eq, if_neg]
  rw [abs_of_nonneg positive, not_le]
  calc (roundHalfEven (q / 2 ^ format.place q) : ℚ) * 2 ^ format.place q
      ≤ (q / 2 ^ format.place q + 1 / 2) * 2 ^ format.place q := by
        gcongr
        linarith
    _ = q + 2 ^ format.place q / 2 := by
        rw [add_mul, div_mul_cancel₀ _ (ne_of_gt unit_pos)]
        ring
    _ < 2 ^ (format.maxExponent + 1) := by
        have unit_le : (2 : ℚ) ^ format.place q ≤ 2 ^ (format.maxExponent - 1) :=
          zpow_le_zpow_right₀ (by norm_num) place_le
        have double : (2 : ℚ) ^ (format.maxExponent + 1) =
            4 * 2 ^ (format.maxExponent - 1) := by
          rw [show format.maxExponent + 1 = 2 + (format.maxExponent - 1) from by ring,
            zpow_add₀ (by norm_num)]
          norm_num
        have power_pos : (0 : ℚ) < 2 ^ (format.maxExponent - 1) := by positivity
        linarith

/-- A multiple of the last place of the value itself is kept. -/
theorem isFloat_of_multiple {q : ℚ} {m : Int} (multiple : q = m * 2 ^ format.place q)
    (bounded : |q| < 2 ^ (format.maxExponent + 1)) : format.IsFloat q := by
  have unit_pos : (0 : ℚ) < 2 ^ format.place q := by positivity
  have digits : roundHalfEven (q / 2 ^ format.place q) = m := by
    rw [(div_eq_iff (ne_of_gt unit_pos)).mpr multiple]
    exact roundHalfEven_int m
  unfold IsFloat
  rw [round_eq, digits, ← multiple, if_neg (not_le.mpr bounded)]

/-- A power of two times a power that is no smaller. -/
theorem zpow_eq_mul {j k : Int} (order : j ≤ k) :
    (2 : ℚ) ^ k = ((2 ^ (k - j).toNat : Nat) : ℚ) * 2 ^ j := by
  have split : k = ((k - j).toNat : Int) + j := by omega
  conv_lhs => rw [split, zpow_add₀ (by norm_num), zpow_natCast]
  norm_cast

/-- Few enough bits on a place of the format are one of its values. -/
theorem isFloat_of_lt {m : Nat} {k : Int} (bits : m < 2 ^ format.precision)
    (fits : format.minExponent - (format.precision - 1) ≤ k)
    (bounded : (m : ℚ) * 2 ^ k < 2 ^ (format.maxExponent + 1)) :
    format.IsFloat (m * 2 ^ k) := by
  have power_pos : (0 : ℚ) < 2 ^ k := by positivity
  have fine : format.place (m * 2 ^ k) ≤ k ∨ m = 0 := by
    by_cases zero : m = 0
    · exact .inr zero
    · left
      have m_pos : (0 : ℚ) < m := by exact_mod_cast Nat.pos_of_ne_zero zero
      have below : (m : ℚ) * 2 ^ k < 2 ^ ((format.precision : Int) + k) := by
        rw [zpow_add₀ (by norm_num), zpow_natCast]
        gcongr
        exact_mod_cast bits
      have leading := leadingExponent_lt (by positivity) below
      unfold place
      omega
  have size : |(m : ℚ) * 2 ^ k| < 2 ^ (format.maxExponent + 1) := by
    rwa [abs_of_nonneg (by positivity)]
  rcases fine with order | zero
  · apply isFloat_of_multiple (m := ((m * 2 ^ (k - format.place (m * 2 ^ k)).toNat : Nat) : Int)) _ size
    rw [Int.cast_natCast, Nat.cast_mul, mul_assoc, ← zpow_eq_mul order]
  · apply isFloat_of_multiple (m := 0) _ size
    rw [zero]
    simp

theorem isFloat_of_mul {m : Nat} {k : Int} (bits : m ≤ 2 ^ format.precision)
    (fits : format.minExponent - (format.precision - 1) ≤ k)
    (bounded : (m : ℚ) * 2 ^ k < 2 ^ (format.maxExponent + 1)) (ordinary : format.Ordinary) :
    format.IsFloat (m * 2 ^ k) := by
  by_cases full : m = 2 ^ format.precision
  · have half : (m : ℚ) * 2 ^ k = ((2 ^ (format.precision - 1) : Nat) : ℚ) * 2 ^ (k + 1) := by
      have precise := ordinary.precise
      rw [full, show format.precision = format.precision - 1 + 1 from by omega, pow_succ,
        zpow_add_one₀ (by norm_num), Nat.add_sub_cancel]
      push_cast
      ring
    rw [half] at bounded ⊢
    have precise := ordinary.precise
    exact isFloat_of_lt (Nat.pow_lt_pow_right (by norm_num) (by omega)) (by omega) bounded
  · exact isFloat_of_lt (lt_of_le_of_ne bits full) fits bounded

/-- What is rounded once is kept by rounding again. -/
theorem isFloat_of_round {q r : ℚ} (nonneg : 0 ≤ q) (rounded : format.round q = .finite r)
    (ordinary : format.Ordinary) : format.IsFloat r ∧ 0 ≤ r := by
  obtain ⟨digits, bounded⟩ := round_eq_finite rounded
  have unit_pos : (0 : ℚ) < 2 ^ format.place q := by positivity
  have near := abs_le.mp (roundHalfEven_near (q / 2 ^ format.place q))
  have scaled : 0 ≤ q / 2 ^ format.place q := by positivity
  have m_nonneg := roundHalfEven_nonneg scaled
  generalize mantissa : roundHalfEven (q / 2 ^ format.place q) = m at digits near m_nonneg
  have bits : m ≤ 2 ^ format.precision := by
    rcases nonneg.eq_or_lt with zero | positive
    · have none : m = 0 := by
        rw [← mantissa, ← zero, zero_div]
        exact roundHalfEven_int 0
      rw [none]
      positivity
    · have below : q / 2 ^ format.place q < 2 ^ format.precision := by
        rw [div_lt_iff₀ unit_pos, ← zpow_natCast, ← zpow_add₀ (by norm_num)]
        refine lt_of_lt_of_le (leadingExponent_spec positive).2 ?_
        apply zpow_le_zpow_right₀ (by norm_num)
        unfold place
        omega
      by_contra above
      have strict : ((2 ^ format.precision : Int) : ℚ) + 1 ≤ m := by
        exact_mod_cast (show (2 ^ format.precision : Int) + 1 ≤ m by omega)
      push_cast at strict
      linarith
  obtain ⟨n, natural⟩ := Int.eq_ofNat_of_zero_le m_nonneg
  subst natural
  rw [Int.cast_natCast] at digits
  have positive : (0 : ℚ) ≤ n * 2 ^ format.place q := by positivity
  refine ⟨?_, digits ▸ positive⟩
  rw [digits] at bounded ⊢
  rw [abs_of_nonneg positive] at bounded
  apply isFloat_of_mul (by exact_mod_cast bits) _ bounded ordinary
  unfold place
  omega

/-- What is not negative overflows or becomes a value of the format. -/
theorem round_of_nonneg {q : ℚ} (nonneg : 0 ≤ q) (ordinary : format.Ordinary) :
    format.round q = .posInf ∨
      ∃ r, format.round q = .finite r ∧ format.IsFloat r ∧ 0 ≤ r := by
  have scaled : 0 ≤ q / 2 ^ format.place q := by positivity
  have digits : (0 : ℚ) ≤ roundHalfEven (q / 2 ^ format.place q) := by
    exact_mod_cast roundHalfEven_nonneg scaled
  by_cases fits : (2 : ℚ) ^ (format.maxExponent + 1) ≤
      |roundHalfEven (q / 2 ^ format.place q) * (2 : ℚ) ^ format.place q|
  · left
    have bound : (0 : ℚ) < 2 ^ (format.maxExponent + 1) := by positivity
    have nonneg' : 0 ≤ roundHalfEven (q / 2 ^ format.place q) * (2 : ℚ) ^ format.place q := by
      positivity
    rw [round_eq, if_pos fits, if_pos]
    rw [abs_of_nonneg nonneg'] at fits
    linarith
  · right
    have rounded := @round_eq format q
    rw [if_neg fits] at rounded
    exact ⟨_, rounded, isFloat_of_round nonneg rounded ordinary⟩

/-- A value of the format is a multiple of its own last place. -/
theorem IsFloat.multiple {q : ℚ} (float : format.IsFloat q) :
    q = roundHalfEven (q / 2 ^ format.place q) * 2 ^ format.place q :=
  (round_eq_finite float).1

theorem IsFloat.mantissa {q : ℚ} (float : format.IsFloat q) (positive : 0 < q) :
    ∃ m : Nat, m < 2 ^ format.precision ∧ q = m * 2 ^ format.place q := by
  have unit_pos : (0 : ℚ) < 2 ^ format.place q := by positivity
  have multiple := float.multiple
  have nonneg := roundHalfEven_nonneg (div_nonneg positive.le unit_pos.le)
  obtain ⟨m, same⟩ := Int.eq_ofNat_of_zero_le nonneg
  rw [same, Int.cast_natCast] at multiple
  refine ⟨m, ?_, multiple⟩
  have below : (m : ℚ) * 2 ^ format.place q < 2 ^ format.precision * 2 ^ format.place q := by
    rw [← multiple, ← zpow_natCast, ← zpow_add₀ (by norm_num)]
    refine lt_of_lt_of_le (leadingExponent_spec positive).2 ?_
    apply zpow_le_zpow_right₀ (by norm_num)
    unfold place
    omega
  have digits := lt_of_mul_lt_mul_right below unit_pos.le
  exact_mod_cast digits

/-- No multiple of the last place is nearer. -/
theorem round_nearest_multiple {q r : ℚ} (rounded : format.round q = .finite r) (m : Int) :
    |r - q| ≤ |m * 2 ^ format.place q - q| := by
  have unit_pos : (0 : ℚ) < 2 ^ format.place q := by positivity
  have scale : ∀ n : Int, |(n : ℚ) * 2 ^ format.place q - q| =
      |(n : ℚ) - q / 2 ^ format.place q| * 2 ^ format.place q := by
    intro n
    rw [← abs_of_pos unit_pos, ← abs_mul, sub_mul, abs_of_pos unit_pos,
      div_mul_cancel₀ _ (ne_of_gt unit_pos)]
  rw [(round_eq_finite rounded).1, scale, scale]
  have nearest := roundHalfEven_nearest (q / 2 ^ format.place q) m
  gcongr

/-- No value of the format is nearer. -/
theorem round_nearest {q r y : ℚ} (nonneg : 0 ≤ q) (rounded : format.round q = .finite r)
    (float : format.IsFloat y) (ordinary : format.Ordinary) : |r - q| ≤ |y - q| := by
  by_cases coarse : format.place q ≤ format.place y
  · have multiple := float.multiple
    generalize roundHalfEven (y / 2 ^ format.place y) = m at multiple
    rw [zpow_eq_mul coarse, ← mul_assoc] at multiple
    have nearest := round_nearest_multiple rounded
      (m * ((2 ^ (format.place y - format.place q).toNat : Nat) : Int))
    rw [multiple]
    push_cast at nearest ⊢
    exact nearest
  · -- the value lies below the power of two that starts the binade of the rational
    have precise := ordinary.precise
    have leading : leadingExponent y < leadingExponent q ∧
        format.place q = leadingExponent q - (format.precision - 1) := by
      unfold place at coarse ⊢
      omega
    rcases nonneg.eq_or_lt with zero | positive
    · have exact_zero := (round_nearest_multiple rounded 0)
      rw [← zero] at exact_zero ⊢
      simp only [Int.cast_zero, zero_mul, sub_zero, abs_zero] at exact_zero ⊢
      exact exact_zero.trans (abs_nonneg y)
    · have start := (leadingExponent_spec positive).1
      have below : y ≤ 2 ^ leadingExponent q := by
        rcases lt_or_ge 0 y with y_pos | y_neg
        · refine (leadingExponent_spec y_pos).2.le.trans ?_
          exact zpow_le_zpow_right₀ (by norm_num) (by omega)
        · exact y_neg.trans (by positivity)
      have power : (2 : ℚ) ^ leadingExponent q =
          (((2 ^ (leadingExponent q - format.place q).toNat : Nat) : Int) : ℚ) *
            2 ^ format.place q := by
        rw [Int.cast_natCast]
        exact zpow_eq_mul (by omega)
      have nearest := round_nearest_multiple rounded
        ((2 ^ (leadingExponent q - format.place q).toNat : Nat) : Int)
      rw [← power, abs_of_nonpos (by linarith : (2 : ℚ) ^ leadingExponent q - q ≤ 0)] at nearest
      rw [abs_of_nonpos (by linarith : y - q ≤ 0)]
      linarith

theorem round_mono {q q' r r' : ℚ} (nonneg : 0 ≤ q) (order : q ≤ q')
    (rounded : format.round q = .finite r) (rounded' : format.round q' = .finite r')
    (ordinary : format.Ordinary) : r ≤ r' := by
  by_contra above
  have below : r' < r := lt_of_not_ge above
  have near := round_nearest nonneg rounded
    (isFloat_of_round (nonneg.trans order) rounded' ordinary).1 ordinary
  have near' := round_nearest (nonneg.trans order) rounded'
    (isFloat_of_round nonneg rounded ordinary).1 ordinary
  -- both rationals lie on the midpoint of the two values, so they are one
  have one : q = q' := by
    rw [abs_le] at near near'
    rcases abs_cases (r' - q) with ⟨side, _⟩ | ⟨side, _⟩ <;>
      rcases abs_cases (r - q') with ⟨side', _⟩ | ⟨side', _⟩ <;>
      rw [side] at near <;> rw [side'] at near' <;> linarith [near.1, near.2, near'.1, near'.2]
  rw [one, rounded'] at rounded
  have same := Value.finite.inj rounded
  linarith

/-- Rounding passes a value of the format exactly past the midpoint to the next
one, where that midpoint still rounds down. -/
theorem round_le_iff {q r y next : ℚ} (nonneg : 0 ≤ q) (rounded : format.round q = .finite r)
    (float : format.IsFloat next) (above : y < next)
    (tie : format.round ((y + next) / 2) = .finite y) (ordinary : format.Ordinary) :
    r ≤ y ↔ q ≤ (y + next) / 2 := by
  constructor
  · intro low
    by_contra past
    have nearest := round_nearest nonneg rounded float ordinary
    rw [abs_of_nonpos (by linarith : r - q ≤ 0)] at nearest
    rcases abs_cases (next - q) with ⟨side, _⟩ | ⟨side, _⟩ <;> rw [side] at nearest <;> linarith
  · intro order
    exact round_mono nonneg order rounded tie ordinary

end Round

end Format

section Binary64

theorem binary64_ordinary : binary64.Ordinary := ⟨by decide, by decide, by decide⟩

theorem round_exists {q : ℚ} (nonneg : 0 ≤ q) (small : q ≤ 2 ^ (100 : Nat)) :
    ∃ r, binary64.round q = .finite r ∧ 0 ≤ r := by
  refine Format.round_finite nonneg (small.trans ?_) binary64_ordinary
  simp only [binary64]
  rw [← zpow_natCast]
  exact zpow_le_zpow_right₀ (by norm_num) (by decide)

theorem round_nat {n : Nat} (small : n ≤ 2 ^ 53) : binary64.round (n : ℚ) = .finite n := by
  have float : binary64.IsFloat ((n : ℚ) * 2 ^ (0 : Int)) := by
    apply Format.isFloat_of_mul small (by decide) _ binary64_ordinary
    rw [zpow_zero, mul_one]
    have bound : (n : ℚ) ≤ 2 ^ 53 := by exact_mod_cast small
    refine lt_of_le_of_lt bound ?_
    simp only [binary64]
    rw [← zpow_natCast]
    exact zpow_lt_zpow_right₀ (by norm_num) (by decide)
  rw [zpow_zero, mul_one] at float
  exact float

theorem isFloat_two_zpow {k : Int} (low : -100 ≤ k) (high : k ≤ 100) :
    binary64.IsFloat ((2 : ℚ) ^ k) := by
  have float : binary64.IsFloat (((1 : Nat) : ℚ) * 2 ^ k) := by
    apply Format.isFloat_of_mul (by decide) (by simp only [binary64]; omega) _ binary64_ordinary
    rw [Nat.cast_one, one_mul]
    simp only [binary64]
    exact zpow_lt_zpow_right₀ (by norm_num) (by omega)
  rwa [Nat.cast_one, one_mul] at float

/-- Rounding stays between two powers of two. -/
theorem round_within {q : ℚ} {j k : Int} (low : 2 ^ j ≤ q) (high : q ≤ 2 ^ k) (least : -100 ≤ j)
    (greatest : k ≤ 100) : ∃ r, binary64.round q = .finite r ∧ 2 ^ j ≤ r ∧ r ≤ 2 ^ k := by
  have power : (0 : ℚ) < 2 ^ j := by positivity
  have order : j ≤ k := (zpow_le_zpow_iff_right₀ (by norm_num)).mp (low.trans high)
  have small : (2 : ℚ) ^ k ≤ 2 ^ (100 : Nat) := by
    rw [← zpow_natCast]
    exact zpow_le_zpow_right₀ (by norm_num) greatest
  obtain ⟨r, rounded, _⟩ := round_exists (power.le.trans low) (high.trans small)
  refine ⟨r, rounded, ?_, ?_⟩
  · have float : binary64.IsFloat ((2 : ℚ) ^ j) := isFloat_two_zpow least (order.trans greatest)
    exact Format.round_mono power.le low float rounded binary64_ordinary
  · have float : binary64.IsFloat ((2 : ℚ) ^ k) := isFloat_two_zpow (least.trans order) greatest
    exact Format.round_mono (power.le.trans low) high rounded float binary64_ordinary

/-- A count of 64 bits. -/
theorem round_count {n : Nat} (small : n < 2 ^ 64) :
    ∃ r, binary64.round (n : ℚ) = .finite r ∧ 0 ≤ r ∧ r ≤ 2 ^ (64 : Nat) ∧ (0 < n → 1 ≤ r) := by
  have bound : (n : ℚ) ≤ 2 ^ (64 : Int) := by exact_mod_cast small.le
  rcases Nat.eq_zero_or_pos n with rfl | positive
  · refine ⟨((0 : Nat) : ℚ), round_nat (Nat.zero_le _), ?_, ?_,
      fun h => absurd h (lt_irrefl 0)⟩
    · exact le_of_eq Nat.cast_zero.symm
    · rw [Nat.cast_zero]
      positivity
  · have one : (2 : ℚ) ^ (0 : Int) ≤ n := by
      rw [zpow_zero]
      exact_mod_cast positive
    obtain ⟨r, rounded, low, high⟩ := round_within one bound (by decide) (by decide)
    rw [zpow_zero] at low
    exact ⟨r, rounded, zero_le_one.trans low, by exact_mod_cast high, fun _ => low⟩

theorem round_count_le {m n : Nat} (order : m ≤ n) (small : n < 2 ^ 64) :
    (binary64.round (m : ℚ)).le (binary64.round (n : ℚ)) = true := by
  obtain ⟨r, rounded, _⟩ := round_count (order.trans_lt small)
  obtain ⟨r', rounded', _⟩ := round_count small
  have counts : (m : ℚ) ≤ n := by exact_mod_cast order
  rw [rounded, rounded']
  exact decide_eq_true (Format.round_mono (Nat.cast_nonneg m) counts rounded rounded'
    binary64_ordinary)

end Binary64

end Ieee
