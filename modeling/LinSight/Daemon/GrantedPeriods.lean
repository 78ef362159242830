import LinSight.Daemon.Scheduler
import LinSight.Library.Rounding

set_option autoImplicit false

/-! The periods that `subscribe` grants, and when it grants none. -/

namespace LinSight

open Ieee (Value binary64)

/-- The microseconds of a rate: `1_000_000.0 / rate as f64`, cast. -/
def ratePeriod (rate : Value) : Nat := (binary64.div (.finite 1000000) rate).toUnsigned u64Bound

/-- The lowest rate, as a rational. -/
def lowestRate : ℚ := 13421773 / 134217728

theorem minRateHz_eq : minRateHz = .finite lowestRate := rfl

section Periods

variable {q q' : ℚ}

theorem ratePeriod_nonzero (nonzero : q ≠ 0) :
    ratePeriod (.finite q) = (binary64.round (1000000 / q)).toUnsigned u64Bound := by
  rw [ratePeriod, Ieee.Format.div, if_neg nonzero]

/-- The quotient is small enough to be a finite float. -/
theorem quotient_small (low : lowestRate ≤ q) :
    0 ≤ 1000000 / q ∧ 1000000 / q ≤ ((10000000 : Nat) : ℚ) := by
  have positive : 0 < q := lt_of_lt_of_le (by norm_num [lowestRate]) low
  refine ⟨by positivity, ?_⟩
  rw [div_le_iff₀ positive]
  unfold lowestRate at low
  push_cast
  linarith

theorem quotient_rounds (low : lowestRate ≤ q) :
    ∃ r, binary64.round (1000000 / q) = .finite r ∧ 0 ≤ r ∧ r ≤ ((10000000 : Nat) : ℚ) := by
  obtain ⟨nonneg, small⟩ := quotient_small low
  have power : ((10000000 : Nat) : ℚ) ≤ 2 ^ (100 : Nat) := by norm_num
  obtain ⟨r, rounded, r_nonneg⟩ := Ieee.round_exists nonneg (small.trans power)
  have top : binary64.round ((10000000 : Nat) : ℚ) = .finite ((10000000 : Nat) : ℚ) :=
    Ieee.round_nat (by norm_num)
  exact ⟨r, rounded, r_nonneg,
    Ieee.Format.round_mono nonneg small rounded top Ieee.binary64_ordinary⟩

theorem ratePeriod_eq (low : lowestRate ≤ q) {r : ℚ}
    (rounded : binary64.round (1000000 / q) = .finite r) (top : r ≤ ((10000000 : Nat) : ℚ)) :
    ratePeriod (.finite q) = ⌊r⌋.toNat := by
  have nonzero : q ≠ 0 := by
    rintro rfl
    norm_num [lowestRate] at low
  have small : ⌊r⌋.toNat ≤ u64Bound - 1 := by
    have floor : ⌊r⌋ ≤ (10000000 : Int) := by
      have below := (Int.floor_le r).trans top
      exact_mod_cast below
    simp only [u64Bound]
    omega
  rw [ratePeriod_nonzero nonzero, rounded]
  exact Nat.min_eq_left small

theorem ratePeriod_le (low : lowestRate ≤ q) : ratePeriod (.finite q) ≤ 10000000 := by
  obtain ⟨r, rounded, nonneg, top⟩ := quotient_rounds low
  have floor : ⌊r⌋ ≤ (10000000 : Int) := by
    have below := (Int.floor_le r).trans top
    exact_mod_cast below
  rw [ratePeriod_eq low rounded top]
  omega

/-- A higher rate has no longer period. -/
theorem ratePeriod_anti (low : lowestRate ≤ q) (order : q ≤ q') :
    ratePeriod (.finite q') ≤ ratePeriod (.finite q) := by
  have low' : lowestRate ≤ q' := low.trans order
  have positive : 0 < q := lt_of_lt_of_le (by norm_num [lowestRate]) low
  obtain ⟨r, rounded, nonneg, top⟩ := quotient_rounds low
  obtain ⟨r', rounded', nonneg', top'⟩ := quotient_rounds low'
  have quotients : 1000000 / q' ≤ 1000000 / q := by gcongr
  have below : r' ≤ r := Ieee.Format.round_mono (quotient_small low').1 quotients rounded' rounded
    Ieee.binary64_ordinary
  rw [ratePeriod_eq low rounded top, ratePeriod_eq low' rounded' top']
  exact Int.toNat_le_toNat (Int.floor_mono below)

/-- The highest rate has 50 milliseconds. -/
theorem ratePeriod_highest : ratePeriod (.finite 20) = 50000 := by
  have rounded : binary64.round (1000000 / 20) = .finite ((50000 : Nat) : ℚ) := by
    have whole : (1000000 / 20 : ℚ) = ((50000 : Nat) : ℚ) := by norm_num
    rw [whole]
    exact Ieee.round_nat (by norm_num)
  rw [ratePeriod_eq (by norm_num [lowestRate]) rounded (by norm_num)]
  rw [Int.floor_natCast]
  rfl

theorem le_ratePeriod (low : lowestRate ≤ q) (high : q ≤ 20) : 50000 ≤ ratePeriod (.finite q) := by
  rw [← ratePeriod_highest]
  exact ratePeriod_anti low high

end Periods

section Clamp

variable {low high : ℚ}

/-- Clamping brings all but a NaN between the bounds. -/
theorem clamp_finite {x : Value} (number : x ≠ .nan) (order : low ≤ high) :
    ∃ q, x.clamp (.finite low) (.finite high) = some (.finite q) ∧ low ≤ q ∧ q ≤ high := by
  have ordered : (Value.finite low).le (.finite high) = true := decide_eq_true order
  unfold Value.clamp
  rw [if_pos ordered]
  dsimp only
  cases x with
  | nan => exact absurd rfl number
  | posInf => exact ⟨high, rfl, order, le_rfl⟩
  | negInf =>
      have below : (Value.finite high).lt (.finite low) = false := decide_eq_false (not_lt.mpr order)
      refine ⟨low, ?_, le_rfl, order⟩
      change some (if (Value.finite high).lt (.finite low) = true then _ else _) = _
      rw [below]
      rfl
  | finite q =>
      simp only [Value.lt, decide_eq_true_eq]
      by_cases under : q < low
      · rw [if_pos under]
        simp only [decide_eq_true_eq]
        rw [if_neg (not_lt.mpr order)]
        exact ⟨low, rfl, le_rfl, order⟩
      · rw [if_neg under]
        simp only [decide_eq_true_eq]
        by_cases over_ : high < q
        · rw [if_pos over_]
          exact ⟨high, rfl, order, le_rfl⟩
        · rw [if_neg over_]
          exact ⟨q, rfl, not_lt.mp under, not_lt.mp over_⟩

/-- A NaN passes through. -/
theorem clamp_nan (order : low ≤ high) :
    Value.nan.clamp (.finite low) (.finite high) = some .nan := by
  have ordered : (Value.finite low).le (.finite high) = true := decide_eq_true order
  unfold Value.clamp
  rw [if_pos ordered]
  rfl

end Clamp

section Rates

variable {descriptor : SensorDescriptor}

theorem clampedRateHz_nan (nan : descriptor.nativeRateHz = .nan) :
    descriptor.clampedRateHz = some .nan := by
  rw [SensorDescriptor.clampedRateHz, nan]
  exact clamp_nan (by norm_num)

theorem clampedRateHz_finite (number : descriptor.nativeRateHz ≠ .nan) :
    ∃ q, descriptor.clampedRateHz = some (.finite q) ∧ lowestRate ≤ q ∧ q ≤ 20 :=
  clamp_finite number (by norm_num)

namespace Scheduler

/-- A client's rate over a NaN native rate fails the assertion. -/
theorem grantedPeriod_nan (nan : descriptor.nativeRateHz = .nan) (rate : Value) :
    grantedPeriod descriptor (some rate) = none := by
  rw [grantedPeriod, clampedRateHz_nan nan]
  rfl

theorem grantedPeriod_nan_none (nan : descriptor.nativeRateHz = .nan) :
    grantedPeriod descriptor none = some (ratePeriod (.finite lowestRate)) := by
  rw [grantedPeriod, clampedRateHz_nan nan]
  rfl

/-- The lower of the native rate and the clamped request. -/
theorem requested_finite {native : ℚ} (low : lowestRate ≤ native) (rate : Value) :
    ∃ effective, (rate.clamp minRateHz (.finite native)).map (Value.finite native).min =
        some (.finite effective) ∧ lowestRate ≤ effective ∧ effective ≤ native := by
  rw [minRateHz_eq]
  by_cases nan : rate = .nan
  · rw [nan, clamp_nan low]
    exact ⟨native, rfl, low, le_rfl⟩
  · obtain ⟨q, clamped, above, below⟩ := clamp_finite nan low
    have least : (Value.finite native).min (.finite q) = .finite q := by
      have order : (Value.finite native).lt (.finite q) = false := decide_eq_false (not_lt.mpr below)
      simp only [Value.min, order, Bool.false_eq_true, if_false]
    rw [clamped, Option.map_some, least]
    exact ⟨q, rfl, above, below⟩

/-- The rate in force lies between the lowest one and the native one. -/
theorem grantedPeriod_finite {native : ℚ} (clamped : descriptor.clampedRateHz =
      some (.finite native)) (low : lowestRate ≤ native) (rate : Option Value) :
    ∃ effective, grantedPeriod descriptor rate = some (ratePeriod (.finite effective)) ∧
      lowestRate ≤ effective ∧ effective ≤ native := by
  have floor_idle (effective : ℚ) (above : lowestRate ≤ effective) :
      (!(Value.finite effective).isFinite || (Value.finite effective).le (.finite 0)) = false := by
    have positive : ¬ effective ≤ 0 := by
      unfold lowestRate at above
      intro nonpos
      linarith
    simp only [Value.isFinite, Value.le, positive, decide_false, Bool.not_true, Bool.or_self]
  cases rate with
  | none =>
      refine ⟨native, ?_, low, le_rfl⟩
      simp only [grantedPeriod, clamped, floor_idle native low, ratePeriod, Option.bind_eq_bind,
        Option.bind_some, Bool.false_eq_true, if_false, Option.pure_def]
  | some r =>
      obtain ⟨effective, least, above, below⟩ := requested_finite low r
      refine ⟨effective, ?_, above, below⟩
      simp only [grantedPeriod, clamped, least, floor_idle effective above, ratePeriod,
        Option.bind_eq_bind, Option.bind_some, Bool.false_eq_true, if_false, Option.pure_def]

/-- A granted period is positive, bounded and no shorter than the one of the native rate. -/
theorem grantedPeriod_bounds {rate : Option Value} {period : Nat}
    (granted : grantedPeriod descriptor rate = some period) :
    0 < period ∧ period ≤ 10000000 ∧
      ∃ native, descriptor.clampedRateHz = some native ∧ ratePeriod native ≤ period := by
  by_cases nan : descriptor.nativeRateHz = .nan
  · cases rate with
    | some r =>
        rw [grantedPeriod_nan nan] at granted
        cases granted
    | none =>
        rw [grantedPeriod_nan_none nan, Option.some.injEq] at granted
        have longest := le_ratePeriod (q := lowestRate) le_rfl (by norm_num [lowestRate])
        have bounded := ratePeriod_le (q := lowestRate) le_rfl
        refine ⟨by omega, by omega, .nan, clampedRateHz_nan nan, Nat.zero_le _⟩
  · obtain ⟨native, clamped, low, high⟩ := clampedRateHz_finite nan
    obtain ⟨effective, same, above, below⟩ := grantedPeriod_finite clamped low rate
    rw [same, Option.some.injEq] at granted
    have shortest := le_ratePeriod above (below.trans high)
    have bounded := ratePeriod_le above
    have order := ratePeriod_anti above below
    rw [granted] at shortest bounded order
    exact ⟨by omega, bounded, .finite native, clamped, order⟩

/-- Only a client's rate over a NaN native rate is granted no period. -/
theorem grantedPeriod_isSome_iff (rate : Option Value) :
    (∃ period, grantedPeriod descriptor rate = some period) ↔
      (descriptor.nativeRateHz = .nan → rate = none) := by
  by_cases nan : descriptor.nativeRateHz = .nan
  · cases rate with
    | some r => simp only [grantedPeriod_nan nan, reduceCtorEq, exists_false, nan, true_implies]
    | none => simp only [grantedPeriod_nan_none nan, Option.some.injEq, exists_eq', implies_true]
  · obtain ⟨native, clamped, low, _⟩ := clampedRateHz_finite nan
    obtain ⟨effective, same, _⟩ := grantedPeriod_finite clamped low rate
    simp only [same, Option.some.injEq, exists_eq', nan, false_implies]

theorem subscribe_granted {scheduler : Scheduler} {id : SensorId} {rate : Option Value}
    {period : Nat} (found : scheduler.descriptors.find? (·.id = id) = some descriptor)
    (granted : grantedPeriod descriptor rate = some period) :
    ∃ next, scheduler.subscribe id rate = some (.ok (next, ⟨id, period⟩)) := by
  rw [subscribe, found]
  exact ⟨_, Option.bind_eq_some_iff.mpr ⟨period, granted, rfl⟩⟩

theorem subscribe_period {scheduler next : Scheduler} {id : SensorId} {rate : Option Value}
    {subscription : Subscription}
    (granted : scheduler.subscribe id rate = some (.ok (next, subscription))) :
    0 < subscription.periodMicros ∧ subscription.periodMicros ≤ 10000000 := by
  obtain ⟨descriptor, _, period, _⟩ := subscribe_ok granted
  obtain ⟨positive, bounded, _⟩ := grantedPeriod_bounds period
  exact ⟨positive, bounded⟩

/-- What `subscribe` owes its caller: it returns, and with a subscription its period is in range
and no shorter than the one of the sensor's own rate. -/
def Grants (scheduler : Scheduler) (id : SensorId) (rate : Option Value) : Prop :=
  ∃ outcome, scheduler.subscribe id rate = some outcome ∧
    ∀ next subscription, outcome = .ok (next, subscription) →
      0 < subscription.periodMicros ∧ subscription.periodMicros ≤ 10000000 ∧
        ∃ descriptor native, scheduler.descriptors.find? (·.id = id) = some descriptor ∧
          descriptor.clampedRateHz = some native ∧
          ratePeriod native ≤ subscription.periodMicros

/-- It does so unless a client asks for a rate of a sensor whose native rate is NaN. -/
theorem subscribe_grants_iff (scheduler : Scheduler) (id : SensorId) (rate : Option Value) :
    scheduler.Grants id rate ↔
      ∀ descriptor, scheduler.descriptors.find? (·.id = id) = some descriptor →
        descriptor.nativeRateHz = .nan → rate = none := by
  constructor
  · rintro ⟨outcome, returned, _⟩ descriptor found
    rw [subscribe, found] at returned
    apply (grantedPeriod_isSome_iff rate).mp
    obtain ⟨period, granted, _⟩ := Option.bind_eq_some_iff.mp returned
    exact ⟨period, granted⟩
  · intro safe
    cases found : scheduler.descriptors.find? (·.id = id) with
    | none =>
        refine ⟨.error (.unknown id.asStr), by rw [subscribe, found], ?_⟩
        intro next subscription ok
        cases ok
    | some descriptor =>
        obtain ⟨period, granted⟩ := (grantedPeriod_isSome_iff rate).mpr (safe descriptor found)
        obtain ⟨after, returned⟩ := subscribe_granted found granted
        refine ⟨_, returned, ?_⟩
        intro next subscription ok
        have same : subscription.periodMicros = period := by
          rw [← (Prod.mk.inj (Except.ok.inj ok)).2]
        obtain ⟨positive, bounded, native, clamped, order⟩ := grantedPeriod_bounds granted
        rw [same]
        exact ⟨positive, bounded, descriptor, native, found, clamped, order⟩

/-- A sensor whose plugin gives NaN for its native rate. -/
def nanRate : SensorDescriptor := { memUsedBytes with nativeRateHz := .nan }

/-- Asking for one sample a second of it fails the assertion. -/
theorem nan_rate_panics :
    (new [nanRate]).subscribe nanRate.id (some (.finite 1)) = none ∧
      ¬ (new [nanRate]).Grants nanRate.id (some (.finite 1)) := by
  have found : (new [nanRate]).descriptors.find? (·.id = nanRate.id) = some nanRate := by decide
  have panics : (new [nanRate]).subscribe nanRate.id (some (.finite 1)) = none := by
    rw [subscribe, found]
    exact Option.bind_eq_none_iff.mpr fun period granted =>
      absurd granted (by rw [grantedPeriod_nan rfl]; exact nofun)
  refine ⟨panics, ?_⟩
  rintro ⟨outcome, returned, _⟩
  rw [panics] at returned
  cases returned

end Scheduler

end Rates

end LinSight
