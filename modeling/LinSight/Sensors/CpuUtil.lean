import LinSight.Sensors.ProcStat
import LinSight.Library.Rounding

set_option autoImplicit false

/-! The busy share of the CPU between two readings of `/proc/stat`. -/

namespace LinSight.ProcStat

open Ieee (Value binary64)

/-- The aggregate `cpu` line. -/
structure Stat where
  user : Nat
  nice : Nat
  system : Nat
  idle : Nat
  iowait : Nat
  irq : Nat
  softirq : Nat
  steal : Nat
deriving DecidableEq

def Stat.toCoreStat (s : Stat) : CoreStat :=
  ⟨s.user, s.nice, s.system, s.idle, s.iowait, s.irq, s.softirq, s.steal⟩

/-- The sum of two `u64`s; `none` is the overflow. -/
def checkedAdd (a b : Nat) : Option Nat := if a + b < u64Bound then some (a + b) else none

def checkedSub (a b : Nat) : Option Nat := if b ≤ a then some (a - b) else none

def sumFrom (first : Nat) (others : List Nat) : Option Nat := others.foldlM checkedAdd first

def busyOf (total : Option Nat) (idle iowait : Nat) : Option Nat := do
  let sum ← total
  let sum ← checkedSub sum idle
  checkedSub sum iowait

def Stat.total (s : Stat) : Option Nat :=
  sumFrom s.user [s.nice, s.system, s.idle, s.iowait, s.irq, s.softirq, s.steal]

def Stat.busy (s : Stat) : Option Nat := busyOf s.total s.idle s.iowait

namespace CoreStat

def total (s : CoreStat) : Option Nat :=
  sumFrom s.user [s.nice, s.system, s.idle, s.iowait, s.irq, s.softirq, s.steal]

def busy (s : CoreStat) : Option Nat := busyOf s.total s.idle s.iowait

end CoreStat

/-- `100.0 * (db as f64) / (dt as f64)`. -/
def percent (db dt : Nat) : Value :=
  binary64.div (binary64.mul (.finite 100) (binary64.round db)) (binary64.round dt)

/-- The share of the busy difference in the total one; both subtractions saturate. -/
def shareBetween {σ : Type} (total busy : σ → Option Nat) (a b : σ) : Option Value := do
  let dt := (← total b) - (← total a)
  if dt = 0 then return .finite 0
  let db := (← busy b) - (← busy a)
  return percent db dt

def utilBetween (a b : Stat) : Option Value := shareBetween Stat.total Stat.busy a b

def coreUtilBetween (a b : CoreStat) : Option Value :=
  shareBetween CoreStat.total CoreStat.busy a b

namespace CoreStat

def ticks (s : CoreStat) : Nat :=
  s.user + s.nice + s.system + s.idle + s.iowait + s.irq + s.softirq + s.steal

def busyTicks (s : CoreStat) : Nat := s.ticks - s.idle - s.iowait

/-- Every counter is below `2^60`. -/
def Bounded (s : CoreStat) : Prop :=
  ∀ n ∈ [s.user, s.nice, s.system, s.idle, s.iowait, s.irq, s.softirq, s.steal], n < 2 ^ 60

/-- No counter went backwards. -/
def Advances (a b : CoreStat) : Prop :=
  a.user ≤ b.user ∧ a.nice ≤ b.nice ∧ a.system ≤ b.system ∧ a.idle ≤ b.idle ∧
    a.iowait ≤ b.iowait ∧ a.irq ≤ b.irq ∧ a.softirq ≤ b.softirq ∧ a.steal ≤ b.steal

end CoreStat

/-- The sum and the difference are the exact ones. -/
def Exact (s : CoreStat) (total busy : Option Nat) : Prop :=
  total = some s.ticks ∧ busy = some s.busyTicks ∧ s.idle + s.iowait ≤ s.ticks

/-- The share that the counters ask for, in the arithmetic of `f64`. -/
def shareOf (a b : CoreStat) : Value :=
  let dt := b.ticks - a.ticks
  if dt = 0 then .finite 0 else percent (dt - (b.idle - a.idle) - (b.iowait - a.iowait)) dt

/-- A share in `[0, 100]`, and the one that the counters ask for where none went backwards. -/
def Proper (a b : CoreStat) (result : Option Value) : Prop :=
  ∃ share : ℚ, result = some (.finite share) ∧ 0 ≤ share ∧ share ≤ 100 ∧
    (a.Advances b → .finite share = shareOf a b)

/-- The `f64` next to a number. -/
def nearest (q : ℚ) : ℚ :=
  match binary64.round q with
  | .finite r => r
  | _ => 0

/-- No time passed, or the busy ticks fit into it, up to the rounding of `f64`. -/
def InRange (a b : CoreStat) : Prop :=
  let dt := b.ticks - a.ticks
  let db := b.busyTicks - a.busyTicks
  dt = 0 ∨ nearest (100 * nearest db) ≤ (100 + 1 / 2 ^ 47) * nearest dt

section Sums

theorem sumFrom_eq {first : Nat} {others : List Nat} (fits : first + others.sum < u64Bound) :
    sumFrom first others = some (first + others.sum) := by
  induction others generalizing first with
  | nil => rfl
  | cons next others ih =>
      rw [List.sum_cons, ← Nat.add_assoc] at fits ⊢
      have here : checkedAdd first next = some (first + next) := if_pos (by omega)
      rw [sumFrom, List.foldlM_cons, here]
      exact ih fits

theorem busyOf_eq {sum idle iowait : Nat} (fits : idle + iowait ≤ sum) :
    busyOf (some sum) idle iowait = some (sum - idle - iowait) := by
  have first : checkedSub sum idle = some (sum - idle) := if_pos (by omega)
  have second : checkedSub (sum - idle) iowait = some (sum - idle - iowait) := if_pos (by omega)
  simp only [busyOf, Option.bind_eq_bind, Option.bind_some, first, second]

variable {s : CoreStat}

theorem CoreStat.Bounded.ticks_lt (bounded : s.Bounded) : s.ticks < 2 ^ 63 := by
  simp only [CoreStat.Bounded, List.forall_mem_cons] at bounded
  simp only [CoreStat.ticks]
  omega

theorem exact_core (bounded : s.Bounded) : Exact s s.total s.busy := by
  have small := bounded.ticks_lt
  have parts : s.ticks = s.user +
      [s.nice, s.system, s.idle, s.iowait, s.irq, s.softirq, s.steal].sum := by
    simp only [CoreStat.ticks, List.sum_cons, List.sum_nil]
    omega
  have total : s.total = some s.ticks := by
    rw [CoreStat.total, parts]
    apply sumFrom_eq
    rw [← parts]
    simp only [u64Bound]
    omega
  have fits : s.idle + s.iowait ≤ s.ticks := by
    simp only [CoreStat.ticks]
    omega
  exact ⟨total, by rw [CoreStat.busy, total, busyOf_eq fits, CoreStat.busyTicks], fits⟩

/-- The two readers differ in their types only. -/
theorem exact_stat {s : Stat} (bounded : s.toCoreStat.Bounded) :
    Exact s.toCoreStat s.total s.busy :=
  exact_core bounded

theorem utilBetween_eq (a b : Stat) :
    utilBetween a b = coreUtilBetween a.toCoreStat b.toCoreStat := rfl

end Sums

section Nearest

theorem round_eq_nearest {q : ℚ} (nonneg : 0 ≤ q) (small : q ≤ 2 ^ (100 : Nat)) :
    binary64.round q = .finite (nearest q) ∧ 0 ≤ nearest q := by
  obtain ⟨r, rounded, nonneg'⟩ := Ieee.round_exists nonneg small
  have same : nearest q = r := by
    unfold nearest
    rw [rounded]
  rw [same]
  exact ⟨rounded, nonneg'⟩

theorem nearest_le {q : ℚ} {r : ℚ} (nonneg : 0 ≤ q) (order : q ≤ r) (float : binary64.IsFloat r)
    (small : q ≤ 2 ^ (100 : Nat)) : nearest q ≤ r :=
  Ieee.Format.round_mono nonneg order (round_eq_nearest nonneg small).1 float
    Ieee.binary64_ordinary

theorem isFloat_pow (k : Nat) (small : k ≤ 100) : binary64.IsFloat ((2 : ℚ) ^ k) := by
  have float := @Ieee.isFloat_two_zpow k (by omega) (by omega)
  rwa [zpow_natCast] at float

/-- Rounding a count of ticks keeps it within its powers of two. -/
theorem nearest_count {n : Nat} (small : n < 2 ^ 63) :
    binary64.round (n : ℚ) = .finite (nearest n) ∧ 0 ≤ nearest n ∧ nearest n ≤ 2 ^ 63 := by
  have bound : (n : ℚ) ≤ 2 ^ 63 := by exact_mod_cast small.le
  obtain ⟨rounded, nonneg⟩ := round_eq_nearest (Nat.cast_nonneg n) (bound.trans (by norm_num))
  exact ⟨rounded, nonneg, nearest_le (Nat.cast_nonneg n) bound (isFloat_pow 63 (by decide))
    (bound.trans (by norm_num))⟩

theorem one_le_nearest {n : Nat} (positive : 0 < n) (small : n < 2 ^ 63) : 1 ≤ nearest n := by
  have one : (1 : ℚ) ≤ n := by exact_mod_cast positive
  have float : binary64.IsFloat 1 := by simpa only [pow_zero] using isFloat_pow 0 (by decide)
  exact Ieee.Format.round_mono zero_le_one one float (nearest_count small).1
    Ieee.binary64_ordinary

theorem nearest_nat {n : Nat} (small : n ≤ 2 ^ 53) : nearest n = n := by
  unfold nearest
  rw [Ieee.round_nat small]

/-- The hundredfold of a rounded count. -/
theorem nearest_hundredfold {n : Nat} (small : n < 2 ^ 63) :
    binary64.mul (.finite 100) (binary64.round n) = .finite (nearest (100 * nearest n)) ∧
      0 ≤ nearest (100 * nearest n) ∧ nearest (100 * nearest n) ≤ 2 ^ 70 := by
  obtain ⟨count, nonneg, bound⟩ := nearest_count small
  have scaled : 100 * nearest n ≤ 2 ^ 70 := by linarith
  have scaled_nonneg : 0 ≤ 100 * nearest n := by positivity
  obtain ⟨rounded, nonneg'⟩ := round_eq_nearest scaled_nonneg (scaled.trans (by norm_num))
  refine ⟨?_, nonneg', nearest_le scaled_nonneg scaled (isFloat_pow 70 (by decide))
    (scaled.trans (by norm_num))⟩
  rw [count]
  exact rounded

theorem percent_eq {db dt : Nat} (positive : 0 < dt) (busy : db < 2 ^ 63) (total : dt < 2 ^ 63) :
    percent db dt = binary64.round (nearest (100 * nearest db) / nearest dt) := by
  have one := one_le_nearest positive total
  rw [percent, (nearest_hundredfold busy).1, (nearest_count total).1]
  simp only [Ieee.Format.div]
  rw [if_neg (by linarith)]

/-- The share rounds past 100 exactly where the quotient is past the midpoint to
the next `f64`. -/
theorem percent_le_iff (db dt : Nat) (positive : 0 < dt) (busy : db < 2 ^ 63)
    (total : dt < 2 ^ 63) : ∃ share : ℚ, percent db dt = .finite share ∧ 0 ≤ share ∧
      (share ≤ 100 ↔ nearest (100 * nearest db) ≤ (100 + 1 / 2 ^ 47) * nearest dt) := by
  have one := one_le_nearest positive total
  obtain ⟨_, nonneg, bound⟩ := nearest_hundredfold busy
  have quotient_nonneg : 0 ≤ nearest (100 * nearest db) / nearest dt := by positivity
  have quotient_le : nearest (100 * nearest db) / nearest dt ≤ 2 ^ 70 :=
    (div_le_self nonneg one).trans bound
  obtain ⟨rounded, share_nonneg⟩ :=
    round_eq_nearest quotient_nonneg (quotient_le.trans (by norm_num))
  refine ⟨_, (percent_eq positive busy total).trans rounded, share_nonneg, ?_⟩
  have next : binary64.IsFloat (100 + 1 / 2 ^ 46) := by
    unfold Ieee.Format.IsFloat
    decide +kernel
  have tie : binary64.round ((100 + (100 + 1 / 2 ^ 46)) / 2) = .finite 100 := by decide +kernel
  rw [Ieee.Format.round_le_iff quotient_nonneg rounded next (by norm_num) tie
    Ieee.binary64_ordinary, div_le_iff₀ (by linarith)]
  norm_num

end Nearest

section Shares

variable {a b : CoreStat}

theorem CoreStat.busyTicks_le (s : CoreStat) : s.busyTicks ≤ s.ticks := by
  simp only [CoreStat.busyTicks]
  omega

theorem coreUtilBetween_eq (before : a.Bounded) (after : b.Bounded) :
    coreUtilBetween a b = some (if b.ticks - a.ticks = 0 then .finite 0
      else percent (b.busyTicks - a.busyTicks) (b.ticks - a.ticks)) := by
  obtain ⟨total, busy, _⟩ := exact_core before
  obtain ⟨total', busy', _⟩ := exact_core after
  simp only [coreUtilBetween, shareBetween, total, busy, total', busy', Option.bind_eq_bind,
    Option.bind_some]
  split <;> rfl

/-- Where no counter went backwards, the order of the subtractions does not matter. -/
theorem busy_difference (advances : a.Advances b) :
    b.busyTicks - a.busyTicks = b.ticks - a.ticks - (b.idle - a.idle) - (b.iowait - a.iowait) := by
  obtain ⟨user, nice, system, idle, iowait, irq, softirq, steal⟩ := advances
  simp only [CoreStat.busyTicks, CoreStat.ticks]
  omega

theorem proper_iff (before : a.Bounded) (after : b.Bounded) :
    Proper a b (coreUtilBetween a b) ↔ InRange a b := by
  have small := before.ticks_lt
  have small' := after.ticks_lt
  have parts := b.busyTicks_le
  rw [coreUtilBetween_eq before after]
  unfold Proper InRange shareOf
  by_cases still : b.ticks - a.ticks = 0
  · simp only [still, if_true, true_or, iff_true]
    exact ⟨0, rfl, le_rfl, by norm_num, fun _ => rfl⟩
  · obtain ⟨share, same, nonneg, bound⟩ := percent_le_iff (b.busyTicks - a.busyTicks)
      (b.ticks - a.ticks) (by omega) (by omega) (by omega)
    simp only [still, if_false, false_or]
    rw [← bound]
    constructor
    · rintro ⟨other, found, _, low, _⟩
      rw [same] at found
      cases found
      exact low
    · intro low
      refine ⟨share, congrArg some same, nonneg, low, fun advances => ?_⟩
      rw [← busy_difference advances, same]

/-- Up to `2^53 / 100` ticks nothing rounds before the division. -/
theorem inRange_iff_of_short (busy : 100 * (b.busyTicks - a.busyTicks) ≤ 2 ^ 53)
    (total : b.ticks - a.ticks ≤ 2 ^ 53) : InRange a b ↔
      b.ticks ≤ a.ticks ∨ b.busyTicks - a.busyTicks ≤ b.ticks - a.ticks := by
  unfold InRange
  generalize b.busyTicks - a.busyTicks = db at busy ⊢
  have still : b.ticks - a.ticks = 0 ↔ b.ticks ≤ a.ticks := by omega
  simp only [still]
  generalize b.ticks - a.ticks = dt at total ⊢
  have product : (100 : ℚ) * db = ((100 * db : Nat) : ℚ) := by push_cast; ring
  rw [nearest_nat (by omega : db ≤ 2 ^ 53), product, nearest_nat busy, nearest_nat total]
  refine or_congr_right ?_
  have small : (dt : ℚ) ≤ 2 ^ 53 := by exact_mod_cast total
  constructor
  · intro order
    by_contra more
    have step : (dt : ℚ) + 1 ≤ db := by exact_mod_cast Nat.lt_of_not_le more
    push_cast at order
    linarith
  · intro order
    have cast : (db : ℚ) ≤ dt := by exact_mod_cast order
    have nonneg : (0 : ℚ) ≤ dt := Nat.cast_nonneg dt
    push_cast
    linarith

end Shares

/-- Exactly when both shares are proper, for the aggregate line and for a core:
sums and differences never leave the `u64`s, and what can go wrong is that the
busy ticks gained exceed the total, which an idle counter going back brings about. -/
theorem util_between_iff (a b : CoreStat) (before : a.Bounded) (after : b.Bounded) :
    (Exact a a.total a.busy ∧ Exact b b.total b.busy ∧
      (Proper a b (coreUtilBetween a b) ↔ InRange a b)) ∧
    (∀ x y : Stat, x.toCoreStat = a → y.toCoreStat = b →
      Exact a x.total x.busy ∧ Exact b y.total y.busy ∧
        (Proper a b (utilBetween x y) ↔ InRange a b)) ∧
    (100 * (b.busyTicks - a.busyTicks) ≤ 2 ^ 53 → b.ticks - a.ticks ≤ 2 ^ 53 →
      (InRange a b ↔ b.ticks ≤ a.ticks ∨ b.busyTicks - a.busyTicks ≤ b.ticks - a.ticks)) := by
  refine ⟨⟨exact_core before, exact_core after, proper_iff before after⟩, ?_,
    inRange_iff_of_short⟩
  rintro x y rfl rfl
  exact ⟨exact_stat before, exact_stat after, utilBetween_eq x y ▸ proper_iff before after⟩

/-- Ten ticks of `idle` and `iowait` taken back, twenty of `user` gained. -/
def rewound : CoreStat × CoreStat := (⟨0, 0, 0, 60, 40, 0, 0, 0⟩, ⟨20, 0, 0, 55, 35, 0, 0, 0⟩)

theorem util_between_rewound : rewound.1.Bounded ∧ rewound.2.Bounded ∧
    (Exact rewound.1 rewound.1.total rewound.1.busy ∧ Exact rewound.2 rewound.2.total rewound.2.busy ∧
      (Proper rewound.1 rewound.2 (coreUtilBetween rewound.1 rewound.2) ↔
        InRange rewound.1 rewound.2)) :=
  ⟨by unfold CoreStat.Bounded; decide, by unfold CoreStat.Bounded; decide,
    (util_between_iff rewound.1 rewound.2 (by unfold CoreStat.Bounded; decide)
      (by unfold CoreStat.Bounded; decide)).1⟩

/-- A counter that goes back makes a share of 200; a long window makes one above
100 by its rounding, with every counter growing. -/
theorem util_between_out_of_range :
    (rewound.1.Bounded ∧ rewound.2.Bounded ∧
      coreUtilBetween rewound.1 rewound.2 = some (.finite 200) ∧
      ¬ Proper rewound.1 rewound.2 (coreUtilBetween rewound.1 rewound.2)) ∧
    ∃ a b : CoreStat, a.Bounded ∧ b.Bounded ∧ a.Advances b ∧
      ¬ Proper a b (coreUtilBetween a b) := by
  have share : coreUtilBetween rewound.1 rewound.2 = some (.finite 200) := by decide +kernel
  refine ⟨⟨by unfold CoreStat.Bounded; decide, by unfold CoreStat.Bounded; decide, share, ?_⟩,
    ⟨0, 0, 0, 0, 0, 0, 0, 0⟩, ⟨360289793041955, 0, 0, 0, 0, 0, 0, 0⟩,
    by unfold CoreStat.Bounded; decide, by unfold CoreStat.Bounded; decide,
    by unfold CoreStat.Advances; decide, ?_⟩
  · rintro ⟨other, found, _, low, _⟩
    rw [share] at found
    cases found
    norm_num at low
  · rintro ⟨other, found, _, low, _⟩
    have above : coreUtilBetween ⟨0, 0, 0, 0, 0, 0, 0, 0⟩ ⟨360289793041955, 0, 0, 0, 0, 0, 0, 0⟩ =
        some (.finite (100 + 1 / 70368744177664)) := by decide +kernel
    rw [above] at found
    cases found
    norm_num at low

end LinSight.ProcStat
