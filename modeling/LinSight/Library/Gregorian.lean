import Mathlib

set_option autoImplicit false

/-! The proleptic Gregorian calendar from the year 0 on, and its count of days. -/

namespace Gregorian

def Leap (year : ℕ) : Prop := year % 4 = 0 ∧ (year % 100 ≠ 0 ∨ year % 400 = 0)

instance (year : ℕ) : Decidable (Leap year) := inferInstanceAs (Decidable (_ ∧ _))

def monthLength (year month : ℕ) : ℕ :=
  if month = 2 then if Leap year then 29 else 28
  else if month ∈ [4, 6, 9, 11] then 30
  else 31

def yearLength (year : ℕ) : ℕ := if Leap year then 366 else 365

@[ext] structure Date where
  year : ℕ
  month : ℕ
  day : ℕ
  month_pos : 1 ≤ month
  month_le : month ≤ 12
  day_pos : 1 ≤ day
  day_le : day ≤ monthLength year month
deriving DecidableEq

/-- The days of the years before `year`. -/
def daysBefore (year : ℕ) : ℕ := ∑ y ∈ Finset.range year, yearLength y

/-- The days of the months of the year before `month`. -/
def daysBeforeMonth (year month : ℕ) : ℕ := ∑ m ∈ Finset.Ico 1 month, monthLength year m

/-- The first day of the year 0 has the number 0. -/
def Date.dayNumber (date : Date) : ℕ :=
  daysBefore date.year + daysBeforeMonth date.year date.month + (date.day - 1)

def epoch : Date := ⟨1970, 1, 1, by decide, by decide, by decide, by decide⟩

/-- The usual count of days. -/
def Date.dayCount (date : Date) : ℤ := date.dayNumber - epoch.dayNumber

theorem monthLength_pos (year month : ℕ) : 1 ≤ monthLength year month := by
  unfold monthLength
  split_ifs <;> decide

/-- The day after. -/
def Date.next (date : Date) : Date :=
  if inside : date.day < monthLength date.year date.month then
    { date with day := date.day + 1, day_pos := Nat.le_add_left 1 _, day_le := inside }
  else if room : date.month < 12 then
    ⟨date.year, date.month + 1, 1, Nat.le_add_left 1 _, room, le_rfl, monthLength_pos _ _⟩
  else ⟨date.year + 1, 1, 1, le_rfl, by decide, le_rfl, monthLength_pos _ _⟩

theorem daysBefore_succ (year : ℕ) : daysBefore (year + 1) = daysBefore year + yearLength year :=
  Finset.sum_range_succ _ _

/-- The leap years up to a year, counted by division. -/
theorem daysBefore_eq (year : ℕ) :
    daysBefore (year + 1) + year / 100 = 365 * (year + 1) + year / 4 + year / 400 + 1 := by
  induction year with
  | zero => decide
  | succ year ih =>
      rw [daysBefore_succ, yearLength]
      by_cases leap : Leap (year + 1)
      · rw [if_pos leap]
        unfold Leap at leap
        omega
      · rw [if_neg leap]
        unfold Leap at leap
        omega

theorem daysBeforeMonth_succ (year : ℕ) {month : ℕ} (positive : 1 ≤ month) :
    daysBeforeMonth year (month + 1) = daysBeforeMonth year month + monthLength year month :=
  Finset.sum_Ico_succ_top positive _

/-- The months of a year make up the year. -/
theorem daysBeforeMonth_end (year : ℕ) : daysBeforeMonth year 13 = yearLength year := by
  unfold daysBeforeMonth yearLength
  simp only [Finset.sum_Ico_eq_sum_range, Finset.sum_range_succ, Finset.sum_range_zero]
  unfold monthLength
  by_cases leap : Leap year
  · simp [leap]
  · simp [leap]

theorem daysBeforeMonth_mono (year : ℕ) {month later : ℕ} (before : month ≤ later) :
    daysBeforeMonth year month ≤ daysBeforeMonth year later :=
  Finset.sum_le_sum_of_subset (Finset.Ico_subset_Ico_right before)

theorem daysBefore_mono {year later : ℕ} (before : year ≤ later) :
    daysBefore year ≤ daysBefore later :=
  Finset.sum_le_sum_of_subset (Finset.range_mono before)

/-- A day is before the end of its month. -/
theorem Date.dayNumber_lt_month (date : Date) :
    date.dayNumber < daysBefore date.year + daysBeforeMonth date.year (date.month + 1) := by
  have inside := date.day_le
  have positive := date.day_pos
  rw [daysBeforeMonth_succ date.year date.month_pos]
  unfold dayNumber
  omega

theorem Date.dayNumber_lt_year (date : Date) : date.dayNumber < daysBefore (date.year + 1) := by
  have inside := date.dayNumber_lt_month
  have months := daysBeforeMonth_mono date.year (Nat.succ_le_succ date.month_le)
  rw [daysBeforeMonth_end] at months
  rw [daysBefore_succ]
  exact lt_of_lt_of_le inside (Nat.add_le_add_left months _)

theorem Date.dayNumber_lt_of_year {date later : Date} (before : date.year < later.year) :
    date.dayNumber < later.dayNumber := by
  calc date.dayNumber < daysBefore (date.year + 1) := date.dayNumber_lt_year
    _ ≤ daysBefore later.year := daysBefore_mono before
    _ ≤ later.dayNumber := by
      unfold dayNumber
      omega

theorem Date.dayNumber_lt_of_month {date later : Date} (same : date.year = later.year)
    (before : date.month < later.month) : date.dayNumber < later.dayNumber := by
  have inside := date.dayNumber_lt_month
  have months : daysBeforeMonth date.year (date.month + 1) ≤
      daysBeforeMonth date.year later.month := daysBeforeMonth_mono date.year before
  unfold dayNumber at inside ⊢
  rw [same] at inside months ⊢
  omega

/-- Two dates do not have the same count. -/
theorem Date.dayNumber_injective : Function.Injective Date.dayNumber := by
  intro date other same
  have year : date.year = other.year := by
    rcases lt_trichotomy date.year other.year with before | equal | after
    · exact absurd same (dayNumber_lt_of_year before).ne
    · exact equal
    · exact absurd same (dayNumber_lt_of_year after).ne'
  have month : date.month = other.month := by
    rcases lt_trichotomy date.month other.month with before | equal | after
    · exact absurd same (dayNumber_lt_of_month year before).ne
    · exact equal
    · exact absurd same (dayNumber_lt_of_month year.symm after).ne'
  have day : date.day = other.day := by
    have positive := date.day_pos
    have positive' := other.day_pos
    unfold dayNumber at same
    rw [year, month] at same
    omega
  exact Date.ext year month day

theorem Date.dayNumber_next (date : Date) : date.next.dayNumber = date.dayNumber + 1 := by
  have positive := date.day_pos
  have inside := date.day_le
  have months := daysBeforeMonth_succ date.year date.month_pos
  unfold next
  split_ifs with within room
  · unfold dayNumber
    dsimp only
    omega
  · unfold dayNumber
    dsimp only
    omega
  · have last : date.month = 12 := le_antisymm date.month_le (not_lt.mp room)
    rw [last, daysBeforeMonth_end] at months
    have first : daysBeforeMonth (date.year + 1) 1 = 0 := rfl
    unfold dayNumber
    dsimp only
    rw [first, daysBefore_succ]
    rw [last] at inside within ⊢
    omega

theorem Date.dayCount_injective : Function.Injective Date.dayCount := by
  intro date other same
  apply dayNumber_injective
  unfold dayCount at same
  omega

theorem Date.dayCount_next (date : Date) : date.next.dayCount = date.dayCount + 1 := by
  unfold dayCount
  rw [dayNumber_next]
  omega

theorem epoch_dayNumber : epoch.dayNumber = 719528 := by
  have years : daysBefore 1970 + 1969 / 100 = _ := daysBefore_eq 1969
  have months : daysBeforeMonth 1970 1 = 0 := rfl
  unfold Date.dayNumber epoch
  dsimp only
  omega

/-! Years that begin with March: the leap day is their last day, and the months before a month
take the same days in each of them. -/

theorem monthLength_march (year : ℕ) {mp : ℕ} (early : mp < 10) :
    (153 * (mp + 1) + 2) / 5 = (153 * mp + 2) / 5 + monthLength year (mp + 3) := by
  interval_cases mp <;> rfl

theorem daysBeforeMonth_march (year : ℕ) {mp : ℕ} (early : mp ≤ 10) :
    daysBeforeMonth year (mp + 3) + 306 = (153 * mp + 2) / 5 + yearLength year := by
  induction mp with
  | zero =>
      have length : monthLength year 1 + monthLength year 2 + 306 = yearLength year := by
        unfold monthLength yearLength
        by_cases leap : Leap year
        · simp [leap]
        · simp [leap]
      have first : daysBeforeMonth year 1 = 0 := rfl
      rw [daysBeforeMonth_succ year (by decide), daysBeforeMonth_succ year le_rfl, first]
      omega
  | succ mp ih =>
      have month := monthLength_march year (Nat.lt_of_succ_le early)
      have before := ih (Nat.le_of_succ_le early)
      have next := @daysBeforeMonth_succ year (mp + 3) (Nat.le_add_left 1 _)
      rw [Nat.add_right_comm] at next
      omega

/-- The days before the March of a year. -/
theorem daysBefore_march (year : ℕ) :
    daysBefore year + yearLength year + year / 100 =
      365 * year + year / 4 + year / 400 + 366 := by
  have years := daysBefore_eq year
  rw [daysBefore_succ] at years
  omega

/-- The date of a day of a year that begins with March. -/
theorem exists_date_of_march (year doy : ℕ) (inside : doy < yearLength (year + 1)) :
    ∃ date : Date,
      date.month = (if (5 * doy + 2) / 153 < 10 then (5 * doy + 2) / 153 + 3
        else (5 * doy + 2) / 153 - 9) ∧
      date.year = (if date.month ≤ 2 then year + 1 else year) ∧
      date.day = doy - (153 * ((5 * doy + 2) / 153) + 2) / 5 + 1 ∧
      date.dayNumber + year / 100 = 365 * year + year / 4 + year / 400 + doy + 60 := by
  generalize month_eq : (5 * doy + 2) / 153 = mp
  have whole : yearLength (year + 1) ≤ 366 := by
    unfold yearLength
    split_ifs <;> decide
  have before := daysBefore_march year
  by_cases early : mp < 10
  · have months := daysBeforeMonth_march year early.le
    have month := monthLength_march year early
    refine ⟨⟨year, mp + 3, doy - (153 * mp + 2) / 5 + 1, by omega, by omega, by omega, by omega⟩,
      (if_pos early).symm, (if_neg (by dsimp only; omega)).symm, rfl, ?_⟩
    unfold Date.dayNumber
    dsimp only
    omega
  · have last : mp = 10 ∨ mp = 11 := by omega
    rcases last with rfl | rfl
    · have months : daysBeforeMonth (year + 1) 1 = 0 := rfl
      have month : monthLength (year + 1) 1 = 31 := rfl
      refine ⟨⟨year + 1, 1, doy - 306 + 1, by omega, by omega, by omega, by omega⟩,
        rfl, rfl, rfl, ?_⟩
      unfold Date.dayNumber
      dsimp only
      rw [months, daysBefore_succ]
      omega
    · have months : daysBeforeMonth (year + 1) 2 = 31 := rfl
      have month : monthLength (year + 1) 2 + 337 = yearLength (year + 1) := by
        unfold monthLength yearLength
        by_cases leap : Leap (year + 1)
        · simp [leap]
        · simp [leap]
      refine ⟨⟨year + 1, 2, doy - 337 + 1, by omega, by omega, by omega, by omega⟩,
        rfl, rfl, rfl, ?_⟩
      unfold Date.dayNumber
      dsimp only
      rw [months, daysBefore_succ]
      omega

end Gregorian
