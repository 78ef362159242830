import LinSight.Daemon.History
import LinSight.Library.Gregorian
import Mathlib

set_option autoImplicit false

/-! The calendar of the command line: a time stamp in microseconds as a date and a time. -/

namespace LinSight.Cli

open Gregorian (Date)

def u32Bound : ℕ := 4294967296

/-- `as u32`. -/
def asU32 (n : ℤ) : ℕ := (n % u32Bound).toNat

/-! The arithmetic of `u32`; `none` is an overflow. -/

def addU32 (a b : ℕ) : Option ℕ := if a + b < u32Bound then some (a + b) else none

def subU32 (a b : ℕ) : Option ℕ := if b ≤ a then some (a - b) else none

def mulU32 (a b : ℕ) : Option ℕ := if a * b < u32Bound then some (a * b) else none

/-- The date of a count of days since 1970-01-01. -/
def daysToYmd (z : ℕ) : Option (ℕ × ℕ × ℕ) := do
  let z ← addU32 z 719468
  let era := z / 146097
  let doe ← subU32 z (← mulU32 era 146097)
  let yoe := (← subU32 (← addU32 (← subU32 doe (doe / 1460)) (doe / 36524)) (doe / 146096)) / 365
  let y ← addU32 yoe (← mulU32 era 400)
  let doy ← subU32 doe (← subU32 (← addU32 (← mulU32 365 yoe) (yoe / 4)) (yoe / 100))
  let mp := (← addU32 (← mulU32 5 doy) 2) / 153
  let d ← addU32 (← subU32 doy ((← addU32 (← mulU32 153 mp) 2) / 5)) 1
  let m ← if mp < 10 then addU32 mp 3 else subU32 mp 9
  let y ← if m ≤ 2 then addU32 y 1 else some y
  return (y, m, d)

/-- A number with zeros in front, as the format `{:0width}` has it. -/
def zeroPadded (width : ℕ) (n : ℤ) : String :=
  let sign := if n < 0 then "-" else ""
  let digits := Nat.repr n.natAbs
  sign ++ String.ofList (digits.toList.leftpad (width - sign.length) '0')

def microsToUtc (micros : ℕ) : Option String := do
  let secs := asI64 (micros / 1000000)
  let millis := asU32 (micros % 1000000 / 1000 : ℕ)
  let totalSecs := secs
  let s := totalSecs.tmod 60
  let totalMins := totalSecs.tdiv 60
  let m := totalMins.tmod 60
  let totalHours := totalMins.tdiv 60
  let h := totalHours.tmod 24
  let daysSinceEpoch := totalHours.tdiv 24
  let (year, month, day) ← daysToYmd (asU32 daysSinceEpoch)
  return zeroPadded 4 year ++ "-" ++ zeroPadded 2 month ++ "-" ++ zeroPadded 2 day ++ "T" ++
    zeroPadded 2 h ++ ":" ++ zeroPadded 2 m ++ ":" ++ zeroPadded 2 s ++ "." ++
    zeroPadded 3 millis ++ "Z"

theorem addU32_eq {a b c : ℕ} (value : a + b = c) (fits : c < u32Bound) :
    addU32 a b = some c := by
  rw [addU32, value, if_pos fits]

theorem subU32_eq {a b c : ℕ} (value : b + c = a) : subU32 a b = some c := by
  rw [subU32, if_pos (by omega)]
  exact congrArg some (by omega)

theorem mulU32_eq {a b c : ℕ} (value : a * b = c) (fits : c < u32Bound) :
    mulU32 a b = some c := by
  rw [mulU32, value, if_pos fits]

theorem ite_bind {α β : Type} {guard : Prop} [Decidable guard] (first second : Option α)
    (f : α → Option β) : (if guard then first.bind f else second.bind f) =
      (if guard then first else second).bind f :=
  (apply_ite (Option.bind · f) guard first second).symm

/-- Where a day stands in the 400 years that end with the February of a leap year: the centuries,
the spans of four years and the years before it, and its number in its year. -/
structure CycleDay (doe century span year doy : ℕ) : Prop where
  doe_eq : doe = 36524 * century + 1461 * span + 365 * year + doy
  century_le : century ≤ 3
  span_le : span ≤ 24
  year_le : year ≤ 3
  doy_le : doy ≤ 365
  /-- Only the last year of a span has 366 days, and the last year of a century only in the last
  century. -/
  leap : doy = 365 → year = 3 ∧ (span = 24 → century = 3)

theorem CycleDay.of_doe {doe : ℕ} (bound : doe < 146097) :
    ∃ century span year doy, CycleDay doe century span year doy := by
  let century := min (doe / 36524) 3
  let span := (doe - 36524 * century) / 1461
  let year := min ((doe - 36524 * century - 1461 * span) / 365) 3
  have centuries : 36524 * century ≤ doe ∧ doe - 36524 * century ≤ 36524 ∧ century ≤ 3 ∧
      (doe - 36524 * century = 36524 → century = 3) := by omega
  obtain ⟨below, rest, century_le, last⟩ := centuries
  have years : 365 * year ≤ doe - 36524 * century - 1461 * span ∧ year ≤ 3 ∧
      doe - 36524 * century - 1461 * span - 365 * year ≤ 365 ∧
      (doe - 36524 * century - 1461 * span - 365 * year = 365 → year = 3) := by omega
  obtain ⟨inside, year_le, doy_le, full⟩ := years
  refine ⟨century, span, year, doe - 36524 * century - 1461 * span - 365 * year,
    by omega, century_le, by omega, year_le, doy_le, fun whole => ⟨full whole, fun _ => ?_⟩⟩
  have third := full whole
  exact last (by omega)

section CycleDay

variable {doe century span year doy : ℕ}

/-- The chain of divisions finds the year. -/
theorem CycleDay.yoe_eq (here : CycleDay doe century span year doy) :
    (doe - doe / 1460 + doe / 36524 - doe / 146096) / 365 = 100 * century + 4 * span + year := by
  obtain ⟨rfl, century_le, span_le, year_le, doy_le, leap⟩ := here
  by_cases last : doy = 365 ∧ span = 24
  · obtain ⟨rfl, rfl⟩ := last
    obtain ⟨rfl, third⟩ := leap rfl
    obtain rfl := third rfl
    rfl
  · have inside : 1461 * span + 365 * year + doy < 36524 := by omega
    have centuries : (36524 * century + 1461 * span + 365 * year + doy) / 36524 = century := by
      omega
    have cycles : (36524 * century + 1461 * span + 365 * year + doy) / 146096 = 0 := by omega
    -- one more than the spans that have ended, late in the last year of a span
    obtain ⟨carry, carry_eq⟩ : ∃ carry, carry = (24 * century + span + 365 * year + doy) / 1460 :=
      ⟨_, rfl⟩
    have spans : (36524 * century + 1461 * span + 365 * year + doy) / 1460 =
        25 * century + span + carry := by omega
    have late : carry ≤ 1 ∧ (carry = 1 → year = 3 ∧ 1 ≤ doy) ∧ (doy = 365 → carry = 1) := by
      omega
    rw [centuries, cycles, spans]
    omega

/-- The year of the cycle has the day. -/
theorem CycleDay.doy_lt (here : CycleDay doe century span year doy) (era : ℕ) :
    doy < Gregorian.yearLength (100 * century + 4 * span + year + era * 400 + 1) := by
  obtain ⟨_, century_le, span_le, year_le, doy_le, leap⟩ := here
  by_cases whole : doy = 365
  · obtain ⟨rfl, last⟩ := leap whole
    have long : Gregorian.Leap (100 * century + 4 * span + 3 + era * 400 + 1) := by
      unfold Gregorian.Leap
      omega
    rw [Gregorian.yearLength, if_pos long, whole]
    decide
  · unfold Gregorian.yearLength
    split_ifs <;> omega

/-- The arithmetic of `daysToYmd` does not overflow. -/
theorem CycleDay.daysToYmd_eq (here : CycleDay doe century span year doy) {z era : ℕ}
    (shifted : z + 719468 = 146097 * era + doe) (bound : z + 719468 < u32Bound)
    (inside : doe < 146097) {y m d : ℕ}
    (month : m = if (5 * doy + 2) / 153 < 10 then (5 * doy + 2) / 153 + 3
      else (5 * doy + 2) / 153 - 9)
    (civil : y = if m ≤ 2 then 100 * century + 4 * span + year + era * 400 + 1
      else 100 * century + 4 * span + year + era * 400)
    (day : d = doy - (153 * ((5 * doy + 2) / 153) + 2) / 5 + 1) :
    daysToYmd z = some (y, m, d) := by
  have small : u32Bound = 4294967296 := rfl
  have year_eq := here.yoe_eq
  have eras : (z + 719468) / 146097 = era := by omega
  have cycles : mulU32 era 146097 = some (era * 146097) := mulU32_eq rfl (by omega)
  have rest : subU32 (z + 719468) (era * 146097) = some doe := subU32_eq (by omega)
  have spans : subU32 doe (doe / 1460) = some (doe - doe / 1460) := subU32_eq (by omega)
  have centuries : addU32 (doe - doe / 1460) (doe / 36524) =
      some (doe - doe / 1460 + doe / 36524) := addU32_eq rfl (by omega)
  have whole : subU32 (doe - doe / 1460 + doe / 36524) (doe / 146096) =
      some (doe - doe / 1460 + doe / 36524 - doe / 146096) := subU32_eq (by omega)
  obtain ⟨doe_eq, century_le, span_le, year_le, doy_le, leap⟩ := here
  obtain ⟨yoe, yoe_eq⟩ : ∃ yoe, yoe = 100 * century + 4 * span + year := ⟨_, rfl⟩
  rw [← yoe_eq] at year_eq civil
  have starts : 365 * yoe + yoe / 4 - yoe / 100 + doy = doe ∧ yoe ≤ 399 := by
    have fourths : yoe / 4 = 25 * century + span := by omega
    have hundreds : yoe / 100 = century := by omega
    rw [fourths, hundreds]
    omega
  have years : mulU32 era 400 = some (era * 400) := mulU32_eq rfl (by omega)
  have march : addU32 yoe (era * 400) = some (yoe + era * 400) := addU32_eq rfl (by omega)
  have days : mulU32 365 yoe = some (365 * yoe) := mulU32_eq rfl (by omega)
  have leaps : addU32 (365 * yoe) (yoe / 4) = some (365 * yoe + yoe / 4) :=
    addU32_eq rfl (by omega)
  have start : subU32 (365 * yoe + yoe / 4) (yoe / 100) =
      some (365 * yoe + yoe / 4 - yoe / 100) := subU32_eq (by omega)
  have number : subU32 doe (365 * yoe + yoe / 4 - yoe / 100) = some doy := subU32_eq starts.1
  have fives : mulU32 5 doy = some (5 * doy) := mulU32_eq rfl (by omega)
  have two : addU32 (5 * doy) 2 = some (5 * doy + 2) := addU32_eq rfl (by omega)
  obtain ⟨mp, mp_eq⟩ : ∃ mp, mp = (5 * doy + 2) / 153 := ⟨_, rfl⟩
  rw [← mp_eq] at month day
  have months : mulU32 153 mp = some (153 * mp) := mulU32_eq rfl (by omega)
  have more : addU32 (153 * mp) 2 = some (153 * mp + 2) := addU32_eq rfl (by omega)
  have left : subU32 doy ((153 * mp + 2) / 5) = some (doy - (153 * mp + 2) / 5) :=
    subU32_eq (by omega)
  have first : addU32 (doy - (153 * mp + 2) / 5) 1 = some d := by
    rw [day]
    exact addU32_eq rfl (by omega)
  have monthFits : (if mp < 10 then addU32 mp 3 else subU32 mp 9) = some m := by
    rw [month]
    split_ifs
    · exact addU32_eq rfl (by omega)
    · exact subU32_eq (by omega)
  have yearFits : (if m ≤ 2 then addU32 (yoe + era * 400) 1 else some (yoe + era * 400)) =
      some y := by
    rw [civil]
    split_ifs
    · exact addU32_eq rfl (by omega)
    · rfl
  unfold daysToYmd
  rw [addU32_eq rfl bound, Option.bind_eq_bind, Option.bind_some]
  dsimp only
  rw [eras, cycles, Option.bind_some, rest, Option.bind_some, spans, Option.bind_some, centuries,
    Option.bind_some, whole, Option.bind_some, year_eq, years, Option.bind_some, march,
    Option.bind_some, days, Option.bind_some, leaps, Option.bind_some, start, Option.bind_some,
    number, Option.bind_some, fives, Option.bind_some, two, Option.bind_some, ← mp_eq, months,
    Option.bind_some, more, Option.bind_some, left, Option.bind_some, first, Option.bind_some]
  rw [ite_bind, monthFits, Option.bind_some, ite_bind, yearFits]
  rfl

end CycleDay

/-- The year, month and day of a date. -/
def ymd (date : Date) : ℕ × ℕ × ℕ := (date.year, date.month, date.day)

theorem ymd_injective : Function.Injective ymd := by
  intro date other same
  simp only [ymd, Prod.mk.injEq] at same
  exact Date.ext same.1 same.2.1 same.2.2

/-- The date of every count of days for which the shift of the epoch does not overflow. -/
theorem daysToYmd_dayCount {z : ℕ} (bound : z + 719468 < u32Bound) :
    ∃ date : Date, daysToYmd z = some (ymd date) ∧ date.dayCount = z := by
  have inside : (z + 719468) % 146097 < 146097 := Nat.mod_lt _ (by decide)
  have shifted : z + 719468 = 146097 * ((z + 719468) / 146097) + (z + 719468) % 146097 :=
    (Nat.div_add_mod _ _).symm
  generalize (z + 719468) / 146097 = era at shifted
  generalize (z + 719468) % 146097 = doe at inside shifted
  obtain ⟨century, span, year, doy, here⟩ := CycleDay.of_doe inside
  obtain ⟨date, month, civil, day, number⟩ :=
    Gregorian.exists_date_of_march (100 * century + 4 * span + year + era * 400) doy
      (here.doy_lt era)
  refine ⟨date, here.daysToYmd_eq shifted bound inside month civil day, ?_⟩
  obtain ⟨doe_eq, century_le, span_le, year_le, _, _⟩ := here
  have fourths : (100 * century + 4 * span + year + era * 400) / 4 =
      25 * century + span + 100 * era := by omega
  have hundreds : (100 * century + 4 * span + year + era * 400) / 100 = century + 4 * era := by
    omega
  have cycles : (100 * century + 4 * span + year + era * 400) / 400 = era := by omega
  rw [fourths, hundreds, cycles] at number
  rw [Date.dayCount, Gregorian.epoch_dayNumber]
  omega

/-- The usual count of days leads back to the date. -/
theorem daysToYmd_of_date {date : Date} {z : ℕ} (counted : date.dayCount = z)
    (bound : z + 719468 < u32Bound) : daysToYmd z = some (ymd date) := by
  obtain ⟨other, found, count⟩ := daysToYmd_dayCount bound
  rw [found, Date.dayCount_injective (count.trans counted.symm)]

theorem daysToYmd_succ {date : Date} {z : ℕ} (found : daysToYmd z = some (ymd date))
    (bound : z + 1 + 719468 < u32Bound) : daysToYmd (z + 1) = some (ymd date.next) := by
  obtain ⟨other, found', count⟩ := daysToYmd_dayCount (by omega : z + 719468 < u32Bound)
  have same : other = date := ymd_injective (Option.some.inj (found'.symm.trans found))
  refine daysToYmd_of_date ?_ bound
  rw [Date.dayCount_next, ← same, count]
  rfl

/-- A date and a time of the day. -/
structure Utc where
  date : Date
  hour : ℕ
  minute : ℕ
  second : ℕ
  millis : ℕ
  hour_lt : hour < 24
  minute_lt : minute < 60
  second_lt : second < 60
  millis_lt : millis < 1000

/-- The milliseconds since the epoch. -/
def Utc.instant (utc : Utc) : ℤ :=
  (((utc.date.dayCount * 24 + utc.hour) * 60 + utc.minute) * 60 + utc.second) * 1000 + utc.millis

def Utc.text (utc : Utc) : String :=
  zeroPadded 4 utc.date.year ++ "-" ++ zeroPadded 2 utc.date.month ++ "-" ++
    zeroPadded 2 utc.date.day ++ "T" ++ zeroPadded 2 utc.hour ++ ":" ++ zeroPadded 2 utc.minute ++
    ":" ++ zeroPadded 2 utc.second ++ "." ++ zeroPadded 3 utc.millis ++ "Z"

theorem asI64_secs {micros : ℕ} (bound : micros < u64Bound) :
    asI64 (micros / 1000000) = (micros / 1000000 : ℕ) := by
  unfold u64Bound at bound
  unfold asI64 i64Bound
  exact if_pos (by omega)

theorem asU32_eq {n : ℕ} (fits : n < u32Bound) : asU32 n = n := by
  unfold asU32 u32Bound at *
  omega

/-- The date and the time of an instant, to the millisecond. -/
theorem microsToUtc_eq {micros : ℕ} (bound : micros < u64Bound) :
    ∃ utc : Utc, microsToUtc micros = some utc.text ∧ utc.instant = (micros / 1000 : ℕ) := by
  have days : micros / 1000000 / 60 / 60 / 24 + 719468 < u32Bound := by
    unfold u64Bound at bound
    unfold u32Bound
    omega
  obtain ⟨date, found, count⟩ := daysToYmd_dayCount days
  refine ⟨⟨date, micros / 1000000 / 60 / 60 % 24, micros / 1000000 / 60 % 60,
    micros / 1000000 % 60, micros % 1000000 / 1000, by omega, by omega, by omega, by omega⟩,
    ?_, ?_⟩
  · have millis : micros % 1000000 / 1000 < u32Bound := by
      unfold u32Bound
      omega
    unfold microsToUtc
    rw [asI64_secs bound, asU32_eq millis]
    have daysSinceEpoch : asU32 ((((micros / 1000000 : ℕ) : ℤ).tdiv 60).tdiv 60 |>.tdiv 24) =
        micros / 1000000 / 60 / 60 / 24 := asU32_eq (lt_of_le_of_lt (Nat.le_add_right _ _) days)
    dsimp only
    rw [daysSinceEpoch, found]
    rfl
  · unfold Utc.instant
    dsimp only
    rw [count]
    omega

theorem daysToYmd_iff {date : Date} {z : ℕ} (bound : z + 719468 < u32Bound) :
    daysToYmd z = some (ymd date) ↔ date.dayCount = z := by
  constructor
  · intro found
    obtain ⟨other, found', count⟩ := daysToYmd_dayCount bound
    rwa [ymd_injective (Option.some.inj (found.symm.trans found'))]
  · exact fun counted => daysToYmd_of_date counted bound

/-- The conversion is exact: no cast truncates and nothing overflows, the text is that of the date
and the time of the instant, and the dates follow the usual count of days. -/
theorem calendar_exact {micros : ℕ} (bound : micros < u64Bound) :
    (asI64 (micros / 1000000) = (micros / 1000000 : ℕ) ∧
      asU32 (micros % 1000000 / 1000 : ℕ) = micros % 1000000 / 1000 ∧
      asU32 (micros / 86400000000 : ℕ) = micros / 86400000000) ∧
    (∃ utc : Utc, microsToUtc micros = some utc.text ∧ utc.instant = (micros / 1000 : ℕ)) ∧
    micros / 86400000000 + 1 + 719468 < u32Bound ∧
    ∀ z : ℕ, z + 719468 < u32Bound →
      (∃ date : Date, daysToYmd z = some (ymd date)) ∧
      (∀ date : Date, daysToYmd z = some (ymd date) ↔ date.dayCount = z) ∧
      (z + 1 + 719468 < u32Bound → ∀ date : Date, daysToYmd z = some (ymd date) →
        daysToYmd (z + 1) = some (ymd date.next)) := by
  have days : micros / 86400000000 + 1 + 719468 < u32Bound := by
    unfold u64Bound at bound
    unfold u32Bound
    omega
  refine ⟨⟨asI64_secs bound, asU32_eq ?_, asU32_eq (by omega)⟩, microsToUtc_eq bound, days, ?_⟩
  · unfold u32Bound
    omega
  · intro z room
    obtain ⟨date, found, _⟩ := daysToYmd_dayCount room
    exact ⟨⟨date, found⟩, fun _ => daysToYmd_iff room,
      fun more _ here => daysToYmd_succ here more⟩

/-- The first milliseconds of 2024. -/
theorem calendar_exact_2024 : ∃ utc : Utc,
    microsToUtc 1704067200005000 = some utc.text ∧ utc.instant = 1704067200005 ∧
      utc.text = "2024-01-01T00:00:00.005Z" := by
  obtain ⟨utc, text, instant⟩ := (calendar_exact (by decide : 1704067200005000 < u64Bound)).2.1
  refine ⟨utc, text, instant, Option.some.inj (text.symm.trans ?_)⟩
  decide +kernel

end LinSight.Cli
