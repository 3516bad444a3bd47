import Mathlib.Data.Int.Notation

/-!
# The proleptic Gregorian calendar

Dates are built with their validity.  Days are numbered from 1970-01-01 on, by the
lengths of the years and the months; the day after a date has the next number, and
that together with the number of the first day fixes the numbering.
-/

namespace Calendar

/-- Every fourth year, of the full centuries only every fourth. -/
def IsLeap (year : Int) : Prop :=
  year % 4 = 0 ∧ (year % 100 ≠ 0 ∨ year % 400 = 0)

instance (year : Int) : Decidable (IsLeap year) :=
  inferInstanceAs (Decidable (_ ∧ _))

def yearLength (year : Int) : Nat :=
  if IsLeap year then 366 else 365

def monthLength (year : Int) (month : Nat) : Nat :=
  if month = 2 then if IsLeap year then 29 else 28
  else if month = 4 ∨ month = 6 ∨ month = 9 ∨ month = 11 then 30
  else 31

structure Date where
  year : Int
  month : Nat
  day : Nat
  month_pos : 1 ≤ month
  month_le : month ≤ 12
  day_pos : 1 ≤ day
  day_le : day ≤ monthLength year month
  deriving DecidableEq

/-- Days from the first day of the year 1 to the first day of the year. -/
def daysBeforeYear (year : Int) : Int :=
  365 * (year - 1) + (year - 1) / 4 - (year - 1) / 100 + (year - 1) / 400

/-- Days of the months of the year before this one. -/
def daysBeforeMonth (year : Int) : Nat → Nat
  | 0 | 1 => 0
  | month + 2 => daysBeforeMonth year (month + 1) + monthLength year (month + 1)

/-! ## Lengths -/

theorem one_le_monthLength (year : Int) (month : Nat) : 1 ≤ monthLength year month := by
  rw [monthLength]
  split
  · split <;> decide
  · split <;> decide

theorem daysBeforeYear_succ (year : Int) :
    daysBeforeYear (year + 1) = daysBeforeYear year + yearLength year := by
  rw [daysBeforeYear, daysBeforeYear, yearLength]
  split
  · next leap =>
      rw [IsLeap] at leap
      omega
  · next common =>
      rw [IsLeap] at common
      omega

theorem daysBeforeYear_mono {first second : Int} (le : first ≤ second) :
    daysBeforeYear first ≤ daysBeforeYear second := by
  rw [daysBeforeYear, daysBeforeYear]
  omega

/-- The months fill the year. -/
theorem daysBeforeMonth_thirteen (year : Int) : daysBeforeMonth year 13 = yearLength year := by
  by_cases leap : IsLeap year
  · simp [daysBeforeMonth, monthLength, yearLength, leap]
  · simp [daysBeforeMonth, monthLength, yearLength, leap]

theorem daysBeforeMonth_succ (year : Int) {month : Nat} (positive : 1 ≤ month) :
    daysBeforeMonth year (month + 1) = daysBeforeMonth year month + monthLength year month := by
  cases month with
  | zero => exact absurd positive (Nat.not_succ_le_zero 0)
  | succ month => rfl

theorem daysBeforeMonth_mono (year : Int) {first second : Nat} (le : first ≤ second) :
    daysBeforeMonth year first ≤ daysBeforeMonth year second := by
  induction le with
  | refl => exact Nat.le_refl _
  | @step month _ ih =>
      cases month with
      | zero => exact ih
      | succ month => exact Nat.le_trans ih (Nat.le_add_right _ _)

/-! ## Day numbers -/

namespace Date

/-- Days since 1970-01-01, negative before. -/
def dayNumber (date : Date) : Int :=
  daysBeforeYear date.year - daysBeforeYear 1970 + daysBeforeMonth date.year date.month +
    (date.day - 1)

/-- The day after. -/
def next (date : Date) : Date :=
  if last : date.day < monthLength date.year date.month then
    { date with day := date.day + 1, day_pos := Nat.succ_pos _, day_le := last }
  else if december : date.month < 12 then
    { year := date.year
      month := date.month + 1
      day := 1
      month_pos := Nat.succ_pos _
      month_le := december
      day_pos := Nat.le_refl 1
      day_le := one_le_monthLength _ _ }
  else
    { year := date.year + 1
      month := 1
      day := 1
      month_pos := Nat.le_refl 1
      month_le := by decide
      day_pos := Nat.le_refl 1
      day_le := one_le_monthLength _ _ }

/-- 1970-01-01. -/
def epoch : Date where
  year := 1970
  month := 1
  day := 1
  month_pos := Nat.le_refl 1
  month_le := by decide
  day_pos := Nat.le_refl 1
  day_le := one_le_monthLength _ _

theorem dayNumber_epoch : epoch.dayNumber = 0 := by
  decide

theorem dayNumber_next (date : Date) : date.next.dayNumber = date.dayNumber + 1 := by
  have inMonth := date.day_le
  have month := daysBeforeMonth_succ date.year date.month_pos
  rw [next]
  split
  · simp only [dayNumber]
    omega
  · next lastDay =>
      split
      · simp only [dayNumber]
        omega
      · next lastMonth =>
          have december : date.month = 12 := Nat.le_antisymm date.month_le (Nat.not_lt.mp lastMonth)
          have year := daysBeforeYear_succ date.year
          have january : daysBeforeMonth (date.year + 1) 1 = 0 := rfl
          rw [december] at month inMonth lastDay
          rw [daysBeforeMonth_thirteen] at month
          simp only [dayNumber, december, january]
          omega

/-- The date some days after 1970-01-01. -/
def afterEpoch : Nat → Date
  | 0 => epoch
  | days + 1 => (afterEpoch days).next

@[simp]
theorem dayNumber_afterEpoch (days : Nat) : (afterEpoch days).dayNumber = days := by
  induction days with
  | zero => exact dayNumber_epoch
  | succ days ih =>
      rw [afterEpoch, dayNumber_next, ih]
      exact Int.natCast_succ days

/-! ## Years -/

/-- A date lies within its year. -/
theorem dayNumber_bounds (date : Date) :
    daysBeforeYear date.year - daysBeforeYear 1970 ≤ date.dayNumber ∧
      date.dayNumber < daysBeforeYear (date.year + 1) - daysBeforeYear 1970 := by
  have dayPos := date.day_pos
  have dayLe := date.day_le
  have month := daysBeforeMonth_succ date.year date.month_pos
  have months := daysBeforeMonth_mono date.year (Nat.succ_le_succ date.month_le)
  rw [daysBeforeMonth_thirteen, Nat.succ_eq_add_one, month] at months
  rw [daysBeforeYear_succ, dayNumber]
  omega

theorem year_le_of_dayNumber_lt {date : Date} {year : Int}
    (before : date.dayNumber < daysBeforeYear (year + 1) - daysBeforeYear 1970) :
    date.year ≤ year := by
  refine Int.not_lt.mp fun later => ?_
  have mono := daysBeforeYear_mono (show year + 1 ≤ date.year by omega)
  have bounds := date.dayNumber_bounds
  omega

theorem le_year_of_le_dayNumber {date : Date} {year : Int}
    (after : daysBeforeYear year - daysBeforeYear 1970 ≤ date.dayNumber) : year ≤ date.year := by
  refine Int.not_lt.mp fun earlier => ?_
  have mono := daysBeforeYear_mono (show date.year + 1 ≤ year by omega)
  have bounds := date.dayNumber_bounds
  omega

/-- A date is found from its number. -/
theorem dayNumber_injective {first second : Date} (same : first.dayNumber = second.dayNumber) :
    first = second := by
  have firstBounds := first.dayNumber_bounds
  have secondBounds := second.dayNumber_bounds
  have sameYear : first.year = second.year :=
    Int.le_antisymm (year_le_of_dayNumber_lt (by omega)) (year_le_of_dayNumber_lt (by omega))
  have notLater : ∀ earlier later : Date, earlier.year = later.year →
      earlier.dayNumber = later.dayNumber → ¬ earlier.month < later.month := by
    intro earlier later sameYear same before
    have month := daysBeforeMonth_succ earlier.year earlier.month_pos
    have months := daysBeforeMonth_mono earlier.year (Nat.succ_le_of_lt before)
    have inMonth := earlier.day_le
    have dayPos := later.day_pos
    rw [Nat.succ_eq_add_one, month] at months
    rw [dayNumber, dayNumber, ← sameYear] at same
    omega
  have sameMonth : first.month = second.month :=
    Nat.le_antisymm (Nat.not_lt.mp (notLater second first sameYear.symm same.symm))
      (Nat.not_lt.mp (notLater first second sameYear same))
  have sameDay : first.day = second.day := by
    rw [dayNumber, dayNumber, sameYear, sameMonth] at same
    omega
  cases first
  cases second
  cases sameYear
  cases sameMonth
  cases sameDay
  rfl

end Date

/-! ## Times of day -/

structure DateTime where
  date : Date
  hour : Nat
  minute : Nat
  second : Nat
  hour_lt : hour < 24
  minute_lt : minute < 60
  second_lt : second < 60
  deriving DecidableEq

namespace DateTime

/-- Seconds since the start of 1970-01-01. -/
def instant (dateTime : DateTime) : Int :=
  dateTime.date.dayNumber * 86400 + dateTime.hour * 3600 + dateTime.minute * 60 + dateTime.second

theorem instant_injective {first second : DateTime} (same : first.instant = second.instant) :
    first = second := by
  cases first with
  | mk firstDate firstHour firstMinute firstSecond firstHour_lt firstMinute_lt firstSecond_lt =>
      cases second with
      | mk laterDate laterHour laterMinute laterSecond laterHour_lt laterMinute_lt laterSecond_lt =>
          simp only [instant] at same
          have sameDate : firstDate = laterDate := Date.dayNumber_injective (by omega)
          have sameHour : firstHour = laterHour := by omega
          have sameMinute : firstMinute = laterMinute := by omega
          have sameSecond : firstSecond = laterSecond := by omega
          cases sameDate
          cases sameHour
          cases sameMinute
          cases sameSecond
          rfl

/-- The date and time some seconds after the start of 1970-01-01. -/
def afterEpoch (seconds : Nat) : DateTime where
  date := .afterEpoch (seconds / 86400)
  hour := seconds % 86400 / 3600
  minute := seconds % 3600 / 60
  second := seconds % 60
  hour_lt := by omega
  minute_lt := by omega
  second_lt := by omega

@[simp]
theorem instant_afterEpoch (seconds : Nat) : (afterEpoch seconds).instant = seconds := by
  simp only [instant, afterEpoch, Date.dayNumber_afterEpoch]
  omega

end DateTime

end Calendar
