import Mathlib.Logic.Function.Iterate

/-!
# The proleptic Gregorian calendar

Dates carry the proof that they exist, the day after a date is again a date, and every
date has the number of days that separate it from the epoch, negative before it.  Days
are numbered from years that begin in March: the leap day is then the last of its year,
and the months before it begin on the same days every year.
-/

namespace Calendar

/-- A leap year: divisible by four, and a century only when divisible by four hundred. -/
def Leap (year : Int) : Prop := year % 4 = 0 ∧ (year % 100 = 0 → year % 400 = 0)

instance (year : Int) : Decidable (Leap year) :=
  inferInstanceAs (Decidable (_ ∧ (_ → _)))

/-- The number of days of a month, numbered from one. -/
def monthLength (year : Int) (month : Nat) : Nat :=
  if month = 2 then if Leap year then 29 else 28
  else if month = 4 ∨ month = 6 ∨ month = 9 ∨ month = 11 then 30
  else 31

theorem monthLength_pos (year : Int) (month : Nat) : 1 ≤ monthLength year month := by
  unfold monthLength
  repeat' split
  all_goals decide

/-! ## Years that begin in March -/

/-- The year a month lies in, when years begin in March. -/
def marchYear (year : Int) (month : Nat) : Int :=
  if month ≤ 2 then year - 1 else year

/-- The number of months of its year before a month, when years begin in March. -/
def marchMonth (month : Nat) : Nat :=
  if month ≤ 2 then month + 9 else month - 3

/-- The days from the first of March of year zero to that of another year. -/
def yearStart (year : Int) : Int := 365 * year + year / 4 - year / 100 + year / 400

/-- The days of a year before a month, when years begin in March: every five months have
153 days. -/
def monthStart (month : Nat) : Nat := (153 * month + 2) / 5

/-- The days from the first of March of year zero to the first of a month. -/
def monthNumber (year : Int) (month : Nat) : Int :=
  yearStart (marchYear year month) + monthStart (marchMonth month)

/-- A year that begins in March ends with the leap day of the next one. -/
theorem yearStart_succ (year : Int) :
    yearStart (year + 1) = yearStart year + if Leap (year + 1) then 366 else 365 := by
  by_cases leap : Leap (year + 1)
  case pos =>
      rw [if_pos leap]
      simp only [yearStart, Leap] at *
      omega
  case neg =>
      rw [if_neg leap]
      simp only [yearStart, Leap] at *
      omega

/-- From March on, the months before a month add up to its start. -/
theorem monthStart_succ : ∀ month < 12, 2 < month →
    monthStart (month + 1 - 3) = monthStart (month - 3) +
      if month = 4 ∨ month = 6 ∨ month = 9 ∨ month = 11 then 30 else 31 := by
  decide

/-- The months follow each other without a gap. -/
theorem monthNumber_succ (year : Int) {month : Nat} (positive : 1 ≤ month) (more : month < 12) :
    monthNumber year (month + 1) = monthNumber year month + monthLength year month := by
  by_cases march : 2 < month
  case pos =>
      have starts := monthStart_succ month more march
      have february : month ≠ 2 := by omega
      simp only [monthNumber, marchYear, marchMonth, monthLength, if_neg february,
        if_neg (Nat.not_le.mpr march), if_neg (Nat.not_le.mpr (Nat.lt_succ_of_lt march)), starts]
      omega
  case neg =>
      have leapDay := yearStart_succ (year - 1)
      rw [Int.sub_add_cancel] at leapDay
      obtain rfl | rfl : month = 1 ∨ month = 2 := by omega
      · simp [monthNumber, marchYear, marchMonth, monthLength, monthStart]
        omega
      · simp only [monthNumber, marchYear, marchMonth, monthLength, monthStart]
        split at leapDay
        case isTrue leap => simp [leap, leapDay]; omega
        case isFalse common => simp [common, leapDay]; omega

/-- January follows December. -/
theorem monthNumber_january (year : Int) :
    monthNumber (year + 1) 1 = monthNumber year 12 + monthLength year 12 := by
  simp [monthNumber, marchYear, marchMonth, monthLength, monthStart]
  omega

/-! ## Dates -/

/-- A day of the calendar. -/
@[ext]
structure Date where
  year : Int
  month : Nat
  day : Nat
  month_pos : 1 ≤ month
  month_le : month ≤ 12
  day_pos : 1 ≤ day
  day_le : day ≤ monthLength year month

namespace Date

/-- The first of January 1970. -/
def epoch : Date := ⟨1970, 1, 1, by decide, by decide, by decide, by decide⟩

/-- The first day of a month. -/
def first (year : Int) (month : Nat) (positive : 1 ≤ month) (small : month ≤ 12) : Date :=
  ⟨year, month, 1, positive, small, Nat.le_refl 1, monthLength_pos year month⟩

/-- The day after a date: the next day of its month, or the first of the next month, or
the first of January. -/
def next (date : Date) : Date :=
  if within : date.day < monthLength date.year date.month then
    { date with day := date.day + 1, day_pos := Nat.succ_pos _, day_le := within }
  else if more : date.month < 12 then
    first date.year (date.month + 1) (Nat.succ_pos _) more
  else
    first (date.year + 1) 1 (Nat.le_refl 1) (by decide)

/-- The days from the epoch to a date. -/
def dayNumber (date : Date) : Int :=
  monthNumber date.year date.month + (date.day - 1) - 719468

@[simp]
theorem dayNumber_epoch : epoch.dayNumber = 0 := rfl

/-- **The day after a date has the next number.** -/
@[simp]
theorem dayNumber_next (date : Date) : date.next.dayNumber = date.dayNumber + 1 := by
  have dayLe := date.day_le
  unfold next
  split
  case isTrue =>
      simp only [dayNumber]
      omega
  case isFalse last =>
      have lastDay : date.day = monthLength date.year date.month := by omega
      split
      case isTrue more =>
          simp only [dayNumber, first, monthNumber_succ date.year date.month_pos more, lastDay]
          omega
      case isFalse notMore =>
          have december : date.month = 12 := Nat.le_antisymm date.month_le (by omega)
          simp only [dayNumber, first, monthNumber_january, lastDay, december]
          omega

/-- The days of its year before a date, when years begin in March. -/
def dayOfYear (date : Date) : Nat := monthStart (marchMonth date.month) + (date.day - 1)

theorem dayNumber_eq (date : Date) :
    date.dayNumber + 719468 = yearStart (marchYear date.year date.month) + date.dayOfYear := by
  have dayPos := date.day_pos
  simp only [dayNumber, monthNumber, dayOfYear]
  omega

/-- A date lies before the end of its month. -/
theorem dayOfYear_lt_monthStart (date : Date) :
    date.dayOfYear < monthStart (marchMonth date.month + 1) := by
  have longest : date.day ≤ monthLength 0 date.month := by
    have leap : Leap 0 := by decide
    apply Nat.le_trans date.day_le
    simp only [monthLength, if_pos leap]
    repeat' split
    all_goals decide
  have inYear : ∀ month < 13, 1 ≤ month →
      monthStart (marchMonth month) + monthLength 0 month ≤ monthStart (marchMonth month + 1) := by
    decide
  have within := inYear date.month (Nat.lt_succ_of_le date.month_le) date.month_pos
  have dayPos := date.day_pos
  simp only [dayOfYear]
  omega

/-- A date lies before the end of its year. -/
theorem dayOfYear_lt (date : Date) :
    date.dayOfYear < if Leap (marchYear date.year date.month + 1) then 366 else 365 := by
  have dayLe := date.day_le
  by_cases february : date.month = 2
  case pos =>
      simp only [dayOfYear, marchYear, marchMonth, monthStart, monthLength, february] at dayLe ⊢
      simp only [Nat.le_refl, if_true, Int.sub_add_cancel] at dayLe ⊢
      split at dayLe
      case isTrue leap => rw [if_pos leap]; omega
      case isFalse common => rw [if_neg common]; omega
  case neg =>
      have before : date.dayOfYear < 337 := by
        apply Nat.lt_of_lt_of_le date.dayOfYear_lt_monthStart
        have monthPos := date.month_pos
        have monthLe := date.month_le
        simp only [marchMonth, monthStart]
        split <;> omega
      split <;> omega

/-- The date some days after another one. -/
def after (date : Date) (days : Nat) : Date := next^[days] date

theorem after_succ (date : Date) (days : Nat) :
    date.after (days + 1) = (date.after days).next :=
  Function.iterate_succ_apply' ..

/-- Days are numbered in the order they follow each other. -/
@[simp]
theorem dayNumber_after (date : Date) (days : Nat) :
    (date.after days).dayNumber = date.dayNumber + days := by
  induction days with
  | zero => simp [after]
  | succ days ih =>
      rw [after_succ, dayNumber_next, ih]
      omega

end Date

/-! ## Counting in eras -/

/-- An era of four hundred years has 146097 days. -/
theorem yearStart_era (era yearOfEra : Int) (positive : 0 ≤ yearOfEra) (small : yearOfEra < 400) :
    yearStart (yearOfEra + era * 400) =
      era * 146097 + (365 * yearOfEra + yearOfEra / 4 - yearOfEra / 100) := by
  simp only [yearStart]
  omega

/-- The usual conversion of a date to days since the epoch, which counts eras first. -/
def daysFromCivil (year : Int) (month day : Nat) : Int :=
  let y := if month ≤ 2 then year - 1 else year
  let era := y / 400
  let yoe := y - era * 400
  let mp := if month > 2 then month - 3 else month + 9
  let doy : Nat := (153 * mp + 2) / 5 + day - 1
  let doe := yoe * 365 + yoe / 4 - yoe / 100 + doy
  era * 146097 + doe - 719468

/-- The usual conversion numbers the dates in order, from zero at the epoch. -/
theorem daysFromCivil_eq (date : Date) :
    daysFromCivil date.year date.month date.day = date.dayNumber := by
  have dayPos := date.day_pos
  have months : (if date.month > 2 then date.month - 3 else date.month + 9) =
      marchMonth date.month := by
    simp only [marchMonth]
    split <;> split <;> omega
  simp only [daysFromCivil, months, Date.dayNumber, monthNumber, monthStart, marchYear]
  generalize (if date.month ≤ 2 then date.year - 1 else date.year) = y
  have years := yearStart_era (y / 400) (y - y / 400 * 400) (by omega) (by omega)
  rw [Int.sub_add_cancel] at years
  rw [years]
  omega

/-! ## Weekdays -/

inductive Weekday where
  | saturday
  | sunday
  | monday
  | tuesday
  | wednesday
  | thursday
  | friday
  deriving DecidableEq, Repr

namespace Weekday

/-- The weekday some days after a Saturday. -/
def afterSaturday (days : Int) : Weekday :=
  if days % 7 = 0 then saturday
  else if days % 7 = 1 then sunday
  else if days % 7 = 2 then monday
  else if days % 7 = 3 then tuesday
  else if days % 7 = 4 then wednesday
  else if days % 7 = 5 then thursday
  else friday

/-- Weeks have seven days. -/
theorem afterSaturday_congr {days others : Int} (same : days % 7 = others % 7) :
    afterSaturday days = afterSaturday others := by
  simp only [afterSaturday, same]

end Weekday

namespace Date

variable (date : Date)

/-- The weekday of a date, by Zeller's congruence. -/
def weekday : Weekday :=
  let year := marchYear date.year date.month
  let month := marchMonth date.month + 3
  .afterSaturday (date.day + (13 * (month + 1) / 5 : Nat) + year + year / 4 - year / 100 +
    year / 400)

/-- Zeller's congruence counts the days from the epoch, a Thursday. -/
theorem weekday_eq : date.weekday = .afterSaturday (date.dayNumber + 5) := by
  apply Weekday.afterSaturday_congr
  have fives (month : Nat) : 13 * (month + 3 + 1) / 5 = (13 * month + 2) / 5 + 10 := by omega
  have weeks (month : Nat) : (153 * month + 2) / 5 = 7 * (4 * month) + (13 * month + 2) / 5 := by
    omega
  simp only [dayNumber, monthNumber, monthStart, yearStart, fives, weeks]
  omega

end Date

end Calendar
