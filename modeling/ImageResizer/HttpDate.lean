import Mathlib
import ImageResizer.Foundation.Calendar
import ImageResizer.Foundation.Outcome

/-!
# HTTP dates

The formatting of a point in time for the `Last-Modified` header.  Arithmetic on machine
integers is modelled on the integers, with a panic where a result does not fit its type,
so a computation that returns never wraps either.
-/

namespace ImageResizer.HttpDate

/-- The result of an operation whose type has the values from `low` to before `high`. -/
def checked (low high result : Int) : Outcome Empty Int := do
  Outcome.assert (low ≤ result ∧ result < high)
  return result

def i64 : Int → Outcome Empty Int := checked (-2 ^ 63) (2 ^ 63)

def u64 : Int → Outcome Empty Int := checked 0 (2 ^ 64)

def u32 : Int → Outcome Empty Int := checked 0 (2 ^ 32)

/-- The casts, which keep the value modulo the size of their type. -/
def asI64 (value : Int) : Int := value.bmod (2 ^ 64)

def asU64 (value : Int) : Int := value % 2 ^ 64

def asU32 (value : Int) : Nat := (value % 2 ^ 32).toNat

/-- The date, as year, month and day, some days after the epoch. -/
def civilFromDays (z : Int) : Outcome Empty (Int × Nat × Nat) := do
  let z ← i64 (z + 719468)
  let era := (← (if z ≥ 0 then pure z else i64 (z - 146096) : Outcome Empty Int)).tdiv 146097
  let doe := asU64 (← i64 (z - (← i64 (era * 146097))))
  let yoe := (← u64 ((← u64 ((← u64 (doe - doe / 1460)) + doe / 36524)) - doe / 146096)) / 365
  let y ← i64 (asI64 yoe + (← i64 (era * 400)))
  let doy ← u64 (doe - (← u64 ((← u64 ((← u64 (365 * yoe)) + yoe / 4)) - yoe / 100)))
  let mp := (← u64 ((← u64 (5 * doy)) + 2)) / 153
  let d := asU32 (← u64 ((← u64 (doy - (← u64 ((← u64 (153 * mp)) + 2)) / 5)) + 1))
  let m := asU32 (← (if mp < 10 then u64 (mp + 3) else u64 (mp - 9) : Outcome Empty Int))
  let y ← (if m ≤ 2 then i64 (y + 1) else pure y : Outcome Empty Int)
  return (y, m, d)

def weekdays : List String := ["Thu", "Fri", "Sat", "Sun", "Mon", "Tue", "Wed"]

def months : List String :=
  ["Jan", "Feb", "Mar", "Apr", "May", "Jun", "Jul", "Aug", "Sep", "Oct", "Nov", "Dec"]

/-- An entry of a table; beyond its end, a panic. -/
def entry (table : List String) (index : Nat) : Outcome Empty String :=
  match table[index]? with
  | some text => .ok text
  | none => Outcome.panic

/-- A number with zeros before its digits, after its sign, up to a width. -/
def padded (width : Nat) (value : Int) : String :=
  let sign := if value < 0 then "-" else ""
  let digits := Nat.repr value.natAbs
  sign ++ String.ofList (List.replicate (width - (sign.length + digits.length)) '0') ++ digits

/-- A length of time: whole seconds and a fraction of the next one. -/
structure Duration where
  secs : UInt64
  nanos : Fin 1000000000

def Duration.zero : Duration := ⟨0, 0⟩

/-- The whole seconds of a point in time, given by how far it lies after the epoch or, as
an error, before it: none before. -/
def secondsSince (sinceEpoch : Except Duration Duration) : Int :=
  (sinceEpoch.toOption.getD .zero).secs.toNat

def formatHttpDate (sinceEpoch : Except Duration Duration) : Outcome Empty String := do
  let secs := secondsSince sinceEpoch
  let days := asI64 (secs / 86400)
  let timeOfDay := secs % 86400
  let hour := timeOfDay / 3600
  let minute := timeOfDay % 3600 / 60
  let second := timeOfDay % 60
  let weekday ← entry weekdays (days % 7).toNat
  let (year, month, day) ← civilFromDays days
  let month ← entry months (← u32 (month - 1)).toNat
  return weekday ++ ", " ++ padded 2 day ++ " " ++ month ++ " " ++ padded 4 year ++ " " ++
    padded 2 hour ++ ":" ++ padded 2 minute ++ ":" ++ padded 2 second ++ " GMT"

example : civilFromDays 11016 = .ok (2000, 2, 29) := by rfl

/-! ## The arithmetic fits -/

theorem bind_i64 {α : Type} {result : Int} (low : -2 ^ 63 ≤ result) (high : result < 2 ^ 63)
    (next : Int → Outcome Empty α) : (i64 result >>= next) = next result := by
  rw [i64, checked, Outcome.assert_ok ⟨low, high⟩]
  rfl

theorem bind_u32 {α : Type} {result : Int} (low : 0 ≤ result) (high : result < 2 ^ 32)
    (next : Int → Outcome Empty α) : (u32 result >>= next) = next result := by
  rw [u32, checked, Outcome.assert_ok ⟨low, high⟩]
  rfl

theorem bind_u64 {α : Type} {result : Int} (low : 0 ≤ result) (high : result < 2 ^ 64)
    (next : Int → Outcome Empty α) : (u64 result >>= next) = next result := by
  rw [u64, checked, Outcome.assert_ok ⟨low, high⟩]
  rfl

/-- Truncating division finds the era of a negative day, too. -/
theorem tdiv_era (z : Int) : (if z ≥ 0 then z else z - 146096).tdiv 146097 = z / 146097 := by
  split
  case isTrue positive => rw [Int.tdiv_eq_ediv_of_nonneg positive]
  case isFalse negative =>
      have flipped : z - 146096 = -(146096 - z) := by omega
      rw [flipped, Int.neg_tdiv, Int.tdiv_eq_ediv_of_nonneg (by omega)]
      omega

/-- The year of an era on a day of it: the days that leap years add are taken out before
the division. -/
theorem yearOfEra_eq {year : Int} {day : Nat} (yearPos : 0 ≤ year) (yearSmall : year < 400)
    (dayFits : day < if Calendar.Leap (year + 1) then 366 else 365)
    {doe : Int} (dayOfEra : doe = 365 * year + year / 4 - year / 100 + day) :
    (doe - doe / 1460 + doe / 36524 - doe / 146096) / 365 = year := by
  obtain ⟨century, four, one, yearIs, bounds⟩ : ∃ century four one : Int,
      year = 100 * century + 4 * four + one ∧ (0 ≤ century ∧ century ≤ 3) ∧
        (0 ≤ four ∧ four ≤ 24) ∧ 0 ≤ one ∧ one ≤ 3 :=
    ⟨year / 100, year % 100 / 4, year % 4, by omega, by omega, by omega, by omega⟩
  have days : doe = 36524 * century + 1461 * four + 365 * one + day := by omega
  have leapDay : day ≤ 364 ∨ day = 365 ∧ one = 3 ∧ (four = 24 → century = 3) := by
    split at dayFits
    case isTrue leap =>
        simp only [Calendar.Leap] at leap
        omega
    case isFalse => omega
  have inCentury : 1461 * four + 365 * one + day ≤ 36523 ∨ doe = 146096 ∧ year = 399 := by
    omega
  rcases inCentury with inCentury | ⟨lastDay, lastYear⟩
  case inr => rw [lastDay, lastYear]; rfl
  case inl =>
      have centuryIs : doe / 36524 = century := by omega
      have notLast : doe / 146096 = 0 := by omega
      have leapDays : doe / 1460 = 25 * century + four ∧ day ≤ 364 ∨
          doe / 1460 = 25 * century + four + 1 ∧ 0 < day := by omega
      rw [centuryIs, notLast]
      omega

/-- The month of a day of the year. -/
theorem month_eq {month day : Nat} (started : Calendar.monthStart month ≤ day)
    (fits : day < Calendar.monthStart (month + 1)) : (5 * (day : Int) + 2) / 153 = month := by
  simp only [Calendar.monthStart] at *
  omega

theorem asU64_eq {value : Int} (low : 0 ≤ value) (high : value < 2 ^ 64) : asU64 value = value :=
  Int.emod_eq_of_lt low high

theorem asI64_eq {value : Int} (low : 0 ≤ value) (high : value < 2 ^ 63) :
    asI64 value = value := by
  apply Int.bmod_eq_of_le <;> omega

theorem asU32_natCast {value : Nat} (high : value < 2 ^ 32) : asU32 value = value := by
  simp only [asU32]
  omega

/-- What the conversion computes from the parts of a day number: the era, the year of it,
the day of the year and the month that day lies in. -/
theorem civilFromDays_parts {z era year : Int} {day month : Nat} (low : -2 ^ 63 ≤ z)
    (high : z + 719468 < 2 ^ 63) (yearPos : 0 ≤ year) (yearSmall : year < 400)
    (dayFits : day < if Calendar.Leap (year + 1) then 366 else 365)
    (started : Calendar.monthStart month ≤ day) (fits : day < Calendar.monthStart (month + 1))
    (monthSmall : month ≤ 11)
    (parts : z + 719468 = era * 146097 + (365 * year + year / 4 - year / 100 + day)) :
    civilFromDays z = .ok (year + era * 400 + (if month < 10 then 0 else 1),
      if month < 10 then month + 3 else month - 9, day - Calendar.monthStart month + 1) := by
  have daySmall : day ≤ 365 := by
    split at dayFits <;> omega
  have dayOfEra : z + 719468 - era * 146097 = 365 * year + year / 4 - year / 100 + day := by omega
  have eraIs : (z + 719468) / 146097 = era := by omega
  have start : (if z + 719468 ≥ 0 then pure (z + 719468) else i64 (z + 719468 - 146096)) =
      (pure (if z + 719468 ≥ 0 then z + 719468 else z + 719468 - 146096) : Outcome Empty Int) := by
    split
    case isTrue => rfl
    case isFalse => rw [← bind_i64 (by omega) (by omega) pure, bind_pure]
  unfold civilFromDays
  simp (disch := omega) only [bind_i64, start, pure_bind, tdiv_era, eraIs, dayOfEra, asU64_eq]
  have yearIs := yearOfEra_eq yearPos yearSmall dayFits rfl
  have dayOfYear : 365 * year + year / 4 - year / 100 + day - (365 * year + year / 4 - year / 100) =
      day := by omega
  have monthIs := month_eq started fits
  simp only [Calendar.monthStart] at started ⊢
  have dayIs : asU32 (day - (153 * month + 2) / 5 + 1) = day - (153 * month + 2) / 5 + 1 := by
    simp only [asU32]
    omega
  simp (disch := omega) only [bind_u64, yearIs, asI64_eq, bind_i64, dayOfYear, monthIs, dayIs]
  by_cases early : month < 10
  case pos =>
      have earlyInt : (month : Int) < 10 := by omega
      have monthIs : asU32 (month + 3) = month + 3 :=
        @asU32_natCast (month + 3) (by omega)
      have march : ¬ month + 3 ≤ 2 := by omega
      rw [if_pos earlyInt, if_pos early, if_pos early, bind_u64 (by omega) (by omega), monthIs,
        if_neg march, Int.add_zero]
      rfl
  case neg =>
      have lateInt : ¬ (month : Int) < 10 := by omega
      have monthIs : asU32 (month - 9) = month - 9 := by
        simp only [asU32]
        omega
      have january : month - 9 ≤ 2 := by omega
      rw [if_neg lateInt, if_neg early, if_neg early, bind_u64 (by omega) (by omega), monthIs,
        if_pos january, bind_i64 (by omega) (by omega)]
      rfl

/-- **The conversion gives every date back from its number**, as long as the number fits. -/
theorem civilFromDays_dayNumber (date : Calendar.Date) (low : -2 ^ 63 ≤ date.dayNumber)
    (high : date.dayNumber + 719468 < 2 ^ 63) :
    civilFromDays date.dayNumber = .ok (date.year, date.month, date.day) := by
  have yearPos := Int.emod_nonneg (Calendar.marchYear date.year date.month)
    (by decide : (400 : Int) ≠ 0)
  have yearSmall := Int.emod_lt_of_pos (Calendar.marchYear date.year date.month)
    (by decide : (0 : Int) < 400)
  have started := Calendar.yearStart_era (Calendar.marchYear date.year date.month / 400) _
    yearPos yearSmall
  rw [Int.emod_add_ediv_mul] at started
  have leapIs : Calendar.Leap (Calendar.marchYear date.year date.month % 400 + 1) ↔
      Calendar.Leap (Calendar.marchYear date.year date.month + 1) := by
    simp only [Calendar.Leap]
    omega
  have dayFits := date.dayOfYear_lt
  simp only [← leapIs] at dayFits
  have monthSmall : Calendar.marchMonth date.month ≤ 11 := by
    have monthLe := date.month_le
    simp only [Calendar.marchMonth]
    split <;> omega
  have parts := date.dayNumber_eq
  rw [started, Int.add_assoc] at parts
  have converted := civilFromDays_parts low high yearPos yearSmall dayFits
    (Nat.le_add_right ..) date.dayOfYear_lt_monthStart monthSmall parts
  rw [converted, Int.emod_add_ediv_mul]
  have dayIs : date.dayOfYear - Calendar.monthStart (Calendar.marchMonth date.month) + 1 =
      date.day := by
    have dayPos := date.day_pos
    simp only [Calendar.Date.dayOfYear]
    omega
  have monthPos := date.month_pos
  rw [dayIs]
  simp only [Calendar.marchYear, Calendar.marchMonth]
  by_cases january : date.month ≤ 2
  case pos =>
      have late : ¬ date.month + 9 < 10 := by omega
      simp only [if_pos january, if_neg late, Int.sub_add_cancel, Nat.add_sub_cancel]
  case neg =>
      have early : date.month - 3 < 10 := by
        have monthLe := date.month_le
        omega
      have monthIs : date.month - 3 + 3 = date.month := by omega
      simp only [if_neg january, if_pos early, Int.add_zero, monthIs]

/-! ## The text -/

/-- The days of the week, as the header abbreviates them. -/
def weekdayName : Calendar.Weekday → String
  | .saturday => "Sat"
  | .sunday => "Sun"
  | .monday => "Mon"
  | .tuesday => "Tue"
  | .wednesday => "Wed"
  | .thursday => "Thu"
  | .friday => "Fri"

/-- The date and the time of day in the header's format. -/
def imfFixdate (date : Calendar.Date) (monthName : String) (timeOfDay : Int) : String :=
  weekdayName date.weekday ++ ", " ++ padded 2 date.day ++ " " ++ monthName ++ " " ++
    padded 4 date.year ++ " " ++ padded 2 (timeOfDay / 3600) ++ ":" ++
    padded 2 (timeOfDay % 3600 / 60) ++ ":" ++ padded 2 (timeOfDay % 60) ++ " GMT"

/-- The table of weekdays begins with that of the epoch. -/
theorem entry_weekdays (date : Calendar.Date) :
    entry weekdays (date.dayNumber % 7).toNat = .ok (weekdayName date.weekday) := by
  have remainders : date.dayNumber % 7 = 0 ∨ date.dayNumber % 7 = 1 ∨ date.dayNumber % 7 = 2 ∨
      date.dayNumber % 7 = 3 ∨ date.dayNumber % 7 = 4 ∨ date.dayNumber % 7 = 5 ∨
      date.dayNumber % 7 = 6 := by omega
  have shifted : (date.dayNumber + 5) % 7 = (date.dayNumber % 7 + 5) % 7 := by omega
  rw [date.weekday_eq, Calendar.Weekday.afterSaturday, shifted]
  rcases remainders with value | value | value | value | value | value | value <;>
    rw [value] <;> rfl

/-- The table of months has every month. -/
theorem entry_months (date : Calendar.Date) :
    ∃ name, months[date.month - 1]? = some name ∧ entry months (date.month - 1) = .ok name := by
  have monthPos := date.month_pos
  have monthLe := date.month_le
  have inside : date.month - 1 < months.length := by
    change date.month - 1 < 12
    omega
  refine ⟨months[date.month - 1], List.getElem?_eq_getElem inside, ?_⟩
  rw [entry, List.getElem?_eq_getElem inside]

section

variable (sinceEpoch : Except Duration Duration)

theorem secondsSince_range : 0 ≤ secondsSince sinceEpoch ∧ secondsSince sinceEpoch < 2 ^ 64 := by
  have bounded := (sinceEpoch.toOption.getD .zero).secs.toNat_lt
  simp only [secondsSince]
  omega

/-- The date some seconds after the epoch. -/
def dateOf : Calendar.Date := Calendar.Date.epoch.after (secondsSince sinceEpoch / 86400).toNat

theorem dayNumber_dateOf : (dateOf sinceEpoch).dayNumber = secondsSince sinceEpoch / 86400 := by
  have range := secondsSince_range sinceEpoch
  rw [dateOf, Calendar.Date.dayNumber_after, Calendar.Date.dayNumber_epoch]
  omega

/-- The header's text is made of that date and the rest of the seconds. -/
theorem formatHttpDate_eq {monthName : String}
    (named : entry months ((dateOf sinceEpoch).month - 1) = .ok monthName) :
    formatHttpDate sinceEpoch =
      .ok (imfFixdate (dateOf sinceEpoch) monthName (secondsSince sinceEpoch % 86400)) := by
  have range := secondsSince_range sinceEpoch
  have days := dayNumber_dateOf sinceEpoch
  have daysFit : asI64 (secondsSince sinceEpoch / 86400) = (dateOf sinceEpoch).dayNumber := by
    rw [asI64_eq (by omega) (by omega), days]
  have converted := civilFromDays_dayNumber (dateOf sinceEpoch) (by omega) (by omega)
  have monthPos := (dateOf sinceEpoch).month_pos
  have monthLe := (dateOf sinceEpoch).month_le
  have monthIndex :
      (((dateOf sinceEpoch).month : Int) - 1).toNat = (dateOf sinceEpoch).month - 1 := by
    omega
  simp only [formatHttpDate, daysFit, entry_weekdays, converted, Outcome.ok_bind]
  rw [bind_u32 (by omega) (by omega), monthIndex, named]
  rfl

/-- **Dates of the header are those of the calendar.**  The conversion returns a date of
the proleptic Gregorian calendar, the only one with the number of days it is given, and
one day more gives the next date; the text names its weekday, and both tables have the
entries that are read. -/
theorem formatHttpDate_gregorian :
    ∃ (date : Calendar.Date) (monthName : String),
      civilFromDays (secondsSince sinceEpoch / 86400) = .ok (date.year, date.month, date.day) ∧
      Calendar.daysFromCivil date.year date.month date.day = secondsSince sinceEpoch / 86400 ∧
      (∀ other : Calendar.Date, Calendar.daysFromCivil other.year other.month other.day =
        secondsSince sinceEpoch / 86400 → other = date) ∧
      civilFromDays (secondsSince sinceEpoch / 86400 + 1) =
        .ok (date.next.year, date.next.month, date.next.day) ∧
      months[date.month - 1]? = some monthName ∧
      formatHttpDate sinceEpoch =
        .ok (imfFixdate date monthName (secondsSince sinceEpoch % 86400)) := by
  have range := secondsSince_range sinceEpoch
  have number := dayNumber_dateOf sinceEpoch
  have converted := civilFromDays_dayNumber (dateOf sinceEpoch) (by omega) (by omega)
  obtain ⟨monthName, named, entryIs⟩ := entry_months (dateOf sinceEpoch)
  refine ⟨dateOf sinceEpoch, monthName, ?_, ?inverse, ?unique, ?advances, named,
    formatHttpDate_eq sinceEpoch entryIs⟩
  · rw [← number, converted]
  case inverse => rw [Calendar.daysFromCivil_eq, number]
  case unique =>
      intro other sameNumber
      rw [Calendar.daysFromCivil_eq, ← number] at sameNumber
      have otherConverted := civilFromDays_dayNumber other (by omega) (by omega)
      rw [sameNumber, converted] at otherConverted
      obtain ⟨sameYear, sameMonth, sameDay⟩ : (dateOf sinceEpoch).year = other.year ∧
          (dateOf sinceEpoch).month = other.month ∧ (dateOf sinceEpoch).day = other.day := by
        simpa using otherConverted
      exact (Calendar.Date.ext sameYear sameMonth sameDay).symm
  case advances =>
      rw [← number, ← Calendar.Date.dayNumber_next]
      have nextNumber := (dateOf sinceEpoch).dayNumber_next
      apply civilFromDays_dayNumber <;> omega

end

end ImageResizer.HttpDate
