/-!
# Calendar dates

Dates of the proleptic Gregorian calendar in the years 1 to 9999, their place in the count of days,
and dates given by a week and a day of the week.
-/

namespace CanaryRelease

/-- A leap year has a 29 February. -/
def isLeapYear (year : Nat) : Bool :=
  year % 4 = 0 && (year % 100 ≠ 0 || year % 400 = 0)

/-- The number of days in a month. -/
def daysInMonth (year month : Nat) : Nat :=
  match month with
  | 2 => if isLeapYear year then 29 else 28
  | 4 | 6 | 9 | 11 => 30
  | _ => 31

/-- The number of days in a year. -/
def daysInYear (year : Nat) : Nat := if isLeapYear year then 366 else 365

/-- The number of days from the start of year 1 to the start of a year. -/
def daysBeforeYear (year : Nat) : Nat :=
  365 * (year - 1) + (year - 1) / 4 - (year - 1) / 100 + (year - 1) / 400

/-- The number of days from the start of a year to the start of a month. -/
def daysBeforeMonth (year : Nat) : Nat → Nat
  | 0 | 1 => 0
  | month + 2 => daysBeforeMonth year (month + 1) + daysInMonth year (month + 1)

/-- A day that exists, in the years 1 to 9999. -/
structure Date where
  year : Nat
  month : Nat
  day : Nat
  valid : (1 ≤ year ∧ year ≤ 9999) ∧ (1 ≤ month ∧ month ≤ 12) ∧
    (1 ≤ day ∧ day ≤ daysInMonth year month)
  deriving DecidableEq, Repr

namespace Date

/-- The number of days before a date since the start of year 1. -/
def dayNumber (d : Date) : Nat :=
  daysBeforeYear d.year + daysBeforeMonth d.year d.month + (d.day - 1)

/-- The number of days from the first of year 1 to the last of year 9999. -/
def dayCount : Nat := daysBeforeYear 10000

end Date

/-- Year, month and day as written, not yet known to be a date. -/
structure WrittenDate where
  year : Nat
  month : Nat
  day : Nat
  deriving DecidableEq, Repr

/-- The day of the week on which a year starts, Monday being zero. -/
def firstWeekday (year : Nat) : Nat := daysBeforeYear year % 7

/-- The number of weeks of a year: 53 if it starts on a Thursday, or on a Wednesday and leaps. -/
def weeksInYear (year : Nat) : Nat :=
  if firstWeekday year = 3 || (firstWeekday year = 2 && isLeapYear year) then 53 else 52

/-- The month and day of the `n`-th day of a year, counted through a list of months. -/
def monthAndDay (year n : Nat) : List Nat → WrittenDate
  | [] => ⟨year, 0, n⟩
  | month :: months =>
    if n ≤ daysInMonth year month then ⟨year, month, n⟩
    else monthAndDay year (n - daysInMonth year month) months

/-- The date of the `n`-th day of a year, days before and after it belonging to the years beside
it. -/
def dateOfYearDay (year : Nat) (n : Int) : WrittenDate :=
  let months := [1, 2, 3, 4, 5, 6, 7, 8, 9, 10, 11, 12]
  if n < 1 then monthAndDay (year - 1) (n + daysInYear (year - 1)).toNat months
  else if daysInYear year < n then monthAndDay (year + 1) (n - daysInYear year).toNat months
  else monthAndDay year n.toNat months

/-- The date of a day of a week. Week 1 is the one with the first Thursday of the year. No week or
day of the week beyond those of the year is accepted. Weeks of the year 0 lie before the calendar:
they have no month. -/
def dateOfWeekDay? (year week day : Nat) : Option WrittenDate :=
  if week = 0 || (if year = 0 then 52 else weeksInYear year) < week || day = 0 || 7 < day then none
  else if year = 0 then some ⟨1, 0, day⟩
  else
    let first : Int := firstWeekday year
    let monday := if first ≤ 3 then 1 - first else 8 - first
    some (dateOfYearDay year (monday + 7 * ((week : Int) - 1) + ((day : Int) - 1)))

end CanaryRelease
