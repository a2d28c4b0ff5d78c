import CanaryRelease.Proofs.Calendar
import CanaryRelease.Time.Reader

/-!
# Dates given by weeks

A week of a year and a day of the week name a day, also where the week reaches into the year before
or after. Weeks start on Mondays, and the first one is the one with 4 January; so the days of the
weeks of a year are numbered on from the Monday on or before that day (`weekDayNumber`). The date
that is made of a week and a day is the one with that number, and it is refused only if it lies
after the end of the calendar (`names_of_dateOfWeekDay?`).
-/

namespace CanaryRelease

/-- The number of the Monday on or before 4 January, day 0 being a Monday. -/
def firstMonday (year : Nat) : Nat := (daysBeforeYear year + 3) / 7 * 7

/-- The number of a day of a week of a year. -/
def weekDayNumber (year week day : Nat) : Nat := firstMonday year + 7 * (week - 1) + (day - 1)

namespace WrittenDate

theorem check_eq_ok {w : WrittenDate} {d : Date} :
    w.check = .ok d ↔ w = ⟨d.year, d.month, d.day⟩ := by
  constructor
  · intro h
    unfold check at h
    split at h
    · split at h
      · split at h
        · obtain rfl := Except.ok.inj h
          rfl
        · cases h
      · cases h
    · cases h
  · rintro rfl
    obtain ⟨year, month, day⟩ := d.valid
    simp [check, year, month, day]

/-- A written date is the day with a number, unless the calendar ends before it. -/
structure Names (w : WrittenDate) (number : Nat) : Prop where
  dayNumber : ∀ d, w.check = .ok d → d.dayNumber = number
  onCalendar : number < Date.dayCount → ∃ d, w.check = .ok d

/-- A written date is the `n`-th day of a year. -/
structure IsYearDay (y n : Nat) (w : WrittenDate) : Prop where
  year : w.year = y
  month : 1 ≤ w.month ∧ w.month ≤ 12
  day : 1 ≤ w.day ∧ w.day ≤ daysInMonth y w.month
  place : daysBeforeMonth y w.month + w.day = n

variable {year n : Nat}

theorem IsYearDay.names {w : WrittenDate} (h : IsYearDay year n w) (first : 1 ≤ year) :
    w.Names (daysBeforeYear year + (n - 1)) := by
  obtain ⟨rfl, month, day, rfl⟩ := h
  constructor
  · intro d ok
    obtain rfl := check_eq_ok.mp ok
    dsimp only at day ⊢
    rw [Date.dayNumber]
    omega
  · intro within
    have last : w.year ≤ 9999 := by
      by_contra after
      have later : daysBeforeYear 10000 ≤ daysBeforeYear (w.year - 1 + 1) :=
        daysBeforeYear_mono (by omega)
      rw [Nat.sub_add_cancel first] at later
      unfold Date.dayCount at within
      omega
    exact ⟨⟨w.year, w.month, w.day, ⟨first, last⟩, month, day⟩, check_eq_ok.mpr rfl⟩

end WrittenDate

open WrittenDate

variable {year : Nat}

theorem isYearDay_of_months {n count first : Nat} (last : first + count = 13)
    (start : 1 ≤ first) (positive : 1 ≤ n)
    (within : daysBeforeMonth year first + n ≤ daysInYear year) :
    IsYearDay year (daysBeforeMonth year first + n)
      (monthAndDay year n (List.range' first count)) := by
  induction count generalizing first n with
  | zero =>
    obtain rfl : first = 13 := by omega
    rw [daysBeforeMonth_thirteen] at within
    omega
  | succ count ih =>
    rw [List.range'_succ, monthAndDay]
    by_cases here : n ≤ daysInMonth year first
    · rw [if_pos here]
      exact ⟨rfl, ⟨start, by dsimp only; omega⟩, ⟨positive, here⟩, rfl⟩
    · rw [if_neg here]
      have passed : daysBeforeMonth year (first + 1) =
          daysBeforeMonth year first + daysInMonth year first := daysBeforeMonth_succ start
      have rest : daysBeforeMonth year (first + 1) + (n - daysInMonth year first) =
          daysBeforeMonth year first + n := by omega
      rw [← rest]
      exact ih (by omega) (by omega) (by omega) (by omega)

theorem isYearDay_monthAndDay {n : Nat} (positive : 1 ≤ n) (within : n ≤ daysInYear year) :
    IsYearDay year n (monthAndDay year n [1, 2, 3, 4, 5, 6, 7, 8, 9, 10, 11, 12]) := by
  have before : daysBeforeMonth year 1 = 0 := rfl
  have counted : IsYearDay year (daysBeforeMonth year 1 + n)
      (monthAndDay year n (List.range' 1 12)) :=
    isYearDay_of_months rfl le_rfl positive (by rw [before]; omega)
  rwa [before, Nat.zero_add] at counted

theorem daysInYear_bounds (year : Nat) : 365 ≤ daysInYear year ∧ daysInYear year ≤ 366 := by
  unfold daysInYear
  split <;> decide

theorem names_dateOfYearDay {n : Int} {number : Nat} (first : 1 ≤ year)
    (place : (number : Int) + 1 = daysBeforeYear year + n) (near : -6 < n) (far : n < 400) :
    (dateOfYearDay year n).Names number := by
  unfold dateOfYearDay
  dsimp only
  split
  · rename_i before
    obtain ⟨earlier, rfl⟩ := Nat.exists_eq_add_of_le' first
    have second : 1 ≤ earlier := by
      by_contra none
      obtain rfl : earlier = 0 := by omega
      have start : daysBeforeYear (0 + 1) = 0 := by decide
      omega
    have length := daysInYear_bounds earlier
    have year := daysBeforeYear_succ second
    rw [Nat.add_sub_cancel]
    convert (isYearDay_monthAndDay (n := (n + daysInYear earlier).toNat) (by omega)
      (by omega)).names second using 1
    omega
  · split
    · have length := daysInYear_bounds year
      have length' := daysInYear_bounds (year + 1)
      have next := daysBeforeYear_succ first
      convert (isYearDay_monthAndDay (n := (n - daysInYear year).toNat) (by omega)
        (by omega)).names (Nat.le_add_left 1 year) using 1
      omega
    · convert (isYearDay_monthAndDay (n := n.toNat) (by omega) (by omega)).names first using 1
      omega

/-- A week and a day of it name the day that they are counted to. -/
theorem names_of_dateOfWeekDay? {week day : Nat} {w : WrittenDate} (first : 1 ≤ year)
    (h : dateOfWeekDay? year week day = some w) : w.Names (weekDayNumber year week day) := by
  have weeks : weeksInYear year ≤ 53 := by
    unfold weeksInYear
    split <;> decide
  have january : firstWeekday year = daysBeforeYear year % 7 := rfl
  unfold dateOfWeekDay? at h
  rw [if_neg (show ¬ year = 0 by omega), if_neg (show ¬ year = 0 by omega)] at h
  split at h
  · cases h
  · rename_i inside
    simp only [Bool.or_eq_true, decide_eq_true_eq, not_or] at inside
    obtain ⟨⟨⟨week_pos, week_le⟩, day_pos⟩, day_le⟩ := inside
    obtain rfl := Option.some.inj h
    split
    · exact names_dateOfYearDay first (by unfold weekDayNumber firstMonday; omega) (by omega)
        (by omega)
    · exact names_dateOfYearDay first (by unfold weekDayNumber firstMonday; omega) (by omega)
        (by omega)

theorem check_of_dateOfWeekDay?_zero {week day : Nat} {w : WrittenDate}
    (h : dateOfWeekDay? 0 week day = some w) : w.check = .error .month := by
  unfold dateOfWeekDay? at h
  rw [if_pos rfl, if_pos rfl] at h
  split at h
  · cases h
  · obtain rfl := Option.some.inj h
    rfl

end CanaryRelease
