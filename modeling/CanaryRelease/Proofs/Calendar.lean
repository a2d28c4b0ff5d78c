import CanaryRelease.Time.Timestamp
import Mathlib.Order.Monotone.Basic

/-!
# The calendar

The day numbers of dates are those from zero up to `Date.dayCount`, one after the other: the day
after a date has the next number, across the ends of months, leap years and centuries
(`Date.dayNumber_next`), and the number of the last day of year 9999 is the last one. So every
number is that of a date (`Date.exists_dayNumber_eq`), and a timestamp can be moved by exactly those
spans that keep its own clock on the calendar, whatever its distance from UTC
(`Timestamp.instantAfter?_eq_some_iff`).
-/

namespace CanaryRelease

/-! ## Days -/

theorem daysBeforeMonth_thirteen (year : Nat) : daysBeforeMonth year 13 = daysInYear year := by
  simp only [daysBeforeMonth, daysInMonth, daysInYear]
  split <;> rfl

theorem daysBeforeMonth_succ {year month : Nat} (h : 1 ≤ month) :
    daysBeforeMonth year (month + 1) = daysBeforeMonth year month + daysInMonth year month := by
  obtain ⟨k, rfl⟩ := Nat.exists_eq_add_of_le' h
  rfl

theorem daysBeforeYear_succ {year : Nat} (h : 1 ≤ year) :
    daysBeforeYear (year + 1) = daysBeforeYear year + daysInYear year := by
  obtain ⟨k, rfl⟩ := Nat.exists_eq_add_of_le' h
  have passed (n : Nat) : (k + 1) / n = k / n + if (k + 1) % n = 0 then 1 else 0 := by
    simp only [Nat.succ_div, Nat.dvd_iff_mod_eq_zero]
  have centuries : k / 100 ≤ k / 4 := by omega
  have century : (k + 1) % 100 = 0 → (k + 1) % 4 = 0 := by omega
  have fourth : (k + 1) % 400 = 0 → (k + 1) % 100 = 0 := by omega
  simp only [daysBeforeYear, daysInYear, isLeapYear, Nat.add_sub_cancel, passed]
  by_cases h4 : (k + 1) % 4 = 0
  · by_cases h100 : (k + 1) % 100 = 0
    · by_cases h400 : (k + 1) % 400 = 0
      · simp [h4, h100, h400]
        omega
      · simp [h4, h100, h400]
        omega
    · simp [h4, h100, mt fourth h100]
      omega
  · simp [h4, mt century h4, mt fourth (mt century h4)]
    omega

theorem one_le_daysInMonth (year month : Nat) : 1 ≤ daysInMonth year month := by
  unfold daysInMonth
  split
  · split <;> decide
  all_goals exact Nat.le_add_left 1 _

theorem daysBeforeMonth_add_le {year month : Nat} (h : 1 ≤ month) (h' : month ≤ 12) :
    daysBeforeMonth year month + daysInMonth year month ≤ daysInYear year := by
  rw [← daysBeforeMonth_succ h, ← daysBeforeMonth_thirteen]
  have grows (n : Nat) : daysBeforeMonth year (n + 1) ≤ daysBeforeMonth year (n + 2) :=
    Nat.le_add_right _ _
  exact (monotone_nat_of_le_succ (f := fun n => daysBeforeMonth year (n + 1)) grows) h'

theorem daysBeforeYear_mono {a b : Nat} (h : a ≤ b) :
    daysBeforeYear (a + 1) ≤ daysBeforeYear (b + 1) := by
  have grows (n : Nat) : daysBeforeYear (n + 1) ≤ daysBeforeYear (n + 2) := by
    rw [daysBeforeYear_succ (Nat.le_add_left 1 n)]
    exact Nat.le_add_right _ _
  exact (monotone_nat_of_le_succ (f := fun n => daysBeforeYear (n + 1)) grows) h

namespace Date

/-- The day after a date, unless the calendar ends with it. -/
def next? (d : Date) : Option Date :=
  if inMonth : d.day < daysInMonth d.year d.month then
    some ⟨d.year, d.month, d.day + 1, d.valid.1, d.valid.2.1, by omega, inMonth⟩
  else if inYear : d.month < 12 then
    some ⟨d.year, d.month + 1, 1, d.valid.1, ⟨by omega, inYear⟩, ⟨le_rfl, one_le_daysInMonth _ _⟩⟩
  else if inCalendar : d.year < 9999 then
    some ⟨d.year + 1, 1, 1, ⟨by omega, inCalendar⟩, by decide, ⟨le_rfl, one_le_daysInMonth _ _⟩⟩
  else none

/-- The day after a date has the next number. -/
theorem dayNumber_next {d e : Date} (h : d.next? = some e) : e.dayNumber = d.dayNumber + 1 := by
  obtain ⟨⟨first, -⟩, ⟨january, december⟩, ⟨start, last⟩⟩ := d.valid
  unfold next? at h
  split at h
  · obtain rfl := Option.some.inj h
    simp only [dayNumber]
    omega
  · split at h
    · obtain rfl := Option.some.inj h
      simp only [dayNumber, daysBeforeMonth_succ january]
      omega
    · split at h
      · obtain rfl := Option.some.inj h
        have last_month : d.month = 12 := by omega
        have year := daysBeforeMonth_thirteen d.year
        rw [daysBeforeMonth_succ (by decide), ← last_month] at year
        simp only [dayNumber, daysBeforeYear_succ first, daysBeforeMonth]
        omega
      · cases h

theorem dayNumber_of_next?_eq_none {d : Date} (h : d.next? = none) :
    d.dayNumber + 1 = dayCount := by
  obtain ⟨⟨first, final⟩, ⟨january, december⟩, ⟨start, last⟩⟩ := d.valid
  unfold next? at h
  split at h
  · cases h
  · split at h
    · cases h
    · split at h
      · cases h
      · have last_month : d.month = 12 := by omega
        have ends : d.year = 9999 := by omega
        have year := daysBeforeMonth_thirteen d.year
        rw [daysBeforeMonth_succ (by decide), ← last_month] at year
        have count : dayCount = daysBeforeYear d.year + daysInYear d.year := by
          rw [dayCount, ← daysBeforeYear_succ first, ends]
        rw [dayNumber]
        omega

/-- Every day number up to the end of the calendar is that of a date. -/
theorem exists_dayNumber_eq {n : Nat} (h : n < dayCount) : ∃ d : Date, d.dayNumber = n := by
  induction n with
  | zero => exact ⟨⟨1, 1, 1, by decide⟩, rfl⟩
  | succ n ih =>
    obtain ⟨d, rfl⟩ := ih (by omega)
    cases next : d.next? with
    | none =>
      have last := dayNumber_of_next?_eq_none next
      omega
    | some e => exact ⟨e, dayNumber_next next⟩

theorem dayNumber_lt (d : Date) : d.dayNumber < dayCount := by
  obtain ⟨⟨first, final⟩, ⟨january, december⟩, ⟨start, last⟩⟩ := d.valid
  have month : daysBeforeMonth d.year d.month + daysInMonth d.year d.month ≤ daysInYear d.year :=
    daysBeforeMonth_add_le january december
  have year : daysBeforeYear d.year + daysInYear d.year ≤ dayCount := by
    rw [← daysBeforeYear_succ first]
    exact daysBeforeYear_mono final
  rw [dayNumber]
  omega

end Date

/-! ## Timestamps that are moved -/

theorem TimeOfDay.micros_lt (t : TimeOfDay) : t.micros < dayMicros := by
  obtain ⟨hour, minute, second, micro⟩ := t.valid
  unfold TimeOfDay.micros dayMicros
  omega

theorem TimeOfDay.exists_micros_eq {n : Nat} (h : n < dayMicros) :
    ∃ t : TimeOfDay, t.micros = n := by
  have valid : n / 1000000 / 3600 < 24 ∧ n / 1000000 / 60 % 60 < 60 ∧ n / 1000000 % 60 < 60 ∧
      n % 1000000 < 1000000 := by
    unfold dayMicros at h
    omega
  refine ⟨⟨n / 1000000 / 3600, n / 1000000 / 60 % 60, n / 1000000 % 60, n % 1000000, valid⟩, ?_⟩
  unfold TimeOfDay.micros
  simp only
  omega

namespace Timestamp

variable {t : Timestamp} {seconds : Int}

theorem clock_nonneg (t : Timestamp) : 0 ≤ t.clock := Int.natCast_nonneg _

theorem clock_lt (t : Timestamp) : t.clock < (Date.dayCount * dayMicros : Nat) := by
  have day := t.date.dayNumber_lt
  have time := t.time.micros_lt
  have whole : (t.date.dayNumber + 1) * dayMicros ≤ Date.dayCount * dayMicros :=
    Nat.mul_le_mul_right _ day
  rw [clock]
  rw [Nat.add_mul] at whole
  omega

theorem exists_clock_eq {n : Int} (start : 0 ≤ n) (before : n < (Date.dayCount * dayMicros : Nat))
    (offset : Option UtcOffset) : ∃ t : Timestamp, t.offset = offset ∧ t.clock = n := by
  obtain ⟨m, rfl⟩ := Int.eq_ofNat_of_zero_le start
  have within : m < Date.dayCount * dayMicros := Int.ofNat_lt.mp before
  obtain ⟨date, hd⟩ := Date.exists_dayNumber_eq (Nat.div_lt_of_lt_mul (Nat.mul_comm _ _ ▸ within))
  obtain ⟨time, ht⟩ := TimeOfDay.exists_micros_eq (Nat.mod_lt m (by decide : 0 < dayMicros))
  refine ⟨⟨date, time, offset⟩, rfl, ?_⟩
  rw [clock, hd, ht, Nat.div_add_mod']

/-- `moved` is what the clock of a timestamp shows a number of seconds later. -/
def IsMoved (t : Timestamp) (seconds : Int) (moved : Timestamp) : Prop :=
  moved.offset = t.offset ∧ moved.clock = t.clock + seconds * 1000000

/-- A timestamp can be moved by the spans that keep its clock on the calendar: all these are short
enough. -/
theorem instantAfter?_eq_some_iff {instant : Int} :
    t.instantAfter? seconds = some instant ↔
      (∃ moved, t.IsMoved seconds moved) ∧ instant = t.instant + seconds * 1000000 := by
  have start := t.clock_nonneg
  have before := t.clock_lt
  have count : ((Date.dayCount * dayMicros : Nat) : Int) = 315537897600000000 := by decide
  rw [count] at before
  dsimp only [instantAfter?]
  rw [count]
  constructor
  · intro h
    split at h
    · cases h
    · split at h
      · cases h
      · rename_i inside
        obtain rfl := Option.some.inj h
        obtain ⟨moved, hm⟩ := exists_clock_eq (n := t.clock + seconds * 1000000)
          (by simp at inside; omega) (by simp at inside; omega) t.offset
        refine ⟨⟨moved, hm⟩, ?_⟩
        rw [Timestamp.instant]
        omega
  · rintro ⟨⟨moved, offset, clock⟩, rfl⟩
    have moved_start := moved.clock_nonneg
    have moved_before := moved.clock_lt
    rw [count] at moved_before
    rw [if_neg, if_neg]
    · rw [Timestamp.instant]
      congr 1
      omega
    · simp
      omega
    · have short : -maxMoveDays ≤ seconds.fdiv 86400 ∧ seconds.fdiv 86400 ≤ maxMoveDays := by
        rw [Int.fdiv_eq_ediv_of_nonneg _ (by decide), maxMoveDays]
        omega
      simpa using short

theorem instantAfter?_eq_none_iff :
    t.instantAfter? seconds = none ↔ ¬ ∃ moved, t.IsMoved seconds moved := by
  rw [← not_iff_not, not_not, ← ne_eq, Option.ne_none_iff_exists']
  simp [instantAfter?_eq_some_iff]

end Timestamp

end CanaryRelease
