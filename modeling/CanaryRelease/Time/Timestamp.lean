import CanaryRelease.Text.Hex
import CanaryRelease.Time.Date

/-!
# Timestamps

A date, a time of day to the microsecond and, unless the timestamp is without a zone, its distance
from UTC. `Timestamp.instant` places a timestamp on one line of microseconds whatever its zone;
`Timestamp.render` is its extended form.
-/

namespace CanaryRelease

/-- A time of day. -/
structure TimeOfDay where
  hour : Nat
  minute : Nat
  second : Nat
  micro : Nat
  valid : hour < 24 ∧ minute < 60 ∧ second < 60 ∧ micro < 1000000
  deriving DecidableEq, Repr

/-- The number of microseconds in a day. -/
def dayMicros : Nat := 86400000000

/-- A distance from UTC in microseconds, less than a day either way. -/
structure UtcOffset where
  micros : Int
  valid : -(dayMicros : Int) < micros ∧ micros < dayMicros
  deriving DecidableEq, Repr

/-- A point in time as a clock somewhere shows it. -/
structure Timestamp where
  date : Date
  time : TimeOfDay
  offset : Option UtcOffset
  deriving DecidableEq, Repr

/-- Microseconds since midnight. -/
def TimeOfDay.micros (t : TimeOfDay) : Nat :=
  (t.hour * 3600 + t.minute * 60 + t.second) * 1000000 + t.micro

/-- UTC itself. -/
def UtcOffset.zero : UtcOffset := ⟨0, by decide⟩

namespace Timestamp

/-- Microseconds on the timestamp's own clock since the start of year 1. -/
def clock (t : Timestamp) : Int := (t.date.dayNumber * dayMicros + t.time.micros : Nat)

/-- The distance from UTC in microseconds; a timestamp without a zone is taken as UTC. -/
def shift (t : Timestamp) : Int := (t.offset.map UtcOffset.micros).getD 0

/-- Microseconds since the start of year 1 in UTC. -/
def instant (t : Timestamp) : Int := t.clock - t.shift

/-- The same timestamp, in UTC if it is without a zone. -/
def zoned (t : Timestamp) : Timestamp :=
  { t with offset := some (t.offset.getD .zero) }

/-- The greatest number of days by which a timestamp can be moved. -/
def maxMoveDays : Int := 999999999

/-- The instant that lies a number of seconds after a timestamp, if the number is at most
`maxMoveDays` days and the timestamp's own clock stays within the years 1 to 9999. -/
def instantAfter? (t : Timestamp) (seconds : Int) : Option Int :=
  let days := seconds.fdiv 86400
  let moved := t.clock + seconds * 1000000
  if days < -maxMoveDays || maxMoveDays < days then none
  else if moved < 0 || (Date.dayCount * dayMicros : Nat) ≤ moved then none
  else some (moved - t.shift)

end Timestamp

/-- A span of microseconds as days, seconds of a day and microseconds, those that are not zero. -/
def spanFields (micros : Int) : String :=
  let seconds := micros.fdiv 1000000
  let fields := [("days", seconds.fdiv 86400), ("seconds", seconds.fmod 86400),
    ("microseconds", micros.fmod 1000000)]
  let shown := fields.filter fun field => field.2 ≠ 0
  if shown.isEmpty then "0"
  else ", ".intercalate (shown.map fun field => s!"{field.1}={field.2}")

/-- Two digits each for hours, minutes and seconds. -/
def clockDigits (hour minute second : Nat) : List Char :=
  Text.padded 2 hour ++ ':' :: Text.padded 2 minute ++ ':' :: Text.padded 2 second

/-- A fraction of a second, left out if it is zero. -/
def fractionDigits (micro : Nat) : List Char :=
  if micro = 0 then [] else '.' :: Text.padded 6 micro

/-- A date in the extended form. -/
def Date.render (d : Date) : List Char :=
  Text.padded 4 d.year ++ '-' :: Text.padded 2 d.month ++ '-' :: Text.padded 2 d.day

/-- An offset in the extended form: seconds and their fraction are left out if they are zero. -/
def UtcOffset.render (o : UtcOffset) : List Char :=
  let size := o.micros.natAbs
  let seconds := size / 1000000
  (if o.micros < 0 then '-' else '+') ::
    if seconds % 60 = 0 ∧ size % 1000000 = 0 then
      Text.padded 2 (seconds / 3600) ++ ':' :: Text.padded 2 (seconds / 60 % 60)
    else
      clockDigits (seconds / 3600) (seconds / 60 % 60) (seconds % 60) ++
        fractionDigits (size % 1000000)

/-- A timestamp in the extended form, with the given character between date and time. -/
def Timestamp.render (between : Char) (t : Timestamp) : List Char :=
  t.date.render ++ between :: clockDigits t.time.hour t.time.minute t.time.second ++
    fractionDigits t.time.micro ++
      match t.offset with
      | none => []
      | some o => o.render

end CanaryRelease
