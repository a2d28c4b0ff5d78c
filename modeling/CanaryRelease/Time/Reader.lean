import CanaryRelease.Text.Quoted
import CanaryRelease.Time.Timestamp

/-!
# Reading timestamps

The accepted forms: a date (`YYYY-MM-DD`, `YYYYMMDD`, `YYYY-Www`, `YYYYWww`, `YYYY-Www-D`,
`YYYYWwwD`), then any one character and a time (`HH`, `HH:MM`, `HH:MM:SS`, or the same without
colons, the last part with a fraction), then `Z` or a signed offset in the forms of a time. Digits
of a fraction beyond six are cut off. The reader is lenient at the end of a time: a colon or
nothing may stand for the point of a fraction after seconds, one stray ASCII character before an
offset is passed over, and so is whatever follows six digits of a fraction there; a NUL ends a
time, an offset or `Z`, and what follows a full fraction or `Z` after it is not read.
-/

namespace CanaryRelease

/-- Why a text is no timestamp. -/
inductive TimestampError where
  /-- The text has none of the accepted forms. -/
  | malformed (text : String)
  /-- An offset of a day or more. -/
  | offset (micros : Int)
  | year (year : Nat)
  | month
  | day
  | hour
  | minute
  | second
  deriving DecidableEq, Repr

namespace Reader

/-- The value of a digit `0` to `9`. -/
def digit? (c : Char) : Option Nat :=
  if '0' ≤ c ∧ c ≤ '9' then some (c.toNat - 48) else none

/-- A number of exactly `n` digits, onto the digits read so far, and what follows it. -/
def number? : (n : Nat) → (acc : Nat) → List Char → Option (Nat × List Char)
  | 0, acc, cs => some (acc, cs)
  | _ + 1, _, [] => none
  | n + 1, acc, c :: cs =>
    match digit? c with
    | some d => number? n (10 * acc + d) cs
    | none => none

/-! ## Dates -/

/-- Where the date ends in a text of at least seven characters. -/
def dateLength? (cs : List Char) : Option Nat :=
  let isDigitAt (i : Nat) : Bool := (cs[i]?.bind digit?).isSome
  if cs.length = 7 then some 7
  else if cs[4]? = some '-' then
    if cs[5]? = some 'W' then
      if cs.length < 8 then none
      else if cs[8]? = some '-' then
        if cs.length = 9 then none
        else if isDigitAt 10 then some 8 else some 10
      else some 8
    else some 10
  else if cs[4]? = some 'W' then
    let digits := ((cs.drop 7).takeWhile fun c => (digit? c).isSome).length
    if digits < 2 then some (7 + digits) else if digits % 2 = 1 then some 7 else some 8
  else some 8

/-- The day of a week: the rest of a date after year and week, Monday if there is no rest. -/
def weekday? (dashed : Bool) : List Char → Option Nat
  | [] => some 1
  | '-' :: cs => if dashed then last cs else none
  | cs => if dashed then none else last cs
where
  /-- One digit and nothing after it. -/
  last (cs : List Char) : Option Nat :=
    match number? 1 0 cs with
    | some (d, []) => some d
    | _ => none

/-- A month and a day of it: the rest of a date after the year. -/
def monthAndDay? (dashed : Bool) (cs : List Char) : Option (Nat × Nat) := do
  let (month, cs) ← number? 2 0 cs
  let cs ← match dashed, cs with
    | true, '-' :: cs => some cs
    | true, _ => none
    | false, cs => some cs
  match ← number? 2 0 cs with
  | (day, []) => some (month, day)
  | _ => none

/-- A date in one of the accepted forms, and nothing else. -/
def date? (cs : List Char) : Option WrittenDate := do
  let (year, cs) ← number? 4 0 cs
  let dashed := cs.head? = some '-'
  let cs := if dashed then cs.tail else cs
  match cs with
  | 'W' :: cs =>
    let (week, cs) ← number? 2 0 cs
    let day ← weekday? dashed cs
    dateOfWeekDay? year week day
  | _ =>
    let (month, day) ← monthAndDay? dashed cs
    some ⟨year, month, day⟩

/-! ## Times -/

/-- Hours, minutes, seconds and microseconds as written. -/
structure WrittenTime where
  hour : Nat
  minute : Nat
  second : Nat
  micro : Nat
  /-- Nothing but the end of the text follows. -/
  complete : Bool
  deriving DecidableEq, Repr

/-- A text that is over, or is treated so because a NUL stands there. -/
def isOver : List Char → Bool
  | [] => true
  | c :: _ => c = '\x00'

/-- What can follow a field of a time. -/
inductive Continuation where
  | stop (complete : Bool)
  | field (cs : List Char)
  | fraction (cs : List Char)

/-- Decides what follows a field; `colons` says whether colons part the fields. -/
def continuation? (colons : Bool) : List Char → Option Continuation
  | [] => some (.stop true)
  | [c] => if c.toNat < 128 then some (.stop (isOver [c])) else none
  | c :: cs =>
    if colons ∧ c = ':' then some (.field cs)
    else if c = '.' ∨ c = ',' then some (.fraction cs)
    else if colons then none
    else some (.field (c :: cs))

/-- A fraction of a second: at most six digits of it count. -/
def fraction? (hour minute second : Nat) (cs : List Char) : Option WrittenTime := do
  let places := min 6 cs.length
  let (n, cs) ← number? places 0 cs
  let rest := cs.dropWhile fun c => (digit? c).isSome
  some ⟨hour, minute, second, n * Nat.pow 10 (6 - places), isOver rest⟩

/-- A time of day or the size of an offset. -/
def time? (cs : List Char) : Option WrittenTime := do
  let (hour, cs) ← number? 2 0 cs
  let colons := cs.head? = some ':'
  match ← continuation? colons cs with
  | .stop complete => some ⟨hour, 0, 0, 0, complete⟩
  | .fraction cs => fraction? hour 0 0 cs
  | .field cs =>
    let (minute, cs) ← number? 2 0 cs
    match ← continuation? colons cs with
    | .stop complete => some ⟨hour, minute, 0, 0, complete⟩
    | .fraction cs => fraction? hour minute 0 cs
    | .field cs =>
      let (second, cs) ← number? 2 0 cs
      match ← continuation? colons cs with
      | .stop complete => some ⟨hour, minute, second, 0, complete⟩
      | .fraction cs => fraction? hour minute second cs
      | .field cs => fraction? hour minute second cs

/-- A character that starts an offset. -/
def startsOffset (c : Char) : Bool := c = '+' || c = '-' || c = 'Z'

/-- The offset of a timestamp in microseconds: none, `Z`, or a sign and a size. A size below a
second counts as zero. -/
def offset? : List Char → Option (Option Int)
  | [] => some none
  | 'Z' :: cs => if isOver cs then some (some 0) else none
  | sign :: cs =>
    match time? cs with
    | some t =>
      let seconds := t.hour * 3600 + t.minute * 60 + t.second
      let size : Int := if seconds = 0 then 0 else (seconds * 1000000 + t.micro : Nat)
      if t.complete then some (some (if sign = '-' then -size else size)) else none
    | none => none

/-! ## Timestamps -/

/-- A timestamp as written, its fields not yet checked. -/
structure WrittenTimestamp where
  date : WrittenDate
  time : WrittenTime
  offset : Option Int
  deriving DecidableEq, Repr

/-- The fields of a text in one of the accepted forms. -/
def written? (cs : List Char) : Option WrittenTimestamp := do
  if cs.length < 7 then none
  let length ← dateLength? cs
  let date ← date? (cs.take length)
  match cs.drop length with
  | [] => some ⟨date, ⟨0, 0, 0, 0, true⟩, none⟩
  | _ :: cs =>
    let before := cs.takeWhile fun c => !startsOffset c
    let after := cs.dropWhile fun c => !startsOffset c
    let time ← time? before
    let offset ← offset? after
    if offset.isNone ∧ ¬ time.complete then none
    some ⟨date, time, offset⟩

end Reader

/-- The date with the given year, month and day; the first of them out of range is the error. -/
def WrittenDate.check (d : WrittenDate) : Except TimestampError Date :=
  if hy : 1 ≤ d.year ∧ d.year ≤ 9999 then
    if hm : 1 ≤ d.month ∧ d.month ≤ 12 then
      if hd : 1 ≤ d.day ∧ d.day ≤ daysInMonth d.year d.month then
        .ok ⟨d.year, d.month, d.day, hy, hm, hd⟩
      else .error .day
    else .error .month
  else .error (.year d.year)

/-- The time of day with the given fields; the first of them out of range is the error. -/
def Reader.WrittenTime.check (t : Reader.WrittenTime) : Except TimestampError TimeOfDay :=
  if hh : t.hour < 24 then
    if hm : t.minute < 60 then
      if hs : t.second < 60 then
        if hu : t.micro < 1000000 then .ok ⟨t.hour, t.minute, t.second, t.micro, hh, hm, hs, hu⟩
        else .error .second
      else .error .second
    else .error .minute
  else .error .hour

/-- An offset of less than a day. -/
def UtcOffset.ofMicros (micros : Int) : Except TimestampError UtcOffset :=
  if h : -(dayMicros : Int) < micros ∧ micros < dayMicros then .ok ⟨micros, h⟩
  else .error (.offset micros)

/-- Reads a timestamp. The offset is checked first, then the date, then the time. -/
def Timestamp.read (text : String) : Except TimestampError Timestamp := do
  match Reader.written? text.toList with
  | none => .error (.malformed text)
  | some w =>
    let offset ← w.offset.mapM UtcOffset.ofMicros
    let date ← w.date.check
    let time ← w.time.check
    .ok ⟨date, time, offset⟩

namespace TimestampError

/-- The text of a refusal. -/
def message : TimestampError → String
  | .malformed text => s!"Invalid isoformat string: {Text.quoted text}"
  | .offset micros =>
    "offset must be a timedelta strictly between -timedelta(hours=24) and timedelta(hours=24), " ++
      s!"not datetime.timedelta({spanFields micros})."
  | .year y => s!"year {y} is out of range"
  | .month => "month must be in 1..12"
  | .day => "day is out of range for month"
  | .hour => "hour must be in 0..23"
  | .minute => "minute must be in 0..59"
  | .second => "second must be in 0..59"

end TimestampError

end CanaryRelease
