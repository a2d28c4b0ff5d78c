import CanaryRelease.Proofs.Places
import CanaryRelease.Proofs.WeekDates
import Mathlib.Algebra.Group.Nat.Defs

/-!
# Timestamps and their texts

A timestamp that is written in the extended form and read again is the same
(`Timestamp.read_render`), but for distances from UTC of less than a second, which no text keeps
(`UtcOffset.Legible`). Whatever text a timestamp was read from, it has no such distance
(`Timestamp.legible_of_read`), so it can be written and read over again.

The proof follows the reader: numbers of a fixed width first, then dates, times and offsets, each
read as it was written whatever comes after it.
-/

namespace CanaryRelease

open Text

namespace Reader

/-! ## Numbers -/

theorem digit?_ofNat {d : Nat} (h : d < 10) : digit? (Char.ofNat (48 + d)) = some d := by
  have digits : ∀ d : Fin 10, digit? (Char.ofNat (48 + d.val)) = some d.val := by decide
  exact digits ⟨d, h⟩

theorem number?_add (m n acc : Nat) (cs : List Char) :
    number? (m + n) acc cs = (number? m acc cs).bind fun read => number? n read.1 read.2 := by
  induction m generalizing acc cs with
  | zero => rw [Nat.zero_add]; rfl
  | succ m ih =>
    rw [Nat.add_right_comm]
    cases cs with
    | nil => rfl
    | cons c cs =>
      simp only [number?]
      cases digit? c with
      | none => rfl
      | some d => exact ih _ _

theorem number?_padded {width n : Nat} (h : n < 10 ^ width) (acc : Nat) (rest : List Char) :
    number? width acc (padded width n ++ rest) = some (acc * 10 ^ width + n, rest) := by
  induction width generalizing n acc rest with
  | zero =>
    obtain rfl : n = 0 := by omega
    simp [number?, padded]
  | succ width ih =>
    rw [Nat.pow_succ] at h ⊢
    have front : n / 10 < 10 ^ width := by omega
    have last : digit? (Char.ofNat (48 + n % 10)) = some (n % 10) :=
      digit?_ofNat (Nat.mod_lt _ (by decide))
    have value : 10 * (acc * 10 ^ width + n / 10) + n % 10 = acc * (10 ^ width * 10) + n := by
      rw [← Nat.mul_assoc]
      omega
    rw [padded, List.append_assoc, number?_add, ih front, Option.bind_some, List.cons_append,
      List.nil_append, number?, last]
    exact congrArg (fun n => some (n, rest)) value

theorem number?_padded_nil {width n : Nat} (h : n < 10 ^ width) :
    number? width 0 (padded width n) = some (n, []) := by
  simpa using number?_padded h 0 []

theorem ne_of_mem_padded {width n : Nat} {c d : Char} (mem : c ∈ padded width n)
    (h : digit? d = none) : c ≠ d := by
  induction width generalizing n with
  | zero => cases mem
  | succ width ih =>
    rcases List.mem_append.mp mem with front | last
    · exact ih front
    · rintro rfl
      obtain rfl := List.mem_singleton.mp last
      rw [digit?_ofNat (Nat.mod_lt _ (by decide))] at h
      cases h

theorem exists_padded_cons (width n : Nat) : ∃ c cs, padded (width + 1) n = c :: cs := by
  cases h : padded (width + 1) n with
  | nil =>
    have length := length_padded (width + 1) n
    rw [h] at length
    cases length
  | cons c cs => exact ⟨c, cs, rfl⟩

/-! ## Dates -/

theorem daysInMonth_le (year month : Nat) : daysInMonth year month ≤ 31 := by
  unfold daysInMonth
  split
  · split <;> decide
  all_goals decide

theorem date?_render (d : Date) : date? d.render = some ⟨d.year, d.month, d.day⟩ := by
  obtain ⟨⟨-, year⟩, ⟨-, month⟩, ⟨-, day⟩⟩ := d.valid
  have longest := daysInMonth_le d.year d.month
  obtain ⟨c, cs, first⟩ := exists_padded_cons 1 d.month
  have no_week : c ≠ 'W' :=
    ne_of_mem_padded (by rw [first]; exact List.mem_cons_self) (by decide)
  unfold date? Date.render
  rw [List.append_assoc, number?_padded (by omega)]
  simp only [Option.bind_eq_bind, Option.bind_some, List.cons_append, List.head?_cons,
    decide_true, if_true, List.tail_cons]
  rw [first, List.cons_append]
  split
  · rename_i h
    exact absurd (List.cons.inj h).1 no_week
  · rw [← List.cons_append, ← first]
    unfold monthAndDay?
    rw [number?_padded (by omega)]
    simp only [Option.bind_eq_bind, Option.bind_some]
    rw [number?_padded_nil (by omega)]
    simp

/-! ## Times -/

theorem continuation?_colon (width n : Nat) (rest : List Char) :
    continuation? true (':' :: (padded (width + 1) n ++ rest)) =
      some (.field (padded (width + 1) n ++ rest)) := by
  obtain ⟨c, cs, digits⟩ := exists_padded_cons width n
  rw [digits]
  rfl

theorem continuation?_point (colons : Bool) (width n : Nat) :
    continuation? colons ('.' :: padded (width + 1) n) =
      some (.fraction (padded (width + 1) n)) := by
  obtain ⟨c, cs, digits⟩ := exists_padded_cons width n
  rw [digits]
  cases colons <;> rfl

theorem fraction?_padded {hour minute second micro : Nat} (h : micro < 1000000) :
    fraction? hour minute second (padded 6 micro) = some ⟨hour, minute, second, micro, true⟩ := by
  have digits : number? 6 0 (padded 6 micro) = some (micro, []) := number?_padded_nil h
  simp [fraction?, digits, isOver]

theorem time?_clock {hour minute second micro : Nat} (hh : hour < 100) (hm : minute < 100)
    (hs : second < 100) (hu : micro < 1000000) :
    time? (clockDigits hour minute second ++ fractionDigits micro) =
      some ⟨hour, minute, second, micro, true⟩ := by
  unfold time? clockDigits
  simp only [List.append_assoc, List.cons_append]
  rw [number?_padded hh]
  simp only [Option.bind_eq_bind, Option.bind_some, List.head?_cons, decide_true,
    continuation?_colon]
  rw [number?_padded hm]
  simp only [Option.bind_some, continuation?_colon]
  rw [number?_padded hs]
  unfold fractionDigits
  by_cases whole : micro = 0
  · simp [continuation?, whole]
  · simp [whole, continuation?_point, fraction?_padded hu]

theorem time?_hourMinute {hour minute : Nat} (hh : hour < 100) (hm : minute < 100) :
    time? (padded 2 hour ++ ':' :: padded 2 minute) = some ⟨hour, minute, 0, 0, true⟩ := by
  have minutes := continuation?_colon 1 minute []
  rw [List.append_nil] at minutes
  unfold time?
  rw [number?_padded hh]
  simp only [Option.bind_eq_bind, Option.bind_some, List.head?_cons, decide_true, minutes]
  rw [number?_padded_nil hm]
  simp [continuation?]

end Reader

/-! ## Offsets -/

namespace UtcOffset

/-- An offset that a text keeps: of one that is less than a second nothing is left when it is
read. -/
def Legible (o : UtcOffset) : Prop := o.micros = 0 ∨ 1000000 ≤ o.micros.natAbs

theorem legible_of_seconds {o : UtcOffset} (h : o.micros % 1000000 = 0) : o.Legible := by
  unfold Legible
  omega

theorem render_eq_cons (o : UtcOffset) :
    o.render = (if o.micros < 0 then '-' else '+') :: o.render.tail := rfl

end UtcOffset

/-- A timestamp that a text keeps. -/
def Timestamp.Legible (t : Timestamp) : Prop := ∀ o, t.offset = some o → o.Legible

namespace Reader

/-- The microseconds of an offset of a size: one of less than a second counts as none. -/
def WrittenTime.size (t : WrittenTime) : Nat :=
  let seconds := t.hour * 3600 + t.minute * 60 + t.second
  if seconds = 0 then 0 else seconds * 1000000 + t.micro

theorem offset?_sign {sign : Char} {cs : List Char} {t : WrittenTime} (h : sign ≠ 'Z')
    (read : time? cs = some t) (complete : t.complete = true) :
    offset? (sign :: cs) = some (some (if sign = '-' then -(t.size : Int) else t.size)) := by
  have size : (if t.hour * 3600 + t.minute * 60 + t.second = 0 then 0 else
      (((t.hour * 3600 + t.minute * 60 + t.second) * 1000000 + t.micro : Nat) : Int)) = t.size := by
    unfold WrittenTime.size
    dsimp only
    split
    · rfl
    · rfl
  unfold offset?
  split
  · rename_i none
    cases none
  · rename_i same
    exact absurd (List.cons.inj same).1 h
  · rename_i same
    obtain ⟨rfl, rfl⟩ := List.cons.inj same
    rw [read]
    dsimp only
    rw [if_pos complete, size]

theorem offset?_render {o : UtcOffset} (h : o.Legible) :
    offset? o.render = some (some o.micros) := by
  obtain ⟨low, high⟩ := o.valid
  have small : o.micros.natAbs < 86400000000 := by
    unfold dayMicros at low high
    omega
  have read : time? o.render.tail = some ⟨o.micros.natAbs / 1000000 / 3600,
      o.micros.natAbs / 1000000 / 60 % 60, o.micros.natAbs / 1000000 % 60,
      o.micros.natAbs % 1000000, true⟩ := by
    unfold UtcOffset.render
    dsimp only [List.tail_cons]
    split
    · rename_i short
      rw [time?_hourMinute (by omega) (by omega), short.1, short.2]
    · exact time?_clock (by omega) (by omega) (by omega) (by omega)
  have size : WrittenTime.size ⟨o.micros.natAbs / 1000000 / 3600,
      o.micros.natAbs / 1000000 / 60 % 60, o.micros.natAbs / 1000000 % 60,
      o.micros.natAbs % 1000000, true⟩ = o.micros.natAbs := by
    unfold UtcOffset.Legible at h
    unfold WrittenTime.size
    dsimp only
    split
    · omega
    · omega
  rw [o.render_eq_cons, offset?_sign (by split <;> decide) read rfl, size]
  congr 2
  by_cases negative : o.micros < 0
  · rw [if_pos negative, if_pos rfl]
    omega
  · rw [if_neg negative, if_neg (by decide)]
    omega

theorem legible_of_offset? {cs : List Char} {o : UtcOffset}
    (h : offset? cs = some (some o.micros)) : o.Legible := by
  unfold UtcOffset.Legible
  unfold offset? at h
  split at h
  · cases h
  · split at h
    · exact .inl (Option.some.inj (Option.some.inj h)).symm
    · cases h
  · split at h
    · dsimp only at h
      split at h
      · have value := Option.some.inj (Option.some.inj h)
        rename_i t _ _
        by_cases none : t.hour * 3600 + t.minute * 60 + t.second = 0
        · rw [if_pos none] at value
          left
          split at value <;> omega
        · rw [if_neg none] at value
          right
          split at value <;> omega
      · cases h
    · cases h

/-! ## Timestamps -/

theorem startsOffset_padded {width n : Nat} {c : Char} (h : c ∈ padded width n) :
    startsOffset c = false := by
  have plus := ne_of_mem_padded h (d := '+') (by decide)
  have minus := ne_of_mem_padded h (d := '-') (by decide)
  have zulu := ne_of_mem_padded h (d := 'Z') (by decide)
  simp [startsOffset, plus, minus, zulu]

theorem startsOffset_clock {hour minute second micro : Nat} {c : Char}
    (h : c ∈ clockDigits hour minute second ++ fractionDigits micro) : startsOffset c = false := by
  unfold clockDigits fractionDigits at h
  simp only [List.mem_append, List.mem_cons] at h
  rcases h with ((digit | rfl | digit) | rfl | digit) | fraction
  · exact startsOffset_padded digit
  · decide
  · exact startsOffset_padded digit
  · decide
  · exact startsOffset_padded digit
  · split at fraction
    · cases fraction
    · rcases List.mem_cons.mp fraction with rfl | digit
      · decide
      · exact startsOffset_padded digit

theorem dateLength?_render (d : Date) (rest : List Char) :
    dateLength? (d.render ++ rest) = some 10 := by
  have first : Char.ofNat (48 + d.month / 10 % 10) ∈ padded 2 d.month := List.mem_cons_self
  have no_week : Char.ofNat (48 + d.month / 10 % 10) ≠ 'W' := ne_of_mem_padded first (by decide)
  have fourth : (d.render ++ rest)[4]? = some '-' := rfl
  have fifth : (d.render ++ rest)[5]? = some (Char.ofNat (48 + d.month / 10 % 10)) := rfl
  have length : (d.render ++ rest).length ≠ 7 := by
    simp [Date.render]
    omega
  unfold dateLength?
  rw [if_neg length, if_pos fourth, fifth, if_neg (by simpa using no_week)]

/-- The end of a written timestamp: its offset, if it has one. -/
def zoneDigits : Option UtcOffset → List Char
  | none => []
  | some o => o.render

theorem render_eq (between : Char) (t : Timestamp) :
    t.render between = t.date.render ++ between ::
      (clockDigits t.time.hour t.time.minute t.time.second ++ fractionDigits t.time.micro ++
        zoneDigits t.offset) := by
  unfold Timestamp.render
  cases t.offset <;> simp [zoneDigits]

theorem written?_render {t : Timestamp} (between : Char) (h : t.Legible) :
    written? (t.render between) = some ⟨⟨t.date.year, t.date.month, t.date.day⟩,
      ⟨t.time.hour, t.time.minute, t.time.second, t.time.micro, true⟩,
      t.offset.map UtcOffset.micros⟩ := by
  obtain ⟨hour, minute, second, micro⟩ := t.time.valid
  have date : date? t.date.render = _ := date?_render t.date
  have time : time? (clockDigits t.time.hour t.time.minute t.time.second ++
      fractionDigits t.time.micro) = _ := time?_clock (by omega) (by omega) (by omega) micro
  have clock : ∀ c ∈ clockDigits t.time.hour t.time.minute t.time.second ++
      fractionDigits t.time.micro, (!startsOffset c) = true := fun c hc => by
    rw [startsOffset_clock hc]
    rfl
  have length : t.date.render.length = 10 := by simp [Date.render]
  unfold written?
  rw [render_eq, dateLength?_render, if_neg (by rw [List.length_append, length]; omega)]
  simp only [Option.bind_eq_bind, Option.bind_some]
  rw [List.take_left' length, List.drop_left' length, date]
  simp only [Option.bind_some]
  rw [List.takeWhile_append_of_pos clock, List.dropWhile_append_of_pos clock]
  cases zone : t.offset with
  | none => simp [zoneDigits, time, offset?]
  | some o =>
    have starts : startsOffset (if o.micros < 0 then '-' else '+') = true := by
      split <;> decide
    rw [zoneDigits, o.render_eq_cons, List.takeWhile_cons_of_neg (by simp [starts]),
      List.dropWhile_cons_of_neg (by simp [starts]), ← o.render_eq_cons, List.append_nil, time,
      offset?_render (h o zone)]
    rfl

end Reader

theorem Reader.WrittenTime.check_eq_ok {w : Reader.WrittenTime} {t : TimeOfDay} :
    w.check = .ok t ↔ w = ⟨t.hour, t.minute, t.second, t.micro, w.complete⟩ := by
  constructor
  · intro h
    unfold check at h
    split at h
    · split at h
      · split at h
        · split at h
          · obtain rfl := Except.ok.inj h
            rfl
          · cases h
        · cases h
      · cases h
    · cases h
  · intro h
    obtain ⟨hour, minute, second, micro⟩ := t.valid
    rw [h]
    simp [check, hour, minute, second, micro]

theorem UtcOffset.ofMicros_micros (o : UtcOffset) : UtcOffset.ofMicros o.micros = .ok o := by
  simp [UtcOffset.ofMicros, o.valid]

theorem UtcOffset.mapM_ofMicros_eq_ok {written : Option Int} {offset : Option UtcOffset}
    (h : written.mapM UtcOffset.ofMicros = .ok offset) :
    offset.map UtcOffset.micros = written := by
  cases written with
  | none =>
    obtain rfl : none = offset := Except.ok.inj h
    rfl
  | some micros =>
    rw [Option.mapM_some, UtcOffset.ofMicros] at h
    split at h
    · obtain rfl := Except.ok.inj h
      rfl
    · cases h

namespace Timestamp

/-- Reading undoes writing. -/
theorem read_render {t : Timestamp} (between : Char) (h : t.Legible) :
    Timestamp.read (String.ofList (t.render between)) = .ok t := by
  obtain ⟨date, time, offset⟩ := t
  unfold Timestamp.read
  rw [String.toList_ofList, Reader.written?_render between h]
  dsimp only
  rw [WrittenDate.check_eq_ok.mpr rfl, Reader.WrittenTime.check_eq_ok.mpr rfl]
  cases offset with
  | none => rfl
  | some o =>
    rw [Option.map_some, Option.mapM_some, UtcOffset.ofMicros_micros]
    rfl

theorem offset_of_written? {cs : List Char} {w : Reader.WrittenTimestamp} {micros : Int}
    (h : Reader.written? cs = some w) (zone : w.offset = some micros) :
    ∃ rest, Reader.offset? rest = some (some micros) := by
  unfold Reader.written? at h
  split at h
  · cases h
  · simp only [Option.bind_eq_bind, Option.bind_eq_some_iff] at h
    obtain ⟨length, -, date, -, h⟩ := h
    split at h
    · obtain rfl := Option.some.inj h
      cases zone
    · simp only [Option.bind_eq_some_iff] at h
      obtain ⟨time, -, offset, read, h⟩ := h
      split at h
      · cases h
      · obtain rfl := Option.some.inj h
        obtain rfl : offset = some micros := zone
        exact ⟨_, read⟩

/-- A timestamp has the fields that are written in a text. -/
structure IsWritten (text : String) (t : Timestamp) (offset : Option Int) : Prop where
  fields : ∃ complete, Reader.written? text.toList =
    some ⟨⟨t.date.year, t.date.month, t.date.day⟩,
      ⟨t.time.hour, t.time.minute, t.time.second, t.time.micro, complete⟩, offset⟩

theorem written_of_read {text : String} {t : Timestamp} (h : Timestamp.read text = .ok t) :
    IsWritten text t (t.offset.map UtcOffset.micros) := by
  unfold Timestamp.read at h
  split at h
  · cases h
  · rename_i w written
    simp only [Value.bind_eq_ok] at h
    obtain ⟨offset, ho, date, hd, time, ht, ⟨⟩⟩ := h
    refine ⟨w.time.complete, ?_⟩
    rw [written, UtcOffset.mapM_ofMicros_eq_ok ho, ← WrittenDate.check_eq_ok.mp hd,
      ← Reader.WrittenTime.check_eq_ok.mp ht]

theorem legible_of_read {text : String} {t : Timestamp} (h : Timestamp.read text = .ok t) :
    t.Legible := by
  intro o zone
  obtain ⟨_, written⟩ := (written_of_read h).fields
  obtain ⟨rest, read⟩ := offset_of_written? written (by rw [zone, Option.map_some])
  exact Reader.legible_of_offset? read

theorem Legible.zoned {t : Timestamp} (h : t.Legible) : t.zoned.Legible := by
  rintro o ⟨⟩
  cases zone : t.offset with
  | none => exact .inl rfl
  | some o => exact h o zone

/-- A timestamp as a typed object has it: its distance from UTC, if it has one, is a number of
seconds. -/
def InSeconds (t : Timestamp) : Prop := ∀ o, t.offset = some o → o.micros % 1000000 = 0

theorem InSeconds.legible {t : Timestamp} (h : t.InSeconds) : t.Legible := fun o zone =>
  UtcOffset.legible_of_seconds (h o zone)

end Timestamp

end CanaryRelease
