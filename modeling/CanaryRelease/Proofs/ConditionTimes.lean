import CanaryRelease.Proofs.TimestampTexts
import CanaryRelease.Rollout.Condition

/-!
# Times that survive their texts

A manifest that goes over the wire has its timestamps as text, and a condition has the time of its
last change from that. It is the time that the typed object would have given
(`Condition.since_find_wire`), and a time that was once read of a text stays the same however often
it is written and read (`timestamps_survive_writing`).
-/

namespace CanaryRelease

/-! ## Values -/

namespace Value

theorem text_render_ne (t : Timestamp) : String.ofList (t.render 'T') ≠ "" := by
  intro empty
  have chars := congrArg (fun s : String => s.toList.length) empty
  rw [String.toList_ofList, Reader.render_eq] at chars
  simp at chars

theorem toTimestamp?_text {s : String} (h : s ≠ "") {read : Option Timestamp} :
    (text s).toTimestamp? = .ok read ↔ ∃ t, Timestamp.read s = .ok t ∧ read = some t.zoned := by
  unfold toTimestamp?
  split
  · rename_i null
    cases null
  · rename_i empty
    exact absurd (Value.text.inj empty) h
  · rename_i time
    cases time
  · rw [show (text s).display = s from rfl]
    cases Timestamp.read s with
    | ok t => simp [eq_comm]
    | error e => simp

theorem toTimestamp?_wire {t : Timestamp} (h : t.Legible) :
    (time t).wire.toTimestamp? = .ok (some t.zoned) :=
  (toTimestamp?_text (text_render_ne t)).mpr ⟨t, Timestamp.read_render 'T' h, rfl⟩

/-- What stands where a condition says when it changed: a timestamp of a typed object, or something
that is in the form of the wire. -/
def IsMoment (v : Value) : Prop := v.wire = v ∨ ∃ t, v = time t ∧ t.InSeconds

theorem IsMoment.toTimestamp?_wire {v : Value} (h : v.IsMoment) :
    v.wire.toTimestamp? = v.toTimestamp? := by
  obtain same | ⟨t, rfl, seconds⟩ := h
  · rw [same]
  · exact Value.toTimestamp?_wire seconds.legible

end Value

/-! ## Conditions -/

namespace Condition

open Value

/-- An entry is a condition as the API has it, in a typed object or in the form of the wire. -/
structure IsEntry (entry : Value) : Prop where
  object : ∃ fs : Fields, entry = .object fs
  type : ∀ x, entry.at? ["type"] = some x → x.wire = x
  moment : ∀ x, entry.at? ["lastTransitionTime"] = some x → x.IsMoment

variable {entry type : Value} {entries : List Value}

theorem IsEntry.get_type_wire (h : IsEntry entry) : entry.wire.get "type" = entry.get "type" := by
  obtain ⟨⟨fs, rfl⟩, named, -⟩ := h
  rw [at?_object_singleton] at named
  change Except.ok ((Fields.get? (wireFields fs) "type").getD .null) =
    Except.ok ((fs.get? "type").getD .null)
  rw [Value.get?_wireFields]
  cases found : fs.get? "type" with
  | none => rfl
  | some x => rw [Option.map_some, named x found]

theorem findEntry_wire (h : ∀ entry ∈ entries, IsEntry entry) :
    findEntry type (Value.wireItems entries) =
      Option.map Value.wire <$> findEntry type entries := by
  induction entries with
  | nil => rfl
  | cons entry entries ih =>
    have rest := ih fun entry mem => h entry (List.mem_cons_of_mem _ mem)
    rw [Value.wireItems, findEntry, findEntry, (h entry List.mem_cons_self).get_type_wire, rest]
    cases entry.get "type" with
    | error e => rfl
    | ok x =>
      simp only [bind, Except.bind]
      split
      · rfl
      · rfl

theorem mem_of_findEntry (h : findEntry type entries = .ok (some entry)) : entry ∈ entries := by
  induction entries with
  | nil => cases h
  | cons first entries ih =>
    unfold findEntry at h
    obtain ⟨x, -, h⟩ := bind_eq_ok.mp h
    split at h
    · obtain ⟨⟩ := h
      exact List.mem_cons_self
    · exact List.mem_cons_of_mem _ (ih h)

theorem since_ofEntry_wire (h : IsEntry entry) :
    Condition.since <$> ofEntry type entry.wire = Condition.since <$> ofEntry type entry := by
  obtain ⟨⟨fs, rfl⟩, -, moment⟩ := h
  have since (gs : Fields) : Condition.since <$> ofEntry type (.object gs) =
      ((gs.get? "lastTransitionTime").getD .null).toTimestamp? := by
    change Except.map _ (Except.map (Condition.mk type _ _)
      (((gs.get? "lastTransitionTime").getD .null).toTimestamp?)) = _
    cases ((gs.get? "lastTransitionTime").getD .null).toTimestamp? with
    | error e => rfl
    | ok t => rfl
  rw [at?_object_singleton] at moment
  rw [wire, since, since, get?_wireFields]
  cases found : fs.get? "lastTransitionTime" with
  | none => rfl
  | some x => exact (moment x found).toTimestamp?_wire

/-- Conditions tell one time, whether they come with timestamps or in the form of the wire. -/
theorem since_find_wire (h : ∀ entry ∈ entries, IsEntry entry) :
    Option.map Condition.since <$> Condition.find (Value.list entries).wire type =
      Option.map Condition.since <$> Condition.find (.list entries) type := by
  have elements (items : List Value) :
      ((Value.list items).orElse (.list [])).elements = .ok items := by cases items <;> rfl
  unfold Condition.find
  rw [wire, elements, elements]
  change Option.map since <$> (findEntry type (wireItems entries) >>= Option.mapM (ofEntry type)) =
    Option.map since <$> (findEntry type entries >>= Option.mapM (ofEntry type))
  rw [findEntry_wire h]
  cases found : findEntry type entries with
  | error e => rfl
  | ok entry =>
    cases entry with
    | none => rfl
    | some entry =>
      have apart (x : Except Failure Condition) :
          Option.map since <$> (some <$> x) = some <$> (since <$> x) := by cases x <;> rfl
      change Option.map since <$> (some <$> ofEntry type entry.wire) =
        Option.map since <$> (some <$> ofEntry type entry)
      rw [apart, apart, since_ofEntry_wire (h entry (mem_of_findEntry found))]

end Condition

/-! ## What survives -/

/-- Timestamps survive their texts. A typed timestamp is written in the extended form, which stands
for the same time, and so do the conditions that hold it. Whatever time is read of a text has the
fields that are written there and a zone, and is read again of its own text; a week and a day of it
are read as the day that they are counted to. -/
theorem timestamps_survive_writing :
    (∀ t : Timestamp, (Value.time t).wire = .text (String.ofList (t.render 'T'))) ∧
    (∀ t : Timestamp, t.InSeconds →
      (Value.time t).wire.toTimestamp? = (Value.time t).toTimestamp? ∧
        (Value.time t).toTimestamp? = .ok (some t.zoned)) ∧
    (∀ (type : Value) (entries : List Value), (∀ entry ∈ entries, Condition.IsEntry entry) →
      Option.map Condition.since <$> Condition.find (Value.list entries).wire type =
        Option.map Condition.since <$> Condition.find (.list entries) type) ∧
    (∀ (s : String) (read : Option Timestamp), (Value.text s).toTimestamp? = .ok read →
      s = "" ∧ read = none ∨
      ∃ t, read = some t ∧ (Value.time t).wire.toTimestamp? = .ok (some t) ∧
        ∃ written, Timestamp.IsWritten s t written ∧
          t.offset.map UtcOffset.micros = some (written.getD 0)) ∧
    ∀ (year week day : Nat) (w : WrittenDate), dateOfWeekDay? year week day = some w →
      (∀ d, w.check = .ok d → 1 ≤ year ∧ d.dayNumber = weekDayNumber year week day) ∧
        (1 ≤ year → weekDayNumber year week day < Date.dayCount → ∃ d, w.check = .ok d) := by
  refine ⟨fun _ => rfl, fun t seconds => ?_, fun type entries formed => Condition.since_find_wire formed,
    fun s read ok => ?_, fun year week day w named => ?_⟩
  · exact ⟨Value.toTimestamp?_wire seconds.legible, rfl⟩
  · by_cases empty : s = ""
    · subst empty
      exact .inl ⟨rfl, (Except.ok.inj ok).symm⟩
    · right
      obtain ⟨t, parsed, rfl⟩ := (Value.toTimestamp?_text empty).mp ok
      refine ⟨t.zoned, rfl, ?_, t.offset.map UtcOffset.micros, ⟨?_⟩, ?_⟩
      · exact Value.toTimestamp?_wire (Timestamp.legible_of_read parsed).zoned
      · exact (Timestamp.written_of_read parsed).fields
      · change some (t.offset.getD .zero).micros = _
        cases t.offset with
        | none => rfl
        | some o => rfl
  · constructor
    · intro d ok
      cases year with
      | zero =>
        rw [check_of_dateOfWeekDay?_zero named] at ok
        cases ok
      | succ year =>
        exact ⟨Nat.le_add_left 1 year,
          (names_of_dateOfWeekDay? (Nat.le_add_left 1 year) named).dayNumber d ok⟩
    · exact fun first within => (names_of_dateOfWeekDay? first named).onCalendar within

/-- The last day of the last week of 2020, half a minute behind UTC, with more digits of a second
than are kept. -/
def sampleWeekText : String := "2020-W53-7T23:59:59,1234567-00:00:30"

/-- What it is read as: the third day of 2021. -/
def sampleWeekTime : Timestamp :=
  ⟨⟨2021, 1, 3, by decide⟩, ⟨23, 59, 59, 123456, by decide⟩, some ⟨-30000000, by decide⟩⟩

theorem sampleWeekTime_survives :
    (Value.text sampleWeekText).toTimestamp? = .ok (some sampleWeekTime) ∧
    (Value.time sampleWeekTime).wire = .text "2021-01-03T23:59:59.123456-00:00:30" ∧
    (Value.time sampleWeekTime).wire.toTimestamp? = .ok (some sampleWeekTime) ∧
    sampleWeekTime.InSeconds ∧ sampleWeekTime.date.dayNumber = weekDayNumber 2020 53 7 := by
  have read : (Value.text sampleWeekText).toTimestamp? = .ok (some sampleWeekTime) := by
    decide +kernel
  have seconds : sampleWeekTime.InSeconds := by
    rintro o ⟨⟩
    decide
  obtain ⟨written, -, -, texts, weeks⟩ := timestamps_survive_writing
  refine ⟨read, (written sampleWeekTime).trans (by decide +kernel), ?_, seconds, ?_⟩
  · obtain ⟨-, ⟨⟩⟩ | ⟨_, ⟨⟩, again, -⟩ := texts _ _ read
    exact again
  · exact ((weeks 2020 53 7 ⟨2021, 1, 3⟩ (by decide)).1 sampleWeekTime.date (by decide)).2

end CanaryRelease
