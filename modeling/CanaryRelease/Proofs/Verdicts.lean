import CanaryRelease.Proofs.Calendar
import CanaryRelease.Proofs.Staleness

/-!
# Verdicts on rollouts

What the rules of readiness come to when they are taken together. A rollout is ready if its latest
generation was observed, it was not given up, and its counts are satisfied; it is fatal if it was
observed and was given up, or its counts are not satisfied and it has been short of replicas for
longer than the deadline (`FollowsRules`). The time is compared in whole microseconds of one line of
instants, so it does not matter in which zones times are written.

The deadline is added before the counts are looked at, and on the calendar. If the sum does not lie
on it there is no verdict, not even for a rollout that is complete, and neither is there if the sum
cannot be compared with the clock (`readiness_eq_error_iff`); in all other cases there is one, and
the rules determine it (`verdict_follows_rules`).
-/

namespace CanaryRelease

open Value

/-! ## Integers as values -/

namespace Value

theorem int_less (a b : Int) : (Value.int a).less (.int b) = .ok (decide (a < b)) := by
  have rational : ((a : Rat) < b) ↔ a < b := Rat.intCast_lt_intCast
  simp [less, less?, quantity?, toKey?, Key.quantity?, Quantity.less, rational]

theorem int_minus (a b : Int) : (Value.int a).minus (.int b) = .ok (.int (a - b)) := by
  have whole : ((a : Rat) - b).num = a - b := by
    rw [← Rat.intCast_sub, Rat.num_intCast]
  simp [minus, quantity?, toKey?, Key.quantity?, whole]

end Value

/-! ## What the rules are about -/

/-- The counts of a rollout; the declared one may be missing. -/
structure RolloutCounts where
  generation : Int
  observed : Int
  desired : Option Int
  updated : Int
  total : Int
  available : Int

namespace RolloutCounts

/-- The status is about the latest generation. -/
def Observed (n : RolloutCounts) : Prop := n.generation ≤ n.observed

/-- All declared replicas are updated, none of an older revision are left, and all updated ones
serve. -/
structure Satisfied (n : RolloutCounts) : Prop where
  updated : ∀ desired ∈ n.desired, desired ≤ n.updated
  total : n.total ≤ n.updated
  available : n.updated ≤ n.available

end RolloutCounts

namespace RolloutStatus

variable {status : RolloutStatus} {n : RolloutCounts} {deadline : Int} {now since : Timestamp}

/-- The counts of a status are integers. -/
structure HasCounts (status : RolloutStatus) (n : RolloutCounts) : Prop where
  generation : status.generation = .int n.generation
  observed : status.observedGeneration = .int n.observed
  desired : status.desired = (n.desired.map Value.int).getD .null
  updated : status.updated = .int n.updated
  total : status.total = .int n.total
  available : status.available = .int n.available

/-- The rollout was given up. -/
def Exceeded (status : RolloutStatus) : Prop :=
  ∃ condition, status.progressing = some condition ∧ condition.reason = deadlineExceeded

/-- The workload has been short of replicas since a time. -/
def ShortSince (status : RolloutStatus) (since : Timestamp) : Prop :=
  ∃ condition, status.availability = some condition ∧ condition.status = "False" ∧
    condition.reason = shortOfReplicas ∧ condition.since = some since

/-- The deadline of a workload that is short of replicas lies on the calendar. -/
def OnCalendar (status : RolloutStatus) (deadline : Int) : Prop :=
  ∀ since, status.ShortSince since → ∃ limit, since.IsMoved deadline limit

/-- The time since which the workload has been short of replicas can be compared with a clock: both
have a zone, or neither has one. -/
def ComparesWith (status : RolloutStatus) (now : Timestamp) : Prop :=
  ∀ since, status.ShortSince since → since.offset.isSome = now.offset.isSome

/-- The workload has been short of replicas for longer than the deadline. -/
def Overdue (status : RolloutStatus) (deadline : Int) (now : Timestamp) : Prop :=
  ∃ since, status.ShortSince since ∧ since.instant + deadline * 1000000 < now.instant

/-- The deadline has to be added, and the sum does not lie on the calendar. -/
def Overflows (status : RolloutStatus) (n : RolloutCounts) (deadline : Int) : Prop :=
  n.Observed ∧ ¬ status.Exceeded ∧ ¬ status.OnCalendar deadline

/-- A verdict is what the rules say. -/
structure FollowsRules (status : RolloutStatus) (n : RolloutCounts) (deadline : Int)
    (now : Timestamp) (verdict : Verdict) : Prop where
  ready : verdict = .ready ↔ n.Observed ∧ ¬ status.Exceeded ∧ n.Satisfied
  fatal : verdict = .fatal ↔ n.Observed ∧
    (status.Exceeded ∨ ¬ n.Satisfied ∧ status.Overdue deadline now)
  retryable : verdict = .retryable ↔ ¬ (n.Observed ∧ ¬ status.Exceeded ∧ n.Satisfied) ∧
    ¬ (n.Observed ∧ (status.Exceeded ∨ ¬ n.Satisfied ∧ status.Overdue deadline now))

/-- The status with the times of its conditions written otherwise. -/
def rewritten (status : RolloutStatus) (write : Timestamp → Timestamp) : RolloutStatus :=
  let change (condition : Condition) := { condition with since := condition.since.map write }
  { status with
    progressing := status.progressing.map change
    availability := status.availability.map change }

/-- The readiness of an observed rollout that was not given up, by what it waits for. -/
def ofPending (what : Option String) (stuck : Bool) : Readiness :=
  match what with
  | some what =>
    ⟨if stuck then .fatal else .retryable, "waiting for rollout to finish: " ++ what⟩
  | none => ⟨.ready, ""⟩

/-! ## Each rule -/

theorem exceeded_iff :
    status.progressing.map Condition.reason = some deadlineExceeded ↔ status.Exceeded := by
  rw [Option.map_eq_some_iff]
  rfl

theorem ShortSince.unique {other : Timestamp} (h : status.ShortSince since)
    (h' : status.ShortSince other) : since = other := by
  obtain ⟨condition, found, -, -, time⟩ := h
  obtain ⟨_, found', -, -, time'⟩ := h'
  obtain rfl := Option.some.inj (found.symm.trans found')
  exact Option.some.inj (time.symm.trans time')

theorem isStuck_of_not_short (h : ∀ since, ¬ status.ShortSince since) :
    status.isStuck deadline now = .ok false := by
  unfold isStuck
  cases found : status.availability with
  | none => rfl
  | some condition =>
    dsimp only
    split
    · rfl
    · rename_i short
      cases time : condition.since with
      | none => rfl
      | some since =>
        simp only [Bool.or_eq_true, decide_eq_true_eq, not_or, not_not] at short
        exact absurd ⟨condition, found, short.1, short.2, time⟩ (h since)

theorem isStuck_of_short (h : status.ShortSince since) :
    status.isStuck deadline now =
      match since.instantAfter? deadline with
      | none => .error .outOfRange
      | some limit =>
        if since.offset.isSome = now.offset.isSome then .ok (decide (limit < now.instant))
        else .error .malformed := by
  obtain ⟨condition, found, unavailable, short, time⟩ := h
  simp only [isStuck, found, unavailable, short, time]
  rfl

theorem isStuck_of_onCalendar (short : status.ShortSince since)
    (calendar : status.OnCalendar deadline) :
    status.isStuck deadline now =
      if since.offset.isSome = now.offset.isSome then
        .ok (decide (since.instant + deadline * 1000000 < now.instant))
      else .error .malformed := by
  rw [isStuck_of_short short, Timestamp.instantAfter?_eq_some_iff.mpr ⟨calendar since short, rfl⟩]

theorem exists_isStuck_iff (calendar : status.OnCalendar deadline)
    (compares : status.ComparesWith now) :
    ∃ stuck, status.isStuck deadline now = .ok stuck ∧
      (stuck = true ↔ status.Overdue deadline now) := by
  by_cases short : ∃ since, status.ShortSince since
  · obtain ⟨since, short⟩ := short
    refine ⟨_, (isStuck_of_onCalendar short calendar).trans (if_pos (compares since short)), ?_⟩
    rw [decide_eq_true_iff]
    constructor
    · exact fun late => ⟨since, short, late⟩
    · rintro ⟨other, short', late⟩
      rwa [short.unique short']
  · refine ⟨false, isStuck_of_not_short fun since h => short ⟨since, h⟩, ?_⟩
    constructor
    · intro h
      cases h
    · rintro ⟨since, h, -⟩
      exact absurd ⟨since, h⟩ short

theorem exists_pending (counts : status.HasCounts n) :
    ∃ what, status.pending? = .ok what ∧ (what = none ↔ n.Satisfied) := by
  have satisfied : n.Satisfied ↔ (∀ desired ∈ n.desired, desired ≤ n.updated) ∧
      n.total ≤ n.updated ∧ n.updated ≤ n.available :=
    ⟨fun h => ⟨h.updated, h.total, h.available⟩, fun h => ⟨h.1, h.2.1, h.2.2⟩⟩
  have declared := counts.desired
  rw [satisfied, pending?, counts.updated, counts.total, counts.available, int_less, int_less,
    int_minus, declared]
  cases n.desired with
  | none =>
    simp only [Option.map_none, Option.getD_none, if_true, Bool.false_eq_true, if_false, bind,
      Except.bind, decide_eq_true_eq]
    split_ifs
    all_goals exact ⟨_, rfl, by simp; omega⟩
  | some desired =>
    simp only [Option.map_some, Option.getD_some, reduceCtorEq, if_false, int_less, bind,
      Except.bind, decide_eq_true_eq]
    split_ifs
    all_goals exact ⟨_, rfl, by simp; omega⟩

/-! ## All rules together -/

theorem readiness_of_unobserved (counts : status.HasCounts n) (h : ¬ n.Observed) :
    status.readiness deadline now = .ok ⟨.retryable, unobserved⟩ :=
  readiness_of_behind counts.generation counts.observed (not_le.mp h) deadline now

theorem readiness_of_exceeded (counts : status.HasCounts n) (h : n.Observed)
    (exceeded : status.Exceeded) :
    status.readiness deadline now =
      .ok ⟨.fatal, status.name.literal ++ " exceeded its progress deadline"⟩ := by
  have seen : ¬ n.observed < n.generation := not_lt.mpr h
  rw [readiness, counts.observed, counts.generation, int_less, decide_eq_false seen]
  exact if_pos (exceeded_iff.mpr exceeded)

theorem readiness_of_observed (counts : status.HasCounts n) (h : n.Observed)
    (going : ¬ status.Exceeded) {what : Option String} (pending : status.pending? = .ok what) :
    status.readiness deadline now = (status.isStuck deadline now).map (ofPending what) := by
  have seen : ¬ n.observed < n.generation := not_lt.mpr h
  rw [readiness, counts.observed, counts.generation, int_less, decide_eq_false seen, pending]
  refine (if_neg fun exceeded => going (exceeded_iff.mp exceeded)).trans ?_
  cases status.isStuck deadline now with
  | error failure => rfl
  | ok stuck => cases what <;> rfl

/-- There is no verdict if the deadline has to be added and the sum does not lie on the calendar, or
cannot be compared with the clock, whatever the counts are; in all other cases there is one. -/
theorem readiness_eq_error_iff (counts : status.HasCounts n) {failure : Failure} :
    status.readiness deadline now = .error failure ↔
      failure = .outOfRange ∧ status.Overflows n deadline ∨
      failure = .malformed ∧ n.Observed ∧ ¬ status.Exceeded ∧ status.OnCalendar deadline ∧
        ¬ status.ComparesWith now := by
  unfold Overflows
  by_cases observed : n.Observed
  · by_cases exceeded : status.Exceeded
    · simp [readiness_of_exceeded counts observed exceeded, exceeded]
    · obtain ⟨what, pending, -⟩ := exists_pending counts
      rw [readiness_of_observed counts observed exceeded pending]
      by_cases calendar : status.OnCalendar deadline
      · by_cases compares : status.ComparesWith now
        · obtain ⟨stuck, told, -⟩ := exists_isStuck_iff calendar compares
          simp [told, calendar, compares, Except.map]
        · obtain ⟨since, short, apart⟩ : ∃ since, status.ShortSince since ∧
              since.offset.isSome ≠ now.offset.isSome := by
            simpa [ComparesWith] using compares
          rw [isStuck_of_onCalendar short calendar]
          simp [apart, observed, exceeded, calendar, compares, eq_comm, Except.map]
      · obtain ⟨since, short, off⟩ : ∃ since, status.ShortSince since ∧
            ¬ ∃ limit, since.IsMoved deadline limit := by
          simpa [OnCalendar] using calendar
        rw [isStuck_of_short short, Timestamp.instantAfter?_eq_none_iff.mpr off]
        simp [observed, exceeded, calendar, eq_comm, Except.map]
  · simp [readiness_of_unobserved counts observed, observed]

theorem exists_readiness (counts : status.HasCounts n) (calendar : ¬ status.Overflows n deadline)
    (compares : status.ComparesWith now) :
    ∃ r, status.readiness deadline now = .ok r ∧
      status.FollowsRules n deadline now r.verdict := by
  by_cases observed : n.Observed
  · by_cases exceeded : status.Exceeded
    · refine ⟨_, readiness_of_exceeded counts observed exceeded, ?_⟩
      constructor <;> simp [observed, exceeded]
    · obtain ⟨what, pending, satisfied⟩ := exists_pending counts
      have calendar : status.OnCalendar deadline := by
        by_contra off
        exact calendar ⟨observed, exceeded, off⟩
      obtain ⟨stuck, told, overdue⟩ := exists_isStuck_iff calendar compares
      refine ⟨_, by rw [readiness_of_observed counts observed exceeded pending, told]; rfl, ?_⟩
      cases what with
      | none =>
        have done := satisfied.mp rfl
        constructor <;> simp [observed, exceeded, done, ofPending]
      | some what =>
        have waiting : ¬ n.Satisfied := fun done => by cases satisfied.mpr done
        cases stuck with
        | true =>
          have late := overdue.mp rfl
          constructor <;> simp [observed, exceeded, waiting, late, ofPending]
        | false =>
          have early : ¬ status.Overdue deadline now := fun late => by cases overdue.mpr late
          constructor <;> simp [observed, exceeded, waiting, early, ofPending]
  · refine ⟨_, readiness_of_unobserved counts observed, ?_⟩
    constructor <;> simp [observed]

/-! ## Other clocks, deadlines and zones -/

/-- The deadline is of no consequence to a rollout that waits for nothing; for all others, what
matters is whether they are overdue. -/
theorem readiness_congr {other : RolloutStatus} {deadline' : Int} {now' : Timestamp}
    (counts : status.HasCounts n) (counts' : other.HasCounts n) (name : other.name = status.name)
    (exceeded : other.Exceeded ↔ status.Exceeded)
    (calendar : status.OnCalendar deadline) (calendar' : other.OnCalendar deadline')
    (compares : status.ComparesWith now) (compares' : other.ComparesWith now')
    (same : n.Observed → ¬ status.Exceeded → ¬ n.Satisfied →
      (other.Overdue deadline' now' ↔ status.Overdue deadline now)) :
    other.readiness deadline' now' = status.readiness deadline now := by
  by_cases observed : n.Observed
  · by_cases given_up : status.Exceeded
    · rw [readiness_of_exceeded counts observed given_up, ← name,
        readiness_of_exceeded counts' observed (exceeded.mpr given_up)]
    · obtain ⟨what, pending, satisfied⟩ := exists_pending counts
      obtain ⟨stuck, told, overdue⟩ := exists_isStuck_iff calendar compares
      obtain ⟨stuck', told', overdue'⟩ := exists_isStuck_iff calendar' compares'
      have pending' : other.pending? = .ok what := by
        rw [← pending]
        simp only [pending?, counts.desired, counts.updated, counts.total, counts.available,
          counts'.desired, counts'.updated, counts'.total, counts'.available]
      rw [readiness_of_observed counts observed given_up pending, told,
        readiness_of_observed counts' observed (mt exceeded.mp given_up) pending', told']
      cases what with
      | none => rfl
      | some what =>
        have waiting : ¬ n.Satisfied := fun done => by cases satisfied.mpr done
        have equal : stuck' = stuck := by
          rw [Bool.eq_iff_iff, overdue', overdue]
          exact same observed given_up waiting
        rw [equal]
  · rw [readiness_of_unobserved counts observed, readiness_of_unobserved counts' observed]

theorem Overdue.later {later : Timestamp} (h : status.Overdue deadline now)
    (le : now.instant ≤ later.instant) : status.Overdue deadline later := by
  obtain ⟨since, short, late⟩ := h
  exact ⟨since, short, late.trans_le le⟩

theorem Overdue.of_longer {longer : Int} (h : status.Overdue longer now)
    (le : deadline ≤ longer) : status.Overdue deadline now := by
  obtain ⟨since, short, late⟩ := h
  exact ⟨since, short, by omega⟩

section Rewritten

variable {write : Timestamp → Timestamp}

theorem exceeded_rewritten : (status.rewritten write).Exceeded ↔ status.Exceeded := by
  simp only [← exceeded_iff, rewritten, Option.map_map]
  rfl

theorem shortSince_rewritten {written : Timestamp} :
    (status.rewritten write).ShortSince written ↔
      ∃ since, status.ShortSince since ∧ write since = written := by
  constructor
  · rintro ⟨_, change, unavailable, short, time'⟩
    obtain ⟨condition, found, rfl⟩ := Option.map_eq_some_iff.mp change
    obtain ⟨since, time, rfl⟩ := Option.map_eq_some_iff.mp time'
    exact ⟨since, ⟨condition, found, unavailable, short, time⟩, rfl⟩
  · rintro ⟨since, ⟨condition, found, unavailable, short, time⟩, rfl⟩
    refine ⟨_, Option.map_eq_some_iff.mpr ⟨condition, found, rfl⟩, unavailable, short, ?_⟩
    exact Option.map_eq_some_iff.mpr ⟨since, time, rfl⟩

theorem overdue_rewritten (same : ∀ t, (write t).instant = t.instant) :
    (status.rewritten write).Overdue deadline now ↔ status.Overdue deadline now := by
  constructor
  · rintro ⟨_, written, late⟩
    obtain ⟨since, short, rfl⟩ := shortSince_rewritten.mp written
    exact ⟨since, short, by rwa [same] at late⟩
  · rintro ⟨since, short, late⟩
    exact ⟨write since, shortSince_rewritten.mpr ⟨since, short, rfl⟩, by rwa [same]⟩

end Rewritten

/-- The verdict on a rollout whose deadline lies on the calendar and can be compared with the clock
is what the rules say. If it is ready it is so at all times and with all deadlines, if it is fatal it
stays so, and if it is retryable it is so with longer deadlines. In which zones times are written
changes nothing, unless the deadline comes to lie off the calendar. -/
theorem verdict_follows_rules (counts : status.HasCounts n) (calendar : status.OnCalendar deadline)
    (compares : status.ComparesWith now) :
    ∃ r, status.readiness deadline now = .ok r ∧ status.FollowsRules n deadline now r.verdict ∧
      (r.verdict = .ready → ∀ other later, status.OnCalendar other → status.ComparesWith later →
        status.readiness other later = .ok r) ∧
      (r.verdict = .fatal → ∀ later, status.ComparesWith later → now.instant ≤ later.instant →
        status.readiness deadline later = .ok r) ∧
      (r.verdict = .retryable → ∀ longer, deadline ≤ longer → status.OnCalendar longer →
        status.readiness longer now = .ok r) ∧
      ∀ (write : Timestamp → Timestamp) (clock : Timestamp),
        (∀ t, (write t).instant = t.instant) → clock.instant = now.instant →
        (status.rewritten write).ComparesWith clock →
        (status.rewritten write).OnCalendar deadline →
        (status.rewritten write).readiness deadline clock = .ok r := by
  obtain ⟨r, ok, rules⟩ := exists_readiness counts (fun off => off.2.2 calendar) compares
  refine ⟨r, ok, rules, fun ready other later on aware => ?_, fun fatal later aware le => ?_,
    fun retryable longer le on => ?_, fun write clock same instant aware on => ?_⟩
  · obtain ⟨-, -, done⟩ := rules.ready.mp ready
    rw [← ok]
    refine readiness_congr counts counts rfl .rfl calendar on compares aware fun _ _ waiting => ?_
    exact absurd done waiting
  · obtain ⟨-, exceeded | ⟨-, late⟩⟩ := rules.fatal.mp fatal
    · rw [← ok]
      refine readiness_congr counts counts rfl .rfl calendar calendar compares aware fun _ going => ?_
      exact absurd exceeded going
    · rw [← ok]
      refine readiness_congr counts counts rfl .rfl calendar calendar compares aware fun _ _ _ => ?_
      exact iff_of_true (late.later le) late
  · obtain ⟨-, early⟩ := rules.retryable.mp retryable
    rw [← ok]
    refine readiness_congr counts counts rfl .rfl calendar on compares compares fun seen _ waiting => ?_
    have early : ¬ status.Overdue deadline now := fun late =>
      early ⟨seen, .inr ⟨waiting, late⟩⟩
    exact iff_of_false (fun late => early (late.of_longer le)) early
  · rw [← ok]
    have counts' : (status.rewritten write).HasCounts n := { counts with }
    refine readiness_congr counts counts' rfl exceeded_rewritten calendar on compares aware
      fun _ _ _ => ?_
    rw [overdue_rewritten same]
    simp only [Overdue, instant]

/-- The last half hour of 2023, five hours behind UTC. -/
def sampleSince : Timestamp :=
  ⟨⟨2023, 12, 31, by decide⟩, ⟨23, 30, 0, 0, by decide⟩, some ⟨-18000000000, by decide⟩⟩

/-- Sixty days later, five and a half hours ahead of UTC. -/
def sampleLimit : Timestamp :=
  ⟨⟨2024, 3, 1, by decide⟩, ⟨10, 0, 0, 0, by decide⟩, some ⟨19800000000, by decide⟩⟩

/-- A rollout that has been short of replicas since the end of 2023. -/
def sampleShort : RolloutStatus where
  name := .text "web"
  generation := .int 2
  observedGeneration := .int 2
  desired := .int 3
  updated := .int 3
  total := .int 3
  available := .int 1
  progressing := none
  availability := some ⟨.text "Available", "False", shortOfReplicas, some sampleSince⟩

/-- Sixty days are over only after a leap day, and on the dot the rollout is not stuck yet. -/
theorem sampleShort_retryable :
    ∃ r, sampleShort.readiness 5184000 sampleLimit = .ok r ∧ r.verdict = .retryable := by
  have counts : sampleShort.HasCounts ⟨2, 2, some 3, 3, 3, 1⟩ := by constructor <;> rfl
  have short : sampleShort.ShortSince sampleSince := ⟨_, rfl, rfl, rfl, rfl⟩
  have moved : sampleSince.IsMoved 5184000
      ⟨⟨2024, 2, 29, by decide⟩, ⟨23, 30, 0, 0, by decide⟩, sampleSince.offset⟩ := ⟨rfl, by decide⟩
  have compares : sampleShort.ComparesWith sampleLimit := fun since h => by
    rw [h.unique short]
    rfl
  obtain ⟨r, ok, rules, -⟩ := verdict_follows_rules counts
    (fun since h => ⟨_, h.unique short ▸ moved⟩) compares
  refine ⟨r, ok, rules.retryable.mpr ⟨fun ⟨_, _, done⟩ => ?_, ?_⟩⟩
  · exact absurd done.available (by decide)
  · rintro ⟨-, ⟨_, ⟨⟩, -⟩ | ⟨-, since, h, late⟩⟩
    obtain rfl := h.unique short
    exact absurd late (by decide)

end RolloutStatus

end CanaryRelease
