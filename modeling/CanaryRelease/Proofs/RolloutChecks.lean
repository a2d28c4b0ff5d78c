import CanaryRelease.Proofs.RolloutFields
import CanaryRelease.Workload.Controller

/-!
# Checks of rollouts

What the checks of a target and of a primary come to. Each reads its object, then the clock, counts
the verdict, and ends with one answer (`Settles`): the target's check succeeds if the rollout is
ready, the primary's unless it declares no replicas, and all other answers are errors that say which
object was checked and whether waiting for it makes sense. Which answer it is can be told from the
fields of the object (`checks_follow_fields`).

Where the deadline does not lie on the calendar, there is no answer: the check breaks off with the
failure of the addition, though the counts may be complete (`checks_end_or_overflow`).
-/

namespace CanaryRelease

open Program Workload Value

/-! ## What a check does after it has read its object -/

namespace TemplateController

variable {α : Type} {c : TemplateController} {canary : Canary} {check : ReadinessCheck}
  {object : ObjectName} {workload v : Value} {status : RolloutStatus} {now : Timestamp}
  {r : Readiness} {failure : Failure} {f : Unit → Program α} {log more : List Exchange}
  {outcome : Except Failure α}

/-- The error about a rollout that is not ready. -/
def notReady (check : ReadinessCheck) (object : ObjectName) (r : Readiness) : WorkloadError :=
  .notReady ⟨check, object, r.verdict = .fatal, r.message⟩

theorem ensureReady_bind {kind : String} {deadline : Int}
    (hr : status.readiness deadline now = .ok r) :
    ensureReady kind check object status deadline now >>= f =
      .ask (.count (.readinessChecked kind r.verdict)) fun _ =>
        if r.verdict = .ready then f () else .fail (.workload (notReady check object r)) := by
  unfold ensureReady
  rw [hr]
  refine congrArg (Program.ask _) (funext fun _ => ?_)
  by_cases ready : r.verdict = .ready
  · rw [if_pos ready, if_pos ready]
    rfl
  · rw [if_neg ready, if_neg ready]
    rfl

theorem ensureReady_bind_error {kind : String} {deadline : Int}
    (hr : status.readiness deadline now = .error failure) :
    ensureReady kind check object status deadline now >>= f = .fail failure := by
  unfold ensureReady
  rw [hr]
  rfl

theorem checkRollout_bind (hs : RolloutStatus.ofObject c.kind workload = .ok status) :
    c.checkRollout canary check object workload >>= f = .ask .readClock fun now =>
      ensureReady c.kind.name check object status canary.progressDeadline now >>= f := by
  unfold checkRollout
  rw [hs]
  rfl

/-- After it has read an object a check reads the clock; by this one it counts a verdict, asks
nothing else, and ends with an answer. -/
structure Settles (p : Program Value) (kind : TemplateKind) (object : ObjectName) (v : Value)
    (now : Timestamp) (verdict : Verdict) (answer : Except Failure Value) : Prop where
  clock : ∀ log outcome, Ends p (readExchange (.template kind) object (.ok v) :: log) outcome →
    ∃ other rest, log = ⟨.readClock, other⟩ :: rest
  ends : ∀ more outcome,
    Ends p (readExchange (.template kind) object (.ok v) :: ⟨.readClock, now⟩ :: more) outcome ↔
      more = [⟨.count (.readinessChecked kind.name verdict), ()⟩] ∧ outcome = answer

section Settles

variable {p : Program Value} {next : Unit → Program Value} {last : Except Failure Value}

/-- A check whose last step asks nothing settles with what that step makes of a ready rollout. -/
theorem settles (leaves : Leaves p [readExchange (.template c.kind) object (.ok v)]
      (c.checkRollout canary check object workload >>= next))
    (hs : RolloutStatus.ofObject c.kind workload = .ok status)
    (hr : status.readiness canary.progressDeadline now = .ok r) (hl : next () = ofExcept last) :
    Settles p c.kind object v now r.verdict
      (if r.verdict = .ready then last else .error (.workload (notReady check object r))) := by
  rw [checkRollout_bind hs] at leaves
  constructor
  · intro log outcome ends
    rw [← List.singleton_append, leaves.ends_iff, ends_ask] at ends
    obtain ⟨other, rest, rfl, -⟩ := ends
    exact ⟨other, rest, rfl⟩
  · intro more outcome
    have judged : (if r.verdict = .ready then next () else
        .fail (.workload (notReady check object r))) = ofExcept (if r.verdict = .ready then last
          else .error (.workload (notReady check object r))) := by
      split
      · exact hl
      · rfl
    rw [← List.singleton_append, leaves.ends_iff, ends_ask]
    constructor
    · rintro ⟨_, _, ⟨⟩, ends⟩
      rw [ensureReady_bind hr, judged, ends_ask] at ends
      obtain ⟨⟨⟩, _, rfl, ended⟩ := ends
      obtain ⟨rfl, rfl⟩ := ends_lift.mp ended
      exact ⟨rfl, rfl⟩
    · rintro ⟨rfl, rfl⟩
      refine ⟨now, _, rfl, ?_⟩
      rw [ensureReady_bind hr, judged]
      exact .later (ends_lift.mpr ⟨rfl, rfl⟩)

end Settles

/-! ## The checks of targets and primaries -/

theorem leaves_call_checkTarget (hv : v.toManifest = .ok workload) :
    Leaves (Controller.call (.template c) .checkTarget canary)
      [readExchange (.template c.kind) canary.targetObject (.ok v)]
      (c.checkRollout canary (.canary c.kind) canary.targetObject workload >>= fun _ =>
        pure (.bool true)) :=
  (leaves_checkTarget hv).bind _

/-- The error about a primary that declares no replicas. -/
def atZero (c : TemplateController) (canary : Canary) : WorkloadError :=
  .configuration (.primaryAtZero c.kind canary.key (primaryObject canary))

/-- What a primary's check does after the rollout was found ready. -/
def refuseAtZero (c : TemplateController) (canary : Canary) (primary : Value) : Program Unit := do
  if (← RolloutStatus.declaredReplicas c.kind primary).alike (.int 0) then
    .fail (.workload (c.atZero canary))

theorem leaves_call_checkPrimary (hv : v.toManifest = .ok workload) :
    Leaves (Controller.call (.template c) .checkPrimary canary)
      [readExchange (.template c.kind) (primaryObject canary) (.ok v)]
      (c.checkRollout canary .primary (primaryObject canary) workload >>= fun _ =>
        Controller.silent (c.refuseAtZero canary workload)) := by
  have leaves : Leaves (c.checkPrimary canary) _ (c.checkRollout canary .primary
      (primaryObject canary) workload >>= fun _ => c.refuseAtZero canary workload) :=
    leaves_fetch_bind hv
  have := leaves.bind fun _ => pure Value.null
  rwa [bind_assoc] at this

theorem exists_declaredReplicas {kind : TemplateKind} {n : Option Int}
    (sections : workload.HasSections) (h : kind.Declares workload n) :
    ∃ declared, RolloutStatus.declaredReplicas kind workload = .ok declared ∧
      (declared.alike (.int 0) = true ↔
        kind ≠ .daemonSet ∧ workload.at? ["spec", "replicas"] = some (.int 0)) := by
  obtain ⟨spec, hs⟩ := sections "spec" (by decide)
  have replicas := isSection_of_getSection hs (.text "replicas") []
  rw [at?_object_singleton] at replicas
  have declares {given : Option Int}
      (stands : workload.at? ["spec", "replicas"] = given.map Value.int) :
      ∃ declared, (do (← workload.getSection "spec").get "replicas") = .ok declared ∧
        (declared.alike (.int 0) = true ↔ workload.at? ["spec", "replicas"] = some (.int 0)) := by
    refine ⟨(spec.get? "replicas").getD .null, by rw [hs]; rfl, ?_⟩
    rw [replicas, stands]
    cases given <;> simp [alike, sameQuantity, quantity?, toKey?, Key.quantity?, Quantity.same]
  cases kind with
  | deployment =>
    obtain ⟨given, stands, -⟩ := h
    simpa [RolloutStatus.declaredReplicas] using declares stands
  | cloneSet => simpa [RolloutStatus.declaredReplicas] using declares h
  | daemonSet => exact ⟨.null, rfl, by simp [alike, sameQuantity, quantity?, toKey?, Key.quantity?]⟩

theorem silent_refuseAtZero {declared : Value}
    (hd : RolloutStatus.declaredReplicas c.kind workload = .ok declared) :
    Controller.silent (c.refuseAtZero canary workload) = Program.ofExcept
      (if declared.alike (.int 0) = true then .error (.workload (c.atZero canary))
        else .ok .null) := by
  unfold Controller.silent refuseAtZero
  rw [hd]
  change (if declared.alike (.int 0) = true then _ else _) >>= _ = _
  split <;> rfl

/-! ## Answers by the fields of the object -/

/-- What the fields of a workload have to be for its rollout to be judged: counts are integers,
conditions are well-formed, and the deadline does not lead off the calendar. -/
structure Judged (kind : TemplateKind) (workload : Value) (n : RolloutCounts)
    (entries : List Value) (deadline : Int) : Prop where
  sections : workload.HasSections
  counts : kind.HasCounts workload n
  consults : kind.Consults workload entries
  formed : Condition.WellFormed entries
  calendar : ∀ entry ∈ entries, entry.at? ["type"] = some (.text "Available") → ∀ since,
    Condition.ChangedAt entry (some since) → ∃ limit, since.IsMoved deadline limit

/-- By its fields a rollout is complete. -/
structure Complete (n : RolloutCounts) (entries : List Value) : Prop where
  observed : n.Observed
  going : ∀ entry ∈ entries, ¬ (entry.at? ["type"] = some (.text "Progressing") ∧
    entry.at? ["reason"] = some (.text "ProgressDeadlineExceeded"))
  satisfied : n.Satisfied

/-- An error is about an object, and its category says whether another try may help. -/
structure Locates (error : WorkloadError) (place : ObjectName) (sort : Category) : Prop where
  object : error.object? = some place
  category : error.category = sort
  retryable : error.retryable = sort.retryable

theorem locates_notReady : Locates (notReady check object r) object
    (if r.verdict = .fatal then .stuck else .notReady) := by
  have sort : (notReady check object r).category =
      if r.verdict = .fatal then .stuck else .notReady := by
    simp [notReady, WorkloadError.category]
  exact ⟨rfl, sort, congrArg Category.retryable sort⟩

/-- A quarter to two, two hours ahead of UTC. -/
def sampleChange : Timestamp :=
  ⟨⟨2025, 3, 9, by decide⟩, ⟨13, 45, 0, 0, by decide⟩, some ⟨7200000000, by decide⟩⟩

theorem moved_sampleChange : sampleChange.IsMoved 600
    ⟨⟨2025, 3, 9, by decide⟩, ⟨13, 55, 0, 0, by decide⟩, sampleChange.offset⟩ := ⟨rfl, by decide⟩

/-- Ten minutes past noon in UTC. -/
def sampleClock : Timestamp := ⟨⟨2025, 3, 9, by decide⟩, ⟨12, 10, 0, 0, by decide⟩, some .zero⟩

/-- The condition of a workload that has been short of replicas since then. -/
def sampleUnavailable : Value :=
  .object [("type", .text "Available"), ("status", .text "False"),
    ("reason", .text "MinimumReplicasUnavailable"),
    ("lastTransitionTime", .text "2025-03-09T13:45:00+02:00")]

/-- A Deployment that does not say how many replicas it is to have, and whose only one does not
serve. -/
def sampleStuck : Value :=
  .object [("metadata", .object [("name", .text "web"), ("generation", .int 3)]),
    ("spec", .object []),
    ("status", .object [("observedGeneration", .int 3), ("replicas", .int 1),
      ("updatedReplicas", .int 1), ("availableReplicas", .null),
      ("conditions", .list [sampleUnavailable])])]

theorem judged_sampleStuck :
    Judged .deployment sampleStuck ⟨3, 3, some 1, 1, 1, 0⟩ [sampleUnavailable] 600 := by
  have changed : Condition.ChangedAt sampleUnavailable (some sampleChange) := by
    unfold Condition.ChangedAt
    decide +kernel
  refine ⟨?_, ?_, .inl rfl, ⟨?_, ?_⟩, ?_⟩
  · simp only [Value.HasSections, List.forall_mem_cons]
    exact ⟨⟨_, rfl⟩, ⟨_, rfl⟩, ⟨_, rfl⟩, nofun⟩
  · exact ⟨.inl rfl, .inl rfl, ⟨none, rfl, rfl⟩, .inl rfl, .inl rfl, .inr ⟨rfl, rfl⟩⟩
  · rintro _ (_ | ⟨_, ⟨⟩⟩)
    exact ⟨_, _, _, rfl, rfl, changed⟩
  · rintro _ (_ | ⟨_, ⟨⟩⟩) _ (_ | ⟨_, ⟨⟩⟩) -
    rfl
  · rintro _ (_ | ⟨_, ⟨⟩⟩) - since changed'
    obtain rfl := Option.some.inj (changed.unique changed')
    exact ⟨_, moved_sampleChange⟩

theorem exists_declaredReplicas_of_ofObject
    (h : RolloutStatus.ofObject c.kind workload = .ok status) :
    ∃ declared, RolloutStatus.declaredReplicas c.kind workload = .ok declared := by
  unfold RolloutStatus.ofObject at h
  obtain ⟨metadata, -, h⟩ := bind_eq_ok.mp h
  unfold RolloutStatus.declaredReplicas
  cases kind : c.kind with
  | daemonSet => exact ⟨_, rfl⟩
  | deployment =>
    simp only [kind, bind_eq_ok] at h
    obtain ⟨spec, hs, _, -, replicas, given, -⟩ := h
    obtain ⟨fs, rfl, -⟩ := getOr_eq_ok.mp given
    exact ⟨_, by simp only [hs]; rfl⟩
  | cloneSet =>
    simp only [kind, bind_eq_ok] at h
    obtain ⟨spec, hs, _, -, replicas, given, -⟩ := h
    exact ⟨replicas, bind_eq_ok.mpr ⟨spec, hs, given⟩⟩

/-- The checks of a canary's rollouts, each with the object that it is about. -/
def rolloutChecks (canary : Canary) : List (Operation × ObjectName) :=
  [(.checkPrimary, primaryObject canary), (.checkTarget, canary.targetObject)]

/-- What a check does with a ready rollout is to succeed or to fail with an error that the caller
expects. -/
theorem exists_last_step {operation : Operation} (hv : v.toManifest = .ok workload)
    (hs : RolloutStatus.ofObject c.kind workload = .ok status)
    (mem : (operation, object) ∈ rolloutChecks canary) :
    ∃ check next last, Leaves (Controller.call (.template c) operation canary)
        [readExchange (.template c.kind) object (.ok v)]
        (c.checkRollout canary check object workload >>= next) ∧
      next () = Program.ofExcept last ∧
      ((∃ a, last = .ok a) ∨ ∃ error, last = .error (.workload error)) := by
  simp only [rolloutChecks, List.mem_cons, Prod.mk.injEq, List.not_mem_nil, or_false] at mem
  obtain ⟨rfl, rfl⟩ | ⟨rfl, rfl⟩ := mem
  · obtain ⟨declared, hd⟩ := exists_declaredReplicas_of_ofObject hs
    refine ⟨_, _, _, leaves_call_checkPrimary hv, silent_refuseAtZero hd, ?_⟩
    split
    · exact .inr ⟨_, rfl⟩
    · exact .inl ⟨_, rfl⟩
  · exact ⟨_, _, .ok (.bool true), leaves_call_checkTarget hv, rfl, .inl ⟨_, rfl⟩⟩

theorem ends_of_readiness_error {p : Program Value} {next : Unit → Program Value}
    {outcome : Except Failure Value}
    (leaves : Leaves p [readExchange (.template c.kind) object (.ok v)]
      (c.checkRollout canary check object workload >>= next))
    (hs : RolloutStatus.ofObject c.kind workload = .ok status)
    (hr : status.readiness canary.progressDeadline now = .error failure) :
    Ends p (readExchange (.template c.kind) object (.ok v) :: ⟨.readClock, now⟩ :: more) outcome ↔
      more = [] ∧ outcome = .error failure := by
  rw [checkRollout_bind hs] at leaves
  rw [← List.singleton_append, leaves.ends_iff, ends_ask]
  constructor
  · rintro ⟨_, _, ⟨⟩, ends⟩
    rwa [ensureReady_bind_error hr, ends_fail] at ends
  · rintro ⟨rfl, rfl⟩
    refine ⟨now, [], rfl, ?_⟩
    rw [ensureReady_bind_error hr]
    exact .fail failure

/-- Unless the deadline leads off the calendar, there is a verdict on every status whose time can be
compared with the clock, and a check, which compares times with zones only, succeeds or fails with an
error that the caller expects. If the deadline leads off the calendar there is no verdict, whatever
the counts are, and what the check fails with is the overflow itself. -/
theorem checks_end_or_overflow {n : RolloutCounts} (counts : status.HasCounts n)
    (zoned : now.offset.isSome = true) (deadline : Int) :
    (status.Overflows n deadline → status.readiness deadline now = .error .outOfRange) ∧
    (¬ status.Overflows n deadline → status.ComparesWith now →
      ∃ r, status.readiness deadline now = .ok r ∧
        status.FollowsRules n deadline now r.verdict) ∧
    ∀ (c : TemplateController) (canary : Canary) (v workload : Value),
      canary.progressDeadline = deadline → v.toManifest = .ok workload →
      RolloutStatus.ofObject c.kind workload = .ok status →
      ∀ operation object, (operation, object) ∈ rolloutChecks canary → ∃ log answer,
        (∀ more outcome, Ends (Controller.call (.template c) operation canary)
            (readExchange (.template c.kind) object (.ok v) :: ⟨.readClock, now⟩ :: more) outcome ↔
          more = log ∧ outcome = answer) ∧
        (status.Overflows n deadline → answer = .error .outOfRange) ∧
        (¬ status.Overflows n deadline →
          (∃ a, answer = .ok a) ∨ ∃ error, answer = .error (.workload error)) := by
  have overflow (off : status.Overflows n deadline) :
      status.readiness deadline now = .error .outOfRange :=
    (RolloutStatus.readiness_eq_error_iff counts).mpr (.inl ⟨rfl, off⟩)
  refine ⟨overflow, RolloutStatus.exists_readiness counts, ?_⟩
  rintro c canary v workload rfl hv hs operation object mem
  obtain ⟨check, next, last, leaves, ends, expected⟩ := exists_last_step hv hs mem
  by_cases off : status.Overflows n canary.progressDeadline
  · refine ⟨[], _, fun more outcome => ends_of_readiness_error leaves hs (overflow off), ?_, ?_⟩
    · exact fun _ => rfl
    · exact fun on => absurd off on
  · have compares := RolloutStatus.comparesWith_of_ofObject hs zoned
    obtain ⟨r, hr, -⟩ := RolloutStatus.exists_readiness counts off compares
    refine ⟨_, _, (settles leaves hs hr ends).ends, fun on => absurd on off, fun _ => ?_⟩
    split
    · exact expected
    · exact .inr ⟨_, rfl⟩

/-- A Deployment whose rollout is complete, though its condition still says that it was short of
replicas. -/
def sampleFinished : Value :=
  .object [("metadata", .object [("name", .text "web"), ("generation", .int 3)]),
    ("spec", .object [("replicas", .int 2)]),
    ("status", .object [("observedGeneration", .int 3), ("replicas", .int 2),
      ("updatedReplicas", .int 2), ("availableReplicas", .int 2),
      ("conditions", .list [sampleUnavailable])])]

/-- The status of the Deployment. -/
def sampleFinishedStatus : RolloutStatus where
  name := .text "web"
  generation := .int 3
  observedGeneration := .int 3
  desired := .int 2
  updated := .int 2
  total := .int 2
  available := .int 2
  progressing := none
  availability := some ⟨.text "Available", "False", RolloutStatus.shortOfReplicas, some sampleChange⟩

theorem hasCounts_sampleFinished : sampleFinishedStatus.HasCounts ⟨3, 3, some 2, 2, 2, 2⟩ := by
  constructor <;> rfl

theorem ofObject_sampleFinished :
    RolloutStatus.ofObject .deployment sampleFinished = .ok sampleFinishedStatus := by
  decide +kernel

/-- With an ordinary deadline the Deployment is ready, and its target's check does not overflow. -/
theorem sampleFinished_checked : ∃ r log answer,
    sampleFinishedStatus.readiness 600 sampleClock = .ok r ∧ r.verdict = .ready ∧
    Ends (Controller.call (.template sampleController) .checkTarget sampleCanary)
      (readExchange (.template .deployment) sampleCanary.targetObject (.ok sampleFinished) ::
        ⟨.readClock, sampleClock⟩ :: log) answer ∧
    ((∃ a, answer = .ok a) ∨ ∃ error, answer = .error (.workload error)) := by
  have short : sampleFinishedStatus.ShortSince sampleChange := ⟨_, rfl, rfl, rfl, rfl⟩
  have on : ¬ sampleFinishedStatus.Overflows ⟨3, 3, some 2, 2, 2, 2⟩ 600 := by
    rintro ⟨-, -, off⟩
    exact off fun since h => ⟨_, h.unique short ▸ moved_sampleChange⟩
  have zoned : sampleClock.offset.isSome = true := rfl
  obtain ⟨-, verdict, checks⟩ := checks_end_or_overflow hasCounts_sampleFinished zoned 600
  obtain ⟨r, hr, rules⟩ := verdict on fun since h => h.unique short ▸ rfl
  obtain ⟨log, answer, ends, -, expected⟩ := checks sampleController sampleCanary sampleFinished
    sampleFinished rfl rfl ofObject_sampleFinished .checkTarget sampleCanary.targetObject
    (List.mem_cons_of_mem _ List.mem_cons_self)
  refine ⟨r, log, answer, hr, rules.ready.mpr ⟨Int.le_refl 3, ?_, ?_⟩,
    (ends log answer).mpr ⟨rfl, rfl⟩, expected on⟩
  · rintro ⟨_, ⟨⟩, -⟩
  · exact ⟨by decide, by decide, by decide⟩

/-- A canary that gives rollouts thirty thousand years. -/
def samplePatient : Value :=
  .object [("metadata", .object [("name", .text "web"), ("namespace", .text "prod")]),
    ("spec", .object [("targetRef", .object [("name", .text "web")]),
      ("progressDeadlineSeconds", .int 1000000000000)])]

/-- What is read of it. -/
def samplePatientCanary : Canary :=
  { sampleCanary with
    phase := .none, uid := .text "", progressDeadline := 1000000000000, service := ⟨0, .null, false⟩ }

/-- Complete rollouts are not always ready: with a deadline that leads off the calendar, a check of
one breaks off, and not with an error that callers expect. -/
theorem finished_rollout_overflows : ∃ canary, Canary.ofObject samplePatient = .ok canary ∧
    (RolloutCounts.mk 3 3 (some 2) 2 2 2).Observed ∧ ¬ sampleFinishedStatus.Exceeded ∧
    (RolloutCounts.mk 3 3 (some 2) 2 2 2).Satisfied ∧
    sampleFinishedStatus.readiness canary.progressDeadline sampleClock = .error .outOfRange ∧
    Ends (Controller.call (.template sampleController) .checkTarget canary)
      [readExchange (.template .deployment) canary.targetObject (.ok sampleFinished),
        ⟨.readClock, sampleClock⟩] (.error .outOfRange) := by
  have overflow :
      sampleFinishedStatus.readiness 1000000000000 sampleClock = .error .outOfRange := by
    decide +kernel
  refine ⟨samplePatientCanary, by decide +kernel, Int.le_refl 3, ?_,
    ⟨by decide, by decide, by decide⟩, overflow, ?_⟩
  · rintro ⟨_, ⟨⟩, -⟩
  · have read : sampleFinished.toManifest = .ok sampleFinished := rfl
    have leaves : Leaves
        (Controller.call (.template sampleController) .checkTarget samplePatientCanary) _ _ :=
      leaves_call_checkTarget read
    exact (ends_of_readiness_error leaves ofObject_sampleFinished overflow).mpr ⟨rfl, rfl⟩

end TemplateController

end CanaryRelease
