import CanaryRelease.Proofs.SpecChanges

/-!
# A stale status is never taken for ready

Whoever checks a rollout whose latest generation was not observed yet is told to wait, whatever the
counts and conditions of an earlier one say: that rule of the verdict comes before all others
(`RolloutStatus.readiness_of_behind`). Every write of an operation makes its object stale
(`Counting.stale`), and it stays so until somebody updates the status (`Run.stale_since`). So from
the write on every check of the object fails, and another try may help
(`stale_status_never_ready`); among these checks is the one that an establishment makes of a primary
it has just created, so it cannot scale the target down in the same call.

What a call does after some exchanges is followed through the rest of its program
(`Program.Leaves`).
-/

namespace CanaryRelease

open Program Workload PodTemplate Value

/-! ## What is left of a program -/

namespace Program

variable {α β : Type} {p q : Program α} {f : α → Program β} {log more : List Exchange} {r : Request}

/-- After the exchanges of a log, a program goes on as another one. -/
inductive Leaves : Program α → List Exchange → Program α → Prop where
  | all (p : Program α) : Leaves p [] p
  | later {request : Request} {next : request.Reply → Program α} {reply : request.Reply}
      {log : List Exchange} {q : Program α} (rest : Leaves (next reply) log q) :
      Leaves (ask request next) (⟨request, reply⟩ :: log) q

theorem Leaves.ends_iff {outcome : Except Failure α} (h : Leaves p log q) :
    Ends p (log ++ more) outcome ↔ Ends q more outcome := by
  induction h with
  | all => rfl
  | later _ ih =>
    rw [← ih]
    constructor
    · intro h
      cases h with
      | later rest => exact rest
    · exact .later

theorem Leaves.asks_iff (h : Leaves p log q) : Asks p (log ++ more) r ↔ Asks q more r := by
  induction h with
  | all => rfl
  | later _ ih =>
    rw [← ih]
    constructor
    · intro h
      cases h with
      | later rest => exact rest
    · exact .later

theorem Leaves.append {q' : Program α} (h : Leaves p log q) (h' : Leaves q more q') :
    Leaves p (log ++ more) q' := by
  induction h with
  | all => exact h'
  | later _ ih => exact .later (ih h')

theorem Leaves.bind (h : Leaves p log q) (f : α → Program β) :
    Leaves (p >>= f) log (q >>= f) := by
  induction h with
  | all => exact .all _
  | later _ ih => exact .later ih

theorem leaves_bind {a : α} (h : Ends p log (.ok a)) : Leaves (p >>= f) log (f a) := by
  induction p generalizing log with
  | done answer =>
    obtain ⟨rfl, ⟨⟩⟩ := ends_done.mp h
    exact .all _
  | fail failure => cases h
  | ask request next ih =>
    cases h with
    | later rest => exact .later (ih _ rest)

theorem Leaves.after_ends {a : α} {q : Program β} (rest : Leaves (f a) more q)
    (h : Ends p log (.ok a)) : Leaves (p >>= f) (log ++ more) q := (leaves_bind h).append rest

theorem Leaves.after_lift {x : Except Failure α} {a : α} {q : Program β}
    (rest : Leaves (f a) log q) (h : x = .ok a) : Leaves (liftM x >>= f) log q :=
  rest.after_ends (ends_lift.mpr ⟨rfl, h.symm⟩)

theorem Asks.earlier {before after : List Exchange} {e : Exchange}
    (h : Asks p (before ++ e :: after) r) : Asks p before e.request := by
  induction before generalizing p with
  | nil =>
    cases h with
    | later rest => exact .now _ _
  | cons first before ih =>
    cases h with
    | later rest => exact .later (ih rest)

/-- A program that does not end well. -/
def Fails (p : Program α) : Prop := ∀ log a, ¬ Ends p log (.ok a)

theorem Fails.bind (h : Fails p) (f : α → Program β) : Fails (p >>= f) := by
  intro log b ended
  obtain ⟨a, before, _, -, first, -⟩ := ends_bind_ok.mp ended
  exact h before a first

theorem Fails.readOnly_bind (h : Fails p) (reads : ReadOnly p) (f : α → Program β) :
    ReadOnly (p >>= f) := by
  intro log r writes
  obtain ⟨a, before, _, -, first, -⟩ := reads.writes_bind.mp writes
  exact h before a first

theorem Fails.ends_bind_iff (h : Fails p) {f : α → Program β} {failure : Failure} :
    Ends (p >>= f) log (.error failure) ↔ Ends p log (.error failure) := by
  rw [ends_bind]
  constructor
  · rintro (⟨_, ended, ⟨⟩⟩ | ⟨a, before, _, -, first, -⟩)
    · exact ended
    · exact absurd first (h before a)
  · exact fun ended => .inl ⟨failure, ended, rfl⟩

end Program

/-! ## The verdict on a stale rollout -/

namespace RolloutStatus

variable {status : RolloutStatus} {kind : TemplateKind} {object v : Value} {g n : Int}

/-- What a rollout waits for whose latest generation was not observed yet. -/
def unobserved : String :=
  "waiting for rollout to finish: observed generation less than desired generation"

theorem readiness_of_behind (hg : status.generation = .int g)
    (hn : status.observedGeneration = .int n) (behind : n < g) (deadline : Int) (now : Timestamp) :
    status.readiness deadline now = .ok ⟨.retryable, unobserved⟩ := by
  have less : status.observedGeneration.less status.generation = .ok true := by
    rw [hg, hn]
    have rational : (n : Rat) < g := Rat.intCast_lt_intCast.mpr behind
    simpa [less, less?, quantity?, toKey?, Key.quantity?, Quantity.less] using rational
  rw [readiness, less]
  rfl

theorem count_section {section' x : Value} {s t : String}
    (hs : v.getSection (.text s) = .ok section') (h : count section' t = .ok x) :
    x = ((v.at? [.text s, .text t]).getD .null).orElse (.int 0) := by
  obtain ⟨y, hy, ⟨⟩⟩ := bind_eq_ok.mp h
  have inside := isSection_of_getSection hs (.text t) []
  obtain ⟨fs, rfl, rfl⟩ := get_eq_ok.mp hy
  rw [← inside, at?_object_singleton]

theorem generations_of_ofObject (h : ofObject kind object = .ok status) :
    status.generation = object.generation ∧
      status.observedGeneration = object.observedGeneration := by
  unfold ofObject at h
  obtain ⟨metadata, hm, h⟩ := bind_eq_ok.mp h
  have of_replicas {desired found : Value} (hs : object.getSection "status" = .ok found)
      (h : ofReplicas desired metadata found = .ok status) :
      status.generation = object.generation ∧
        status.observedGeneration = object.observedGeneration := by
    unfold ofReplicas at h
    simp only [bind_eq_ok] at h
    obtain ⟨_, -, _, -, _, hg, _, hn, _, -, _, -, _, -, _, -, _, -, ⟨⟩⟩ := h
    exact ⟨count_section hm hg, count_section hs hn⟩
  cases kind with
  | deployment =>
    simp only [bind_eq_ok] at h
    obtain ⟨_, -, _, hs, _, -, h⟩ := h
    exact of_replicas hs h
  | cloneSet =>
    simp only [bind_eq_ok] at h
    obtain ⟨_, -, _, hs, _, -, h⟩ := h
    exact of_replicas hs h
  | daemonSet =>
    simp only [bind_eq_ok] at h
    obtain ⟨_, hs, _, -, _, hg, _, hn, _, -, _, -, _, -, _, -, ⟨⟩⟩ := h
    exact ⟨count_section hm hg, count_section hs hn⟩

/-- The conditions that an object's status lists can be read. A DaemonSet's are not looked at. -/
def ConditionsParse (kind : TemplateKind) (object : Value) : Prop :=
  kind = .daemonSet ∨ ∃ status conditions progressing availability,
    object.getSection "status" = .ok status ∧ status.get "conditions" = .ok conditions ∧
    Condition.find conditions (.text "Progressing") = .ok progressing ∧
    Condition.find conditions (.text "Available") = .ok availability

theorem exists_status
    (sections : ∀ s ∈ ["metadata", "spec", "status"], ∃ fs,
      object.getSection (.text s) = .ok (.object fs)) (parse : ConditionsParse kind object) :
    ∃ status, ofObject kind object = .ok status := by
  obtain ⟨metadata, hm⟩ := sections "metadata" (by simp)
  obtain ⟨spec, hspec⟩ := sections "spec" (by simp)
  obtain ⟨found, hs⟩ := sections "status" (by simp)
  have of_replicas (named : kind ≠ .daemonSet) (desired : Value) :
      ∃ status, ofReplicas desired (.object metadata) (.object found) = .ok status := by
    obtain ⟨_, conditions, progressing, availability, hs', hc, hp, ha⟩ := parse.resolve_left named
    obtain rfl := Except.ok.inj (hs.symm.trans hs')
    simp only [ofReplicas, bind_eq_ok]
    exact ⟨_, conditions, hc, _, rfl, _, rfl, _, rfl, _, rfl, _, rfl, _, rfl, progressing, hp,
      availability, ha, rfl⟩
  unfold ofObject
  rw [hm]
  cases kind with
  | deployment =>
    obtain ⟨status, h⟩ := of_replicas nofun ((Fields.get? spec "replicas").getD (.int 1))
    exact ⟨status, by rw [hspec, hs]; exact h⟩
  | cloneSet =>
    obtain ⟨status, h⟩ := of_replicas nofun ((Fields.get? spec "replicas").getD .null)
    exact ⟨status, by rw [hspec, hs]; exact h⟩
  | daemonSet => exact ⟨_, by rw [hs]; rfl⟩

end RolloutStatus

/-! ## Stale objects as they are read -/

namespace Value

variable {v : Value} {s : String} {fs : Fields} {g : Int}

theorem getSection_wire (h : v.getSection (.text s) = .ok (object fs)) :
    v.wire.getSection (.text s) = .ok (object (wireFields fs)) := by
  obtain ⟨gs, rfl, hfs⟩ := getSection_eq_ok.mp h
  refine getSection_eq_ok.mpr ⟨wireFields gs, rfl, ?_⟩
  rw [get?_wireFields]
  cases found : gs.get? (.text s) with
  | none =>
    rw [found] at hfs
    obtain rfl := Value.object.inj hfs
    rfl
  | some x =>
    rw [found, Option.getD_some] at hfs
    rw [Option.map_some, Option.getD_some]
    by_cases unset : x.isUnset
    · rw [orElse, if_pos unset] at hfs
      obtain rfl := Value.object.inj hfs
      have unset_wire : x.wire.isUnset := by
        cases x with
        | time t => cases unset
        | list items =>
          obtain rfl : items = [] := List.isEmpty_iff.mp unset
          rfl
        | object gs =>
          obtain rfl : gs = [] := List.isEmpty_iff.mp unset
          rfl
        | _ => exact unset
      rw [orElse, if_pos unset_wire]
      rfl
    · rw [orElse, if_neg unset] at hfs
      subst hfs
      exact (orElse_empty_object _).symm

theorem Counted.manifest (h : v.Counted) : v.toManifest = .ok v.wire ∧
    ∀ s ∈ ["metadata", "spec", "status"], ∃ fs, v.wire.getSection (.text s) = .ok (.object fs) := by
  constructor
  · obtain ⟨fs, hfs⟩ := h.sections "metadata" (by simp)
    obtain ⟨gs, rfl, -⟩ := getSection_eq_ok.mp hfs
    rfl
  · intro s hs
    obtain ⟨fs, hfs⟩ := h.sections s hs
    exact ⟨_, getSection_wire hfs⟩

end Value

/-! ## Checks that are turned away -/

/-- The error of a check that has to wait until the latest generation is observed. -/
def WorkloadError.awaiting (check : ReadinessCheck) (object : ObjectName) : WorkloadError :=
  .notReady ⟨check, object, false, RolloutStatus.unobserved⟩

/-- What becomes of a program that has read an object for a check, with a log up to the read: by
every clock it fails with an error after which another try may help, provided that the conditions
can be read; and whatever they are, it does not succeed, and it asks for no change any more. -/
structure TurnedAway (kind : TemplateKind) (check : ReadinessCheck) (object : ObjectName)
    (v : Value) (p : Program Value) (log : List Exchange) : Prop where
  awaits : RolloutStatus.ConditionsParse kind v.wire → ∀ more outcome,
    p.Ends (log ++ more) outcome ↔ ∃ now,
      more = [⟨.readClock, now⟩, ⟨.count (.readinessChecked kind.name .retryable), ()⟩] ∧
        outcome = .error (.workload (.awaiting check object))
  retryable : (WorkloadError.awaiting check object).retryable = true
  fails : ∀ more a, ¬ p.Ends (log ++ more) (.ok a)
  readOnly : ∀ more r, ¬ p.Writes (log ++ more) r

namespace TemplateController

variable {c : TemplateController} {canary other : Canary} {check : ReadinessCheck}
  {object : ObjectName} {v manifest : Value} {p : Program Value} {log : List Exchange}

/-- A check of a rollout whose latest generation was not observed yet reads the clock, counts the
verdict, and fails. -/
theorem checkRollout_of_stale {status : RolloutStatus} (stale : manifest.IsStale)
    (hs : RolloutStatus.ofObject c.kind manifest = .ok status) :
    c.checkRollout canary check object manifest =
      .ask .readClock fun _ => .ask (.count (.readinessChecked c.kind.name .retryable)) fun _ =>
        .fail (.workload (.awaiting check object)) := by
  obtain ⟨g, n, hg, hn, behind⟩ := stale
  obtain ⟨generation, observed⟩ := RolloutStatus.generations_of_ofObject hs
  have judged (now : Timestamp) :
      ensureReady c.kind.name check object status canary.progressDeadline now =
        .ask (.count (.readinessChecked c.kind.name .retryable)) fun _ =>
          .fail (.workload (.awaiting check object)) := by
    unfold ensureReady
    rw [RolloutStatus.readiness_of_behind (generation.trans hg) (observed.trans hn) behind]
    rfl
  unfold checkRollout
  rw [hs]
  exact congrArg (Program.ask _) (funext judged)

theorem fails_checkRollout (stale : manifest.IsStale) :
    Fails (c.checkRollout canary check object manifest) := by
  intro log a ended
  cases hs : RolloutStatus.ofObject c.kind manifest with
  | error failure =>
    unfold checkRollout at ended
    rw [hs] at ended
    cases ended
  | ok status =>
    rw [checkRollout_of_stale stale hs] at ended
    obtain ⟨_, _, -, counting⟩ := ends_ask.mp ended
    obtain ⟨_, _, -, failing⟩ := ends_ask.mp counting
    cases failing

theorem readOnly_checkRollout : ReadOnly (c.checkRollout canary check object manifest) := by
  refine (readOnly_lift _).bind fun _ => (readOnly_request rfl).bind fun _ => ?_
  refine (readOnly_lift _).bind fun _ => (readOnly_request rfl).bind fun _ => ?_
  exact readOnly_ite (readOnly_pure _) (readOnly_fail _)

theorem turnedAway_of_leaves {next : Unit → Program Value} (counted : v.Counted) (stale : v.IsStale)
    (leaves : Leaves p log (c.checkRollout canary check object v.wire >>= next)) :
    TurnedAway c.kind check object v p log := by
  obtain ⟨-, sections⟩ := counted.manifest
  have stale_wire : v.wire.IsStale := by
    obtain ⟨g, n, hg, hn, behind⟩ := stale
    refine ⟨g, n, ?_, ?_, behind⟩
    · rw [generation, at?_wire]
      exact orElse_wire hg
    · rw [observedGeneration, at?_wire]
      exact orElse_wire hn
  have never : Fails (c.checkRollout canary check object v.wire) := fails_checkRollout stale_wire
  refine ⟨fun parse more outcome => ?_, rfl, fun more a => ?_, fun more r writes => ?_⟩
  · obtain ⟨status, hs⟩ := RolloutStatus.exists_status sections parse
    rw [leaves.ends_iff]
    have ends_iff {failure : Failure} :
        Ends (c.checkRollout canary check object v.wire >>= next) more (.error failure) ↔ ∃ now,
          more = [⟨.readClock, now⟩, ⟨.count (.readinessChecked c.kind.name .retryable), ()⟩] ∧
            failure = .workload (.awaiting check object) := by
      rw [never.ends_bind_iff, checkRollout_of_stale stale_wire hs]
      simp only [ends_ask, ends_fail, Except.error.injEq]
      constructor
      · rintro ⟨now, _, rfl, _, _, rfl, rfl, rfl⟩
        exact ⟨now, rfl, rfl⟩
      · rintro ⟨now, rfl, rfl⟩
        exact ⟨now, _, rfl, (), _, rfl, rfl, rfl⟩
    cases outcome with
    | ok a =>
      refine ⟨fun ended => absurd ended (never.bind _ _ _), ?_⟩
      rintro ⟨_, -, ⟨⟩⟩
    | error failure =>
      rw [ends_iff, Except.error.injEq]
  · rw [leaves.ends_iff]
    exact never.bind _ _ _
  · exact never.readOnly_bind readOnly_checkRollout next more r
      ⟨leaves.asks_iff.mp writes.1, writes.2⟩

/-! ## Who checks an object -/

/-- After the exchanges of a log, a program is about to read the object at a key for a check. It is
the call of a check that has asked nothing yet, or an establishment in an initial phase, in which
the analysis is not skipped, that has made sure of the primary, or, in particular, has created it
and read nothing since. -/
inductive Checks (c : TemplateController) (canary : Canary) (key : ObjectKey) (p : Program Value) :
    List Exchange → ReadinessCheck → ObjectName → Prop where
  | primary (own : p = Controller.call (.template c) .checkPrimary canary)
      (here : (c.primaryKey canary).Same key) :
      Checks c canary key p [] .primary (primaryObject canary)
  | target (own : p = Controller.call (.template c) .checkTarget canary)
      (here : (c.targetKey canary).Same key) :
      Checks c canary key p [] (.canary c.kind) canary.targetObject
  | establishing {log : List Exchange} (own : p = Controller.call (.template c) .establish canary)
      (initial : canary.phase.isInitial = true) (analysed : canary.skipAnalysis = false)
      (here : (c.primaryKey canary).Same key)
      (ended : Ends (c.createPrimary canary) log (.ok ())) :
      Checks c canary key p log .primary (primaryObject canary)
  | creating {earlier later : List Exchange} {kind : Kind} {space body : Value}
      (own : p = Controller.call (.template c) .establish canary)
      (initial : canary.phase.isInitial = true) (analysed : canary.skipAnalysis = false)
      (here : (c.primaryKey canary).Same key)
      (next : ∀ e ∈ later, ∀ kind object, e.request ≠ .readObject kind object) :
      Checks c canary key p (earlier ++ createExchange kind space body (.ok ()) :: later) .primary
        (primaryObject canary)

theorem Checks.same {key : ObjectKey} (h : Checks c canary key p log check object) :
    ObjectKey.Same ⟨c.kind.name, object⟩ key := by
  cases h with
  | primary _ here => exact here
  | target _ here => exact here
  | establishing _ _ _ here _ => exact here
  | creating _ _ _ here _ => exact here

theorem leaves_fetch_bind {α : Type} {kind : Kind} {f : Value → Program α}
    (hv : v.toManifest = .ok manifest) :
    Leaves (fetch kind object >>= f) [readExchange kind object (.ok v)] (f manifest) :=
  leaves_bind (ends_fetch.mpr ⟨v, rfl, hv⟩)

theorem leaves_checkPrimary (hv : v.toManifest = .ok manifest) :
    ∃ next, Leaves (c.checkPrimary canary)
      [readExchange (.template c.kind) (primaryObject canary) (.ok v)]
      (c.checkRollout canary .primary (primaryObject canary) manifest >>= next) :=
  ⟨_, leaves_fetch_bind hv⟩

theorem leaves_checkTarget (hv : v.toManifest = .ok manifest) :
    Leaves (c.checkTarget canary)
      [readExchange (.template c.kind) canary.targetObject (.ok v)]
      (c.checkRollout canary (.canary c.kind) canary.targetObject manifest) :=
  leaves_fetch_bind hv

theorem leaves_of_creation {kind : Kind} {space body : Value}
    (h : Writes (c.createPrimary canary) log (.createObject kind space body)) :
    Leaves (c.createPrimary canary) (log ++ [createExchange kind space body (.ok ())]) (do
      Program.request (.count (.primaryCreated (Kind.template c.kind).name))
      Program.request
        (.note c.logger (.created (Kind.template c.kind).name (primaryObject canary) canary.key)))
    := by
  unfold createPrimary at h
  obtain ⟨target, _, after, rfl, fetched, rest⟩ := (readOnly_fetch _ _).writes_bind.mp h
  obtain ⟨_, strategy, rest⟩ := writes_lift_bind.mp rest
  obtain ⟨⟨label, value⟩, paired, rest⟩ := writes_lift_bind.mp rest
  obtain ⟨found, _, after, rfl, seen, missing⟩ := (readOnly_exists _ _).writes_bind.mp rest
  cases found with
  | true => exact absurd missing (readOnly_pure _ _ _)
  | false =>
    obtain ⟨refs, _, after, rfl, copied, making⟩ := readOnly_copyConfigs.writes_bind.mp missing
    obtain ⟨made, _, after, rfl, built, creating⟩ := readOnly_primaryBody.writes_bind.mp making
    obtain create | ⟨_, _, _, -, -, telling⟩ := writes_bind.mp creating
    · obtain ⟨rfl, ⟨⟩⟩ := writes_create.mp create
      simp only [List.append_assoc, List.nil_append]
      refine Leaves.after_ends (Leaves.after_lift (Leaves.after_lift ?_ paired) strategy) fetched
      refine Leaves.after_ends ?_ seen
      change Leaves (c.copyConfigs canary >>= _) _ _
      refine Leaves.after_ends (Leaves.after_ends ?_ built) copied
      exact leaves_bind (ends_create.mpr rfl)
    · exact absurd telling ((readOnly_request rfl).bind (fun _ => readOnly_request rfl) _ _)

theorem establish_eq (initial : canary.phase.isInitial = true)
    (analysed : canary.skipAnalysis = false) :
    c.establish canary = (do
      c.createPrimary canary
      c.checkPrimary canary
      Program.request (.note c.logger (.scalingDown c.kind.name canary.targetObject canary.key))
      c.scaleToZero canary) := by
  unfold establish
  rw [initial, analysed]
  rfl

theorem ends_createPrimary_of_creation {kind : Kind} {space body : Value}
    {earlier later : List Exchange}
    (initial : canary.phase.isInitial = true) (analysed : canary.skipAnalysis = false)
    (next : ∀ e ∈ later, ∀ kind object, e.request ≠ .readObject kind object)
    (asks : Asks (c.establish canary) (earlier ++ createExchange kind space body (.ok ()) :: later)
      (.readObject (.template c.kind) (primaryObject canary))) :
    Ends (c.createPrimary canary) (earlier ++ createExchange kind space body (.ok ()) :: later)
      (.ok ()) := by
  obtain creating | ⟨_, _, _, -, -, -, -, scaling⟩ := writes_establish ⟨asks.earlier, rfl⟩
  · have created := leaves_of_creation creating
    rw [establish_eq initial analysed] at asks
    rw [← List.singleton_append, ← List.append_assoc] at asks ⊢
    obtain telling | ⟨_, told, after, rfl, ended, checking⟩ :=
      asks_bind.mp ((created.bind _).asks_iff.mp asks)
    · obtain counting | ⟨_, _, _, -, -, noting⟩ := asks_bind.mp telling
      · obtain ⟨-, ⟨⟩⟩ := asks_request.mp counting
      · obtain ⟨-, ⟨⟩⟩ := asks_request.mp noting
    · -- the check starts with the read, and nothing has been read since the creation
      obtain rfl : after = [] := by
        cases after with
        | nil => rfl
        | cons e after =>
          have first : Asks (.ask (.readObject (.template c.kind) (primaryObject canary)) _) []
              e.request := @Asks.earlier _ _ _ [] _ _ checking
          obtain ⟨-, same⟩ | ⟨_, _, ⟨⟩, -⟩ := asks_ask.mp first
          exact absurd same (next e (by simp) _ _)
      rw [List.append_nil]
      exact created.ends_iff.mpr ended
  · obtain ⟨_, _, _, _, _, hr, -⟩ := marks_of_writes scaling
    cases hr

theorem leaves_establish (initial : canary.phase.isInitial = true)
    (analysed : canary.skipAnalysis = false)
    (ended : Ends (c.createPrimary canary) log (.ok ())) (hv : v.toManifest = .ok manifest) :
    ∃ next, Leaves (c.establish canary)
      (log ++ [readExchange (.template c.kind) (primaryObject canary) (.ok v)])
      (c.checkRollout canary .primary (primaryObject canary) manifest >>= next) := by
  obtain ⟨judging, checked⟩ := @leaves_checkPrimary c canary v manifest hv
  have goes_on := checked.bind fun _ => do
    Program.request (.note c.logger (.scalingDown c.kind.name canary.targetObject canary.key))
    c.scaleToZero canary
  rw [bind_assoc] at goes_on
  rw [establish_eq initial analysed]
  exact ⟨_, Leaves.after_ends goes_on ended⟩

theorem asks_of_silent {operation : Program Unit} {r : Request}
    (h : Asks (Controller.silent operation) log r) : Asks operation log r := by
  obtain asks | ⟨_, _, _, rfl, -, answering⟩ := asks_bind.mp h
  · exact asks
  · exact absurd answering asks_pure

/-- Whoever is about to check an object and reads it while it is stale is turned away. -/
theorem Checks.turnedAway {key : ObjectKey} (h : Checks c canary key p log check object)
    (asks : Asks p log (.readObject (.template c.kind) object)) (counted : v.Counted)
    (stale : v.IsStale) :
    TurnedAway c.kind check object v p
      (log ++ [readExchange (.template c.kind) object (.ok v)]) := by
  obtain ⟨hv, -⟩ := counted.manifest
  -- the answer of a call is read off its operation's
  have in_call {operation : Program Unit} {next : Unit → Program Unit} {more : List Exchange}
      {answer : Unit → Program Value}
      (leaves : Leaves operation more (c.checkRollout canary check object v.wire >>= next)) :
      TurnedAway c.kind check object v (operation >>= answer) more := by
    have whole := leaves.bind answer
    rw [bind_assoc] at whole
    exact turnedAway_of_leaves counted stale whole
  cases h with
  | primary own here =>
    subst own
    obtain ⟨next, leaves⟩ := @leaves_checkPrimary c canary v _ hv
    exact in_call leaves
  | target own here =>
    subst own
    exact turnedAway_of_leaves counted stale ((leaves_checkTarget hv).bind _)
  | establishing own initial analysed here ended =>
    subst own
    obtain ⟨next, leaves⟩ := leaves_establish initial analysed ended hv
    exact in_call leaves
  | creating own initial analysed here next =>
    subst own
    have ended := ends_createPrimary_of_creation initial analysed next (asks_of_silent asks)
    obtain ⟨next, leaves⟩ := leaves_establish initial analysed ended hv
    exact in_call leaves

/-! ## In every run -/

variable {programs : Nat → Program Value} {start store : Store}
  {past future moments : List Moment} {m : Moment} {caller : Nat} {operation : Operation}
  {key : ObjectKey}

/-- Whoever reads the object at a key for a check, from some moments on and until its status is
updated, is turned away. -/
def AwaitedUntilUpdated (programs : Nat → Program Value) (key : ObjectKey)
    (past future : List Moment) : Prop :=
  ∀ since r later, future = since ++ r :: later → (∀ m ∈ since, m.KeepsStatus key) →
    ∀ reader (c : TemplateController) canary check object v disturbed,
      Checks c canary key (programs reader) (exchangesOf reader (past ++ since)) check object →
      r.event = .exchange reader (readExchange (.template c.kind) object (.ok v)) disturbed →
      TurnedAway c.kind check object v (programs reader) (exchangesOf reader (past ++ since ++ [r]))

theorem Counting.awaited (h : Counting c canary start (past ++ m :: future))
    (run : Run programs start (past ++ m :: future) store)
    (advances : Advances c canary operation m key) :
    AwaitedUntilUpdated programs key (past ++ [m]) future := by
  rintro since r later rfl kept reader c' other check object v disturbed checks event
  rw [List.append_cons, ← List.append_assoc] at run
  have counts : ∀ l ∈ past ++ m :: (since ++ r :: later), l.Counts key := fun l hl =>
    h.counts l hl key advances.mem
  have stale := h.stale (by simpa using run) advances
  rw [List.append_cons, ← List.append_assoc] at h
  obtain ⟨runUntil, -⟩ := run.at_moment
  obtain ⟨asks, served⟩ := run.asks event
  have stored : r.before.get? key = some v :=
    (Store.get?_congr _ checks.same).symm.trans (Server.Serves.get?_of_read served)
  have stale_still : v.IsStale := by
    refine runUntil.stale_since (fun l hl => counts l (by simp [hl])) kept (fun s written => ?_) v
      stored
    obtain ⟨-, -, rfl⟩ := run_snoc.mp written
    exact stale
  have counted := h.of_append.counted runUntil advances.mem stored
  rw [exchangesOf_snoc event]
  exact checks.turnedAway asks counted stale_still

/-- A stale status is never taken for ready. In every run on a server that counts generations,
whatever calls fail, a promotion that ends well has changed the primary's spec itself, and every
write of an operation advances a generation: the spec of what is replaced has changed, and what is
created was never observed. From then on, until somebody updates the object's status, every check
of it fails with an error after which another try may help, the check of an establishment that has
just created the primary among them. -/
theorem stale_status_never_ready (run : Run programs start moments store)
    (counting : Counting c canary start moments)
    (own : programs caller = Controller.call (.template c) operation canary) :
    (operation = .promote → ∀ a, (programs caller).Ends (exchangesOf caller moments) (.ok a) →
      ∃ m ∈ moments, ∃ e disturbed, m.event = .exchange caller e disturbed ∧ e.wrote = true ∧
        m.ChangesSpec (c.primaryKey canary)) ∧
    ∀ past m future e disturbed, moments = past ++ m :: future →
      m.event = .exchange caller e disturbed → e.wrote = true →
      ∃ key, Advances c canary operation m key ∧
        AwaitedUntilUpdated programs key (past ++ [m]) future := by
  constructor
  · rintro rfl a ended
    rw [own] at ended
    obtain ⟨e, mem, wrote⟩ := wrote_of_promote ended
    obtain ⟨m, hm, disturbed, event⟩ := exists_moment_of_mem mem
    obtain ⟨past, future, rfl⟩ := List.append_of_mem hm
    obtain ⟨key, advances⟩ := counting.advances run own event wrote
    -- a promotion neither creates nor scales
    cases advances with
    | creates establishing => cases establishing
    | promotes _ changes => exact ⟨m, hm, e, disturbed, event, wrote, changes⟩
    | scales scaling => simp at scaling
  · rintro past m future e disturbed rfl hm wrote
    obtain ⟨key, advances⟩ := counting.advances run own hm wrote
    exact ⟨key, advances, counting.awaited run advances⟩

/-- What is created of the Deployment `web`, with what the server adds to its metadata. -/
def sampleCreated (added : Fields) : Value :=
  let labels := .object [("app", .text "web-primary")]
  let metadata : Fields := [("name", .text "web-primary"), ("namespace", .text "prod"),
    ("labels", labels), ("annotations", .object []),
    ("ownerReferences", .list [.object [("apiVersion", .text Canary.defaultApiVersion),
      ("kind", .text "Canary"), ("name", .text "web"), ("uid", .text "0"),
      ("controller", .bool true), ("blockOwnerDeletion", .bool true)]])]
  .object [("apiVersion", .text "apps/v1"), ("kind", .text "Deployment"),
    ("metadata", .object (metadata ++ added)),
    ("spec", .object [("minReadySeconds", .int 5), ("replicas", .int 2),
      ("selector", .object [("matchLabels", labels)]),
      ("template", .object [
        ("metadata", .object [("labels", labels), ("annotations", .object [
          (.text idKey, .text "00000000-0000-4000-8000-000000000001")])]),
        ("spec", .object [("nodeSelector", .object [("disk", .text "ssd")])])])])]

/-- The primary as the server stores it. -/
def sampleStored : Value :=
  sampleCreated [("resourceVersion", .text "1"), ("generation", .int 1)]

/-- What happens when a canary is established that has no primary yet. -/
def sampleCreation : List Moment :=
  (sampleSite [] [("web", "7")]).moments 0
    (Controller.call (.template sampleController) .establish sampleCanary)

theorem counting_sampleCreation : Counting sampleController sampleCanary
    (sampleSite [] [("web", "7")]).server.store sampleCreation := by
  have counted : ∀ v ∈ [.object (sampleDeployment "web" "7" [("disk", .text "ssd")]), sampleStored],
      v.Counted := by
    intro v hv
    have json : v.isJson noFloats = true := by
      revert v
      decide +kernel
    simp only [List.mem_cons, List.not_mem_nil, or_false] at hv
    refine ⟨keyed_of_isJson json, fun s hs => ?_, ?_⟩
    · simp only [List.mem_cons, List.not_mem_nil, or_false] at hs
      rcases hv with rfl | rfl <;> rcases hs with rfl | rfl | rfl <;> exact ⟨_, rfl⟩
    · rcases hv with rfl | rfl
      · exact ⟨1, 1, rfl, rfl, by decide⟩
      · exact ⟨1, 0, rfl, rfl, by decide⟩
  have drawn : (sampleCreation.all fun m => match m.event with
      | .exchange _ ⟨.drawId, _⟩ _ => m.before.all fun entry => (entry.2.at? idPlace).isNone
      | _ => true) = true := by
    decide +kernel
  have stored : ∀ m ∈ sampleCreation, ∀ entry ∈ m.after,
      entry.2 ∈ [.object (sampleDeployment "web" "7" [("disk", .text "ssd")]), sampleStored] := by
    decide +kernel
  have written : ∀ m ∈ sampleCreation, ∀ key ∈ m.event.written?,
      key = sampleController.primaryKey sampleCanary ∧
        m.before.get? (sampleController.primaryKey sampleCanary) = none ∧
        m.after.get? (sampleController.primaryKey sampleCanary) = some sampleStored := by
    decide +kernel
  refine ⟨.of_entries ?_ ?_ ?_, ?_, ?_, ?_⟩
  iterate 3 decide +kernel
  · intro m hm caller id disturbed event key v found same
    obtain ⟨entry, mem, -, rfl⟩ := Store.exists_entry found
    have unset := List.all_eq_true.mp drawn m hm
    rw [event] at unset
    simpa [same] using List.all_eq_true.mp unset entry mem
  · intro key _ v found
    obtain ⟨entry, mem, -, rfl⟩ := Store.exists_entry found
    obtain rfl := List.mem_singleton.mp mem
    exact counted _ List.mem_cons_self
  · intro m hm key mem
    refine ⟨fun v found => ?_, ?_, ?_⟩
    · obtain ⟨entry, inside, -, rfl⟩ := Store.exists_entry found
      exact counted _ (stored m hm entry inside)
    · rintro ⟨other, ho, same⟩ - new found
      obtain ⟨rfl, -, after⟩ := written m hm other ho
      rw [← Store.get?_congr _ same, after] at found
      obtain rfl := Option.some.inj found
      rfl
    · rintro ⟨other, ho, same⟩ old new g before
      obtain ⟨rfl, missing, -⟩ := written m hm other ho
      rw [← Store.get?_congr _ same, missing] at before
      cases before

/-- An establishment that has just created the primary is turned away when it checks it, by every
clock, so the target is not scaled down. -/
theorem sampleCreation_is_turnedAway :
    (∃ m ∈ sampleCreation, Advances sampleController sampleCanary .establish m
      (sampleController.primaryKey sampleCanary)) ∧
    TurnedAway .deployment .primary (primaryObject sampleCanary) sampleStored
      (Controller.call (.template sampleController) .establish sampleCanary)
      (exchangesOf 0 (sampleCreation.take 10)) ∧
    RolloutStatus.ConditionsParse .deployment sampleStored.wire := by
  have run : Run (fun _ => Controller.call (.template sampleController) .establish sampleCanary) _
      ([] ++ sampleCreation) _ := Site.run_of_call rfl .start rfl
  rw [List.nil_append] at run
  have creates : sampleCreation[6]?.map Moment.event = some (.exchange 0
      (createExchange (.template .deployment) (.text "prod") (sampleCreated []) (.ok ()))
      false) := by
    decide +kernel
  have reads : (sampleCreation.drop 7)[2]?.map Moment.event = some (.exchange 0
      (readExchange (.template .deployment) (primaryObject sampleCanary) (.ok sampleStored))
      false) := by
    decide +kernel
  -- in between the creation is counted and noted
  have told : ∀ e ∈ exchangesOf 0 ((sampleCreation.drop 7).take 2), e ∈
      [⟨.count (.primaryCreated "Deployment"), ()⟩, ⟨.note "canary"
        (.created "Deployment" (primaryObject sampleCanary) sampleCanary.key), ()⟩] := by
    decide +kernel
  have quiet : ∀ m ∈ (sampleCreation.drop 7).take 2, m.before = m.after := by decide +kernel
  have kept : ∀ m ∈ sampleCreation, m.before.get? (sampleController.targetKey sampleCanary) =
      m.after.get? (sampleController.targetKey sampleCanary) := by
    decide +kernel
  have log : exchangesOf 0 (sampleCreation.take 6) ++
      createExchange (.template .deployment) (.text "prod") (sampleCreated []) (.ok ()) ::
        exchangesOf 0 ((sampleCreation.drop 7).take 2) ++
      [readExchange (.template .deployment) (primaryObject sampleCanary) (.ok sampleStored)] =
      exchangesOf 0 (sampleCreation.take 10) := by
    decide +kernel
  obtain ⟨m, split, event⟩ := exists_split_of_getElem? creates
  obtain ⟨r, rest, read⟩ := exists_split_of_getElem? reads
  have mem : m ∈ sampleCreation := by
    rw [split]
    simp
  obtain ⟨key, advances, awaited⟩ :=
    (stale_status_never_ready run counting_sampleCreation rfl).2 _ m _ _ _ split event rfl
  cases advances with
  | creates establishing created =>
    refine ⟨⟨m, mem, .creates establishing created⟩, ?_, .inr ⟨_, _, _, _, rfl, rfl, rfl, rfl⟩⟩
    have same_log : exchangesOf 0 (sampleCreation.take 6 ++ [m] ++ (sampleCreation.drop 7).take 2) =
        exchangesOf 0 (sampleCreation.take 6) ++
          createExchange (.template .deployment) (.text "prod") (sampleCreated []) (.ok ()) ::
            exchangesOf 0 ((sampleCreation.drop 7).take 2) := by
      rw [exchangesOf_append, exchangesOf_snoc event, List.append_assoc, List.singleton_append]
    have turned := awaited _ r _ rest ?_ 0 sampleController sampleCanary .primary
      (primaryObject sampleCanary) sampleStored false ?_ read
    · rw [exchangesOf_snoc read, same_log, log] at turned
      exact turned
    · intro l hl new hnew
      rw [← quiet l hl] at hnew
      exact ⟨new, hnew, rfl⟩
    · rw [same_log]
      refine .creating rfl rfl rfl (ObjectKey.same_self _) fun e he kind object same => ?_
      rcases List.mem_cons.mp (told e he) with rfl | last
      · cases same
      · obtain rfl := List.mem_singleton.mp last
        cases same
  | scales _ changes =>
    obtain ⟨old, new, g, before, after, -, hg, next, -⟩ := changes
    rw [kept m mem, after] at before
    obtain rfl := Option.some.inj before
    exact absurd (Value.int.inj (hg.symm.trans next)) (by omega)
  | promotes promoting => cases promoting

end TemplateController

end CanaryRelease
