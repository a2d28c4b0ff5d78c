import CanaryRelease.Proofs.Noninterference
import CanaryRelease.Proofs.Refusals
import CanaryRelease.Proofs.RolloutChecks
import CanaryRelease.Proofs.SpecChanges

/-!
# What counters tell of

Each counter tells of something that happens in the exchanges of a call: a primary is created, an
object is promoted, the marker is put on the target or taken off it, an object is judged, or a call
to the server is refused. What an exchange is the occasion of is said here without looking at the
call's program (`Call.occasion?`), from the operation, the exchange, and those before it.

The increments that a call makes are its occasions, one by one and in their order; while the call is
going on, the last of them may still be due (`Call.balanced`). That is proved along the programs.
`Balanced` says of a part of a call which increments are due when it begins and which it leaves due
when it succeeds, and is closed under sequences; a part that fails leaves none.
-/

namespace CanaryRelease

open Program Workload PodTemplate

/-! ## Occasions -/

/-- What a rule makes of the entries of a log, each with those before it. -/
def gather {β γ : Type} (rule : List β → β → Option γ) (past : List β) : List β → List γ
  | [] => []
  | b :: rest => (rule past b).toList ++ gather rule (past ++ [b]) rest

section Gather

variable {β γ : Type} {rule : List β → β → Option γ}

theorem gather_append (past log more : List β) :
    gather rule past (log ++ more) = gather rule past log ++ gather rule (past ++ log) more := by
  induction log generalizing past with
  | nil => simp [gather]
  | cons b log ih => simp [gather, ih]

theorem gather_snoc (past log : List β) (b : β) :
    gather rule past (log ++ [b]) = gather rule past log ++ (rule (past ++ log) b).toList := by
  rw [gather_append]
  simp [gather]

theorem gather_const (f : β → Option γ) (past log : List β) :
    gather (fun _ => f) past log = log.filterMap f := by
  induction log generalizing past with
  | nil => rfl
  | cons b log ih =>
    rw [gather, ih, List.filterMap_cons]
    cases f b <;> rfl

theorem exists_entry_of_mem_gather {past log : List β} {c : γ} (h : c ∈ gather rule past log) :
    ∃ before b after, log = before ++ b :: after ∧ rule (past ++ before) b = some c := by
  induction log generalizing past with
  | nil => cases h
  | cons b log ih =>
    obtain here | later := List.mem_append.mp h
    · exact ⟨[], b, log, rfl, by simpa using here⟩
    · obtain ⟨before, b', after, rfl, made⟩ := ih later
      exact ⟨b :: before, b', after, rfl, by simpa using made⟩

end Gather

instance {controller : Controller} {operation : Operation} {canary : Canary} {log : List Exchange}
    {r : Request} : Decidable (ChecksExistence controller operation canary log r) :=
  decidable_of_iff (operation = .establish ∧ ∃ object ∈ controller.derivedObjects canary,
      r = .readObject controller.kind object ∧ ∀ e ∈ log, e.request ≠ r) <| by
    constructor
    · rintro ⟨establishing, object, derived, rfl, unread⟩
      exact ⟨establishing, object, derived, rfl, fun reply mem => unread _ mem rfl⟩
    · rintro ⟨establishing, object, derived, rfl, unread⟩
      refine ⟨establishing, object, derived, rfl, ?_⟩
      rintro ⟨_, reply⟩ mem rfl
      exact unread reply mem

/-- The manifest of an object that was read in the last exchange. -/
def lastRead? (kind : Kind) (object : ObjectName) (past : List Exchange) : Option Value :=
  match past.getLast? with
  | some ⟨.readObject kind' object', .ok v⟩ =>
    if kind' = kind ∧ object' = object then v.toManifest.toOption else none
  | _ => none

/-- The marker was put on an object, or what stood in its place was taken off. -/
def MarkerMoved (old new : Value) : Bool → Prop
  | true => old.at? markerPlace ≠ some markerValue ∧ new.at? markerPlace = some markerValue
  | false => old.at? markerPlace ≠ none ∧ new.at? markerPlace = none

instance {old new : Value} : DecidablePred (MarkerMoved old new)
  | true | false => inferInstanceAs (Decidable (_ ∧ _))

/-- The way the marker was moved. -/
def markerMove? (old new : Value) : Option Bool := [true, false].find? (MarkerMoved old new ·)

theorem MarkerMoved.unique {old new : Value} {down up : Bool} (h : MarkerMoved old new down)
    (h' : MarkerMoved old new up) : down = up := by
  cases down <;> cases up <;> simp_all [MarkerMoved]

theorem markerMove?_eq {old new : Value} {down : Bool} (h : MarkerMoved old new down) :
    markerMove? old new = some down := by
  cases down with
  | true => exact List.find?_cons_of_pos (decide_eq_true h)
  | false =>
    have other : ¬ MarkerMoved old new true := fun h' => nomatch h.unique h'
    simp [markerMove?, h, other]

namespace Call

/-- The object whose rollout a call judges. -/
def judgedObject? (call : Call) : Option ObjectName :=
  match call.operation with
  | .establish | .checkPrimary => some (TemplateController.primaryObject call.canary)
  | .checkTarget => some call.canary.targetObject
  | _ => none

/-- The verdict on the object that a call judges, if it was just read and can be judged at a
time. -/
def judgement? (call : Call) (past : List Exchange) (now : Timestamp) : Option Counter :=
  match call.controller with
  | .service _ => none
  | .template c => do
    let workload ← lastRead? (.template c.kind) (← call.judgedObject?) past
    let status ← (RolloutStatus.ofObject c.kind workload).toOption
    let readiness ← (status.readiness call.canary.progressDeadline now).toOption
    return .readinessChecked c.kind.name readiness.verdict

/-- The increment that an exchange of a call is the occasion of, after other exchanges. -/
def occasion? (call : Call) (past : List Exchange) (e : Exchange) : Option Counter :=
  let kind := call.controller.kind
  match e with
  | ⟨.createObject _ _ _, .ok ()⟩ =>
    if call.operation = .establish ∧
        e.request.key? = some (call.controller.primaryKey call.canary) then
      some (.primaryCreated kind.name)
    else none
  | ⟨.replaceObject _ _ body, .ok ()⟩ =>
    if call.operation = .promote then some (.promoted kind.name)
    else (lastRead? kind call.canary.targetObject past).bind fun target =>
      (markerMove? target body).map fun down => .scaled kind.name down
  | ⟨.readClock, now⟩ => call.judgement? past now
  | ⟨request, _⟩ => e.refusal?.bind fun refusal =>
    if refusal.status.alike (.int 404) = true ∧
        ChecksExistence call.controller call.operation call.canary past request then none
    else some (.refused kind.name refusal.status.display)

/-- The occasions in some exchanges of a call that come after others. -/
def occasions (call : Call) (past log : List Exchange) : List Counter :=
  gather call.occasion? past log

@[simp] theorem occasions_nil (call : Call) (past : List Exchange) : call.occasions past [] = [] :=
  rfl

@[simp] theorem occasions_singleton (call : Call) (past : List Exchange) (e : Exchange) :
    call.occasions past [e] = (call.occasion? past e).toList := List.append_nil _

theorem occasions_append (call : Call) (past log more : List Exchange) :
    call.occasions past (log ++ more) =
      call.occasions past log ++ call.occasions (past ++ log) more := gather_append past log more

end Call

variable {α β : Type} {call : Call} {past log : List Exchange} {e : Exchange} {refusal : Refusal}
  {kind : Kind} {object : ObjectName} {space body v target : Value}

@[simp] theorem lastRead?_read (reply : Except CallFailure Value) :
    lastRead? kind object (past ++ [readExchange kind object reply]) =
      match reply with
      | .ok v => v.toManifest.toOption
      | .error _ => none := by
  rw [lastRead?, List.getLast?_concat]
  cases reply with
  | ok v => simp
  | error failure => rfl

/-- Whether a request can be an increment or the occasion of one. -/
def Request.tells : Request → Bool
  | readClock => true
  | r => r.isReported

theorem occasion?_of_not_tells (idle : ¬ e.request.tells = true) :
    call.occasion? past e = none := by
  obtain ⟨request, reply⟩ := e
  cases request with
  | readObject | createObject | replaceObject | count | readClock => exact absurd rfl idle
  | _ => rfl

theorem counter?_of_not_tells {r : Request} (idle : ¬ r.tells = true) : r.counter? = none := by
  cases r with
  | count => exact absurd rfl idle
  | _ => rfl

theorem occasion?_of_refusal (turned : e.refusal? = some refusal) :
    call.occasion? past e =
      if refusal.status.alike (.int 404) = true ∧
          ChecksExistence call.controller call.operation call.canary past e.request then none
      else some (.refused call.controller.kind.name refusal.status.display) := by
  obtain ⟨request, reply⟩ := e
  cases request with
  | readObject =>
    obtain rfl := refusal?_read.mp turned
    rfl
  | createObject =>
    obtain rfl := refusal?_create.mp turned
    rfl
  | replaceObject =>
    obtain rfl := refusal?_replace.mp turned
    rfl
  | _ => cases turned

/-! ## What the parts of a call leave due -/

@[simp] theorem increments_nil : increments [] = [] := rfl

@[simp] theorem increments_singleton (e : Exchange) :
    increments [e] = e.request.counter?.toList := by
  rw [increments, List.filterMap_cons, List.filterMap_nil]
  cases e.request.counter? <;> rfl

theorem increments_append (log more : List Exchange) :
    increments (log ++ more) = increments log ++ increments more := List.filterMap_append

/-- A part of a call makes the increments that are due when it begins and those that it has
occasions of, in this order, apart from those that it leaves due. -/
structure Balanced (call : Call) (past : List Exchange) (due : List Counter) (p : Program α)
    (left : α → List Counter) : Prop where
  going : ∀ log r, Asks p log r → ∃ pending, pending.length ≤ 1 ∧
    due ++ call.occasions past log = increments log ++ pending
  failed : ∀ log failure, Ends p log (.error failure) →
    due ++ call.occasions past log = increments log
  succeeded : ∀ log a, Ends p log (.ok a) →
    due ++ call.occasions past log = increments log ++ left a

namespace Balanced

variable {p : Program α} {f : α → Program β} {due pending : List Counter}
  {middle : α → List Counter} {left : β → List Counter} {answer : α → List Counter}

theorem join {before after : List Exchange} {handed : List Counter}
    (first : due ++ call.occasions past before = increments before ++ handed)
    (second : handed ++ call.occasions (past ++ before) after = increments after ++ pending) :
    due ++ call.occasions past (before ++ after) = increments (before ++ after) ++ pending := by
  rw [Call.occasions_append, ← List.append_assoc, first, List.append_assoc, second,
    increments_append, List.append_assoc]

theorem join_failed {before after : List Exchange} {handed : List Counter}
    (first : due ++ call.occasions past before = increments before ++ handed)
    (second : handed ++ call.occasions (past ++ before) after = increments after) :
    due ++ call.occasions past (before ++ after) = increments (before ++ after) := by
  rw [← List.append_nil (increments after)] at second
  simpa using join first second

theorem bind (hp : Balanced call past due p middle)
    (hf : ∀ log a, Ends p log (.ok a) → Balanced call (past ++ log) (middle a) (f a) left) :
    Balanced call past due (p >>= f) left := by
  constructor
  · intro log r asks
    obtain first | ⟨a, before, after, rfl, ended, rest⟩ := asks_bind.mp asks
    · exact hp.going log r first
    · obtain ⟨pending, short, balance⟩ := (hf before a ended).going after r rest
      exact ⟨pending, short, join (hp.succeeded before a ended) balance⟩
  · intro log failure ends
    obtain ⟨_, first, ⟨⟩⟩ | ⟨a, before, after, rfl, ended, rest⟩ := ends_bind.mp ends
    · exact hp.failed log failure first
    · have balance := (hf before a ended).failed after failure rest
      exact join_failed (hp.succeeded before a ended) balance
  · intro log b ends
    obtain ⟨a, before, after, rfl, ended, rest⟩ := ends_bind_ok.mp ends
    exact join (hp.succeeded before a ended) ((hf before a ended).succeeded after b rest)

theorem pure {a : α} (h : answer a = due) : Balanced call past due (Pure.pure a) answer := by
  subst h
  refine ⟨fun _ _ asks => absurd asks asks_pure, ?_, ?_⟩
  · intro log failure ends
    cases (ends_pure.mp ends).2
  · intro log a' ends
    obtain ⟨rfl, ⟨⟩⟩ := ends_pure.mp ends
    simp

theorem fail (failure : Failure) :
    Balanced call past [] (.fail failure : Program α) answer := by
  refine ⟨fun _ _ asks => absurd asks asks_fail, ?_, ?_⟩
  · intro log failure' ends
    rw [(ends_fail.mp ends).1]
    rfl
  · intro log a ends
    cases (ends_fail.mp ends).2

theorem lift_bind {x : Except Failure α}
    (hf : ∀ a, x = .ok a → Balanced call past [] (f a) left) :
    Balanced call past [] (liftM x >>= f) left := by
  cases x with
  | error failure => exact .fail failure
  | ok a => exact hf a rfl

theorem ask {r : Request} {next : r.Reply → Program α} (short : due.length ≤ 1)
    (rest : ∀ reply, ∃ handed, Balanced call (past ++ [⟨r, reply⟩]) handed (next reply) answer ∧
      due ++ (call.occasion? past ⟨r, reply⟩).toList = r.counter?.toList ++ handed) :
    Balanced call past due (.ask r next) answer := by
  have step (reply : r.Reply) (handed : List Counter)
      (balance : due ++ (call.occasion? past ⟨r, reply⟩).toList = r.counter?.toList ++ handed) :
      due ++ call.occasions past [⟨r, reply⟩] = increments [⟨r, reply⟩] ++ handed := by
    rwa [Call.occasions_singleton, increments_singleton]
  constructor
  · intro log r' asks
    obtain ⟨rfl, rfl⟩ | ⟨reply, after, rfl, later⟩ := asks_ask.mp asks
    · exact ⟨due, short, by simp⟩
    · obtain ⟨handed, balanced, balance⟩ := rest reply
      obtain ⟨pending, last, total⟩ := balanced.going after r' later
      exact ⟨pending, last, join (step reply handed balance) total⟩
  · intro log failure ends
    obtain ⟨reply, after, rfl, later⟩ := ends_ask.mp ends
    obtain ⟨handed, balanced, balance⟩ := rest reply
    exact join_failed (step reply handed balance) (balanced.failed after failure later)
  · intro log a ends
    obtain ⟨reply, after, rfl, later⟩ := ends_ask.mp ends
    obtain ⟨handed, balanced, balance⟩ := rest reply
    exact join (step reply handed balance) (balanced.succeeded after a later)

theorem of_avoids (quiet : Avoids (·.tells = true) p) : Balanced call past [] p fun _ => [] := by
  induction p generalizing past with
  | done a => exact .pure rfl
  | fail failure => exact .fail failure
  | ask request next ih =>
    have idle : ¬ request.tells = true := quiet [] request (.now _ _)
    refine .ask (Nat.zero_le 1) fun reply => ⟨[], ih reply fun log r asks => ?_, ?_⟩
    · exact quiet _ r (.later asks)
    · rw [occasion?_of_not_tells idle, counter?_of_not_tells idle]
      rfl

theorem request {r : Request} (short : due.length ≤ 1) (idle : ¬ r.tells = true) :
    Balanced call past due (Program.request r) fun _ => due := by
  refine .ask short fun reply => ⟨due, .pure rfl, ?_⟩
  rw [occasion?_of_not_tells idle, counter?_of_not_tells idle]
  exact List.append_nil due

theorem note {logger : String} {notice : Notice} (short : due.length ≤ 1) :
    Balanced call past due (Program.request (.note logger notice)) fun _ => due :=
  .request short Bool.false_ne_true

theorem count (counter : Counter) :
    Balanced call past [counter] (Program.request (.count counter)) fun _ => [] :=
  .ask (Nat.le_refl 1) fun _ => ⟨[], .pure rfl, rfl⟩

theorem clock : Balanced call past [] (Program.request .readClock) fun now =>
    (call.judgement? past now).toList :=
  .ask (Nat.zero_le 1) fun _ => ⟨_, .pure rfl, rfl⟩

theorem call_bind {r : Request} {next : r.Reply → Program α} (uncounted : r.counter? = none)
    (rest : ∀ reply, Balanced call (past ++ [⟨r, reply⟩]) (call.occasion? past ⟨r, reply⟩).toList
      (next reply) answer) : Balanced call past [] (.ask r next) answer := by
  refine .ask (Nat.zero_le 1) fun reply => ⟨_, rest reply, ?_⟩
  rw [uncounted]
  rfl

/-! ## Calls to the server -/

theorem giveUp {failure : CallFailure}
    (turned : ∀ refusal, failure = .refused refusal → e.refusal? = some refusal ∧
      ¬ (refusal.status.alike (.int 404) = true ∧
        ChecksExistence call.controller call.operation call.canary past e.request))
    (broken : ∀ cause, failure = .broken cause → call.occasion? past e = none) (action : String)
    (object : ObjectName) :
    Balanced call (past ++ [e]) (call.occasion? past e).toList
      (Workload.giveUp action call.controller.kind object failure) answer := by
  cases failure with
  | refused refusal =>
    obtain ⟨turned, fatal⟩ := turned refusal rfl
    rw [occasion?_of_refusal turned, if_neg fatal]
    exact (count _).bind fun _ _ _ => .fail _
  | broken cause =>
    rw [broken cause rfl]
    exact .fail cause

end Balanced

section Calls

theorem not_checksExistence_of_isWrite {controller : Controller} {operation : Operation}
    {canary : Canary} {r : Request} (h : r.isWrite = true) :
    ¬ ChecksExistence controller operation canary past r := by
  rintro ⟨-, _, -, rfl, -⟩
  cases h

theorem balanced_fetch (plain : ¬ ChecksExistence call.controller call.operation call.canary past
      (.readObject call.controller.kind object)) :
    Balanced call past [] (fetch call.controller.kind object) fun _ => [] := by
  refine .call_bind rfl fun reply => ?_
  cases reply with
  | error failure =>
    refine .giveUp (fun refusal h => ?_) (by rintro _ rfl; rfl) _ _
    exact ⟨refusal?_read.mpr (congrArg _ h), fun both => plain both.2⟩
  | ok v =>
    change Balanced _ _ [] _ _
    dsimp only [Program.bind]
    cases v.toManifest with
    | ok m => exact .pure rfl
    | error shape => exact .fail _

theorem balanced_exists (check : ChecksExistence call.controller call.operation call.canary past
      (.readObject call.controller.kind object)) :
    Balanced call past [] («exists» call.controller.kind object) fun _ => [] := by
  refine .call_bind rfl fun reply => ?_
  cases reply with
  | ok v => exact .pure rfl
  | error failure =>
    change Balanced _ _ _ (if failure.isNotFound then Pure.pure false
      else giveUp "get" call.controller.kind object failure) _
    split
    · rename_i missing
      cases failure with
      | broken cause => cases missing
      | refused refusal =>
        rw [occasion?_of_refusal (refusal?_read.mpr rfl), if_pos ⟨missing, check⟩]
        exact .pure rfl
    · rename_i fatal
      refine .giveUp (fun refusal h => ?_) (by rintro _ rfl; rfl) _ _
      subst h
      exact ⟨refusal?_read.mpr rfl, fun both => fatal both.1⟩

theorem occasion?_create (establishing : call.operation = .establish)
    (named : Site.bodyName body = object.name) :
    call.occasion? past (createExchange call.controller.kind object.space body (.ok ())) =
      if object = TemplateController.primaryObject call.canary then
        some (.primaryCreated call.controller.kind.name)
      else none := by
  refine if_congr ?_ rfl rfl
  simp [establishing, Request.key?, named, Controller.primaryKey]

theorem balanced_create (establishing : call.operation = .establish)
    (named : Site.bodyName body = object.name) :
    Balanced call past [] (create call.controller.kind object body) fun _ =>
      if object = TemplateController.primaryObject call.canary then
        [.primaryCreated call.controller.kind.name]
      else [] := by
  refine .call_bind rfl fun reply => ?_
  cases reply with
  | ok u =>
    rw [occasion?_create establishing named]
    refine .pure ?_
    split <;> rfl
  | error failure =>
    refine .giveUp (fun refusal h => ?_) (by rintro _ rfl; rfl) _ _
    refine ⟨refusal?_create.mpr (congrArg _ h), fun both => ?_⟩
    exact not_checksExistence_of_isWrite rfl both.2

theorem balanced_update {action : String} {counter : Counter}
    (replaced : ∀ name body, ownName v = .ok name →
      writeBody call.controller.kind v = .ok body →
      call.occasion? past (replaceExchange call.controller.kind name body (.ok ())) =
        some counter) :
    Balanced call past [] (update call.controller.kind v action) fun _ => [counter] := by
  refine .lift_bind fun name hn => .lift_bind fun body hb => .call_bind rfl fun reply => ?_
  cases reply with
  | ok u =>
    rw [replaced name body hn hb]
    exact .pure rfl
  | error failure =>
    refine .giveUp (fun refusal h => ?_) (by rintro _ rfl; rfl) _ _
    refine ⟨refusal?_replace.mpr (congrArg _ h), fun both => ?_⟩
    exact not_checksExistence_of_isWrite rfl both.2

theorem balanced_promotion {logger : String} {notice : Notice}
    (promoting : call.operation = .promote) :
    Balanced call past [] (do
      update call.controller.kind v "promote"
      request (.count (.promoted call.controller.kind.name))
      request (.note logger notice)) fun _ => [] := by
  refine (balanced_update fun _ _ _ _ => ?_).bind fun _ _ _ =>
    (Balanced.count _).bind fun _ _ _ => .note (Nat.zero_le 1)
  exact if_pos promoting

theorem promote_ne_establish : Operation.promote ≠ .establish := by decide

theorem balanced_silent {p : Program Unit} (h : Balanced call past [] p fun _ => []) :
    Balanced call past [] (Controller.silent p) fun _ => [] := h.bind fun _ _ _ => .pure rfl

end Calls

/-! ## Operations of kinds with a pod template -/

namespace TemplateController

variable {c : TemplateController} {canary : Canary} {operation : Operation} {workload : Value}

theorem judgement?_eq {status : RolloutStatus} {now : Timestamp}
    (judged : (⟨.template c, operation, canary⟩ : Call).judgedObject? = some object)
    (manifest : v.toManifest = .ok workload)
    (hs : RolloutStatus.ofObject c.kind workload = .ok status) :
    (⟨.template c, operation, canary⟩ : Call).judgement?
        (past ++ [readExchange (.template c.kind) object (.ok v)]) now =
      (status.readiness canary.progressDeadline now).toOption.map
        fun readiness => .readinessChecked c.kind.name readiness.verdict := by
  simp only [Call.judgement?, judged, lastRead?_read, manifest, Except.toOption, hs,
    Option.bind_eq_bind, Option.bind_some]
  cases status.readiness canary.progressDeadline now <;> rfl

theorem balanced_checkRollout {check : ReadinessCheck} {place : ObjectName}
    (judged : (⟨.template c, operation, canary⟩ : Call).judgedObject? = some object)
    (manifest : v.toManifest = .ok workload) :
    Balanced ⟨.template c, operation, canary⟩
      (past ++ [readExchange (.template c.kind) object (.ok v)]) []
      (c.checkRollout canary check place workload) fun _ => [] := by
  refine .lift_bind fun status hs => Balanced.clock.bind fun log (now : Timestamp) _ => ?_
  rw [judgement?_eq judged manifest hs]
  unfold ensureReady
  cases status.readiness canary.progressDeadline now with
  | error failure => exact .fail failure
  | ok readiness =>
    refine (Balanced.count _).bind fun _ _ _ => ?_
    exact .of_avoids (avoids_ite (avoids_pure _) (avoids_fail _))

theorem balanced_checkPrimary (judging : operation = .establish ∨ operation = .checkPrimary)
    (plain : ¬ ChecksExistence (.template c) operation canary past
      (.readObject (.template c.kind) (primaryObject canary))) :
    Balanced ⟨.template c, operation, canary⟩ past [] (c.checkPrimary canary) fun _ => [] := by
  refine (balanced_fetch plain).bind fun log primary fetched => ?_
  obtain ⟨v, rfl, manifest⟩ := ends_fetch.mp fetched
  refine Balanced.bind (balanced_checkRollout ?_ manifest) fun _ _ _ => .lift_bind fun _ _ => ?_
  · rcases judging with rfl | rfl <;> rfl
  · exact .of_avoids (avoids_ite (avoids_fail _) (avoids_pure _))

theorem occasion?_replace {name : ObjectName} (other : operation ≠ .promote)
    (manifest : v.toManifest = .ok target) {down : Bool}
    (moved : MarkerMoved target body down) :
    (⟨.template c, operation, canary⟩ : Call).occasion?
        (past ++ [readExchange (.template c.kind) canary.targetObject (.ok v)])
        (replaceExchange (.template c.kind) name body (.ok ())) =
      some (.scaled c.kind.name down) := by
  change (if operation = .promote then _ else (lastRead? (.template c.kind) canary.targetObject
    (past ++ [_])).bind _) = _
  rw [if_neg other, lastRead?_read]
  change v.toManifest.toOption.bind _ = _
  rw [manifest]
  change (markerMove? target body).map _ = _
  rw [markerMove?_eq moved]
  rfl

theorem balanced_scaleToZero (other : operation ≠ .promote) :
    Balanced ⟨.template c, operation, canary⟩ past [] (c.scaleToZero canary) fun _ => [] := by
  refine (balanced_fetch not_checksExistence_target).bind fun log target fetched => ?_
  obtain ⟨v, rfl, manifest⟩ := ends_fetch.mp fetched
  refine .lift_bind fun podSpec hp => .lift_bind fun down hd => ?_
  cases down with
  | true =>
    exact .of_avoids ((avoids_request nofun).bind fun _ => avoids_pure _)
  | false =>
    refine .lift_bind fun marked hm => .lift_bind fun changed hc => ?_
    refine (balanced_update fun name body hn hb => ?_).bind fun _ _ _ =>
      Balanced.count (.scaled c.kind.name true)
    have writes : Writes (c.scaleToZero canary)
        [readExchange (.template c.kind) canary.targetObject (.ok v)]
        (.replaceObject (.template c.kind) name body) := by
      refine writes_bind.mpr (.inr ⟨target, _, [], (List.append_nil _).symm, fetched, ?_⟩)
      refine writes_lift_bind.mpr ⟨podSpec, hp, writes_lift_bind.mpr ⟨false, hd, ?_⟩⟩
      refine writes_lift_bind.mpr ⟨marked, hm, writes_lift_bind.mpr ⟨changed, hc, ?_⟩⟩
      exact writes_bind.mpr (.inl (writes_update.mpr ⟨rfl, name, body, hn, hb, rfl⟩))
    obtain ⟨_, target', _, _, ⟨⟩, ⟨⟩, marks⟩ := marks_of_writes writes
    exact occasion?_replace other marks.manifest ⟨marks.unmarked, marks.down.marker⟩

theorem balanced_scaleFromZero (other : operation ≠ .promote) :
    Balanced ⟨.template c, operation, canary⟩ past [] (c.scaleFromZero canary) fun _ => [] := by
  refine (balanced_fetch not_checksExistence_target).bind fun log target fetched => ?_
  obtain ⟨v, rfl, manifest⟩ := ends_fetch.mp fetched
  refine .lift_bind fun podSpec hp => .lift_bind fun selector hs => .lift_bind fun marked hm => ?_
  cases marked with
  | false =>
    exact .of_avoids ((avoids_request nofun).bind fun _ => avoids_pure _)
  | true =>
    refine .lift_bind fun unmarked hu => .lift_bind fun changed hc => ?_
    refine (balanced_update fun name body hn hb => ?_).bind fun _ _ _ =>
      (Balanced.count (.scaled c.kind.name false)).bind fun _ _ _ =>
        .note (Nat.zero_le 1)
    have writes : Writes (c.scaleFromZero canary)
        [readExchange (.template c.kind) canary.targetObject (.ok v)]
        (.replaceObject (.template c.kind) name body) := by
      refine writes_bind.mpr (.inr ⟨target, _, [], (List.append_nil _).symm, fetched, ?_⟩)
      refine writes_lift_bind.mpr ⟨podSpec, hp, writes_lift_bind.mpr ⟨selector, hs, ?_⟩⟩
      refine writes_lift_bind.mpr ⟨true, hm, writes_lift_bind.mpr ⟨unmarked, hu, ?_⟩⟩
      refine writes_lift_bind.mpr ⟨changed, hc, writes_bind.mpr (.inl ?_)⟩
      exact writes_update.mpr ⟨rfl, name, body, hn, hb, rfl⟩
    obtain ⟨_, target', _, _, x, ⟨⟩, manifest', ⟨⟩, -, there, gone⟩ := unmarks_of_writes writes
    exact occasion?_replace other manifest' ⟨by simp [there], gone⟩

theorem balanced_createPrimary :
    Balanced ⟨.template c, .establish, canary⟩ [] [] (c.createPrimary canary) fun _ => [] := by
  refine (balanced_fetch not_checksExistence_target).bind fun log target fetched => ?_
  obtain ⟨v, rfl, -⟩ := ends_fetch.mp fetched
  refine .lift_bind fun _ _ => .lift_bind fun (label, value) _ => ?_
  refine (balanced_exists checksExistence_primary).bind fun _ found _ => ?_
  cases found with
  | true => exact .pure rfl
  | false =>
    refine (Balanced.of_avoids (avoids_copyConfigs nofun nofun)).bind fun _ refs _ => ?_
    refine (Balanced.of_avoids (avoids_primaryBody nofun nofun)).bind fun _ body made => ?_
    obtain ⟨-, _, _, -, own, -⟩ := ends_primaryBody made
    refine (balanced_create rfl (Site.bodyName_of_ownName own)).bind fun _ _ _ => ?_
    rw [if_pos rfl]
    exact (Balanced.count _).bind fun _ _ _ => .note (Nat.zero_le 1)

theorem balanced_establish :
    Balanced ⟨.template c, .establish, canary⟩ [] [] (c.establish canary) fun _ => [] := by
  refine balanced_createPrimary.bind fun log _ created => ?_
  obtain ⟨reply, mem⟩ := read_of_createPrimary created
  have scaling (past : List Exchange) : Balanced ⟨.template c, .establish, canary⟩ past [] (do
      request (.note c.logger (.scalingDown c.kind.name canary.targetObject canary.key))
      c.scaleToZero canary) fun _ => [] :=
    .bind (.note (Nat.zero_le 1)) fun _ _ _ => balanced_scaleToZero (by decide)
  split
  · exact .pure rfl
  · split
    · have read : ¬ ChecksExistence (.template c) .establish canary log
          (.readObject (Controller.template c).kind (primaryObject canary)) :=
        not_checksExistence_of_mem mem
      exact (balanced_checkPrimary (.inl rfl) read).bind fun _ _ _ => scaling _
    · exact scaling _

theorem balanced_promote :
    Balanced ⟨.template c, .promote, canary⟩ past [] (c.promote canary) fun _ => [] := by
  refine (balanced_fetch not_checksExistence_target).bind fun _ target _ => ?_
  refine .lift_bind fun paired _ => ?_
  refine (balanced_fetch (not_checksExistence_of_ne promote_ne_establish)).bind
    fun _ primary _ => ?_
  refine (Balanced.of_avoids (avoids_copyConfigs nofun nofun)).bind fun _ refs _ => ?_
  refine (Balanced.of_avoids (avoids_promoted nofun nofun)).bind fun _ body _ => ?_
  exact balanced_promotion rfl

theorem balanced_call :
    Balanced ⟨.template c, operation, canary⟩ [] []
      (Controller.call (.template c) operation canary) fun _ => [] := by
  cases operation with
  | establish => exact balanced_silent balanced_establish
  | promote => exact balanced_silent balanced_promote
  | hasTargetChanged =>
    refine Balanced.bind ?_ fun _ _ _ => .pure rfl
    refine (balanced_fetch not_checksExistence_target).bind fun _ target _ => ?_
    exact .lift_bind fun spec _ => .lift_bind fun template _ => .lift_bind fun _ _ => .pure rfl
  | haveConfigsChanged =>
    refine .of_avoids (Avoids.bind ?_ fun _ => avoids_pure _)
    exact avoids_orFail (avoids_request nofun)
  | pairing =>
    refine Balanced.bind ?_ fun _ _ _ => .pure rfl
    refine (balanced_fetch not_checksExistence_target).bind fun _ target _ => ?_
    refine .lift_bind fun paired _ => ?_
    dsimp only
    split
    · exact .pure rfl
    · refine .lift_bind fun spec _ => .lift_bind fun template _ => .lift_bind fun podSpec _ => ?_
      exact .lift_bind fun containers _ => .lift_bind fun ports _ => .pure rfl
  | checkPrimary =>
    exact balanced_silent (balanced_checkPrimary (.inr rfl) (not_checksExistence_of_ne (by decide)))
  | checkTarget =>
    refine Balanced.bind ?_ fun _ _ _ => .pure rfl
    refine (balanced_fetch not_checksExistence_target).bind fun _ target fetched => ?_
    obtain ⟨v, rfl, manifest⟩ := ends_fetch.mp fetched
    exact balanced_checkRollout rfl manifest
  | scaleToZero => exact balanced_silent (balanced_scaleToZero nofun)
  | scaleFromZero | finalize => exact balanced_silent (balanced_scaleFromZero nofun)

end TemplateController

/-! ## Operations of Services -/

namespace ServiceController

variable {c : ServiceController} {canary : Canary} {operation : Operation}

/-- A derived service that was created is due to be counted if it is the primary's. -/
theorem balanced_ensureDerived (check : ChecksExistence (.service c) .establish canary past
      (.readObject .service object)) :
    Balanced ⟨.service c, .establish, canary⟩ past [] (c.ensureDerived canary object target)
      fun created => if created = true ∧ object = primaryObject canary then
        [.primaryCreated Kind.service.name] else [] := by
  refine (balanced_exists check).bind fun _ found _ => ?_
  cases found with
  | true => exact .pure (if_neg fun both => nomatch both.1)
  | false =>
    refine .lift_bind fun body made => ?_
    have creating (past : List Exchange) : Balanced ⟨.service c, .establish, canary⟩ past []
        (create .service object body) fun _ =>
          if object = primaryObject canary then [.primaryCreated Kind.service.name] else [] :=
      balanced_create rfl (named_of_derivedBody made)
    refine (creating _).bind fun _ _ _ => .bind (.note ?_) fun _ _ _ => .pure (by simp)
    split
    · exact Nat.le_refl 1
    · exact Nat.zero_le 1

theorem balanced_establish :
    Balanced ⟨.service c, .establish, canary⟩ [] [] (c.establish canary) fun _ => [] := by
  refine (balanced_fetch not_checksExistence_target).bind fun log target fetched => ?_
  obtain ⟨v, rfl, -⟩ := ends_fetch.mp fetched
  have ne : canaryObject canary ≠ primaryObject canary := fun same =>
    canaryObject_ne (congrArg ObjectName.standard same)
  have canary_derived := canaryObject_mem_derivedObjects c canary
  have primary_derived := primaryObject_mem_derivedObjects c canary
  refine (balanced_ensureDerived ⟨rfl, _, canary_derived, rfl,
    unread_of_target_read canary_derived⟩).bind fun first _ ensured => ?_
  rw [if_neg fun both => ne both.2]
  refine (balanced_ensureDerived ⟨rfl, _, primary_derived, rfl, fun reply mem => ?_⟩).bind
    fun second created _ => ?_
  · obtain mem | mem := List.mem_append.mp mem
    · exact unread_of_target_read primary_derived reply mem
    · exact reads_ensureDerived ne.symm ensured reply mem
  · cases created with
    | false =>
      rw [if_neg fun both => nomatch both.1]
      exact .pure rfl
    | true =>
      rw [if_pos ⟨rfl, rfl⟩]
      exact .count _

theorem balanced_promote :
    Balanced ⟨.service c, .promote, canary⟩ past [] (c.promote canary) fun _ => [] := by
  refine (balanced_fetch not_checksExistence_target).bind fun _ target _ => ?_
  refine (balanced_fetch (not_checksExistence_of_ne promote_ne_establish)).bind
    fun _ primary _ => ?_
  refine .lift_bind fun body _ => ?_
  exact balanced_promotion rfl

theorem balanced_call :
    Balanced ⟨.service c, operation, canary⟩ [] []
      (Controller.call (.service c) operation canary) fun _ => [] := by
  cases operation with
  | establish => exact balanced_silent balanced_establish
  | promote => exact balanced_silent balanced_promote
  | hasTargetChanged =>
    refine Balanced.bind ?_ fun _ _ _ => .pure rfl
    refine (balanced_fetch not_checksExistence_target).bind fun _ target _ => ?_
    exact .lift_bind fun spec _ => .lift_bind fun _ _ => .pure rfl
  | _ => exact .pure rfl

end ServiceController

/-- The increments of a call are its occasions. -/
theorem Call.balanced (call : Call) : Balanced call [] [] call.program fun _ => [] := by
  obtain ⟨controller, operation, canary⟩ := call
  cases controller with
  | template c => exact TemplateController.balanced_call
  | service c => exact ServiceController.balanced_call

end CanaryRelease
