import CanaryRelease.Proofs.Avoidance
import CanaryRelease.Proofs.Ownership
import CanaryRelease.Proofs.Tallies

/-!
# What notices tell of

Notices at the level of information tell operators what has changed: an object was created, a
revision was promoted, a target was scaled. Those about creation, promotion and scaling up are noted
after the write that they tell of, and what is written in a call decides which they are
(`Call.report?`): a call notes them one by one and in the order of its accepted writes, whatever is
refused in between (`Call.notices_follow_writes`).

Scaling down is not told in this way. Establishing announces it before the target is even read for
it, so the announcement is noted as well when nothing comes of it (`announced_in_vain`), and the
scaling itself leaves no notice.

As for the counters, the notices are accounted for along the programs. `Told` says of a part of a
call which notices are due when it begins and which it leaves due when it succeeds.
-/

namespace CanaryRelease

open Program Workload

/-! ## Notices and writes -/

/-- A notice that tells of something to come. -/
def Notice.announces : Notice → Bool
  | scalingDown .. => true
  | _ => false

namespace Request

/-- Whether a request is to announce something. -/
def announces : Request → Bool
  | note _ notice => notice.announces
  | _ => false

/-- Whether a request is to note something for information. -/
def informs : Request → Bool
  | note _ notice => notice.level = .info
  | _ => false

/-- What a request tells of as having happened, for information. -/
def told? : Request → Option Notice
  | note _ notice => if notice.level = .info ∧ notice.announces = false then some notice else none
  | _ => none

/-- Whether a request is a write or gives information. -/
def speaks (r : Request) : Bool := r.isWrite || r.announces || r.told?.isSome

end Request

/-- What the exchanges of a log tell of as having happened, for information. -/
def toldIn (log : List Exchange) : List Notice := log.filterMap (·.request.told?)

namespace Call

/-- What a call tells of a write that was accepted. -/
def report? (call : Call) : Request → Option Notice
  | .createObject kind _ body =>
    (ownName body).toOption.map fun object => .created kind.name object call.canary.key
  | .replaceObject kind _ _ =>
    match call.operation with
    | .promote => some (.promoted kind.name call.canary.targetObject
        (primaryName call.canary.target.name))
    | .scaleFromZero | .finalize => some (.scaledUp kind.name call.canary.targetObject)
    | _ => none
  | _ => none

/-- What there is to tell of the writes in some exchanges of a call. -/
def reports (call : Call) (log : List Exchange) : List Notice :=
  (log.filter Exchange.wrote).filterMap fun e => call.report? e.request

end Call

/-- The exchange in which establishing announces that the target is scaled down. -/
def TemplateController.announcement (c : TemplateController) (canary : Canary) : Exchange :=
  ⟨.note c.logger (.scalingDown c.kind.name canary.targetObject canary.key), ()⟩

namespace Call

/-- What is told of a write of a call is about what was written: an object is created under the
name that is told; a replaced object, written back under the name that it gives itself, was read as
the primary or the target that is told. Nothing is told of a target that is scaled down. -/
inductive Tells (call : Call) (log : List Exchange) : Request → Option Notice → Prop where
  | created {object : ObjectName} {body : Value} (own : ownName body = .ok object) :
      Tells call log (.createObject call.controller.kind object.space body)
        (some (.created call.controller.kind.name object call.canary.key))
  | promoted {v primary body : Value} {name : ObjectName} (promoting : call.operation = .promote)
      (read : readExchange call.controller.kind (TemplateController.primaryObject call.canary)
        (.ok v) ∈ log)
      (manifest : v.toManifest = .ok primary) (own : ownName primary = .ok name) :
      Tells call log (.replaceObject call.controller.kind name body)
        (some (.promoted call.controller.kind.name call.canary.targetObject
          (primaryName call.canary.target.name)))
  | scaledUp {v target body : Value} {name : ObjectName}
      (up : call.operation = .scaleFromZero ∨ call.operation = .finalize)
      (read : readExchange call.controller.kind call.canary.targetObject (.ok v) ∈ log)
      (manifest : v.toManifest = .ok target) (own : ownName target = .ok name) :
      Tells call log (.replaceObject call.controller.kind name body)
        (some (.scaledUp call.controller.kind.name call.canary.targetObject))
  | scaledDown {v target body : Value} {name : ObjectName}
      (down : call.operation = .scaleToZero ∨ call.operation = .establish)
      (read : readExchange call.controller.kind call.canary.targetObject (.ok v) ∈ log)
      (manifest : v.toManifest = .ok target) (own : ownName target = .ok name) :
      Tells call log (.replaceObject call.controller.kind name body) none

/-- What is announced in the exchanges of a call. Only establishing announces anything, in an
initial phase, and that once, before it reads the target to scale it down: so whether the target is
then written or not. -/
inductive Announces (call : Call) : List Exchange → Prop where
  | nothing {log : List Exchange} (plain : ∀ e ∈ log, e.request.announces = false)
      (kept : call.operation = .establish → ∀ e ∈ log, ∀ kind name body,
        e.request ≠ .replaceObject kind name body) :
      Announces call log
  | ahead {c : TemplateController} {before after : List Exchange} {outcome : Except Failure Unit}
      (template : call.controller = .template c) (establishing : call.operation = .establish)
      (initial : call.canary.phase.isInitial = true)
      (plain : ∀ e ∈ before ++ after, e.request.announces = false)
      (kept : ∀ e ∈ before, ∀ kind name body, e.request ≠ .replaceObject kind name body)
      (scaling : Ends (c.scaleToZero call.canary) after outcome) :
      Announces call (before ++ c.announcement call.canary :: after)

end Call

variable {α β : Type} {call : Call} {log more : List Exchange} {e : Exchange} {r : Request}

theorem toldIn_append (log more : List Exchange) :
    toldIn (log ++ more) = toldIn log ++ toldIn more := List.filterMap_append

theorem Call.reports_append (call : Call) (log more : List Exchange) :
    call.reports (log ++ more) = call.reports log ++ call.reports more := by
  rw [reports, List.filter_append, List.filterMap_append]
  rfl

theorem toldIn_singleton (e : Exchange) : toldIn [e] = e.request.told?.toList := by
  rw [toldIn, List.filterMap_cons, List.filterMap_nil]
  cases e.request.told? <;> rfl

theorem Call.reports_of_wrote (wrote : e.wrote = true) :
    call.reports [e] = (call.report? e.request).toList := by
  rw [reports, List.filter_cons_of_pos wrote, List.filter_nil, List.filterMap_cons,
    List.filterMap_nil]
  cases call.report? e.request <;> rfl

theorem toldIn_of_quiet (quiet : ∀ e ∈ log, ¬ e.request.speaks = true) : toldIn log = [] := by
  refine List.filterMap_eq_nil_iff.mpr fun e mem => ?_
  have silent := quiet e mem
  simp only [Request.speaks, Bool.or_eq_true, not_or, Bool.not_eq_true] at silent
  exact Option.isSome_eq_false_iff.mp silent.2 |> Option.isNone_iff_eq_none.mp

theorem Call.reports_of_quiet (quiet : ∀ e ∈ log, ¬ e.request.speaks = true) :
    call.reports log = [] := by
  have none_wrote : log.filter Exchange.wrote = [] :=
    List.filter_eq_nil_iff.mpr fun e mem wrote => quiet e mem <| by
      simp [Request.speaks, Exchange.isWrite_of_wrote wrote]
  rw [reports, none_wrote]
  rfl

/-! ## What the parts of a call leave due -/

/-- A part of a call tells what is due when it begins and what its writes make due, in this order,
apart from what it leaves due; it announces nothing. -/
structure Told (call : Call) (due : List Notice) (p : Program α) (left : α → List Notice) :
    Prop where
  failed : ∀ log failure, Ends p log (.error failure) → due ++ call.reports log = toldIn log
  succeeded : ∀ log a, Ends p log (.ok a) → due ++ call.reports log = toldIn log ++ left a
  plain : ∀ log outcome, Ends p log outcome → ∀ e ∈ log, e.request.announces = false

namespace Told

variable {p : Program α} {f : α → Program β} {due : List Notice} {middle answer : α → List Notice}
  {left : β → List Notice}

theorem join {handed pending : List Notice}
    (first : due ++ call.reports log = toldIn log ++ handed)
    (second : handed ++ call.reports more = toldIn more ++ pending) :
    due ++ call.reports (log ++ more) = toldIn (log ++ more) ++ pending := by
  rw [Call.reports_append, ← List.append_assoc, first, List.append_assoc, second, toldIn_append,
    List.append_assoc]

theorem bind (hp : Told call due p middle)
    (hf : ∀ log a, Ends p log (.ok a) → Told call (middle a) (f a) left) :
    Told call due (p >>= f) left := by
  constructor
  · intro log failure ends
    obtain ⟨_, first, ⟨⟩⟩ | ⟨a, before, after, rfl, ended, rest⟩ := ends_bind.mp ends
    · exact hp.failed log failure first
    · have balance := (hf before a ended).failed after failure rest
      rw [← List.append_nil (toldIn after)] at balance
      simpa using join (hp.succeeded before a ended) balance
  · intro log b ends
    obtain ⟨a, before, after, rfl, ended, rest⟩ := ends_bind_ok.mp ends
    exact join (hp.succeeded before a ended) ((hf before a ended).succeeded after b rest)
  · intro log outcome ends
    obtain ⟨_, first, rfl⟩ | ⟨a, before, after, rfl, ended, rest⟩ := ends_bind.mp ends
    · exact hp.plain log _ first
    · intro e mem
      obtain early | late := List.mem_append.mp mem
      · exact hp.plain before _ ended e early
      · exact (hf before a ended).plain after outcome rest e late

theorem pure {a : α} (h : answer a = due) : Told call due (Pure.pure a) answer := by
  subst h
  refine ⟨fun log failure ends => ?_, fun log a' ends => ?_, fun log outcome ends => ?_⟩
  · cases (ends_pure.mp ends).2
  · obtain ⟨rfl, ⟨⟩⟩ := ends_pure.mp ends
    simp [Call.reports, toldIn]
  · obtain ⟨rfl, -⟩ := ends_pure.mp ends
    exact fun _ mem => absurd mem List.not_mem_nil

theorem fail (failure : Failure) : Told call [] (.fail failure : Program α) answer := by
  refine ⟨fun log failure' ends => ?_, fun log a ends => ?_, fun log outcome ends => ?_⟩
  · obtain ⟨rfl, -⟩ := ends_fail.mp ends
    rfl
  · cases (ends_fail.mp ends).2
  · obtain ⟨rfl, -⟩ := ends_fail.mp ends
    exact fun _ mem => absurd mem List.not_mem_nil

theorem lift_bind {x : Except Failure α} (hf : ∀ a, x = .ok a → Told call [] (f a) left) :
    Told call [] (liftM x >>= f) left := by
  cases x with
  | error failure => exact .fail failure
  | ok a => exact hf a rfl

theorem ask {r : Request} {next : r.Reply → Program α} (plain : r.announces = false)
    (rest : ∀ reply, ∃ handed, Told call handed (next reply) answer ∧
      due ++ call.reports [⟨r, reply⟩] = toldIn [⟨r, reply⟩] ++ handed) :
    Told call due (.ask r next) answer := by
  constructor
  · intro log failure ends
    obtain ⟨reply, after, rfl, later⟩ := ends_ask.mp ends
    obtain ⟨handed, told, balance⟩ := rest reply
    have last := told.failed after failure later
    rw [← List.append_nil (toldIn after)] at last
    simpa using join balance last
  · intro log a ends
    obtain ⟨reply, after, rfl, later⟩ := ends_ask.mp ends
    obtain ⟨handed, told, balance⟩ := rest reply
    exact join balance (told.succeeded after a later)
  · intro log outcome ends
    obtain ⟨reply, after, rfl, later⟩ := ends_ask.mp ends
    obtain ⟨handed, told, -⟩ := rest reply
    exact List.forall_mem_cons.mpr ⟨plain, told.plain after outcome later⟩

theorem of_avoids (quiet : Avoids (·.speaks = true) p) : Told call [] p fun _ => [] := by
  have silent {log : List Exchange} {outcome : Except Failure α} (ends : Ends p log outcome) :
      ∀ e ∈ log, ¬ e.request.speaks = true := fun e mem => quiet.of_mem ends mem
  refine ⟨fun log _ ends => ?_, fun log _ ends => ?_, fun log _ ends e mem => ?_⟩
  · rw [Call.reports_of_quiet (silent ends), toldIn_of_quiet (silent ends)]
    rfl
  · rw [Call.reports_of_quiet (silent ends), toldIn_of_quiet (silent ends)]
  · have quiet := silent ends e mem
    simp only [Request.speaks, Bool.or_eq_true, not_or, Bool.not_eq_true] at quiet
    exact quiet.1.2

theorem request (quiet : ¬ r.speaks = true) :
    Told call due (Program.request r) fun _ => due := by
  have silent (reply : r.Reply) :
      ∀ e ∈ [(⟨r, reply⟩ : Exchange)], ¬ e.request.speaks = true := fun e mem => by
    obtain rfl := List.mem_singleton.mp mem
    exact quiet
  refine .ask ?_ fun reply => ⟨due, .pure rfl, ?_⟩
  · simp only [Request.speaks, Bool.or_eq_true, not_or, Bool.not_eq_true] at quiet
    exact quiet.1.2
  · rw [Call.reports_of_quiet (silent reply), toldIn_of_quiet (silent reply)]
    exact List.append_nil due

theorem giveUp (action : String) (kind : Kind) (object : ObjectName) (failure : CallFailure) :
    Told call [] (Workload.giveUp action kind object failure) answer := by
  cases failure with
  | refused refusal =>
    refine Told.bind (.request ?_) fun _ _ _ => .fail _
    exact nofun
  | broken failure => exact .fail failure

theorem note {logger : String} {notice : Notice} (info : notice.level = .info)
    (plain : notice.announces = false) :
    Told call [notice] (Program.request (.note logger notice)) fun _ => [] := by
  refine .ask plain fun _ => ⟨[], .pure rfl, ?_⟩
  rw [toldIn_singleton, Request.told?, if_pos ⟨info, plain⟩]
  rfl

theorem countedNote {counter : Counter} {logger : String} {notice : Notice}
    (info : notice.level = .info) (plain : notice.announces = false) :
    Told call [notice] (Program.request (.count counter) >>= fun _ =>
      Program.request (.note logger notice)) fun _ => [] := by
  refine Told.bind (.request ?_) fun _ _ _ => .note info plain
  exact nofun

theorem silent {p : Program Unit} (h : Told call [] p fun _ => []) :
    Told call [] (Controller.silent p) fun _ => [] := h.bind fun _ _ _ => .pure rfl

end Told

/-! ## Calls to the server -/

section Calls

variable {kind : Kind} {object : ObjectName} {body v : Value}

theorem told_fetch : Told call [] (fetch kind object) fun _ => [] :=
  .of_avoids (avoids_fetch nofun nofun)

theorem told_exists : Told call [] («exists» kind object) fun _ => [] :=
  .of_avoids (avoids_exists nofun nofun)

theorem told_create (own : ownName body = .ok object) :
    Told call [] (create kind object body)
      fun _ => [.created kind.name object call.canary.key] := by
  refine .ask rfl fun reply => ?_
  cases reply with
  | ok u =>
    refine ⟨_, .pure rfl, ?_⟩
    rw [Call.reports_of_wrote rfl, Call.report?, own]
    rfl
  | error failure => exact ⟨[], .giveUp _ _ _ failure, rfl⟩

/-- What is due to be told of a replacement does not depend on what was written. -/
theorem told_update {action : String} {due : List Notice}
    (report : ∀ name body, (call.report? (.replaceObject kind name body)).toList = due) :
    Told call [] (update kind v action) fun _ => due := by
  refine .lift_bind fun name _ => .lift_bind fun body _ => .ask rfl fun reply => ?_
  cases reply with
  | ok u =>
    refine ⟨due, .pure rfl, ?_⟩
    rw [Call.reports_of_wrote rfl, report name body]
    rfl
  | error failure => exact ⟨[], .giveUp _ _ _ failure, rfl⟩

end Calls

/-! ## Operations of kinds with a pod template -/

namespace TemplateController

variable {c : TemplateController} {canary : Canary} {operation : Operation}

theorem told_checkPrimary :
    Told ⟨.template c, operation, canary⟩ [] (c.checkPrimary canary) fun _ => [] := by
  refine .of_avoids ((avoids_fetch nofun nofun).bind fun _ => ?_)
  refine (avoids_checkRollout nofun nofun).bind fun _ => (avoids_lift _).bind fun _ => ?_
  exact avoids_ite (avoids_fail _) (avoids_pure _)

theorem told_createPrimary :
    Told ⟨.template c, operation, canary⟩ [] (c.createPrimary canary) fun _ => [] := by
  refine told_fetch.bind fun _ target _ => ?_
  refine .lift_bind fun _ _ => .lift_bind fun (label, value) _ => ?_
  refine told_exists.bind fun _ found _ => ?_
  cases found with
  | true => exact .pure rfl
  | false =>
    refine (Told.of_avoids (avoids_copyConfigs nofun nofun)).bind fun _ refs _ => ?_
    refine (Told.of_avoids (avoids_primaryBody nofun nofun)).bind fun _ body made => ?_
    obtain ⟨-, _, _, -, own, -⟩ := ends_primaryBody made
    exact (told_create own).bind fun _ _ _ => .countedNote rfl rfl

theorem told_scaleToZero (untold : ∀ kind name body,
      (⟨.template c, operation, canary⟩ : Call).report? (.replaceObject kind name body) = none) :
    Told ⟨.template c, operation, canary⟩ [] (c.scaleToZero canary) fun _ => [] := by
  refine told_fetch.bind fun _ target _ => .lift_bind fun _ _ => .lift_bind fun down _ => ?_
  cases down with
  | true => exact .of_avoids ((avoids_request nofun).bind fun _ => avoids_pure _)
  | false =>
    refine .lift_bind fun _ _ => .lift_bind fun _ _ => ?_
    refine (told_update fun name body => ?_).bind fun _ _ _ => .request ?_
    · rw [untold]
      rfl
    · exact nofun

theorem told_scaleFromZero (report : ∀ kind name body,
      (⟨.template c, operation, canary⟩ : Call).report? (.replaceObject kind name body) =
        some (.scaledUp kind.name canary.targetObject)) :
    Told ⟨.template c, operation, canary⟩ [] (c.scaleFromZero canary) fun _ => [] := by
  refine told_fetch.bind fun _ target _ => .lift_bind fun _ _ => .lift_bind fun _ _ => ?_
  refine .lift_bind fun marked _ => ?_
  cases marked with
  | false => exact .of_avoids ((avoids_request nofun).bind fun _ => avoids_pure _)
  | true =>
    refine .lift_bind fun _ _ => .lift_bind fun _ _ => ?_
    refine (told_update fun name body => ?_).bind fun _ _ _ => .countedNote rfl rfl
    rw [report]
    rfl

theorem told_promote :
    Told ⟨.template c, .promote, canary⟩ [] (c.promote canary) fun _ => [] := by
  refine told_fetch.bind fun _ target _ => .lift_bind fun (label, value) _ => ?_
  refine told_fetch.bind fun _ primary _ => ?_
  refine (Told.of_avoids (avoids_copyConfigs nofun nofun)).bind fun _ refs _ => ?_
  refine (Told.of_avoids (avoids_promoted nofun nofun)).bind fun _ body _ => ?_
  exact (told_update fun _ _ => rfl).bind fun _ _ _ => .countedNote rfl rfl

theorem told_call (other : operation ≠ .establish) :
    Told ⟨.template c, operation, canary⟩ [] (Controller.call (.template c) operation canary)
      fun _ => [] := by
  cases operation with
  | establish => exact absurd rfl other
  | promote => exact told_promote.silent
  | hasTargetChanged =>
    refine .of_avoids (Avoids.bind ?_ fun _ => avoids_pure _)
    refine (avoids_fetch nofun nofun).bind fun _ => (avoids_lift _).bind fun _ => ?_
    exact (avoids_lift _).bind fun _ => (avoids_lift _).bind fun _ => avoids_pure _
  | haveConfigsChanged =>
    exact .of_avoids (Avoids.bind (avoids_orFail (avoids_request nofun)) fun _ => avoids_pure _)
  | pairing =>
    refine .of_avoids (Avoids.bind ?_ fun _ => avoids_pure _)
    refine (avoids_fetch nofun nofun).bind fun _ => (avoids_lift _).bind fun _ => ?_
    refine avoids_ite (avoids_pure _) ?_
    refine (avoids_lift _).bind fun _ => (avoids_lift _).bind fun _ => ?_
    refine (avoids_lift _).bind fun _ => (avoids_lift _).bind fun _ => ?_
    exact (avoids_lift _).bind fun _ => avoids_pure _
  | checkPrimary => exact told_checkPrimary.silent
  | checkTarget =>
    refine .of_avoids (Avoids.bind ?_ fun _ => avoids_pure _)
    exact (avoids_fetch nofun nofun).bind fun _ => avoids_checkRollout nofun nofun
  | scaleToZero => exact (told_scaleToZero fun _ _ _ => rfl).silent
  | scaleFromZero | finalize => exact (told_scaleFromZero fun _ _ _ => rfl).silent

/-! ## Establishing -/

/-- What establishing does before it scales the target down. -/
def prepare (c : TemplateController) (canary : Canary) : Program Unit := do
  c.createPrimary canary
  if canary.phase.isInitial && !canary.skipAnalysis then c.checkPrimary canary

theorem establish_eq_prepare : c.establish canary = (do
    c.prepare canary
    if canary.phase.isInitial then
      Program.request (.note c.logger (.scalingDown c.kind.name canary.targetObject canary.key))
      c.scaleToZero canary) := by
  unfold establish prepare
  cases canary.phase.isInitial <;> cases canary.skipAnalysis <;> simp

theorem told_prepare :
    Told ⟨.template c, operation, canary⟩ [] (c.prepare canary) fun _ => [] := by
  refine told_createPrimary.bind fun _ _ _ => ?_
  split
  · exact told_checkPrimary
  · exact .pure rfl

theorem neverReplaces_prepare : NeverReplaces (c.prepare canary) :=
  neverReplaces_createPrimary.bind fun _ =>
    neverReplaces_ite readOnly_checkPrimary.neverReplaces (readOnly_pure _).neverReplaces

/-- Establishing ends while it prepares the scaling, or it announces the scaling and goes on with
it. -/
theorem ends_establish {log : List Exchange} {outcome : Except Failure Unit}
    (h : Ends (c.establish canary) log outcome) :
    (∃ outcome, Ends (c.prepare canary) log outcome) ∨
      canary.phase.isInitial = true ∧ ∃ before after,
        log = before ++ c.announcement canary :: after ∧ Ends (c.prepare canary) before (.ok ()) ∧
        Ends (c.scaleToZero canary) after outcome := by
  rw [establish_eq_prepare] at h
  obtain ⟨failure, early, -⟩ | ⟨_, before, rest, rfl, prepared, later⟩ := ends_bind.mp h
  · exact .inl ⟨_, early⟩
  · split at later
    · rename_i initial
      obtain ⟨_, noted, -⟩ | ⟨_, noting, after, rfl, noted, scaling⟩ := ends_bind.mp later
      · obtain ⟨_, -, ⟨⟩⟩ := ends_request.mp noted
      · obtain ⟨_, rfl, -⟩ := ends_request.mp noted
        exact .inr ⟨initial, before, after, rfl, prepared, scaling⟩
    · obtain ⟨rfl, -⟩ := ends_pure.mp later
      exact .inl ⟨_, by simpa using prepared⟩

end TemplateController

/-! ## Operations of Services -/

namespace ServiceController

variable {c : ServiceController} {canary : Canary} {operation : Operation} {object : ObjectName}
  {target : Value}

theorem told_ensureDerived :
    Told ⟨.service c, operation, canary⟩ [] (c.ensureDerived canary object target) fun _ => [] := by
  refine told_exists.bind fun _ found _ => ?_
  cases found with
  | true => exact .pure rfl
  | false =>
    refine .lift_bind fun body made => ?_
    obtain ⟨_, _, _, -, -, -, own, -⟩ := exists_spec_of_derivedBody made
    exact (told_create own).bind fun _ _ _ => (Told.note rfl rfl).bind fun _ _ _ => .pure rfl

theorem told_establish :
    Told ⟨.service c, operation, canary⟩ [] (c.establish canary) fun _ => [] := by
  refine told_fetch.bind fun _ target _ => told_ensureDerived.bind fun _ _ _ => ?_
  refine told_ensureDerived.bind fun _ created _ => ?_
  exact .of_avoids (avoids_ite (avoids_request nofun) (avoids_pure _))

theorem told_promote :
    Told ⟨.service c, .promote, canary⟩ [] (c.promote canary) fun _ => [] := by
  refine told_fetch.bind fun _ target _ => told_fetch.bind fun _ primary _ => ?_
  refine .lift_bind fun body _ => ?_
  exact (told_update fun _ _ => rfl).bind fun _ _ _ => .countedNote rfl rfl

theorem told_call :
    Told ⟨.service c, operation, canary⟩ [] (Controller.call (.service c) operation canary)
      fun _ => [] := by
  cases operation with
  | establish => exact told_establish.silent
  | promote => exact told_promote.silent
  | hasTargetChanged =>
    refine .of_avoids (Avoids.bind ?_ fun _ => avoids_pure _)
    refine (avoids_fetch nofun nofun).bind fun _ => (avoids_lift _).bind fun _ => ?_
    exact (avoids_lift _).bind fun _ => avoids_pure _
  | _ => exact .pure rfl

end ServiceController

/-! ## All calls -/

theorem Told.toldIn_eq {p : Program α} (h : Told call [] p fun _ => [])
    {outcome : Except Failure α} (ended : Ends p log outcome) : toldIn log = call.reports log := by
  cases outcome with
  | error failure => exact (h.failed log failure ended).symm
  | ok a => simpa using (h.succeeded log a ended).symm

theorem ends_of_silent {p : Program Unit} {outcome : Except Failure Value}
    (h : Ends (Controller.silent p) log outcome) : ∃ outcome, Ends p log outcome := by
  obtain ⟨failure, failed, -⟩ | ⟨_, before, after, rfl, ended, last⟩ := ends_bind.mp h
  · exact ⟨_, failed⟩
  · obtain ⟨rfl, -⟩ := ends_pure.mp last
    exact ⟨_, by simpa using ended⟩

theorem Program.NeverReplaces.of_mem {p : Program α} (h : NeverReplaces p)
    {outcome : Except Failure α} (ended : Ends p log outcome) (mem : e ∈ log) (kind : Kind)
    (name : ObjectName) (body : Value) : e.request ≠ .replaceObject kind name body := by
  obtain ⟨before, after, rfl⟩ := List.append_of_mem mem
  exact fun same => h before kind name body (same ▸ ended.asks)

namespace Call

theorem report?_scaledDown (down : call.operation = .scaleToZero ∨ call.operation = .establish)
    {kind : Kind} {name : ObjectName} {body : Value} :
    call.report? (.replaceObject kind name body) = none := by
  obtain down | down := down <;> rw [report?, down]

theorem report?_scaledUp (up : call.operation = .scaleFromZero ∨ call.operation = .finalize)
    {kind : Kind} {name : ObjectName} {body : Value} :
    call.report? (.replaceObject kind name body) =
      some (.scaledUp kind.name call.canary.targetObject) := by
  obtain up | up := up <;> rw [report?, up]

theorem tells_of_writes (h : Writes call.program log r) : call.Tells log r (call.report? r) := by
  cases Controller.writes_call h with
  | @creates object body establishing derived own =>
    have space : call.canary.space = object.space := by
      obtain rfl | ⟨-, rfl⟩ := derived
      · rfl
      · rfl
    rw [report?, own, space]
    exact .created own
  | promotes promoting read manifest own =>
    rw [report?, promoting]
    exact .promoted promoting read manifest own
  | scales kind_eq read manifest own rescaled direction =>
    obtain ⟨down, -⟩ | ⟨up, -⟩ := direction
    · rw [report?_scaledDown down]
      exact .scaledDown down read manifest own
    · rw [report?_scaledUp up]
      exact .scaledUp up read manifest own

/-- The account of establishing, whatever it comes to. -/
theorem account_establish {c : TemplateController} {canary : Canary}
    {outcome : Except Failure Unit} (h : Ends (c.establish canary) log outcome) :
    toldIn log = (⟨.template c, .establish, canary⟩ : Call).reports log ∧
      (⟨.template c, .establish, canary⟩ : Call).Announces log := by
  have preparing : Told ⟨.template c, .establish, canary⟩ [] (c.prepare canary) fun _ => [] :=
    TemplateController.told_prepare
  have scaling : Told ⟨.template c, .establish, canary⟩ [] (c.scaleToZero canary) fun _ => [] :=
    TemplateController.told_scaleToZero fun _ _ _ => rfl
  have kept {log : List Exchange} {outcome : Except Failure Unit}
      (ended : Ends (c.prepare canary) log outcome) :
      ∀ e ∈ log, ∀ kind name body, e.request ≠ .replaceObject kind name body := fun _ mem =>
    TemplateController.neverReplaces_prepare.of_mem ended mem
  obtain ⟨outcome, ended⟩ | ⟨initial, before, after, rfl, prepared, scaled⟩ :=
    TemplateController.ends_establish h
  · exact ⟨preparing.toldIn_eq ended, .nothing (preparing.plain log _ ended) fun _ => kept ended⟩
  · have first := preparing.toldIn_eq prepared
    have last := scaling.toldIn_eq scaled
    refine ⟨?_, .ahead rfl rfl initial ?_ (kept prepared) scaled⟩
    · -- the announcement itself is neither a write nor what one tells
      rw [toldIn_append, reports_append, first]
      exact congrArg _ last
    · intro e mem
      obtain early | late := List.mem_append.mp mem
      · exact preparing.plain before _ prepared e early
      · exact scaling.plain after _ scaled e late

/-- Whatever the server and the tracker reply, a call tells of its accepted writes one by one and in
their order, of each under the name of what was written, but for the targets that it scales down;
these it may only have announced. -/
theorem notices_follow_writes (call : Call) {log : List Exchange} {outcome : Except Failure Value}
    (ended : Ends call.program log outcome) :
    toldIn log = call.reports log ∧
      (∀ before e after, log = before ++ e :: after → e.wrote = true →
        call.Tells before e.request (call.report? e.request)) ∧
      call.Announces log := by
  have written : ∀ before e after, log = before ++ e :: after → e.wrote = true →
      call.Tells before e.request (call.report? e.request) := by
    rintro before e after rfl wrote
    exact tells_of_writes ⟨ended.asks, Exchange.isWrite_of_wrote wrote⟩
  have of_told (other : call.operation = .establish → NeverReplaces call.program)
      (told : Told call [] call.program fun _ => []) :
      toldIn log = call.reports log ∧ call.Announces log :=
    ⟨told.toldIn_eq ended, .nothing (told.plain log _ ended) fun establishing _ mem =>
      (other establishing).of_mem ended mem⟩
  suffices account : toldIn log = call.reports log ∧ call.Announces log from
    ⟨account.1, written, account.2⟩
  obtain ⟨controller, operation, canary⟩ := call
  cases controller with
  | service c =>
    refine of_told ?_ ServiceController.told_call
    rintro rfl
    exact ServiceController.neverReplaces_establish.bind fun _ => (readOnly_pure _).neverReplaces
  | template c =>
    -- only establishing announces something, so it has an account of its own
    by_cases establishing : operation = .establish
    · subst establishing
      obtain ⟨outcome, established⟩ := ends_of_silent ended
      exact account_establish established
    · exact of_told (fun same => absurd same establishing)
        (TemplateController.told_call establishing)

end Call

/-! ## Announcements -/

/-- The canary `web` with a release that needs no analysis. -/
def sampleUnanalysed : Canary := { sampleCanary with skipAnalysis := true }

/-- A site at which the Deployment `web` is scaled down already, and has a primary. -/
def sampleDownSite : Site :=
  let up := sampleSite [] [("web-primary", "2")]
  { up with server.store := up.server.store ++ [(⟨"Deployment", ⟨.text "web", .text "prod"⟩⟩,
      .object (sampleDeployment "web" "1" [(.text PodTemplate.markerKey,
        PodTemplate.markerValue)]))] }

/-- Establishing informs of a target that is scaled down where it was scaled down already: the call
ends well and has written nothing. A target that is scaled down by itself is written, and nobody is
informed. -/
theorem announced_in_vain :
    let vain := (⟨.template sampleController, .establish, sampleUnanalysed⟩ : Call)
    let silent := (⟨.template sampleController, .scaleToZero, sampleUnanalysed⟩ : Call)
    (∃ log, Ends vain.program log (.ok .null) ∧ (∀ e ∈ log, e.wrote = false) ∧
      ∃ e ∈ log, e.request.informs = true) ∧
    ∃ log, Ends silent.program log (.ok .null) ∧ (∃ e ∈ log, e.wrote = true) ∧
      ∀ e ∈ log, e.request.informs = false := by
  intro vain silent
  let first := vain.exchangesAt sampleDownSite
  let second := silent.exchangesAt (sampleSite [] [("web", "1")])
  have ends_first : (sampleDownSite.run vain.program).1 = .ok .null := by decide +kernel
  have ends_second : ((sampleSite [] [("web", "1")]).run silent.program).1 = .ok .null := by
    decide +kernel
  have unwritten : (first.all fun e => !e.wrote) = true := by decide +kernel
  have informed : (first.any fun e => e.request.informs) = true := by decide +kernel
  have written : (second.any fun e => e.wrote) = true := by decide +kernel
  have uninformed : (second.all fun e => !e.request.informs) = true := by decide +kernel
  refine ⟨⟨first, ends_first ▸ vain.ends_exchangesAt _, fun e mem => ?_,
    List.any_eq_true.mp informed⟩, second, ends_second ▸ silent.ends_exchangesAt _,
    List.any_eq_true.mp written, fun e mem => ?_⟩
  · simpa using List.all_eq_true.mp unwritten e mem
  · simpa using List.all_eq_true.mp uninformed e mem

/-- What is told when the primary of the Deployment `web` is created. -/
theorem sampleNotices_follow_writes :
    let call := (⟨.template sampleController, .establish, sampleUnanalysed⟩ : Call)
    let log := call.exchangesAt (sampleSite [] [("web", "1")])
    toldIn log = call.reports log ∧ call.Announces log ∧
      toldIn log = [.created "Deployment" ⟨.text "web-primary", .text "prod"⟩ "web.prod"] := by
  intro call log
  have follow := call.notices_follow_writes (call.ends_exchangesAt (sampleSite [] [("web", "1")]))
  exact ⟨follow.1, follow.2.2, by decide +kernel⟩

end CanaryRelease
