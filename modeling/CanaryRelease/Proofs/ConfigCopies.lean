import CanaryRelease.Proofs.Avoidance
import CanaryRelease.Proofs.Staleness

/-!
# Configuration is copied before it is referred to

The pod spec of a primary refers to copies of the target's configuration. In every trace of a call
the primary is written after the copies were made: the tracker was asked for the references of the
target, then for the copies of just these, and then for a pod spec that refers to them, and that is
the pod spec that is sent (`CopiedFor`). No copy is made for a call that is turned away: before the
tracker is asked, the target was accepted and the primary was found missing or, for a promotion, was
read (`Cleared`). If the tracker fails, the call does nothing any more (`EndsWithTracker`).

All this is about single traces, so it holds whatever is stored, whatever fails and whatever others
do in between (`configs_copied_first`).
-/

namespace CanaryRelease

open Program Workload PodTemplate Value

/-! ## Requests to the tracker -/

namespace Request

/-- Whether a request is one to the configuration tracker. -/
def asksTracker : Request → Bool
  | targetConfigs _ | copyConfigs .. | redirectConfigs .. | configsChanged _ => true
  | _ => false

/-- Whether a request is a step of copying configuration. -/
def isCopying : Request → Bool
  | targetConfigs _ | copyConfigs .. => true
  | _ => false

end Request

/-- The failure by which the tracker answered. -/
def Exchange.trackerFailure? : Exchange → Option Failure
  | ⟨.targetConfigs _, .error failure⟩ => some failure
  | ⟨.copyConfigs .., .error failure⟩ => some failure
  | ⟨.redirectConfigs .., .error failure⟩ => some failure
  | ⟨.configsChanged _, .error failure⟩ => some failure
  | _ => none

theorem Exchange.asksTracker_of_failure {e : Exchange} {failure : Failure}
    (h : e.trackerFailure? = some failure) : e.request.asksTracker = true := by
  obtain ⟨request, reply⟩ := e
  cases request with
  | targetConfigs | copyConfigs | redirectConfigs | configsChanged => rfl
  | _ => cases h

namespace Program

variable {α β : Type} {p : Program α} {f : α → Program β}

/-- A program that ends with every failure of the tracker. -/
def EndsWithTracker (p : Program α) : Prop :=
  ∀ log e failure, Asks p log e.request → e.trackerFailure? = some failure →
    Leaves p (log ++ [e]) (fail failure)

theorem endsWithTracker_of_avoids (h : Avoids (·.asksTracker) p) : EndsWithTracker p :=
  fun log _ _ asks failed => absurd (Exchange.asksTracker_of_failure failed) (h log _ asks)

theorem EndsWithTracker.bind (hp : EndsWithTracker p) (hf : ∀ a, EndsWithTracker (f a)) :
    EndsWithTracker (p >>= f) := by
  intro log e failure asks failed
  obtain first | ⟨a, before, after, rfl, ended, rest⟩ := asks_bind.mp asks
  · exact (hp log e failure first failed).bind f
  · rw [List.append_assoc]
    exact (hf a after e failure rest failed).after_ends ended

theorem endsWithTracker_lift (x : Except Failure α) : EndsWithTracker (liftM x : Program α) :=
  endsWithTracker_of_avoids (avoids_lift x)

theorem endsWithTracker_ite {c : Prop} [Decidable c] {q : Program α} (hp : EndsWithTracker p)
    (hq : EndsWithTracker q) : EndsWithTracker (if c then p else q) := by
  split
  · exact hp
  · exact hq

theorem endsWithTracker_orFail {r : Request} (answer : r.Reply → Except Failure α)
    (told : ∀ reply failure, Exchange.trackerFailure? ⟨r, reply⟩ = some failure →
      answer reply = .error failure) :
    EndsWithTracker (ask r fun reply => ofExcept (answer reply)) := by
  intro log e failure asks failed
  obtain ⟨rfl, same⟩ | ⟨reply, after, rfl, later⟩ := asks_ask.mp asks
  · obtain ⟨_, reply⟩ := e
    obtain rfl : _ = r := same
    have stops : ofExcept (answer reply) = fail failure := by rw [told reply failure failed]; rfl
    exact stops ▸ .later (.all _)
  · exact absurd later asks_lift

end Program

namespace TemplateController

variable {c : TemplateController} {canary : Canary} {operation : Operation} {log : List Exchange}
  {r : Request} {refs : List ConfigRef} {label value : String} {target primary : Value}

/-! ## The tracker's failures -/

theorem endsWithTracker_copyConfigs : EndsWithTracker (c.copyConfigs canary) := by
  refine EndsWithTracker.bind ?_ fun refs => EndsWithTracker.bind ?_ fun _ =>
    endsWithTracker_of_avoids (avoids_pure _)
  · refine endsWithTracker_orFail (r := .targetConfigs canary) id fun reply failure failed => ?_
    cases reply <;> cases failed
    rfl
  · refine endsWithTracker_orFail (r := .copyConfigs canary refs c.labelPrefixes) id
      fun reply failure failed => ?_
    cases reply <;> cases failed
    rfl

theorem endsWithTracker_primaryPodSpec {template : Value} :
    EndsWithTracker (primaryPodSpec template refs) := by
  refine (endsWithTracker_lift _).bind fun podSpec => ?_
  refine EndsWithTracker.bind ?_ fun _ => endsWithTracker_lift _
  refine endsWithTracker_orFail (r := .redirectConfigs podSpec refs) id ?_
  intro reply failure failed
  cases reply <;> cases failed
  rfl

theorem endsWithTracker_primaryBody :
    EndsWithTracker (c.primaryBody canary target label value refs) := by
  refine (endsWithTracker_lift _).bind fun _ => (endsWithTracker_lift _).bind fun _ => ?_
  refine EndsWithTracker.bind ?_ fun _ => (endsWithTracker_lift _).bind fun _ =>
    endsWithTracker_of_avoids (avoids_pure _)
  refine (endsWithTracker_lift _).bind fun _ => (endsWithTracker_lift _).bind fun _ => ?_
  refine (endsWithTracker_lift _).bind fun _ => (endsWithTracker_lift _).bind fun _ => ?_
  refine (endsWithTracker_lift _).bind fun _ => (endsWithTracker_lift _).bind fun _ => ?_
  refine (endsWithTracker_of_avoids (avoids_freshAnnotations nofun)).bind fun _ => ?_
  exact endsWithTracker_primaryPodSpec.bind fun _ => endsWithTracker_of_avoids (avoids_pure _)

theorem endsWithTracker_promoted :
    EndsWithTracker (c.promoted primary target label value refs) := by
  refine (endsWithTracker_lift _).bind fun _ => (endsWithTracker_lift _).bind fun _ => ?_
  refine (endsWithTracker_lift _).bind fun _ => (endsWithTracker_lift _).bind fun _ => ?_
  refine (endsWithTracker_lift _).bind fun _ => (endsWithTracker_lift _).bind fun _ => ?_
  refine endsWithTracker_primaryPodSpec.bind fun _ => (endsWithTracker_lift _).bind fun _ => ?_
  refine (endsWithTracker_lift _).bind fun _ => (endsWithTracker_lift _).bind fun _ => ?_
  refine (endsWithTracker_of_avoids (avoids_freshAnnotations nofun)).bind fun _ => ?_
  refine (endsWithTracker_lift _).bind fun _ => (endsWithTracker_lift _).bind fun _ => ?_
  refine (endsWithTracker_lift _).bind fun _ => (endsWithTracker_lift _).bind fun _ => ?_
  exact (endsWithTracker_lift _).bind fun _ => endsWithTracker_lift _

/-! ## Operations that leave the tracker alone -/

theorem untracked_checkRollout {check : ReadinessCheck} {object : ObjectName} {workload : Value} :
    Avoids (·.asksTracker) (c.checkRollout canary check object workload) := by
  refine (avoids_lift _).bind fun _ => (avoids_request nofun).bind fun _ => ?_
  refine (avoids_lift _).bind fun _ => (avoids_request nofun).bind fun _ => ?_
  exact avoids_ite (avoids_pure _) (avoids_fail _)

theorem untracked_checkPrimary : Avoids (·.asksTracker) (c.checkPrimary canary) := by
  refine (avoids_fetch nofun nofun).bind fun _ => untracked_checkRollout.bind fun _ => ?_
  exact (avoids_lift _).bind fun _ => avoids_ite (avoids_fail _) (avoids_pure _)

theorem untracked_scaleToZero : Avoids (·.asksTracker) (c.scaleToZero canary) := by
  refine (avoids_fetch nofun nofun).bind fun _ => (avoids_lift _).bind fun _ => ?_
  refine (avoids_lift _).bind fun _ => avoids_ite ?_ ?_
  · exact (avoids_request nofun).bind fun _ => avoids_pure _
  · refine (avoids_lift _).bind fun _ => (avoids_lift _).bind fun _ => ?_
    exact (avoids_update nofun nofun).bind fun _ => avoids_request nofun

theorem untracked_scaleFromZero : Avoids (·.asksTracker) (c.scaleFromZero canary) := by
  refine (avoids_fetch nofun nofun).bind fun _ => (avoids_lift _).bind fun _ => ?_
  refine (avoids_lift _).bind fun _ => (avoids_lift _).bind fun _ => avoids_ite ?_ ?_
  · exact (avoids_request nofun).bind fun _ => avoids_pure _
  · refine (avoids_lift _).bind fun _ => (avoids_lift _).bind fun _ => ?_
    exact (avoids_update nofun nofun).bind fun _ => (avoids_request nofun).bind fun _ =>
      avoids_request nofun

theorem untracked_rest : Avoids (·.asksTracker) (do
    if !canary.phase.isInitial then return
    if !canary.skipAnalysis then c.checkPrimary canary
    Program.request (.note c.logger (.scalingDown c.kind.name canary.targetObject canary.key))
    c.scaleToZero canary) := by
  have scaling : Avoids (·.asksTracker) (do
      Program.request (.note c.logger (.scalingDown c.kind.name canary.targetObject canary.key))
      c.scaleToZero canary) := (avoids_request nofun).bind fun _ => untracked_scaleToZero
  exact avoids_ite (avoids_pure _) (avoids_ite (untracked_checkPrimary.bind fun _ => scaling)
    scaling)

theorem untracked_call (establish : operation ≠ .establish) (promote : operation ≠ .promote)
    (configs : operation ≠ .haveConfigsChanged) :
    Avoids (·.asksTracker) (Controller.call (.template c) operation canary) := by
  cases operation with
  | establish => exact absurd rfl establish
  | promote => exact absurd rfl promote
  | haveConfigsChanged => exact absurd rfl configs
  | hasTargetChanged =>
    refine Avoids.bind ?_ fun _ => avoids_pure _
    refine (avoids_fetch nofun nofun).bind fun _ => (avoids_lift _).bind fun _ => ?_
    exact (avoids_lift _).bind fun _ => (avoids_lift _).bind fun _ => avoids_pure _
  | pairing =>
    refine Avoids.bind ?_ fun _ => avoids_pure _
    refine (avoids_fetch nofun nofun).bind fun _ => (avoids_lift _).bind fun _ => ?_
    refine avoids_ite (avoids_pure _) ?_
    refine (avoids_lift _).bind fun _ => (avoids_lift _).bind fun _ => ?_
    exact (avoids_lift _).bind fun _ => (avoids_lift _).bind fun _ => (avoids_lift _).bind fun _ =>
      avoids_pure _
  | checkPrimary => exact untracked_checkPrimary.bind fun _ => avoids_pure _
  | checkTarget =>
    refine Avoids.bind ?_ fun _ => avoids_pure _
    exact (avoids_fetch nofun nofun).bind fun _ => untracked_checkRollout
  | scaleToZero => exact untracked_scaleToZero.bind fun _ => avoids_pure _
  | scaleFromZero | finalize => exact untracked_scaleFromZero.bind fun _ => avoids_pure _

/-- No operation does anything after the tracker failed. -/
theorem endsWithTracker_call :
    EndsWithTracker (Controller.call (.template c) operation canary) := by
  have establish : EndsWithTracker (c.establish canary) := by
    refine EndsWithTracker.bind ?_ fun _ => endsWithTracker_of_avoids untracked_rest
    refine (endsWithTracker_of_avoids (avoids_fetch nofun nofun)).bind fun _ => ?_
    refine (endsWithTracker_lift _).bind fun _ => (endsWithTracker_lift _).bind fun _ => ?_
    refine (endsWithTracker_of_avoids (avoids_exists nofun nofun)).bind fun _ => ?_
    refine endsWithTracker_ite (endsWithTracker_of_avoids (avoids_pure _)) ?_
    refine endsWithTracker_copyConfigs.bind fun _ => endsWithTracker_primaryBody.bind fun _ => ?_
    refine endsWithTracker_of_avoids ((avoids_create nofun nofun).bind fun _ => ?_)
    exact (avoids_request nofun).bind fun _ => avoids_request nofun
  have promote : EndsWithTracker (c.promote canary) := by
    refine (endsWithTracker_of_avoids (avoids_fetch nofun nofun)).bind fun _ => ?_
    refine (endsWithTracker_lift _).bind fun _ => ?_
    refine (endsWithTracker_of_avoids (avoids_fetch nofun nofun)).bind fun _ => ?_
    refine endsWithTracker_copyConfigs.bind fun _ => endsWithTracker_promoted.bind fun _ => ?_
    refine endsWithTracker_of_avoids ((avoids_update nofun nofun).bind fun _ => ?_)
    exact (avoids_request nofun).bind fun _ => avoids_request nofun
  have configs : EndsWithTracker (haveConfigsChanged canary) := by
    refine endsWithTracker_orFail (r := .configsChanged canary) id fun reply failure failed => ?_
    cases reply <;> cases failed
    rfl
  have answered {β : Type} {p : Program β} {f : β → Value} (h : EndsWithTracker p) :
      EndsWithTracker (p >>= fun b => pure (f b)) :=
    h.bind fun _ => endsWithTracker_of_avoids (avoids_pure _)
  cases operation with
  | establish => exact answered establish
  | promote => exact answered promote
  | haveConfigsChanged => exact answered configs
  | _ => exact endsWithTracker_of_avoids (untracked_call nofun nofun nofun)

/-! ## Copies -/

/-- The exchanges before a call copies configuration: the target was read and accepted, and the
primary was found missing or, for a promotion, was read. -/
inductive Cleared (c : TemplateController) (canary : Canary) :
    Operation → List Exchange → Prop where
  | establish {v target : Value} {paired : String × Value} {failure : CallFailure}
      (manifest : v.toManifest = .ok target) (strategy : c.checkStrategy target = .ok ())
      (pairing : c.pairingLabel target = .ok paired) (missing : failure.isNotFound = true) :
      Cleared c canary .establish
        [readExchange (.template c.kind) canary.targetObject (.ok v),
          readExchange (.template c.kind) (primaryObject canary) (.error failure)]
  | promote {v target w primary : Value} {paired : String × Value}
      (manifest : v.toManifest = .ok target) (pairing : c.pairingLabel target = .ok paired)
      (found : w.toManifest = .ok primary) :
      Cleared c canary .promote
        [readExchange (.template c.kind) canary.targetObject (.ok v),
          readExchange (.template c.kind) (primaryObject canary) (.ok w)]

/-- The two steps of copying configuration, after some exchanges. -/
inductive CopyStep (c : TemplateController) (canary : Canary) (front : List Exchange) :
    List Exchange → Request → Prop where
  | references : CopyStep c canary front front (.targetConfigs canary)
  | copies (refs : List ConfigRef) :
      CopyStep c canary front (front ++ [⟨.targetConfigs canary, .ok refs⟩])
        (.copyConfigs canary refs c.labelPrefixes)

theorem copyStep_of_asks {front : List Exchange} (h : Asks (c.copyConfigs canary) log r) :
    CopyStep c canary front (front ++ log) r := by
  obtain first | ⟨refs, _, after, rfl, told, rest⟩ := asks_bind.mp h
  · obtain ⟨rfl, rfl⟩ := asks_request.mp (asks_orFail.mp first)
    rw [List.append_nil]
    exact .references
  obtain ⟨_, rfl, ⟨⟩⟩ := ends_request.mp (ends_orFail_ok.mp told)
  obtain second | ⟨_, _, _, -, -, later⟩ := asks_bind.mp rest
  · obtain ⟨rfl, rfl⟩ := asks_request.mp (asks_orFail.mp second)
    exact .copies refs
  · exact absurd later asks_pure

theorem asksTracker_of_isCopying (h : r.isCopying = true) : r.asksTracker = true := by
  cases r with
  | targetConfigs | copyConfigs => rfl
  | _ => cases h

theorem not_copying {α : Type} {p : Program α} (h : Asks p log r) (avoids : Avoids (·.isCopying) p)
    (copying : r.isCopying = true) : False := avoids log r h copying

theorem cleared_of_createPrimary (h : Asks (c.createPrimary canary) log r)
    (copying : r.isCopying = true) :
    ∃ front, Cleared c canary .establish front ∧ CopyStep c canary front log r := by
  unfold createPrimary at h
  obtain reading | ⟨target, _, after, rfl, fetched, accepting⟩ := asks_bind.mp h
  · exact (not_copying reading (avoids_fetch nofun nofun) copying).elim
  obtain ⟨v, rfl, manifest⟩ := ends_fetch.mp fetched
  obtain ⟨_, strategy, resolving⟩ := asks_lift_bind.mp accepting
  obtain ⟨⟨label, value⟩, pairing, checking⟩ := asks_lift_bind.mp resolving
  obtain asking | ⟨found, _, later, rfl, asked, creating⟩ := asks_bind.mp checking
  · exact (not_copying asking (avoids_exists nofun nofun) copying).elim
  obtain ⟨reply, rfl, seen⟩ := ends_exists.mp asked
  cases found with
  | true => exact absurd creating asks_pure
  | false =>
    obtain ⟨failure, rfl, missing⟩ := seen
    obtain copies | ⟨refs, _, last, rfl, -, making⟩ := asks_bind.mp creating
    · exact ⟨_, .establish manifest strategy pairing missing, copyStep_of_asks copies⟩
    · refine (not_copying making ((avoids_primaryBody nofun nofun).bind fun body => ?_)
        copying).elim
      refine (avoids_create nofun nofun).bind fun _ => ?_
      exact (avoids_request nofun).bind fun _ => avoids_request nofun

theorem cleared_of_promote (h : Asks (c.promote canary) log r) (copying : r.isCopying = true) :
    ∃ front, Cleared c canary .promote front ∧ CopyStep c canary front log r := by
  unfold promote at h
  obtain reading | ⟨target, _, after, rfl, fetched, resolving⟩ := asks_bind.mp h
  · exact (not_copying reading (avoids_fetch nofun nofun) copying).elim
  obtain ⟨v, rfl, manifest⟩ := ends_fetch.mp fetched
  obtain ⟨⟨label, value⟩, pairing, looking⟩ := asks_lift_bind.mp resolving
  obtain reading | ⟨primary, _, later, rfl, fetched', promoting⟩ := asks_bind.mp looking
  · exact (not_copying reading (avoids_fetch nofun nofun) copying).elim
  obtain ⟨w, rfl, found⟩ := ends_fetch.mp fetched'
  obtain copies | ⟨refs, _, last, rfl, -, making⟩ := asks_bind.mp promoting
  · exact ⟨_, .promote manifest pairing found, copyStep_of_asks copies⟩
  · refine (not_copying making ((avoids_promoted nofun nofun).bind fun body => ?_) copying).elim
    refine (avoids_update nofun nofun).bind fun _ => ?_
    exact (avoids_request nofun).bind fun _ => avoids_request nofun

/-- Whatever operation copies configuration was cleared for it. -/
theorem cleared_of_call (h : Asks (Controller.call (.template c) operation canary) log r)
    (copying : r.isCopying = true) :
    ∃ front, Cleared c canary operation front ∧ CopyStep c canary front log r := by
  have tracked := asksTracker_of_isCopying copying
  cases operation with
  | establish =>
    obtain h | ⟨_, _, _, -, -, later⟩ := asks_bind.mp h
    · obtain creating | ⟨_, _, after, -, -, rest⟩ := asks_bind.mp h
      · exact cleared_of_createPrimary creating copying
      · exact absurd tracked (untracked_rest after r rest)
    · exact absurd later asks_pure
  | promote =>
    obtain h | ⟨_, _, _, -, -, later⟩ := asks_bind.mp h
    · exact cleared_of_promote h copying
    · exact absurd later asks_pure
  | haveConfigsChanged =>
    refine (not_copying h (Avoids.bind ?_ fun _ => avoids_pure _) copying).elim
    exact avoids_orFail (avoids_request nofun)
  | _ =>
    exact absurd tracked (untracked_call (by decide) (by decide) (by decide) log r h)

/-! ## Writes -/

/-- The body of a primary was made after the copies: in the exchanges before, the tracker told the
references of the target, copied just these and made the pod spec that is sent without the marker,
and was asked nothing else. -/
structure CopiedFor (c : TemplateController) (canary : Canary) (log : List Exchange)
    (body : Value) : Prop where
  steps : ∃ (v target : Value) (refs : List ConfigRef) (redirected plain podSpec : Value),
    readExchange (.template c.kind) canary.targetObject (.ok v) ∈ log ∧
    v.toManifest = .ok target ∧
    (log.filter fun e => e.request.asksTracker) =
      [⟨.targetConfigs canary, .ok refs⟩, ⟨.copyConfigs canary refs c.labelPrefixes, .ok ()⟩,
        ⟨.redirectConfigs (sourcePodSpec target) refs, .ok redirected⟩] ∧
    PlainSelector redirected plain ∧ Unmarked plain podSpec ∧ body.at? podSpecPlace = some podSpec

/-- What an establishment or a promotion may write: the primary, after the copies were made for it,
or the target, scaled down under the name that it gives itself. -/
inductive PreparedWrite (c : TemplateController) (canary : Canary) (log : List Exchange) :
    Operation → Request → Prop where
  | creates {body : Value} (own : ownName body = .ok (primaryObject canary))
      (copied : CopiedFor c canary log body) :
      PreparedWrite c canary log .establish
        (.createObject (.template c.kind) canary.space body)
  | promotes {w primary body : Value} {name : ObjectName}
      (read : readExchange (.template c.kind) (primaryObject canary) (.ok w) ∈ log)
      (manifest : w.toManifest = .ok primary) (own : ownName primary = .ok name)
      (copied : CopiedFor c canary log body) :
      PreparedWrite c canary log .promote (.replaceObject (.template c.kind) name body)
  | scales {v target body : Value} {name : ObjectName}
      (read : readExchange (.template c.kind) canary.targetObject (.ok v) ∈ log)
      (manifest : v.toManifest = .ok target) (own : ownName target = .ok name)
      (down : ScaledDown c.kind target body)
      (elsewhere : name.standard = canary.targetObject.standard →
        ¬ ObjectKey.Same ⟨c.kind.name, name⟩ (c.primaryKey canary)) :
      PreparedWrite c canary log .establish (.replaceObject (.template c.kind) name body)

theorem prepared_of_createPrimary (h : Writes (c.createPrimary canary) log r) :
    PreparedWrite c canary log .establish r := by
  obtain ⟨v, target, label, value, failure, refs, id, redirected, body, rfl, manifest, -, rfl, own,
    twin⟩ := writes_createPrimary h
  obtain ⟨podSpec, removed, stands⟩ := twin.podSpec
  obtain ⟨plain, shape, unmarked⟩ := exists_plain removed
  exact .creates own ⟨v, target, refs, redirected, plain, podSpec, List.mem_cons_self, manifest, rfl,
    shape, unmarked, stands⟩

theorem prepared_of_promote (h : Writes (c.promote canary) log r) :
    PreparedWrite c canary log .promote r := by
  obtain ⟨v, target, label, value, w, primary, refs, redirected, id, name, body, rfl, manifest, -,
    found, own, rfl, -, twin⟩ := writes_promote h
  obtain ⟨podSpec, removed, stands⟩ := twin.podSpec
  obtain ⟨plain, shape, unmarked⟩ := exists_plain removed
  exact .promotes (by simp) found own ⟨v, target, refs, redirected, plain, podSpec,
    List.mem_cons_self, manifest, rfl, shape, unmarked, stands⟩

theorem prepared_of_call (h : Writes (Controller.call (.template c) operation canary) log r)
    (relevant : operation = .establish ∨ operation = .promote) :
    PreparedWrite c canary log operation r := by
  rcases relevant with rfl | rfl
  · obtain creating | ⟨seen, checked, last, rfl, -, -, -, scaling⟩ :=
      writes_establish (Controller.writes_silent.mp h)
    · exact prepared_of_createPrimary creating
    · obtain ⟨v, target, name, body, rfl, manifest, own, rfl, down⟩ := writes_scaleToZero scaling
      refine .scales (by simp) manifest own down fun named same => ?_
      exact not_same_primaryKey (same.symm.trans ⟨rfl, named⟩)
  · exact prepared_of_promote (Controller.writes_silent.mp h)

/-- In every trace of a call, configuration is copied before a primary refers to it, and for no call
that is turned away. If the tracker fails, nothing follows and the call fails with it. -/
theorem configs_copied_first :
    (Writes (Controller.call (.template c) operation canary) log r →
      operation = .establish ∨ operation = .promote → PreparedWrite c canary log operation r) ∧
    (Asks (Controller.call (.template c) operation canary) log r → r.isCopying = true →
      ∃ front, Cleared c canary operation front ∧ CopyStep c canary front log r) ∧
    ∀ e failure, Asks (Controller.call (.template c) operation canary) log e.request →
      e.trackerFailure? = some failure →
      (∀ more r', ¬ Asks (Controller.call (.template c) operation canary) (log ++ e :: more) r') ∧
      ∀ more outcome, Ends (Controller.call (.template c) operation canary) (log ++ e :: more)
        outcome ↔ more = [] ∧ outcome = .error failure := by
  refine ⟨prepared_of_call, cleared_of_call, fun e failure asks failed => ?_⟩
  have leaves := endsWithTracker_call log e failure asks failed
  constructor
  · intro more r' later
    rw [List.append_cons, leaves.asks_iff] at later
    exact asks_fail later
  · intro more outcome
    rw [List.append_cons, leaves.ends_iff]
    exact ends_fail

/-- A promotion of a target that is scaled down, with a tracker that follows one ConfigMap. -/
def sampleCopies : List Exchange :=
  let selector : Value := .object [("disk", .text "ssd"), (.text markerKey, markerValue)]
  let volumes (name : String) : Value :=
    .list [.object [("configMap", .object [("name", .text name)])]]
  let refs : List ConfigRef := [⟨"ConfigMap", "settings"⟩]
  let podSpec (name : String) : Value :=
    .object [("nodeSelector", selector), ("volumes", volumes name)]
  let target : Value := .object [
    ("metadata", .object [("name", .text "web"), ("namespace", .text "prod")]),
    ("spec", .object [("selector", .object [("matchLabels", .object [("app", .text "web")])]),
      ("template", .object [("spec", podSpec "settings")])])]
  [readExchange (.template .deployment) sampleCanary.targetObject (.ok target),
    readExchange (.template .deployment) (primaryObject sampleCanary)
      (.ok (.object (sampleDeployment "web-primary" "2" []))),
    ⟨.targetConfigs sampleCanary, .ok refs⟩, ⟨.copyConfigs sampleCanary refs [], .ok ()⟩,
    ⟨.redirectConfigs (podSpec "settings") refs, .ok (podSpec "settings-primary")⟩,
    ⟨.drawId, "0"⟩]

/-- The target's pod spec with the copy in the place of the ConfigMap, and without the marker. -/
def sampleCopied : Value :=
  .object [("nodeSelector", .object [("disk", .text "ssd")]),
    ("volumes", .list [.object [("configMap", .object [("name", .text "settings-primary")])]])]

/-- The promotion writes a primary that refers to the copy and does not have the marker. -/
theorem sampleCopies_come_first :
    ∃ body, CopiedFor sampleController sampleCanary sampleCopies body ∧
      body.at? podSpecPlace = some sampleCopied := by
  obtain ⟨body, asks, written⟩ : ∃ body, Asks
      (Controller.call (.template sampleController) .promote sampleCanary) sampleCopies
      (.replaceObject (.template .deployment) (primaryObject sampleCanary) body) ∧
      body.at? podSpecPlace = some sampleCopied :=
    ⟨_, .later (.later (.later (.later (.later (.later (.now _ _)))))), by decide +kernel⟩
  cases configs_copied_first.1 ⟨asks, rfl⟩ (.inr rfl) with
  | promotes _ _ _ copied => exact ⟨body, copied, written⟩

end TemplateController

end CanaryRelease
