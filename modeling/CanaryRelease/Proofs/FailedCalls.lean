import CanaryRelease.Proofs.CalmRuns
import CanaryRelease.Proofs.CallWrites

/-!
# Failed calls

A call that fails leaves the stored objects as they were, whichever of its requests fails and
whatever is stored: no operation does anything that may fail after it has replaced an object
(`FailsUnwritten`). Only establishing goes on after a creation, so a failed establishment may leave
one new object behind, the first that it derives from the target, complete
(`failed_calls_keep_objects`).
-/

namespace CanaryRelease

open Program Workload

/-! ## Exchanges that wrote -/

namespace Exchange

/-- Whether an object was created or replaced in an exchange. -/
def wrote : Exchange → Bool
  | ⟨.createObject .., reply⟩ => reply.toBool
  | ⟨.replaceObject .., reply⟩ => reply.toBool
  | _ => false

variable {e : Exchange} {disturbed : Bool} {store after : Store}

theorem isWrite_of_wrote (h : e.wrote = true) : e.request.isWrite = true := by
  obtain ⟨request, reply⟩ := e
  cases request with
  | createObject | replaceObject => rfl
  | _ => cases h

theorem Served.store_eq_of_not_wrote (h : e.Served disturbed store after)
    (unwritten : e.wrote = false) : after = store := by
  obtain ⟨request, reply⟩ := e
  cases request with
  | createObject =>
    cases reply with
    | error failure => exact h.store_eq_of_not_created
    | ok u => cases unwritten
  | replaceObject =>
    cases reply with
    | error failure => exact h.store_eq_of_not_replaced
    | ok u => cases unwritten
  | _ => exact h.store_eq_of_not_isWrite rfl

end Exchange

/-- Exchanges in which nothing was written. -/
def Unwritten (log : List Exchange) : Prop := ∀ e ∈ log, e.wrote = false

section Unwritten

variable {log log' : List Exchange}

@[simp] theorem unwritten_append : Unwritten (log ++ log') ↔ Unwritten log ∧ Unwritten log' :=
  List.forall_mem_append

@[simp] theorem unwritten_cons {e : Exchange} :
    Unwritten (e :: log) ↔ e.wrote = false ∧ Unwritten log :=
  List.forall_mem_cons

@[simp] theorem unwritten_nil : Unwritten [] := List.forall_mem_nil _

end Unwritten

/-! ## Programs that fail before they write -/

namespace Program

variable {α β : Type} {p : Program α} {f : α → Program β}

/-- A program that has written nothing if it fails. -/
def FailsUnwritten (p : Program α) : Prop :=
  ∀ log failure, Ends p log (.error failure) → Unwritten log

/-- A program that cannot fail. -/
def Certain (p : Program α) : Prop := ∀ log failure, ¬ Ends p log (.error failure)

theorem ReadOnly.unwritten (hp : ReadOnly p) {log : List Exchange} {outcome : Except Failure α}
    (h : Ends p log outcome) : Unwritten log := by
  intro e mem
  obtain ⟨before, after, rfl⟩ := List.append_of_mem mem
  by_contra wrote
  exact hp before e.request ⟨h.asks, Exchange.isWrite_of_wrote (by simpa using wrote)⟩

theorem ReadOnly.failsUnwritten (hp : ReadOnly p) : FailsUnwritten p := fun _ _ h => hp.unwritten h

theorem ReadOnly.bind_failsUnwritten (hp : ReadOnly p) (hf : ∀ a, FailsUnwritten (f a)) :
    FailsUnwritten (p >>= f) := by
  intro log failure h
  obtain ⟨_, first, -⟩ | ⟨a, before, after, rfl, first, rest⟩ := ends_bind.mp h
  · exact hp.unwritten first
  · exact unwritten_append.mpr ⟨hp.unwritten first, hf a after failure rest⟩

/-- A program that writes can only be followed by what cannot fail. -/
theorem FailsUnwritten.bind (hp : FailsUnwritten p) (hf : ∀ a, Certain (f a)) :
    FailsUnwritten (p >>= f) := by
  intro log failure h
  obtain ⟨_, first, -⟩ | ⟨a, _, after, -, -, rest⟩ := ends_bind.mp h
  · exact hp log _ first
  · exact absurd rest (hf a after failure)

theorem failsUnwritten_ite {c : Prop} [Decidable c] {q : Program α} (hp : FailsUnwritten p)
    (hq : FailsUnwritten q) : FailsUnwritten (if c then p else q) := by
  split
  · exact hp
  · exact hq

theorem certain_pure (a : α) : Certain (pure a : Program α) := by
  intro log failure h
  obtain ⟨-, ⟨⟩⟩ := ends_pure.mp h

theorem certain_request (r : Request) : Certain (request r) := by
  intro log failure h
  obtain ⟨_, -, ⟨⟩⟩ := ends_request.mp h

theorem Certain.bind (hp : Certain p) (hf : ∀ a, Certain (f a)) : Certain (p >>= f) := by
  intro log failure h
  obtain ⟨_, first, -⟩ | ⟨a, _, after, -, -, rest⟩ := ends_bind.mp h
  · exact hp log _ first
  · exact hf a after failure rest

theorem failsUnwritten_request {r : Request} {answer : r.Reply → Program α}
    (h : ∀ reply, Certain (answer reply) ∨
      Exchange.wrote ⟨r, reply⟩ = false ∧ ReadOnly (answer reply)) :
    FailsUnwritten (request r >>= answer) := by
  intro log failure ends
  obtain ⟨_, asking, -⟩ | ⟨reply, _, after, rfl, asking, rest⟩ := ends_bind.mp ends
  · exact absurd asking (certain_request _ _ _)
  · obtain ⟨_, rfl, ⟨⟩⟩ := ends_request.mp asking
    obtain certain | ⟨unwritten, reads⟩ := h reply
    · exact absurd rest (certain _ _)
    · simpa using ⟨unwritten, reads.unwritten rest⟩

theorem certain_ite {c : Prop} [Decidable c] {q : Program α} (hp : Certain p) (hq : Certain q) :
    Certain (if c then p else q) := by
  split
  · exact hp
  · exact hq

end Program

namespace Workload

variable {kind : Kind} {object : ObjectName} {v : Value}

theorem failsUnwritten_create : FailsUnwritten (create kind object v) := by
  refine failsUnwritten_request fun reply => ?_
  cases reply with
  | ok u => exact .inl (certain_pure _)
  | error refused => exact .inr ⟨rfl, readOnly_giveUp _ _ _ _⟩

theorem failsUnwritten_update {action : String} : FailsUnwritten (update kind v action) := by
  refine (readOnly_lift _).bind_failsUnwritten fun name => ?_
  refine (readOnly_lift _).bind_failsUnwritten fun body => ?_
  refine failsUnwritten_request fun reply => ?_
  cases reply with
  | ok u => exact .inl (certain_pure _)
  | error refused => exact .inr ⟨rfl, readOnly_giveUp _ _ _ _⟩

end Workload

/-! ## What operations leave behind when they fail -/

variable {canary : Canary} {log : List Exchange}

/-- `body` is the whole of an object that a controller derives from a target, with what it was told
in some exchanges. -/
inductive Derived (canary : Canary) (target : Value) (log : List Exchange) :
    Controller → ObjectName → Value → Prop where
  | primary {c : TemplateController} {label : String} {value body : Value} {refs : List ConfigRef}
      {made : List Exchange} (paired : c.pairingLabel target = .ok (label, value))
      (told : ⟨.targetConfigs canary, .ok refs⟩ ∈ log) (sub : made ⊆ log)
      (body_made : Ends
        (c.primaryBody canary target label (primaryName value) refs) made
        (.ok body)) :
      Derived canary target log (.template c) (TemplateController.primaryObject canary) body
  | service {c : ServiceController} {object : ObjectName} {body : Value}
      (derived : object = ServiceController.primaryObject canary ∨
        object = ServiceController.canaryObject canary)
      (body_made : c.derivedBody canary object target = .ok body) :
      Derived canary target log (.service c) object body

/-- Exchanges in which an object derived from the target that was read was created, and nothing
else was written. -/
structure CreatesOne (controller : Controller) (canary : Canary) (object : ObjectName)
    (log : List Exchange) : Prop where
  steps : ∃ before after v target body,
    log = before ++ createExchange controller.kind canary.space body (.ok ()) :: after ∧
    Unwritten before ∧ Unwritten after ∧
    readExchange controller.kind canary.targetObject (.ok v) ∈ before ∧
    v.toManifest = .ok target ∧ Derived canary target before controller object body

theorem CreatesOne.append {controller : Controller} {object : ObjectName} {more : List Exchange}
    (h : CreatesOne controller canary object log) (unwritten : Unwritten more) :
    CreatesOne controller canary object (log ++ more) := by
  obtain ⟨before, after, v, target, body, rfl, none_before, none_after, rest⟩ := h
  exact ⟨before, after ++ more, v, target, body, by simp, none_before,
    unwritten_append.mpr ⟨none_after, unwritten⟩, rest⟩

namespace TemplateController

variable {c : TemplateController}

theorem failsUnwritten_createPrimary : FailsUnwritten (c.createPrimary canary) := by
  refine (readOnly_fetch _ _).bind_failsUnwritten fun _ => ?_
  refine (readOnly_lift _).bind_failsUnwritten fun _ => ?_
  refine (readOnly_lift _).bind_failsUnwritten fun _ => ?_
  refine (readOnly_exists _ _).bind_failsUnwritten fun _ => ?_
  refine failsUnwritten_ite (readOnly_pure _).failsUnwritten ?_
  refine readOnly_copyConfigs.bind_failsUnwritten fun _ => ?_
  refine readOnly_primaryBody.bind_failsUnwritten fun _ => failsUnwritten_create.bind fun _ => ?_
  exact (certain_request _).bind fun _ => certain_request _

theorem failsUnwritten_promote : FailsUnwritten (c.promote canary) := by
  refine (readOnly_fetch _ _).bind_failsUnwritten fun _ => ?_
  refine (readOnly_lift _).bind_failsUnwritten fun _ => ?_
  refine (readOnly_fetch _ _).bind_failsUnwritten fun _ => ?_
  refine readOnly_copyConfigs.bind_failsUnwritten fun _ => ?_
  refine readOnly_promoted.bind_failsUnwritten fun _ => failsUnwritten_update.bind fun _ => ?_
  exact (certain_request _).bind fun _ => certain_request _

theorem failsUnwritten_scaleToZero : FailsUnwritten (c.scaleToZero canary) := by
  refine (readOnly_fetch _ _).bind_failsUnwritten fun _ => ?_
  refine (readOnly_lift _).bind_failsUnwritten fun _ => ?_
  refine (readOnly_lift _).bind_failsUnwritten fun _ => failsUnwritten_ite ?_ ?_
  · exact ((readOnly_request rfl).bind fun _ => readOnly_pure _).failsUnwritten
  · refine (readOnly_lift _).bind_failsUnwritten fun _ => ?_
    refine (readOnly_lift _).bind_failsUnwritten fun _ => ?_
    exact failsUnwritten_update.bind fun _ => certain_request _

theorem failsUnwritten_scaleFromZero : FailsUnwritten (c.scaleFromZero canary) := by
  refine (readOnly_fetch _ _).bind_failsUnwritten fun _ => ?_
  refine (readOnly_lift _).bind_failsUnwritten fun _ => ?_
  refine (readOnly_lift _).bind_failsUnwritten fun _ => ?_
  refine (readOnly_lift _).bind_failsUnwritten fun _ => failsUnwritten_ite ?_ ?_
  · exact ((readOnly_request rfl).bind fun _ => readOnly_pure _).failsUnwritten
  · refine (readOnly_lift _).bind_failsUnwritten fun _ => ?_
    refine (readOnly_lift _).bind_failsUnwritten fun _ => failsUnwritten_update.bind fun _ => ?_
    exact (certain_request _).bind fun _ => certain_request _

theorem creates_of_createPrimary (h : Ends (c.createPrimary canary) log (.ok ())) :
    Unwritten log ∨ CreatesOne (.template c) canary (primaryObject canary) log := by
  unfold createPrimary at h
  obtain ⟨target, _, after, rfl, ht, rest⟩ := ends_bind_ok.mp h
  obtain ⟨v, rfl, hv⟩ := ends_fetch.mp ht
  obtain ⟨_, -, rest⟩ := ends_lift_bind.mp rest
  obtain ⟨⟨label, value⟩, paired, rest⟩ := ends_lift_bind.mp rest
  obtain ⟨found, _, after, rfl, hf, missing⟩ := ends_bind_ok.mp rest
  obtain ⟨reply, rfl, seen⟩ := ends_exists.mp hf
  cases found with
  | true =>
    obtain ⟨rfl, -⟩ := ends_pure.mp missing
    exact .inl (by simp [Exchange.wrote])
  | false =>
    obtain ⟨refs, _, after, rfl, hc, making⟩ := ends_bind_ok.mp missing
    obtain rfl := ends_copyConfigs.mp hc
    obtain ⟨body, made, after, rfl, hb, creating⟩ := ends_bind_ok.mp making
    obtain ⟨_, _, after, rfl, hcreate, telling⟩ := ends_bind_ok.mp creating
    obtain rfl := ends_create.mp hcreate
    obtain ⟨_, _, after, rfl, counting, noting⟩ := ends_bind_ok.mp telling
    obtain ⟨_, rfl, -⟩ := ends_request.mp counting
    obtain ⟨_, rfl, -⟩ := ends_request.mp noting
    have unwritten : Unwritten made := readOnly_primaryBody.unwritten hb
    refine .inr ⟨[_, _, _, _] ++ made, _, v, target, body, rfl, ?_, ?_, by simp [Controller.kind],
      hv, .primary paired ?_ ?_ hb⟩
    · simpa [Exchange.wrote] using unwritten
    · simp [Exchange.wrote]
    · simp
    · exact List.subset_append_right _ _

theorem ends_establish_error {failure : Failure}
    (h : Ends (c.establish canary) log (.error failure)) :
    Unwritten log ∨ CreatesOne (.template c) canary (primaryObject canary) log := by
  have scaling : FailsUnwritten (do
      Program.request (.note c.logger (.scalingDown c.kind.name canary.targetObject canary.key))
      c.scaleToZero canary) :=
    (readOnly_request rfl).bind_failsUnwritten fun _ => failsUnwritten_scaleToZero
  unfold establish at h
  obtain ⟨_, creating, -⟩ | ⟨_, created, after, rfl, creating, rest⟩ := ends_bind.mp h
  · exact .inl (failsUnwritten_createPrimary log _ creating)
  have unwritten : Unwritten after := by
    refine failsUnwritten_ite (readOnly_pure _).failsUnwritten (failsUnwritten_ite ?_ scaling)
      after failure rest
    exact readOnly_checkPrimary.bind_failsUnwritten fun _ => scaling
  obtain none_created | one := creates_of_createPrimary creating
  · exact .inl (unwritten_append.mpr ⟨none_created, unwritten⟩)
  · exact .inr (one.append unwritten)

end TemplateController

namespace ServiceController

variable {c : ServiceController} {object : ObjectName} {target : Value}

theorem failsUnwritten_ensureDerived :
    FailsUnwritten (c.ensureDerived canary object target) := by
  refine (readOnly_exists _ _).bind_failsUnwritten fun _ => ?_
  refine failsUnwritten_ite (readOnly_pure _).failsUnwritten ?_
  refine (readOnly_lift _).bind_failsUnwritten fun _ => failsUnwritten_create.bind fun _ => ?_
  exact (certain_request _).bind fun _ => certain_pure _

theorem failsUnwritten_promote : FailsUnwritten (c.promote canary) := by
  refine (readOnly_fetch _ _).bind_failsUnwritten fun _ => ?_
  refine (readOnly_fetch _ _).bind_failsUnwritten fun _ => ?_
  refine (readOnly_lift _).bind_failsUnwritten fun _ => failsUnwritten_update.bind fun _ => ?_
  exact (certain_request _).bind fun _ => certain_request _

theorem ends_ensureDerived {created : Bool}
    (h : Ends (c.ensureDerived canary object target) log (.ok created)) :
    (∃ w, log = [readExchange .service object (.ok w)]) ∨
      ∃ failure body told, log = [readExchange .service object (.error failure),
        createExchange .service object.space body (.ok ()), told] ∧ told.wrote = false ∧
        c.derivedBody canary object target = .ok body := by
  unfold ensureDerived at h
  obtain ⟨found, _, after, rfl, hf, missing⟩ := ends_bind_ok.mp h
  obtain ⟨reply, rfl, seen⟩ := ends_exists.mp hf
  cases found with
  | true =>
    obtain ⟨w, rfl⟩ := seen
    obtain ⟨rfl, -⟩ := ends_pure.mp missing
    exact .inl ⟨w, rfl⟩
  | false =>
    obtain ⟨failure, rfl, -⟩ := seen
    obtain ⟨body, hb, creating⟩ := ends_lift_bind.mp missing
    obtain ⟨_, _, after, rfl, hcreate, telling⟩ := ends_bind_ok.mp creating
    obtain rfl := ends_create.mp hcreate
    obtain ⟨_, _, after, rfl, noting, ended⟩ := ends_bind_ok.mp telling
    obtain ⟨_, rfl, -⟩ := ends_request.mp noting
    obtain ⟨rfl, -⟩ := ends_pure.mp ended
    exact .inr ⟨failure, body, _, rfl, rfl, hb⟩

theorem creates_of_ensureDerived {created : Bool}
    (h : Ends (c.ensureDerived canary object target) log (.ok created)) :
    Unwritten log ∨ ∃ before after body,
      log = before ++ createExchange .service object.space body (.ok ()) :: after ∧
      Unwritten before ∧ Unwritten after ∧ c.derivedBody canary object target = .ok body := by
  obtain ⟨w, rfl⟩ | ⟨failure, body, told, rfl, none_told, hb⟩ := ends_ensureDerived h
  · exact .inl (by simp [Exchange.wrote])
  · exact .inr ⟨[_], [told], body, rfl, by simp [Exchange.wrote], by simpa using none_told, hb⟩

theorem ends_establish_error {failure : Failure}
    (h : Ends (c.establish canary) log (.error failure)) :
    Unwritten log ∨ CreatesOne (.service c) canary (canaryObject canary) log := by
  unfold establish at h
  obtain ⟨_, reading, -⟩ | ⟨target, _, after, rfl, ht, rest⟩ := ends_bind.mp h
  · exact .inl ((readOnly_fetch _ _).unwritten reading)
  obtain ⟨v, rfl, hv⟩ := ends_fetch.mp ht
  obtain ⟨_, first, -⟩ | ⟨_, first, after, rfl, creating, rest⟩ := ends_bind.mp rest
  · exact .inl (by simpa [Exchange.wrote] using failsUnwritten_ensureDerived _ _ first)
  obtain ⟨_, second, -⟩ | ⟨_, _, last, -, -, counting⟩ := ends_bind.mp rest
  · have unwritten := failsUnwritten_ensureDerived _ _ second
    obtain none_created | ⟨before, later, body, rfl, none_before, none_after, hb⟩ :=
      creates_of_ensureDerived creating
    · exact .inl (by simpa [Exchange.wrote] using ⟨none_created, unwritten⟩)
    · have one : CreatesOne (.service c) canary (canaryObject canary)
          ([readExchange .service canary.targetObject (.ok v)] ++ (before ++
            createExchange .service (canaryObject canary).space body (.ok ()) :: later)) :=
        ⟨_ :: before, later, v, target, body, rfl, by simpa [Exchange.wrote] using none_before,
          none_after, by simp [Controller.kind], hv, .service (.inr rfl) hb⟩
      rw [← List.append_assoc]
      exact .inr (one.append unwritten)
  · exact absurd counting (certain_ite (certain_request _) (certain_pure _) _ _)

end ServiceController

namespace Controller

variable {controller : Controller} {operation : Operation} {p : Program Unit} {failure : Failure}

/-- The object that establishing derives first. -/
def firstDerived : Controller → Canary → ObjectName
  | template _, canary => TemplateController.primaryObject canary
  | service _, canary => ServiceController.canaryObject canary

theorem ends_silent_error (h : Ends (silent p) log (.error failure)) :
    Ends p log (.error failure) := by
  obtain ⟨_, ended, ⟨⟩⟩ | ⟨_, _, _, -, -, rest⟩ := ends_bind.mp h
  · exact ended
  · exact absurd rest (certain_pure _ _ _)

/-- A call that fails has written nothing, unless it establishes. -/
theorem failsUnwritten_call (h : operation ≠ .establish) :
    FailsUnwritten (controller.call operation canary) := by
  have silently {p : Program Unit} (hp : FailsUnwritten p) : FailsUnwritten (silent p) :=
    hp.bind fun _ => certain_pure _
  cases check : operation.isCheck with
  | true => exact (readOnly_call check).failsUnwritten
  | false =>
    cases controller with
    | template c =>
      cases operation with
      | establish => exact absurd rfl h
      | promote => exact silently TemplateController.failsUnwritten_promote
      | scaleToZero => exact silently TemplateController.failsUnwritten_scaleToZero
      | scaleFromZero | finalize => exact silently TemplateController.failsUnwritten_scaleFromZero
      | hasTargetChanged | haveConfigsChanged | pairing | checkPrimary | checkTarget => cases check
    | service c =>
      cases operation with
      | establish => exact absurd rfl h
      | promote => exact silently ServiceController.failsUnwritten_promote
      | scaleToZero | scaleFromZero | finalize => exact (readOnly_pure _).failsUnwritten
      | hasTargetChanged | haveConfigsChanged | pairing | checkPrimary | checkTarget => cases check

/-- An establishment that fails has created at most the first derived object. -/
theorem ends_establish_error (h : Ends (controller.call .establish canary) log (.error failure)) :
    Unwritten log ∨ CreatesOne controller canary (controller.firstDerived canary) log := by
  cases controller with
  | template c => exact TemplateController.ends_establish_error (ends_silent_error h)
  | service c => exact ServiceController.ends_establish_error (ends_silent_error h)

end Controller

theorem Derived.own {target body : Value} {controller : Controller} {object : ObjectName}
    (h : Derived canary target log controller object body) :
    ownName body = .ok object ∧ object.space = canary.space := by
  cases h with
  | primary paired told sub made =>
    obtain ⟨-, _, _, -, own, -⟩ := TemplateController.ends_primaryBody made
    exact ⟨own, rfl⟩
  | service derived made =>
    obtain ⟨_, _, _, -, -, -, own, -⟩ := ServiceController.exists_spec_of_derivedBody made
    obtain rfl | rfl := derived
    · exact ⟨own, rfl⟩
    · exact ⟨own, rfl⟩

theorem Derived.mono {target body : Value} {controller : Controller} {object : ObjectName}
    {more : List Exchange} (h : Derived canary target log controller object body)
    (sub : log ⊆ more) : Derived canary target more controller object body := by
  cases h with
  | primary paired told made_sub made =>
    exact .primary paired (sub told) (List.Subset.trans made_sub sub) made
  | service derived made => exact .service derived made

/-! ## A store that nobody else writes -/

variable {σ : Type} {S : Surroundings σ} {store : σ → Store} {s s' : σ} {controller : Controller}
  {operation : Operation} {object : ObjectName} {failure : Failure}

/-- Surroundings of a store that nobody but the program writes; every call may fail in any way, and
then it has no effect on the store. -/
def Unshared (S : Surroundings σ) (store : σ → Store) : Prop :=
  ∀ request s, ∃ disturbed,
    Exchange.Served ⟨request, (S request s).1⟩ disturbed (store s) (store (S request s).2)

theorem Unshared.store_eq_of_replays (unshared : Unshared S store) (replays : Replays S s log s')
    (unwritten : Unwritten log) : store s' = store s := by
  induction log generalizing s with
  | nil => rw [show s' = s from replays]
  | cons e log ih =>
    obtain ⟨reply, rest⟩ := replays
    obtain ⟨here, later⟩ := unwritten_cons.mp unwritten
    obtain ⟨disturbed, served⟩ := unshared e.request s
    rw [ih rest later]
    refine served.store_eq_of_not_wrote ?_
    rw [reply]
    exact here

theorem Unshared.get?_of_read (unshared : Unshared S store) {kind : Kind} {v : Value}
    (replays : Replays S s log s') (unwritten : Unwritten log)
    (read : readExchange kind object (.ok v) ∈ log) :
    (store s).get? ⟨kind.name, object⟩ = some v := by
  obtain ⟨before, after, rfl⟩ := List.append_of_mem read
  obtain ⟨s₁, early, reply, -⟩ := replays_append.mp replays
  obtain ⟨disturbed, served⟩ := unshared (.readObject kind object) s₁
  rw [reply, unshared.store_eq_of_replays early (unwritten_append.mp unwritten).1] at served
  exact Server.Serves.get?_of_read served

/-- One new object in a store: what a controller derives from the target that is stored, whole, at a
place where there was nothing. -/
structure AddsOne (controller : Controller) (canary : Canary) (object : ObjectName)
    (log : List Exchange) (before after : Store) : Prop where
  steps : ∃ v target body kept,
    before.get? ⟨controller.kind.name, canary.targetObject⟩ = some v ∧
    v.toManifest = .ok target ∧ Derived canary target log controller object body ∧
    before.get? ⟨controller.kind.name, object⟩ = none ∧ Value.SameApart serverPlaces body kept ∧
    after = before.put ⟨controller.kind.name, object⟩ kept

theorem AddsOne.keeps {before after : Store} {key : ObjectKey} {v : Value}
    (h : AddsOne controller canary object log before after) (stored : before.get? key = some v) :
    after.get? key = some v := by
  obtain ⟨_, _, _, kept, -, -, -, missing, -, rfl⟩ := h
  rw [Store.get?_put, if_neg]
  · exact stored
  · intro same
    rw [Store.get?_congr before same, stored] at missing
    cases missing

theorem Unshared.addsOne (unshared : Unshared S store) (replays : Replays S s log s')
    (one : CreatesOne controller canary object log) :
    AddsOne controller canary object log (store s) (store s') := by
  obtain ⟨before, after, v, target, body, rfl, none_before, none_after, read, hv, derived⟩ := one
  obtain ⟨s₁, early, reply, late⟩ := replays_append.mp replays
  obtain ⟨disturbed, served⟩ := unshared (.createObject controller.kind canary.space body) s₁
  rw [reply, unshared.store_eq_of_replays early none_before] at served
  obtain ⟨kept, missing, same, put⟩ := served.of_created
  obtain ⟨own, space⟩ := derived.own
  have key : (⟨controller.kind.name, ⟨Site.bodyName body, canary.space⟩⟩ : ObjectKey) =
      ⟨controller.kind.name, object⟩ := by
    rw [Site.bodyName_of_ownName own, ← space]
  rw [key] at missing put
  refine ⟨v, target, body, kept, unshared.get?_of_read early none_before read, hv,
    derived.mono (List.subset_append_left _ _), missing, same, ?_⟩
  rw [unshared.store_eq_of_replays late none_after, put]

/-- A call that fails leaves every stored object exactly as it was. It leaves the whole store as it
was, unless it establishes: then there may be one new object, the first that is derived from the
target, whole. -/
theorem failed_calls_keep_objects (unshared : Unshared S store)
    (failed : ((controller.call operation canary).run S s).1 = .error failure) :
    let log := (controller.call operation canary).log S s
    let after := store ((controller.call operation canary).run S s).2
    (∀ key v, (store s).get? key = some v → after.get? key = some v) ∧
      (after = store s ∨ operation = .establish ∧
        AddsOne controller canary (controller.firstDerived canary) log (store s) after) := by
  intro log after
  have replays : Replays S s log _ := replays_log S (controller.call operation canary) s
  have ends : Ends (controller.call operation canary) log (.error failure) := by
    rw [← failed]
    exact ends_log S _ s
  have unchanged (unwritten : Unwritten log) : after = store s :=
    unshared.store_eq_of_replays replays unwritten
  by_cases establishing : operation = .establish
  · subst establishing
    obtain unwritten | one := Controller.ends_establish_error ends
    · rw [unchanged unwritten]
      exact ⟨fun _ _ stored => stored, .inl rfl⟩
    · have adds := unshared.addsOne replays one
      exact ⟨fun _ _ stored => adds.keeps stored, .inr ⟨rfl, adds⟩⟩
  · rw [unchanged (Controller.failsUnwritten_call establishing log failure ends)]
    exact ⟨fun _ _ stored => stored, .inl rfl⟩

/-- Surroundings in which nothing goes wrong, except that every replacement is refused. -/
def sampleUnwritable : Surroundings (Store × Nat)
  | .replaceObject _ _ _, s => (.error (.refused Server.conflict), s)
  | request, s =>
    calmSurroundings [] (fun podSpec _ => .ok podSpec) (sampleSite [] []).clock request s

theorem unshared_sampleUnwritable : Unshared sampleUnwritable Prod.fst := by
  have calm : Calm (calmSurroundings [] (fun podSpec _ => .ok podSpec) (sampleSite [] []).clock)
    Prod.fst [] fun podSpec _ => .ok podSpec := calm_calmSurroundings _
  intro request s
  cases request with
  | replaceObject => exact ⟨true, .error (.refused Server.conflict), rfl, .disturbed _⟩
  | _ => exact ⟨false, calm.served _ s⟩

/-- The call that establishes the canary of the Deployment `web` without an analysis. -/
def sampleHasty : Program Value :=
  Controller.call (.template sampleController) .establish { sampleCanary with skipAnalysis := true }

/-- An establishment that creates the primary and then cannot scale the target down leaves the
target as it was, and a whole primary. -/
theorem sampleHasty_keeps_objects :
    let before := ((sampleSite [] [("web", "1")]).server.store, 0)
    let after := (sampleHasty.run sampleUnwritable before).2
    after.1.get? (sampleController.targetKey sampleCanary) =
        before.1.get? (sampleController.targetKey sampleCanary) ∧
      AddsOne (.template sampleController) { sampleCanary with skipAnalysis := true }
        (TemplateController.primaryObject sampleCanary) (sampleHasty.log sampleUnwritable before)
        before.1 after.1 := by
  intro before after
  have failed : (sampleHasty.run sampleUnwritable before).1 = .error (.workload (.refused
      ⟨"scale to zero", "Deployment", sampleCanary.targetObject, .int 409, .text "Conflict"⟩)) := by
    decide +kernel
  have new : after.1.get? (sampleController.primaryKey sampleCanary) ≠
      before.1.get? (sampleController.primaryKey sampleCanary) := by
    decide +kernel
  obtain ⟨keeps, unchanged | ⟨-, adds⟩⟩ :=
    failed_calls_keep_objects unshared_sampleUnwritable failed
  · exact absurd (congrArg (fun s => Store.get? s _) unchanged) new
  · obtain ⟨v, stored⟩ : ∃ v,
        before.1.get? (sampleController.targetKey sampleCanary) = some v := ⟨_, rfl⟩
    exact ⟨(keeps _ v stored).trans stored.symm, adds⟩

end CanaryRelease
