import CanaryRelease.Proofs.Promotion
import CanaryRelease.Workload.Checks

/-!
# Requests that are not asked

Which sorts of requests a program keeps away from (`Program.Avoids`): those that none of its parts
asks. Reading and writing objects asks for nothing but the call and, if it was refused, its count;
what goes into the body of a primary is asked of the tracker and of the supply of ids alone.
-/

namespace CanaryRelease

open Program Workload

namespace Program

variable {α β : Type} {sort : Request → Prop} {p : Program α} {f : α → Program β}
  {log : List Exchange}

/-- A program that never asks requests of a sort. -/
def Avoids (sort : Request → Prop) (p : Program α) : Prop := ∀ log r, Asks p log r → ¬ sort r

theorem avoids_pure (a : α) : Avoids sort (pure a) := fun _ _ h => absurd h asks_pure

theorem avoids_fail (e : Failure) : Avoids sort (fail e : Program α) :=
  fun _ _ h => absurd h asks_fail

theorem avoids_lift (x : Except Failure α) : Avoids sort (liftM x : Program α) :=
  fun _ _ h => absurd h asks_lift

theorem avoids_request {r : Request} (h : ¬ sort r) : Avoids sort (request r) := by
  intro log r' asks
  obtain ⟨-, rfl⟩ := asks_request.mp asks
  exact h

theorem avoids_orFail {p : Program (Except Failure α)} (hp : Avoids sort p) :
    Avoids sort p.orFail := fun log r h => hp log r (asks_orFail.mp h)

theorem Avoids.bind (hp : Avoids sort p) (hf : ∀ a, Avoids sort (f a)) :
    Avoids sort (p >>= f) := by
  intro log r h
  obtain h | ⟨a, before, after, -, -, h⟩ := asks_bind.mp h
  · exact hp log r h
  · exact hf a after r h

theorem avoids_ite {c : Prop} [Decidable c] {q : Program α} (hp : Avoids sort p)
    (hq : Avoids sort q) : Avoids sort (if c then p else q) := by
  split
  · exact hp
  · exact hq

theorem Avoids.of_mem (hp : Avoids sort p) {outcome : Except Failure α}
    (ended : Ends p log outcome) {e : Exchange} (mem : e ∈ log) : ¬ sort e.request := by
  obtain ⟨before, after, rfl⟩ := List.append_of_mem mem
  exact hp before e.request ended.asks

end Program

/-! ## Calls about objects -/

namespace Workload

variable {α : Type} {sort : Request → Prop} {kind : Kind} {object : ObjectName}

theorem avoids_giveUp (counts : ∀ counter, ¬ sort (.count counter)) (action : String)
    (failure : CallFailure) : Avoids sort (giveUp action kind object failure : Program α) := by
  cases failure with
  | refused refusal => exact (avoids_request (counts _)).bind fun _ => avoids_fail _
  | broken failure => exact avoids_fail failure

theorem avoids_fetch (counts : ∀ counter, ¬ sort (.count counter))
    (reads : ¬ sort (.readObject kind object)) : Avoids sort (fetch kind object) := by
  refine (avoids_request reads).bind fun reply => ?_
  cases reply with
  | error failure => exact avoids_giveUp counts _ _
  | ok v =>
    dsimp only
    cases v.toManifest with
    | ok m => exact avoids_pure m
    | error shape => exact avoids_fail _

theorem avoids_exists (counts : ∀ counter, ¬ sort (.count counter))
    (reads : ¬ sort (.readObject kind object)) : Avoids sort («exists» kind object) := by
  refine (avoids_request reads).bind fun reply => ?_
  cases reply with
  | ok v => exact avoids_pure true
  | error failure => exact avoids_ite (avoids_pure false) (avoids_giveUp counts _ _)

theorem avoids_create {body : Value} (counts : ∀ counter, ¬ sort (.count counter))
    (creates : ¬ sort (.createObject kind object.space body)) :
    Avoids sort (create kind object body) := by
  refine (avoids_request creates).bind fun reply => ?_
  cases reply with
  | ok u => exact avoids_pure u
  | error failure => exact avoids_giveUp counts _ _

theorem avoids_update {v : Value} {action : String} (counts : ∀ counter, ¬ sort (.count counter))
    (replaces : ∀ name body, ¬ sort (.replaceObject kind name body)) :
    Avoids sort (update kind v action) := by
  refine (avoids_lift _).bind fun name => (avoids_lift _).bind fun body => ?_
  refine (avoids_request (replaces name body)).bind fun reply => ?_
  cases reply with
  | ok u => exact avoids_pure u
  | error failure => exact avoids_giveUp counts _ _

end Workload

/-! ## Judging a rollout, and what goes into a primary -/

namespace TemplateController

variable {c : TemplateController} {canary : Canary} {sort : Request → Prop} {label value : String}
  {refs : List ConfigRef} {target primary : Value}

theorem avoids_checkRollout {check : ReadinessCheck} {object : ObjectName} {workload : Value}
    (counts : ∀ counter, ¬ sort (.count counter)) (clock : ¬ sort .readClock) :
    Avoids sort (c.checkRollout canary check object workload) := by
  refine (avoids_lift _).bind fun _ => (avoids_request clock).bind fun _ => ?_
  refine (avoids_lift _).bind fun _ => (avoids_request (counts _)).bind fun _ => ?_
  exact avoids_ite (avoids_pure _) (avoids_fail _)

theorem avoids_copyConfigs (tells : ¬ sort (.targetConfigs canary))
    (copies : ∀ refs, ¬ sort (.copyConfigs canary refs c.labelPrefixes)) :
    Avoids sort (c.copyConfigs canary) :=
  (avoids_orFail (avoids_request tells)).bind fun refs =>
    (avoids_orFail (avoids_request (copies refs))).bind fun _ => avoids_pure _

theorem avoids_primaryPodSpec {template : Value}
    (redirects : ∀ podSpec, ¬ sort (.redirectConfigs podSpec refs)) :
    Avoids sort (primaryPodSpec template refs) :=
  (avoids_lift _).bind fun podSpec =>
    (avoids_orFail (avoids_request (redirects podSpec))).bind fun _ => avoids_lift _

theorem avoids_freshAnnotations {annotations : Value} (draws : ¬ sort .drawId) :
    Avoids sort (freshAnnotations annotations) :=
  (avoids_lift _).bind fun _ => (avoids_request draws).bind fun _ => avoids_pure _

theorem avoids_primaryBody (draws : ¬ sort .drawId)
    (redirects : ∀ podSpec, ¬ sort (.redirectConfigs podSpec refs)) :
    Avoids sort (c.primaryBody canary target label value refs) := by
  refine (avoids_lift _).bind fun _ => (avoids_lift _).bind fun _ => ?_
  refine Avoids.bind ?_ fun _ => (avoids_lift _).bind fun _ => avoids_pure _
  refine (avoids_lift _).bind fun _ => (avoids_lift _).bind fun _ => ?_
  refine (avoids_lift _).bind fun _ => (avoids_lift _).bind fun _ => ?_
  refine (avoids_lift _).bind fun _ => (avoids_lift _).bind fun _ => ?_
  exact (avoids_freshAnnotations draws).bind fun _ =>
    (avoids_primaryPodSpec redirects).bind fun _ => avoids_pure _

theorem avoids_promoted (draws : ¬ sort .drawId)
    (redirects : ∀ podSpec, ¬ sort (.redirectConfigs podSpec refs)) :
    Avoids sort (c.promoted primary target label value refs) := by
  refine (avoids_lift _).bind fun _ => (avoids_lift _).bind fun _ => ?_
  refine (avoids_lift _).bind fun _ => (avoids_lift _).bind fun _ => ?_
  refine (avoids_lift _).bind fun _ => (avoids_lift _).bind fun _ => ?_
  refine (avoids_primaryPodSpec redirects).bind fun _ => (avoids_lift _).bind fun _ => ?_
  refine (avoids_lift _).bind fun _ => (avoids_lift _).bind fun _ => ?_
  refine (avoids_freshAnnotations draws).bind fun _ => (avoids_lift _).bind fun _ => ?_
  refine (avoids_lift _).bind fun _ => (avoids_lift _).bind fun _ => ?_
  exact (avoids_lift _).bind fun _ => (avoids_lift _).bind fun _ => avoids_lift _

end TemplateController

end CanaryRelease
