import CanaryRelease.Proofs.Occasions

/-!
# Objects that are judged

The checks of a target and of a primary, and establishing with an analysis, judge an object: they
read it, map it to the status of a rollout, and then look at the clock. Whenever a call has read the
object that it judges, other than to see whether it exists, and the object can be mapped, the next
thing it asks for is the time (`Call.Evaluates.asks_clock`). So no evaluation is passed over.
-/

namespace CanaryRelease

open Program Workload

variable {kind : Kind} {object : ObjectName} {v : Value} {log : List Exchange} {e : Exchange}

/-- An exchange reads the object that a call judges, and there is a status to judge; it does not
just ask whether the object exists. -/
inductive Call.Evaluates (call : Call) (log : List Exchange) : Exchange → Prop where
  | judged {c : TemplateController} {object : ObjectName} {v workload : Value}
      {status : RolloutStatus} (template : call.controller = .template c)
      (object_eq : call.judgedObject? = some object)
      (plain : ¬ ChecksExistence call.controller call.operation call.canary log
        (.readObject (.template c.kind) object))
      (manifest : v.toManifest = .ok workload)
      (mapped : RolloutStatus.ofObject c.kind workload = .ok status) :
      Evaluates call log (readExchange (.template c.kind) object (.ok v))

section Reading

variable {α : Type} {f : Value → Program α} {r : Request} {workload : Value} {source : ObjectName}

theorem nil_of_asks_fetch (h : Asks (fetch kind source) log (.readObject kind object)) :
    log = [] ∧ object = source := by
  obtain now | ⟨reply, before, after, rfl, -, rest⟩ := asks_bind.mp h
  · obtain ⟨rfl, same⟩ := asks_request.mp now
    exact ⟨rfl, (Request.readObject.inj same).2⟩
  · cases reply with
    | error failure => exact absurd rfl (avoids_giveUp nofun _ _ _ _ rest)
    | ok v =>
      dsimp only at rest
      split at rest
      · exact absurd rest asks_pure
      · exact absurd rest asks_fail

theorem nil_of_asks_exists (h : Asks («exists» kind source) log (.readObject kind object)) :
    log = [] := by
  obtain now | ⟨reply, before, after, rfl, -, rest⟩ := asks_bind.mp h
  · exact (asks_request.mp now).1
  · cases reply with
    | ok v => exact absurd rest asks_pure
    | error failure =>
      exact absurd rfl (avoids_ite (avoids_pure _) (avoids_giveUp nofun _ _) _ _ rest)

theorem asks_after_fetch (quiet : ∀ w, Avoids (· = .readObject kind object) (f w))
    (h : Asks (fetch kind source >>= f) log (.readObject kind object))
    (manifest : v.toManifest = .ok workload) (next : Asks (f workload) [] r) :
    Asks (fetch kind source >>= f) (log ++ [readExchange kind object (.ok v)]) r := by
  obtain first | ⟨w, before, after, rfl, -, rest⟩ := asks_bind.mp h
  · obtain ⟨rfl, rfl⟩ := nil_of_asks_fetch first
    exact asks_bind.mpr (.inr ⟨workload, _, [], (List.append_nil _).symm,
      ends_fetch.mpr ⟨v, rfl, manifest⟩, next⟩)
  · exact absurd rfl (quiet w _ _ rest)

end Reading

namespace TemplateController

variable {c : TemplateController} {canary : Canary} {operation : Operation} {workload : Value}
  {check : ReadinessCheck} {place : ObjectName} {status : RolloutStatus}

theorem asks_checkRollout (mapped : RolloutStatus.ofObject c.kind workload = .ok status) :
    Asks (c.checkRollout canary check place workload) [] .readClock :=
  asks_lift_bind.mpr ⟨status, mapped, asks_bind.mpr (.inl (asks_request.mpr ⟨rfl, rfl⟩))⟩

theorem avoids_fetch_target :
    Avoids (· = .readObject (.template c.kind) (primaryObject canary))
      (fetch (.template c.kind) canary.targetObject) := by
  refine avoids_fetch nofun fun same => ?_
  have derived : primaryObject canary ∈ (Controller.template c).derivedObjects canary :=
    mem_derivedObjects_primary
  exact object_ne_target derived (Request.readObject.inj same).2.symm

theorem avoids_scaleToZero :
    Avoids (· = .readObject (.template c.kind) (primaryObject canary)) (c.scaleToZero canary) := by
  refine avoids_fetch_target.bind fun target => (avoids_lift _).bind fun podSpec => ?_
  refine (avoids_lift _).bind fun down => avoids_ite ?_ ?_
  · exact (avoids_request nofun).bind fun _ => avoids_pure _
  · refine (avoids_lift _).bind fun _ => (avoids_lift _).bind fun _ => ?_
    exact (avoids_update nofun nofun).bind fun _ => avoids_request nofun

theorem checksExistence_of_createPrimary (h : Asks (c.createPrimary canary) log
    (.readObject (.template c.kind) (primaryObject canary))) :
    ChecksExistence (.template c) .establish canary log
      (.readObject (.template c.kind) (primaryObject canary)) := by
  unfold createPrimary at h
  obtain first | ⟨target, _, after, rfl, fetched, rest⟩ := asks_bind.mp h
  · exact absurd rfl (avoids_fetch_target _ _ first)
  obtain ⟨v, rfl, -⟩ := ends_fetch.mp fetched
  obtain ⟨_, -, rest⟩ := asks_lift_bind.mp rest
  obtain ⟨_, -, rest⟩ := asks_lift_bind.mp rest
  obtain checking | ⟨found, _, _, rfl, -, creating⟩ := asks_bind.mp rest
  · rw [nil_of_asks_exists checking]
    exact checksExistence_primary
  · refine absurd rfl (avoids_ite (avoids_pure ()) ?_ _ _ creating)
    refine (avoids_copyConfigs nofun nofun).bind fun _ => ?_
    refine (avoids_primaryBody nofun nofun).bind fun _ => ?_
    refine (avoids_create nofun nofun).bind fun _ => ?_
    exact (avoids_request nofun).bind fun _ => avoids_request nofun

theorem asks_checkPrimary (h : Asks (c.checkPrimary canary) log
      (.readObject (.template c.kind) (primaryObject canary)))
    (manifest : v.toManifest = .ok workload)
    (mapped : RolloutStatus.ofObject c.kind workload = .ok status) :
    Asks (c.checkPrimary canary)
      (log ++ [readExchange (.template c.kind) (primaryObject canary) (.ok v)]) .readClock := by
  refine asks_after_fetch (fun w => (avoids_checkRollout nofun nofun).bind fun _ => ?_) h manifest
    (asks_bind.mpr (.inl (asks_checkRollout mapped)))
  exact (avoids_lift _).bind fun _ => avoids_ite (avoids_fail _) (avoids_pure _)

theorem asks_checkTarget (h : Asks (c.checkTarget canary) log
      (.readObject (.template c.kind) canary.targetObject))
    (manifest : v.toManifest = .ok workload)
    (mapped : RolloutStatus.ofObject c.kind workload = .ok status) :
    Asks (c.checkTarget canary)
      (log ++ [readExchange (.template c.kind) canary.targetObject (.ok v)]) .readClock :=
  asks_after_fetch (fun _ => avoids_checkRollout nofun nofun) h manifest (asks_checkRollout mapped)

/-- Establishing reads the clock once it has read the primary for the second time, and mapped it. -/
theorem asks_establish (h : Asks (c.establish canary) log
      (.readObject (.template c.kind) (primaryObject canary)))
    (plain : ¬ ChecksExistence (.template c) .establish canary log
      (.readObject (.template c.kind) (primaryObject canary)))
    (manifest : v.toManifest = .ok workload)
    (mapped : RolloutStatus.ofObject c.kind workload = .ok status) :
    Asks (c.establish canary)
      (log ++ [readExchange (.template c.kind) (primaryObject canary) (.ok v)]) .readClock := by
  have scaling : Avoids (· = .readObject (.template c.kind) (primaryObject canary)) (do
      request (.note c.logger (.scalingDown c.kind.name canary.targetObject canary.key))
      c.scaleToZero canary) := (avoids_request nofun).bind fun _ => avoids_scaleToZero
  unfold establish at h ⊢
  obtain creating | ⟨_, before, after, rfl, created, rest⟩ := asks_bind.mp h
  · exact absurd (checksExistence_of_createPrimary creating) plain
  rw [List.append_assoc]
  refine asks_bind.mpr (.inr ⟨(), before, _, rfl, created, ?_⟩)
  split at rest
  · exact absurd rest asks_pure
  · rename_i initial
    rw [if_neg initial]
    split at rest
    · rename_i analysis
      rw [if_pos analysis]
      obtain checking | ⟨_, _, _, rfl, -, scaled⟩ := asks_bind.mp rest
      · exact asks_bind.mpr (.inl (asks_checkPrimary checking manifest mapped))
      · exact absurd rfl (scaling _ _ scaled)
    · exact absurd rfl (scaling _ _ rest)

end TemplateController

theorem asks_bind_pure {α β : Type} {p : Program α} {g : α → β} {r : Request} :
    Asks (p >>= fun a => pure (g a)) log r ↔ Asks p log r := by
  rw [asks_bind]
  constructor
  · rintro (first | ⟨_, _, _, -, -, rest⟩)
    · exact first
    · exact absurd rest asks_pure
  · exact .inl

/-- Once the object to be judged was read and mapped, the time is asked for. -/
theorem Call.Evaluates.asks_clock {call : Call} (h : call.Evaluates log e)
    (asks : Asks call.program log e.request) : Asks call.program (log ++ [e]) .readClock := by
  obtain ⟨controller, operation, canary⟩ := call
  cases h with
  | judged template object_eq plain manifest mapped =>
    subst template
    cases operation with
    | establish =>
      cases object_eq
      have establishing := TemplateController.asks_establish (asks_bind_pure.mp asks) plain manifest
        mapped
      exact asks_bind_pure.mpr establishing
    | checkPrimary =>
      cases object_eq
      have checking := TemplateController.asks_checkPrimary (asks_bind_pure.mp asks) manifest mapped
      exact asks_bind_pure.mpr checking
    | checkTarget =>
      cases object_eq
      have checking := TemplateController.asks_checkTarget (asks_bind_pure.mp asks) manifest mapped
      exact asks_bind_pure.mpr checking
    | _ => cases object_eq

end CanaryRelease
