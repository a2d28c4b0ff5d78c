import CanaryRelease.Proofs.Replacements
import CanaryRelease.Proofs.Versions

/-!
# No update is lost

An operation writes back what it has read, and the resource version is not among its own places. So
a replacement that succeeds was applied to the very object that was read, and one that comes after
another write is refused as a conflict, with which the operation ends (`no_lost_update`). This holds
in every interleaving of operations and outsiders on a server that gives each write a version that
no object had before.
-/

namespace CanaryRelease

open Program Workload Value

variable {kind : Kind} {places : List Path} {manifest body : Value}

/-! ## In every run -/

variable {programs : Nat → Program Value} {start store : Store} {past future : List Moment}
  {m : Moment} {caller : Nat} {controller : Controller} {operation : Operation} {canary : Canary}
  {object : ObjectName} {disturbed : Bool}

/-- The failure of a call that the server refused as a conflict. -/
def conflictOf (action : String) (kind : Kind) (object : ObjectName) : RefusedCall :=
  ⟨action, kind.name, object, Server.conflict.status, Server.conflict.reason⟩

theorem conflictOf_retryable (action : String) (kind : Kind) (object : ObjectName) :
    (WorkloadError.refused (conflictOf action kind object)).category = .conflict ∧
      (WorkloadError.refused (conflictOf action kind object)).retryable = true ∧
      (WorkloadError.refused (conflictOf action kind object)).status = .int 409 :=
  ⟨rfl, rfl, rfl⟩

/-- What becomes of the replacement of an object by a program, `since` being what happened after the
object was read: it is applied to the object as it was read, or the program ends with a conflict if
somebody else has written the object; and a replacement that fails changes nothing. -/
structure LosesNoUpdate (p : Program Value) (log : List Exchange) (places : List Path) (kind : Kind)
    (source object : ObjectName) (v manifest : Value) (since : List Moment) (m : Moment)
    (reply : Except CallFailure Unit) (disturbed : Bool) : Prop where
  applied : reply = .ok () →
    object.standard = source.standard ∧ m.before.get? ⟨kind.name, object⟩ = some v ∧
      ∃ kept, m.after = m.before.put ⟨kind.name, object⟩ kept ∧
        SameApart (["apiVersion"] :: ["kind"] :: (places ++ serverPlaces)) manifest kept
  refused : disturbed = false → object.isAddressable = true →
    (∃ write ∈ since, write.event.Writes ⟨kind.name, source⟩ ∨
      write.event.Writes ⟨kind.name, object⟩) →
    (m.before.get? ⟨kind.name, object⟩).isSome →
      reply = .error (.refused Server.conflict) ∧
        ∃ action, (WorkloadError.refused (conflictOf action kind object)).category = .conflict ∧
          (WorkloadError.refused (conflictOf action kind object)).retryable = true ∧
          (WorkloadError.refused (conflictOf action kind object)).status = .int 409 ∧
          p.Ends (log ++ [⟨.count (conflictOf action kind object).counter, ()⟩])
            (.error (.workload (.refused (conflictOf action kind object))))
  kept : ∀ failure, reply = .error failure → m.after = m.before

/-- Whatever an operation replaces it has read before, and no update in between is lost. -/
theorem no_lost_update {reply : Except CallFailure Unit}
    (run : Run programs start (past ++ m :: future) store)
    (fresh : FreshVersions start (past ++ m :: future))
    (own : programs caller = controller.call operation canary)
    (hm : m.event = .exchange caller (replaceExchange kind object body reply) disturbed) :
    ∃ before since read source v manifest,
      past = before ++ read :: since ∧
      (∃ d, read.event = .exchange caller (readExchange kind source (.ok v)) d) ∧
      read.before.get? ⟨kind.name, source⟩ = some v ∧ v.toManifest = .ok manifest ∧
      ownName manifest = .ok object ∧
      WrittenBack kind (controller.ownPlaces operation) manifest body ∧
      LosesNoUpdate (programs caller) (exchangesOf caller (past ++ [m]))
        (controller.ownPlaces operation) kind source object v manifest since m reply disturbed := by
  obtain ⟨asks, served⟩ := run.asks hm
  rw [own] at asks
  have replaces : WritesBack controller.kind (controller.ownPlaces operation)
      (controller.call operation canary) ∧ FailsOnRefusal (controller.call operation canary) :=
    Controller.call_replaces
  obtain ⟨writesBack, fails⟩ := replaces
  obtain ⟨rfl, log, log', source, v, manifest, hlog, hv, hn, written⟩ := writesBack _ _ _ _ asks
  obtain ⟨before, since, read, readDisturbed, rfl, hread, -, -⟩ := exists_moment_of_exchangesOf hlog
  have stored : read.before.get? ⟨controller.kind.name, source⟩ = some v :=
    Server.Serves.get?_of_read ((run.at_moment.1).asks hread).2
  refine ⟨before, since, read, source, v, manifest, rfl, ⟨_, hread⟩, stored, hv, hn, written, ?_⟩
  -- the body carries the version that was read, whatever the operation changes in it
  have version : body.resourceVersion = v.resourceVersion.wire :=
    resourceVersion_of_writtenBack hv written (Controller.apart_ownPlaces (by decide))
  obtain ⟨runUntil, -⟩ := run.at_moment
  have freshUntil := fresh.of_append
  constructor
  · rintro rfl
    obtain ⟨x, kept, hx, alike, hk, after⟩ := served.of_replaced
    -- no two objects ever have one version, so what was replaced is what was read
    obtain ⟨place, rfl⟩ := freshUntil.eq_of_alike runUntil stored version hx alike
    refine ⟨place.2, hx, kept, after, ?_⟩
    exact written.same.append hk
  · rintro rfl addressable writes there
    obtain ⟨x, hx⟩ := Option.isSome_iff_exists.mp there
    have outdated := freshUntil.outdated_of_written runUntil stored version hx writes
    obtain rfl := served.conflict_of_outdated addressable hx outdated
    obtain ⟨action, ends⟩ := fails _ _ _ _ asks
    obtain ⟨category, retryable, status⟩ := conflictOf_retryable action controller.kind object
    refine ⟨rfl, action, category, retryable, status, ?_⟩
    rw [own, exchangesOf_snoc hm, List.append_assoc]
    exact ends Server.conflict
  · rintro failure rfl
    exact served.store_eq_of_not_replaced

/-- What happens when a target is scaled down that somebody else writes after it was read. -/
def sampleConflict : List Moment :=
  (sampleSite [⟨true, .replace, "Deployment", .text "web", .bump, 1⟩] [("web", "1")]).moments 0
    (Controller.call (.template sampleController) .scaleToZero sampleCanary)

/-- The other's write is not lost: the replacement is refused and ends in a conflict. -/
theorem sampleConflict_loses_no_update :
    ∃ before since read source v manifest m,
      sampleConflict.take 2 = before ++ read :: since ∧
      (∃ d, read.event = .exchange 0 (readExchange (.template .deployment) source (.ok v)) d) ∧
      read.before.get? ⟨"Deployment", source⟩ = some v ∧ v.toManifest = .ok manifest ∧
      ownName manifest = .ok ⟨.text "web", .text "prod"⟩ ∧
      WrittenBack (.template .deployment) [PodTemplate.markerPlace] manifest
        TemplateController.sampleScaledDown ∧
      LosesNoUpdate (Controller.call (.template sampleController) .scaleToZero sampleCanary)
        (exchangesOf 0 (sampleConflict.take 2 ++ [m])) [PodTemplate.markerPlace]
        (.template .deployment) source ⟨.text "web", .text "prod"⟩ v manifest since m
        (.error (.refused Server.conflict)) false := by
  have found : sampleConflict[2]?.map Moment.event =
      some (.exchange 0 (replaceExchange (.template .deployment) ⟨.text "web", .text "prod"⟩
        TemplateController.sampleScaledDown (.error (.refused Server.conflict))) false) := by
    decide +kernel
  obtain ⟨m, split, event⟩ := exists_split_of_getElem? found
  have run : Run (fun _ => Controller.call (.template sampleController) .scaleToZero sampleCanary) _
      ([] ++ sampleConflict) _ := Site.run_of_call rfl .start rfl
  have fresh : FreshVersions (sampleSite [⟨true, .replace, "Deployment", .text "web", .bump, 1⟩]
      [("web", "1")]).server.store sampleConflict := by
    refine .of_entries ?_ ?_ ?_
    all_goals decide +kernel
  rw [List.nil_append, split] at run
  rw [split] at fresh
  obtain ⟨before, since, read, source, v, manifest, rest⟩ := no_lost_update run fresh rfl event
  exact ⟨before, since, read, source, v, manifest, m, rest⟩

end CanaryRelease
