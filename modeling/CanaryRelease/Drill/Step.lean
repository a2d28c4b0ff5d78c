import CanaryRelease.Cluster.Site
import CanaryRelease.Drill.Path
import CanaryRelease.Workload.Registry

/-!
# Drills

A drill plays a release at a site: operations of the controllers alternate with edits, by which
the rest of the world changes the canary, the stored objects, the clock, the tracker and the
disturbances of the server. Each step has an answer or a failure, and a record of what happened in
it.
-/

namespace CanaryRelease

/-- What somebody else does between two operations. -/
inductive Edit where
  /-- Stores an object under the name it gives itself. -/
  | put (kind : String) (object : Value)
  /-- Stores any value. -/
  | putRaw (key : ObjectKey) (value : Value)
  | delete (key : ObjectKey)
  | set (key : ObjectKey) (path : List Value) (value : Value)
  | unset (key : ObjectKey) (path : List Value)
  /-- Writes an object without a change. -/
  | bump (key : ObjectKey)
  /-- Completes the rollout of a workload with a number of replicas. -/
  | rollOut (key : ObjectKey) (replicas : Value)
  | addFault (fault : Fault)
  | addHook (hook : Hook)
  | setClock (now : Timestamp)
  | setTracker (change : RecordingTracker → RecordingTracker)
  /-- Sets fields in a section of the canary. -/
  | setCanary (name : String) (fields : Fields)
  /-- Notes the fingerprint of a stored object's pod template, or of its whole spec, in the status
  of the canary. -/
  | noteFingerprint (key : ObjectKey) (template : Bool) (statusKey : String)

/-- A step of a drill. -/
inductive Step where
  /-- Calls an operation of the controller of a kind, that of the target unless another one is
  given, for the canary with some of its sections replaced. -/
  | call (operation : Operation) (kind : Option Value) (sections : Fields)
  | edit (edit : Edit)

/-- A drill under way. -/
structure Drill where
  registry : Registry
  canary : Value
  site : Site

/-- What came of a step. -/
structure StepResult where
  answer : Except Failure Value
  record : List Occurrence

namespace Drill

/-- A drill with another store. -/
def withStore (d : Drill) (store : Store) : Drill :=
  { d with site := { d.site with server := { d.site.server with store } } }

/-- The stored objects. -/
def store (d : Drill) : Store := d.site.server.store

/-- A name under which an object can be stored. -/
def place (object : ObjectName) : Except Failure Unit :=
  if object.isAddressable then .ok () else .error .malformed

/-- An object with the metadata that the server adds, and the key it is stored under. -/
def stored (kind : String) (object : Value) : Except Failure (ObjectKey × Value) := do
  let metadata ← object.require "metadata"
  let name ← metadata.require "name"
  let space ← metadata.require "namespace"
  place ⟨name, space⟩
  let metadata ← metadata.setDefault "resourceVersion" (.text "1")
  let metadata ← metadata.setDefault "generation" (.int 1)
  return (⟨kind, name, space⟩, ← object.set "metadata" metadata)

/-- Changes a stored object. -/
def change (d : Drill) (key : ObjectKey) (f : Value → Except Failure Value) :
    Except Failure Drill := do
  place key.object
  match d.store.get? key with
  | none => .error .malformed
  | some v => return d.withStore (d.store.put key (← f v))

/-- The status of a workload whose rollout is complete. -/
def completeStatus (kind : String) (workload replicas : Value) : Value :=
  let observed := ((workload.part "metadata").get? "generation").getD .null
  let counts : List String :=
    if kind = TemplateKind.daemonSet.name then
      ["desiredNumberScheduled", "currentNumberScheduled", "updatedNumberScheduled",
        "numberAvailable"]
    else ["replicas", "updatedReplicas", "availableReplicas"]
  .object (("observedGeneration", observed) :: counts.map fun count => (.text count, replicas))

/-- The fingerprint of a stored object's pod template, or of its whole spec. -/
def fingerprintOf (d : Drill) (key : ObjectKey) (template : Bool) : Except Failure String := do
  place key.object
  match d.store.get? key with
  | none => .error .malformed
  | some v =>
    let spec ← v.require "spec"
    if template then PodTemplate.fingerprint (← spec.require "template")
    else spec.fingerprint

/-- The canary with fields of a section set. -/
def changedCanary (canary : Value) (name : String) (fields : Fields) : Except Failure Value := do
  let old ← (← canary.getOr name .empty).fields
  canary.set name (.object (old.update fields))

/-- Makes an edit; its answer is null but for fingerprints. -/
def runEdit (d : Drill) : Edit → Except Failure (Value × Drill)
  | .put kind object => do
    let (key, object) ← stored kind object
    return (.null, d.withStore (d.store.put key object))
  | .putRaw key value => do
    place key.object
    return (.null, d.withStore (d.store.put key value))
  | .delete key => do
    place key.object
    return (.null, d.withStore (d.store.delete key))
  | .set key path value => return (.null, ← d.change key (Value.setAt path value))
  | .unset key path => return (.null, ← d.change key (Value.unsetAt path))
  | .bump key => do
    place key.object
    match d.store.get? key with
    | some v => return (.null, d.withStore (d.store.put key (← v.bumped)))
    | none => return (.null, d)
  | .rollOut key replicas =>
    return (.null, ← d.change key fun v => v.set "status" (completeStatus key.kind v replicas))
  | .addFault fault =>
    let server := { d.site.server with faults := d.site.server.faults ++ [fault] }
    return (.null, { d with site := { d.site with server } })
  | .addHook hook =>
    let server := { d.site.server with hooks := d.site.server.hooks ++ [hook] }
    return (.null, { d with site := { d.site with server } })
  | .setClock now => return (.null, { d with site := { d.site with clock := now } })
  | .setTracker f =>
    match d.site.tracker with
    | .off => return (.null, d)
    | .recording t => return (.null, { d with site := { d.site with tracker := .recording (f t) } })
  | .setCanary name fields =>
      return (.null, { d with canary := ← changedCanary d.canary name fields })
  | .noteFingerprint key template statusKey => do
    let fingerprint := Value.text (← d.fingerprintOf key template)
    let canary ← changedCanary d.canary "status" [(statusKey, fingerprint)]
    return (fingerprint, { d with canary })

/-- Calls an operation for the canary with some of its sections replaced. -/
def runCall (d : Drill) (operation : Operation) (kind : Option Value) (sections : Fields) :
    Except Failure Value × Site :=
  let prepared : Except Failure (Controller × Canary) := do
    let canary ← Canary.ofObject (.object ((← d.canary.fields).update sections))
    return (← d.registry.controller (kind.getD canary.target.kind), canary)
  match prepared with
  | .error e => (.error e, d.site)
  | .ok (controller, canary) => d.site.run (controller.call operation canary)

/-- Makes a step. -/
def step (d : Drill) (s : Step) : StepResult × Drill :=
  let d := { d with site := { d.site with record := [] } }
  match s with
  | .edit edit =>
    match d.runEdit edit with
    | .ok (answer, d) => (⟨.ok answer, d.site.record⟩, d)
    | .error e => (⟨.error e, d.site.record⟩, d)
  | .call operation kind sections =>
    let (answer, site) := d.runCall operation kind sections
    (⟨answer, site.record⟩, { d with site })

/-- Makes steps in turn. -/
def steps (d : Drill) : List Step → List StepResult × Drill
  | [] => ([], d)
  | s :: rest =>
    let (result, d) := d.step s
    let (results, d) := d.steps rest
    (result :: results, d)

end Drill

end CanaryRelease
