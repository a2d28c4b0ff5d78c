import CanaryRelease.PodTemplate.Fingerprint
import CanaryRelease.PodTemplate.Labels
import CanaryRelease.Workload.Calls

/-!
# Controllers of Services

A target that is a plain Service has no pods to manage. Two services of its own shape, one for the
canary and one for the primary, take over its ports and selector; a promotion brings the primary's
up to date. Node ports are left out: they are the target's alone.
-/

namespace CanaryRelease

/-- The controller of Services. -/
structure ServiceController where
  /-- Prefixes of label keys that derived services take over. -/
  labelPrefixes : List String
  /-- The name that the controller logs under. -/
  logger : String
  deriving DecidableEq, Repr

namespace ServiceController

/-- The service that the canary is reached through. -/
def canaryObject (canary : Canary) : ObjectName :=
  ⟨.text (canaryName canary.target.name), canary.space⟩

/-- The service that the primary is reached through. -/
def primaryObject (canary : Canary) : ObjectName :=
  ⟨.text (primaryName canary.target.name), canary.space⟩

/-- A port without its node port. -/
def clusterPort (port : Value) : Except Failure Value := port.erase "nodePort"

/-- The ports of a service without their node ports. -/
def clusterPorts (ports : Value) : Except Failure Value := do
  return .list (← (← (ports.orElse (.list [])).elements).mapM clusterPort)

/-- The body of a service derived from a target. -/
def derivedBody (c : ServiceController) (canary : Canary) (object : ObjectName) (target : Value) :
    Except Failure Value := do
  let metadata ← target.getSection "metadata"
  let spec ← target.getSection "spec"
  let labels ← PodTemplate.includedLabels (← metadata.get "labels") c.labelPrefixes
  let annotations ← (← metadata.getSection "annotations").toFields
  let ports ← clusterPorts (← spec.get "ports")
  let selector ← spec.get "selector"
  let selectorFields : Fields ←
    if selector.isUnset then .ok [] else do .ok [("selector", .object (← selector.toFields))]
  let spec : Fields := [("type", .text "ClusterIP"), ("ports", ports)]
  return .object [
    ("apiVersion", .text Kind.service.apiVersion), ("kind", .text Kind.service.name),
    ("metadata", .object [
      ("name", object.name), ("namespace", object.space), ("labels", .object labels),
      ("annotations", .object annotations),
      ("ownerReferences", .list [canary.ownerReference])]),
    ("spec", .object (spec ++ selectorFields))]

/-- Creates a derived service unless it exists, and tells whether it did. -/
def ensureDerived (c : ServiceController) (canary : Canary) (object : ObjectName) (target : Value) :
    Program Bool := do
  if ← Workload.exists .service object then return false
  Workload.create .service object (← c.derivedBody canary object target)
  Program.request (.note c.logger (.created Kind.service.name object canary.key))
  return true

/-- Creates the derived services that are missing. -/
def establish (c : ServiceController) (canary : Canary) : Program Unit := do
  let target ← Workload.fetch .service canary.targetObject
  let _ ← c.ensureDerived canary (canaryObject canary) target
  if ← c.ensureDerived canary (primaryObject canary) target then
    Program.request (.count (.primaryCreated Kind.service.name))

/-- A primary with the ports and the selector of its target. -/
def promoted (primary target : Value) : Except Failure Value := do
  let source ← target.getSection "spec"
  let spec ← primary.getOr "spec" .empty
  let spec ← spec.set "type" (.text "ClusterIP")
  let spec ← spec.set "ports" (← clusterPorts (← source.get "ports"))
  let selector ← source.get "selector"
  let spec ←
    if selector.isUnset then spec.erase "selector"
    else do spec.set "selector" (.object (← selector.toFields))
  primary.set "spec" spec

/-- Brings the primary's service up to date with the target. -/
def promote (c : ServiceController) (canary : Canary) : Program Unit := do
  let target ← Workload.fetch .service canary.targetObject
  let primary ← Workload.fetch .service (primaryObject canary)
  Workload.update .service (← promoted primary target) "promote"
  Program.request (.count (.promoted Kind.service.name))
  Program.request (.note c.logger
    (.promoted Kind.service.name canary.targetObject (primaryName canary.target.name)))

/-- Whether the target's spec is a new revision. -/
def hasTargetChanged (canary : Canary) : Program Bool := do
  let target ← Workload.fetch .service canary.targetObject
  return canary.isNewRevision (.text (← (← target.getSection "spec").fingerprint))

end ServiceController

end CanaryRelease
