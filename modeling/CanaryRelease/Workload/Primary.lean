import CanaryRelease.PodTemplate.Labels
import CanaryRelease.PodTemplate.ScaleMarker
import CanaryRelease.Workload.Calls
import CanaryRelease.Workload.TemplateController

/-!
# Primaries

A primary is the twin of a target that serves while the target is tested. It is created from the
target's deployment policy and pod template, with a pairing label of its own, copies of the
configuration that the target refers to, and the canary as its owner; a promotion brings policy, pod
spec, labels and annotations up to date and leaves everything else of the primary alone.
-/

namespace CanaryRelease.TemplateController

/-- The primary of a canary's target. -/
def primaryObject (canary : Canary) : ObjectName :=
  ⟨.text (primaryName canary.target.name), canary.space⟩

/-- The configuration that a target refers to, after copies were made for the primary. -/
def copyConfigs (c : TemplateController) (canary : Canary) : Program (List ConfigRef) := do
  let refs ← (Program.request (.targetConfigs canary)).orFail
  (Program.request (.copyConfigs canary refs c.labelPrefixes)).orFail
  return refs

/-- The pod spec of a primary: it refers to the copies and carries no scale-to-zero marker. -/
def primaryPodSpec (template : Value) (refs : List ConfigRef) : Program Value := do
  let podSpec ← template.getSection "spec"
  let redirected ← (Program.request (.redirectConfigs podSpec refs)).orFail
  PodTemplate.removeMarker redirected

/-- The annotations of a new revision, its id drawn afresh. -/
def freshAnnotations (annotations : Value) : Program Fields := do
  let kept ← PodTemplate.handedOn annotations
  return PodTemplate.stamp kept (← Program.request .drawId)

/-! ## Creation -/

/-- The fields of the deployment policy that a spec has. -/
def policy (kind : TemplateKind) (spec : Fields) : Fields :=
  kind.policyFields.filterMap fun (key : String) => (spec.get? key).map fun x => (.text key, x)

/-- The fields of a new primary's spec that later promotions leave alone: a Deployment starts with
the target's replicas, one if it declares none. -/
def firstReplicas (kind : TemplateKind) (spec : Fields) : Fields :=
  match kind with
  | .deployment =>
    let replicas := (spec.get? "replicas").getD .null
    [("replicas", if replicas = .null then .int 1 else replicas)]
  | .daemonSet | .cloneSet => []

/-- The pod template of a new primary. -/
def primaryTemplate (target : Value) (label value : String) (refs : List ConfigRef) :
    Program Value := do
  let template ← (← target.getSection "spec").getSection "template"
  let metadata ← template.getSection "metadata"
  let labels ← PodTemplate.pairedLabels (← metadata.get "labels") label (.text value)
  let annotations ← freshAnnotations (← metadata.get "annotations")
  let podSpec ← primaryPodSpec template refs
  return .object [
    ("metadata", .object [("labels", .object labels), ("annotations", .object annotations)]),
    ("spec", podSpec)]

/-- The metadata of a new primary. -/
def primaryMetadata (c : TemplateController) (canary : Canary) (target : Value)
    (label value : String) : Except Failure Value := do
  let metadata ← target.getSection "metadata"
  let included ← PodTemplate.includedLabels (← metadata.get "labels") c.labelPrefixes
  let labels ← PodTemplate.pairedLabels (.object included) label (.text value)
  let annotations ← (← metadata.getSection "annotations").toFields
  return .object [
    ("name", (primaryObject canary).name), ("namespace", canary.space),
    ("labels", .object labels), ("annotations", .object annotations),
    ("ownerReferences", .list [canary.ownerReference])]

/-- The body of a new primary. -/
def primaryBody (c : TemplateController) (canary : Canary) (target : Value) (label value : String)
    (refs : List ConfigRef) : Program Value := do
  let spec ← (← target.getSection "spec").fields
  let template ← primaryTemplate target label value refs
  let metadata ← primaryMetadata c canary target label value
  let selector := Value.object [("matchLabels", .object [(label, .text value)])]
  let spec := (policy c.kind spec).update (firstReplicas c.kind spec)
  return .object [
    ("apiVersion", .text c.kind.apiVersion), ("kind", .text c.kind.name), ("metadata", metadata),
    ("spec", .object ((spec.set "selector" selector).set "template" template))]

/-- Creates the primary unless it exists. -/
def createPrimary (c : TemplateController) (canary : Canary) : Program Unit := do
  let kind := Kind.template c.kind
  let primary := primaryObject canary
  let target ← Workload.fetch kind canary.targetObject
  c.checkStrategy target
  let (label, value) ← c.pairingLabel target
  if ← Workload.exists kind primary then return
  let refs ← c.copyConfigs canary
  let body ← c.primaryBody canary target label (primaryName value) refs
  Workload.create kind primary body
  Program.request (.count (.primaryCreated kind.name))
  Program.request (.note c.logger (.created kind.name primary canary.key))

/-! ## Promotion -/

/-- A spec with the deployment policy of another: each field of the policy is set as it is there,
and removed if it is not. -/
def withPolicy (kind : TemplateKind) (spec source : Fields) : Fields :=
  kind.policyFields.foldl
    (fun acc (key : String) =>
      match source.get? key with
      | some x => acc.set key x
      | none => acc.erase key)
    spec

/-- A primary brought up to date with its target. -/
def promoted (c : TemplateController) (primary target : Value) (label value : String)
    (refs : List ConfigRef) : Program Value := do
  let source ← target.getSection "spec"
  let sourceTemplate ← source.getSection "template"
  let sourceMetadata ← sourceTemplate.getSection "metadata"
  let spec ← primary.getOr "spec" .empty
  let spec := withPolicy c.kind (← spec.fields) (← source.fields)
  let template := (spec.get? "template").getD .empty
  let podSpec ← primaryPodSpec sourceTemplate refs
  let template ← template.set "spec" podSpec
  let metadata ← template.getOr "metadata" .empty
  let annotations ← freshAnnotations (← sourceMetadata.get "annotations")
  let metadata ← metadata.set "annotations" (.object annotations)
  let labels ← PodTemplate.pairedLabels (← sourceMetadata.get "labels") label (.text value)
  let metadata ← metadata.set "labels" (.object labels)
  let template ← template.set "metadata" metadata
  primary.set "spec" (.object (spec.set "template" template))

/-- Brings the primary up to date with its target. -/
def promote (c : TemplateController) (canary : Canary) : Program Unit := do
  let kind := Kind.template c.kind
  let target ← Workload.fetch kind canary.targetObject
  let (label, value) ← c.pairingLabel target
  let primary ← Workload.fetch kind (primaryObject canary)
  let refs ← c.copyConfigs canary
  let body ← c.promoted primary target label (primaryName value) refs
  Workload.update kind body "promote"
  Program.request (.count (.promoted kind.name))
  Program.request
    (.note c.logger (.promoted kind.name canary.targetObject (primaryName canary.target.name)))

end CanaryRelease.TemplateController
