import CanaryRelease.PodTemplate.Fingerprint
import CanaryRelease.PodTemplate.Ports
import CanaryRelease.Workload.Primary

/-!
# Checks of targets and primaries

Questions about a canary's objects that change nothing: whether a rollout is complete, whether the
target or its configuration has changed, and how target and primary are paired.
-/

namespace CanaryRelease

/-- Judges a rollout, counts the verdict, and fails unless the rollout is ready. -/
def ensureReady (kind : String) (check : ReadinessCheck) (object : ObjectName)
    (status : RolloutStatus) (deadline : Int) (now : Timestamp) : Program Unit := do
  let readiness ← status.readiness deadline now
  Program.request (.count (.readinessChecked kind readiness.verdict))
  if readiness.verdict = .ready then return
  .fail (.workload (.notReady ⟨check, object, readiness.verdict = .fatal, readiness.message⟩))

namespace TemplateController

/-- Fails unless an object's rollout is complete. -/
def checkRollout (c : TemplateController) (canary : Canary) (check : ReadinessCheck)
    (object : ObjectName) (workload : Value) : Program Unit := do
  let status ← RolloutStatus.ofObject c.kind workload
  let now ← Program.request .readClock
  ensureReady c.kind.name check object status canary.progressDeadline now

/-- Fails unless the primary's rollout is complete and the primary declares replicas. -/
def checkPrimary (c : TemplateController) (canary : Canary) : Program Unit := do
  let object := primaryObject canary
  let primary ← Workload.fetch (.template c.kind) object
  c.checkRollout canary .primary object primary
  if (← RolloutStatus.declaredReplicas c.kind primary).alike (.int 0) then
    .fail (.workload (.configuration (.primaryAtZero c.kind canary.key object)))

/-- Fails unless the target's rollout is complete. -/
def checkTarget (c : TemplateController) (canary : Canary) : Program Unit := do
  let object := canary.targetObject
  let target ← Workload.fetch (.template c.kind) object
  c.checkRollout canary (.canary c.kind) object target

/-- Whether the target's pod template is a new revision. -/
def hasTargetChanged (c : TemplateController) (canary : Canary) : Program Bool := do
  let target ← Workload.fetch (.template c.kind) canary.targetObject
  let template ← (← target.getSection "spec").getSection "template"
  return canary.isNewRevision (.text (← PodTemplate.fingerprint template))

/-- Whether the configuration that the target refers to has changed. -/
def haveConfigsChanged (canary : Canary) : Program Bool :=
  (Program.request (.configsChanged canary)).orFail

/-- How target and primary are paired: the label, the target's value of it, and, with port
discovery, the target's ports. -/
structure Pairing where
  label : String
  value : Value
  ports : Option Fields
  deriving DecidableEq

/-- The pairing of a canary's target. -/
def pairing (c : TemplateController) (canary : Canary) : Program Pairing := do
  let target ← Workload.fetch (.template c.kind) canary.targetObject
  let (label, value) ← c.pairingLabel target
  if !canary.service.portDiscovery then return ⟨label, value, none⟩
  let template ← (← target.getSection "spec").getSection "template"
  let podSpec ← template.getSection "spec"
  let containers := (← podSpec.get "containers").orElse (.list [])
  return ⟨label, value, some (← PodTemplate.discoverPorts canary.service containers)⟩

end TemplateController

end CanaryRelease
