import CanaryRelease.PodTemplate.Location
import CanaryRelease.PodTemplate.ScaleMarker
import CanaryRelease.Workload.Calls
import CanaryRelease.Workload.TemplateController

/-!
# Scaling targets

A target is scaled down by the marker in its pod template and up again by its removal. A target that
is where it should be is not written.
-/

namespace CanaryRelease.TemplateController

/-- Scales the target down. -/
def scaleToZero (c : TemplateController) (canary : Canary) : Program Unit := do
  let kind := Kind.template c.kind
  let target ← Workload.fetch kind canary.targetObject
  let podSpec ← PodTemplate.podSpec target
  if ← PodTemplate.hasMarker podSpec then
    Program.request (.note c.logger (.alreadyDown kind.name canary.targetObject))
    return
  let marked ← PodTemplate.addMarker podSpec
  Workload.update kind (← PodTemplate.withPodSpec target marked) "scale to zero"
  Program.request (.count (.scaled kind.name true))

/-- Scales the target up. -/
def scaleFromZero (c : TemplateController) (canary : Canary) : Program Unit := do
  let kind := Kind.template c.kind
  let target ← Workload.fetch kind canary.targetObject
  let podSpec ← PodTemplate.podSpec target
  let selector ← podSpec.getSection "nodeSelector"
  if !(← selector.mentions PodTemplate.markerKey) then
    Program.request (.note c.logger (.notDown kind.name canary.targetObject))
    return
  let unmarked ← PodTemplate.removeMarker podSpec
  Workload.update kind (← PodTemplate.withPodSpec target unmarked) "scale from zero"
  Program.request (.count (.scaled kind.name false))
  Program.request (.note c.logger (.scaledUp kind.name canary.targetObject))

end CanaryRelease.TemplateController
