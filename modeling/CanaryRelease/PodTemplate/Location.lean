import CanaryRelease.Value.Access

/-!
# Where pod templates lie

A workload holds its pod template under `spec.template`, and the pod spec under `spec` of that.
Levels that are missing count as empty objects; they are there once something is written.
-/

namespace CanaryRelease.PodTemplate

/-- The pod spec of a workload. -/
def podSpec (workload : Value) : Except Failure Value := do
  let spec ← workload.getOr "spec" .empty
  let template ← spec.getOr "template" .empty
  template.getOr "spec" .empty

/-- A workload with another pod spec. -/
def withPodSpec (workload podSpec : Value) : Except Failure Value := do
  let spec ← workload.getOr "spec" .empty
  let template ← spec.getOr "template" .empty
  workload.set "spec" (← spec.set "template" (← template.set "spec" podSpec))

end CanaryRelease.PodTemplate
