import CanaryRelease.Rollout.Condition
import CanaryRelease.Workload.Kind

/-!
# Rollout statuses

How far a workload's rollout has come, in terms that all kinds share. Each kind keeps its counts
under names of its own; a count that is not set is zero. A DaemonSet declares its count in its
status and publishes no conditions.
-/

namespace CanaryRelease

/-- How far a rollout has come. Counts are kept as they stand in the object. -/
structure RolloutStatus where
  name : Value
  /-- The revision that the manifest asks for. -/
  generation : Value
  /-- The revision that the rest of the status is about. -/
  observedGeneration : Value
  /-- The replicas that the manifest asks for, null if it does not say. -/
  desired : Value
  /-- The replicas of the latest revision. -/
  updated : Value
  /-- The replicas of all revisions. -/
  total : Value
  /-- The replicas of the latest revision that serve. -/
  available : Value
  progressing : Option Condition
  availability : Option Condition
  deriving DecidableEq

namespace RolloutStatus

/-- A count, zero if it is not set. -/
def count (v : Value) (key : String) : Except Failure Value := do
  return (← v.get key).orElse (.int 0)

/-- The status of a kind with conditions; the first argument is the declared count. -/
def ofReplicas (desired metadata status : Value) : Except Failure RolloutStatus := do
  let conditions ← status.get "conditions"
  let name ← metadata.getOr "name" (.text "")
  let generation ← count metadata "generation"
  let observedGeneration ← count status "observedGeneration"
  let updated ← count status "updatedReplicas"
  let total ← count status "replicas"
  let available ← count status "availableReplicas"
  let progressing ← Condition.find conditions (.text "Progressing")
  let availability ← Condition.find conditions (.text "Available")
  return { name, generation, observedGeneration, desired, updated, total, available, progressing,
           availability }

/-- The status of a workload. -/
def ofObject (kind : TemplateKind) (object : Value) : Except Failure RolloutStatus := do
  let metadata ← object.getSection "metadata"
  match kind with
  | .deployment =>
    let spec ← object.getSection "spec"
    let status ← object.getSection "status"
    ofReplicas (← spec.getOr "replicas" (.int 1)) metadata status
  | .cloneSet =>
    let spec ← object.getSection "spec"
    let status ← object.getSection "status"
    ofReplicas (← spec.get "replicas") metadata status
  | .daemonSet =>
    let status ← object.getSection "status"
    return {
      name := ← metadata.getOr "name" (.text "")
      generation := ← count metadata "generation"
      observedGeneration := ← count status "observedGeneration"
      desired := ← count status "desiredNumberScheduled"
      updated := ← count status "updatedNumberScheduled"
      total := ← count status "currentNumberScheduled"
      available := ← count status "numberAvailable"
      progressing := none
      availability := none }

/-- The replicas that a workload's manifest declares, null for a kind that does not declare any. -/
def declaredReplicas (kind : TemplateKind) (object : Value) : Except Failure Value :=
  match kind with
  | .daemonSet => .ok .null
  | .deployment | .cloneSet => do (← object.getSection "spec").get "replicas"

end RolloutStatus

end CanaryRelease
