import CanaryRelease.Value.Access

/-!
# Canaries

What the controllers read of a Canary object: which target it manages, how far the release has come,
how long a rollout may take, and the hashes of the revisions that were last applied and promoted.
Names, versions and hashes are kept as they stand in the object; only the phase and the integers are
checked.
-/

namespace CanaryRelease

/-- How far a release has come. -/
inductive Phase where
  | none
  | initializing
  | initialized
  | waiting
  | progressing
  | waitingPromotion
  | promoting
  | finalising
  | succeeded
  | failed
  | terminating
  | terminated
  deriving DecidableEq, Repr

namespace Phase

/-- The phase as the object's status names it. -/
def name : Phase → String
  | none => ""
  | initializing => "Initializing"
  | initialized => "Initialized"
  | waiting => "Waiting"
  | progressing => "Progressing"
  | waitingPromotion => "WaitingPromotion"
  | promoting => "Promoting"
  | finalising => "Finalising"
  | succeeded => "Succeeded"
  | failed => "Failed"
  | terminating => "Terminating"
  | terminated => "Terminated"

/-- All phases. -/
def all : List Phase :=
  [none, initializing, initialized, waiting, progressing, waitingPromotion, promoting, finalising,
    succeeded, failed, terminating, terminated]

/-- The phase of a name. -/
def ofName? (name : String) : Option Phase := all.find? fun phase => phase.name = name

/-- The phases before the primary has taken over from the target. -/
def isInitial : Phase → Bool
  | none | initializing => true
  | _ => false

end Phase

/-- The object whose releases a canary manages. -/
structure TargetRef where
  kind : Value
  name : Value
  apiVersion : Value
  deriving DecidableEq

/-- The part of the service settings that port discovery uses. -/
structure ServicePorts where
  port : Int
  /-- A number or a name of a container port; unset values leave the choice to `port`. -/
  targetPort : Value
  portDiscovery : Bool
  deriving DecidableEq

/-- What the controllers read of a Canary object. -/
structure Canary where
  object : ObjectName
  uid : Value
  apiVersion : Value
  target : TargetRef
  phase : Phase
  /-- The seconds that a rollout may go without progress. -/
  progressDeadline : Int
  skipAnalysis : Bool
  service : ServicePorts
  lastAppliedSpec : Value
  lastPromotedSpec : Value
  deriving DecidableEq

namespace Canary

/-- The version of Canary objects that do not give one. -/
def defaultApiVersion : String := "flagger.app/v1beta1"

/-- The seconds that a rollout may go without progress unless the object says otherwise. -/
def defaultProgressDeadline : Int := 600

/-- The canary as messages name it. -/
def key (c : Canary) : String := c.object.display

/-- The namespace of the canary, its target and all that is derived from it. -/
def space (c : Canary) : Value := c.object.space

/-- The target as an object. -/
def targetObject (c : Canary) : ObjectName := ⟨c.target.name, c.space⟩

/-- The reference by which a derived object names the canary as its owner. -/
def ownerReference (c : Canary) : Value :=
  .object [("apiVersion", c.apiVersion), ("kind", .text "Canary"), ("name", c.object.name),
    ("uid", c.uid), ("controller", .bool true), ("blockOwnerDeletion", .bool true)]

/-- The phase that a status names; a status without one is in the first phase. -/
def readPhase (status : Value) : Except Failure Phase := do
  let phase ← status.getOr "phase" (.text "")
  let named := match phase with
    | .text s => Phase.ofName? s
    | _ => Option.none
  match named with
  | some phase => .ok phase
  | Option.none => .error (.invalid (.unknownPhase phase))

/-- Reads a Canary object. It has to name itself, its namespace and its target. -/
def ofObject (object : Value) : Except Failure Canary := do
  let metadata ← object.getSection "metadata"
  let spec ← object.getSection "spec"
  let status ← object.getSection "status"
  let target ← spec.getSection "targetRef"
  let service ← spec.getSection "service"
  let name ← metadata.get "name"
  let space ← metadata.get "namespace"
  if name.isUnset || space.isUnset then .error (.invalid .missingIdentity)
  let targetName ← target.get "name"
  if targetName.isUnset then .error (.invalid (.missingTarget ⟨name, space⟩))
  let deadline ← spec.get "progressDeadlineSeconds"
  let uid ← metadata.getOr "uid" (.text "")
  let apiVersion ← object.getOr "apiVersion" (.text defaultApiVersion)
  let targetKind ← target.getOr "kind" (.text "Deployment")
  let targetApiVersion ← target.getOr "apiVersion" (.text "apps/v1")
  let phase ← readPhase status
  let progressDeadline ←
    if deadline = .null then .ok defaultProgressDeadline else deadline.toInteger
  let skipAnalysis ← spec.getOr "skipAnalysis" (.bool false)
  let port ← (← service.getOr "port" (.int 0)).toInteger
  let targetPort ← service.get "targetPort"
  let portDiscovery ← service.getOr "portDiscovery" (.bool false)
  let lastAppliedSpec ← status.getOr "lastAppliedSpec" (.text "")
  let lastPromotedSpec ← status.getOr "lastPromotedSpec" (.text "")
  return {
    object := ⟨name, space⟩
    uid, apiVersion
    target := ⟨targetKind, targetName, targetApiVersion⟩
    phase, progressDeadline
    skipAnalysis := !skipAnalysis.isUnset
    service := ⟨port, targetPort, !portDiscovery.isUnset⟩
    lastAppliedSpec, lastPromotedSpec }

end Canary

end CanaryRelease
