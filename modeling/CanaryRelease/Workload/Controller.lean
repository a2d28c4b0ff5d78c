import CanaryRelease.Workload.Checks
import CanaryRelease.Workload.Scaling
import CanaryRelease.Workload.ServiceController

/-!
# Controllers

The operations that a release goes through, for every kind of target. A Service is always ready and
is never scaled.
-/

namespace CanaryRelease

/-- Creates the primary if it is missing. In an initial phase the target is then scaled down, but
only after the primary was found ready, unless the analysis is skipped. -/
def TemplateController.establish (c : TemplateController) (canary : Canary) : Program Unit := do
  c.createPrimary canary
  if !canary.phase.isInitial then return
  if !canary.skipAnalysis then c.checkPrimary canary
  Program.request (.note c.logger (.scalingDown c.kind.name canary.targetObject canary.key))
  c.scaleToZero canary

/-- The controller of a kind. -/
inductive Controller where
  | template (controller : TemplateController)
  | service (controller : ServiceController)
  deriving DecidableEq, Repr

/-- The operations of a controller. -/
inductive Operation where
  | establish
  | promote
  | hasTargetChanged
  | haveConfigsChanged
  | pairing
  | checkPrimary
  | checkTarget
  | scaleToZero
  | scaleFromZero
  | finalize
  deriving DecidableEq, Repr

namespace Operation

/-- The name that an operation is called by. -/
def name : Operation → String
  | establish => "initialize"
  | promote => "promote"
  | hasTargetChanged => "has_target_changed"
  | haveConfigsChanged => "have_dependencies_changed"
  | pairing => "get_metadata"
  | checkPrimary => "is_primary_ready"
  | checkTarget => "is_canary_ready"
  | scaleToZero => "scale_to_zero"
  | scaleFromZero => "scale_from_zero"
  | finalize => "finalize"

/-- All operations. -/
def all : List Operation :=
  [establish, promote, hasTargetChanged, haveConfigsChanged, pairing, checkPrimary, checkTarget,
    scaleToZero, scaleFromZero, finalize]

/-- The operation that is called by a name. -/
def ofName? (name : String) : Option Operation := all.find? fun operation => operation.name = name

end Operation

/-- A pairing as a value: the label, its value, and the ports or null. -/
def TemplateController.Pairing.toValue (p : TemplateController.Pairing) : Value :=
  .list [.text p.label, p.value, (p.ports.map Value.object).getD .null]

namespace Controller

/-- The kind that a controller manages. -/
def kind : Controller → Kind
  | template c => .template c.kind
  | service _ => .service

/-- The name that a controller logs under. -/
def logger : Controller → String
  | template c => c.logger
  | service c => c.logger

/-- The label prefixes that derived objects take over. -/
def labelPrefixes : Controller → List String
  | template c => c.labelPrefixes
  | service c => c.labelPrefixes

/-- An answer that says nothing. -/
def silent (p : Program Unit) : Program Value := do
  p
  return .null

/-- An operation of a kind with a pod template; its answer as a value. -/
def callTemplate (c : TemplateController) (operation : Operation) (canary : Canary) :
    Program Value :=
  match operation with
  | .establish => silent (c.establish canary)
  | .promote => silent (c.promote canary)
  | .hasTargetChanged => return .bool (← c.hasTargetChanged canary)
  | .haveConfigsChanged => return .bool (← TemplateController.haveConfigsChanged canary)
  | .pairing => return (← c.pairing canary).toValue
  | .checkPrimary => silent (c.checkPrimary canary)
  | .checkTarget => do
    c.checkTarget canary
    return .bool true
  | .scaleToZero => silent (c.scaleToZero canary)
  | .scaleFromZero | .finalize => silent (c.scaleFromZero canary)

/-- An operation of Services; its answer as a value. -/
def callService (c : ServiceController) (operation : Operation) (canary : Canary) :
    Program Value :=
  match operation with
  | .establish => silent (c.establish canary)
  | .promote => silent (c.promote canary)
  | .hasTargetChanged => return .bool (← ServiceController.hasTargetChanged canary)
  | .haveConfigsChanged => return .bool false
  | .pairing => return .list [.text "", .text "", .null]
  | .checkTarget => return .bool true
  | .checkPrimary | .scaleToZero | .scaleFromZero | .finalize => return .null

/-- An operation; its answer as a value. -/
def call (controller : Controller) (operation : Operation) (canary : Canary) : Program Value :=
  match controller with
  | template c => callTemplate c operation canary
  | service c => callService c operation canary

end Controller

end CanaryRelease
