import CanaryRelease.Value.Access
import CanaryRelease.Workload.Kind

/-!
# Controllers of kinds with a pod template

A controller of a kind knows the candidates for the pairing label and the label prefixes that its
primaries take over. Before anything is written, the pairing label of the target has to be resolved:
exactly one candidate has to be in the target's selector.
-/

namespace CanaryRelease

/-- The controller of a kind with a pod template. -/
structure TemplateController where
  kind : TemplateKind
  /-- Candidates for the pairing label. -/
  labels : List String
  /-- Prefixes of label keys that primaries take over. -/
  labelPrefixes : List String
  /-- The name that the controller logs under. -/
  logger : String
  deriving DecidableEq, Repr

namespace TemplateController

/-- The name and namespace that an object gives itself, null where it does not. -/
def claimedName (metadata : Value) : Except Failure ObjectName := do
  return ⟨← metadata.get "name", ← metadata.get "namespace"⟩

/-- The labels by which a workload selects its pods. -/
def matchLabels (workload : Value) : Except Failure Value := do
  let selector ← (← workload.getSection "spec").getSection "selector"
  selector.getSection "matchLabels"

/-- The pairing label of a target and its value. -/
def pairingLabel (c : TemplateController) (target : Value) : Except Failure (String × Value) := do
  let metadata ← target.getSection "metadata"
  let selected ← matchLabels target
  match ← c.labels.filterM selected.mentions with
  | [label] => return (label, ← selected.require label)
  | found =>
    .error (.workload (.configuration
      (.pairingLabel c.kind (← claimedName metadata) c.labels (!found.isEmpty))))

/-- Accepts a target whose update strategy, if it has one, is fit for a canary release. -/
def checkStrategy (c : TemplateController) (target : Value) : Except Failure Unit := do
  let metadata ← target.getSection "metadata"
  let strategy ← (← target.getSection "spec").getSection c.kind.strategyField
  let type := (← strategy.get "type").orElse (.text "")
  if type.isUnset then return
  if !type.isScalar then .error .malformed
  if c.kind.allowedStrategies.any fun name => type = .text name then return
  .error (.workload (.configuration (.strategy c.kind (← claimedName metadata) type)))

end TemplateController

end CanaryRelease
