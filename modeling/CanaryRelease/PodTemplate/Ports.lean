import CanaryRelease.Canary

/-!
# Port discovery

The container ports of a pod that its services have to expose besides the one that the canary
manages. Ports of mesh sidecars are not among them. A port without a name gets one from its
container and its place there, counted over all ports of the container.
-/

namespace CanaryRelease.PodTemplate

/-- The containers that a service mesh adds to a pod. -/
def sidecars : List String := ["istio-proxy", "envoy"]

/-- A target port that leaves the choice to the service port. -/
def isUnchosen (targetPort : Value) : Bool :=
  targetPort.alike .null || targetPort.alike (.int 0) || targetPort.alike (.text "0") ||
    targetPort.alike (.text "")

/-- Whether a container port is the one that the canary's own services expose. -/
def isManaged (service : ServicePorts) (number name : Value) : Bool :=
  if isUnchosen service.targetPort then number.alike (.int service.port)
  else
    match service.targetPort with
    | .int _ | .bool _ => number.alike service.targetPort
    | _ => name.alike service.targetPort

/-- The name of the port at a place of a container that does not name it. -/
def generatedName (container : Value) (index : Nat) : String :=
  "tcp-" ++ container.display ++ "-" ++ toString index

/-- Adds one port of a container to the ports found so far. -/
def addPort (service : ServicePorts) (container : Value) (found : Fields) (index : Nat)
    (port : Value) : Except Failure Fields := do
  let number ← port.get "containerPort"
  let name ← port.get "name"
  if isManaged service number name then return found
  match (name.orElse (.text (generatedName container index))).toKey? with
  | some key => return found.set key number
  | none => .error .malformed

/-- Adds the ports of a container from a place on. -/
def addPorts (service : ServicePorts) (container : Value) (found : Fields) (index : Nat) :
    List Value → Except Failure Fields
  | [] => .ok found
  | port :: ports => do
    addPorts service container (← addPort service container found index port) (index + 1) ports

/-- Adds the ports of a container unless it is a sidecar. -/
def addContainer (service : ServicePorts) (found : Fields) (container : Value) :
    Except Failure Fields := do
  let name ← container.getOr "name" (.text "")
  if !name.isScalar then .error .malformed
  if sidecars.any fun sidecar => name = .text sidecar then return found
  let ports ← ((← container.get "ports").orElse (.list [])).elements
  addPorts service name found 0 ports

/-- The ports of a list of containers by name. Of ports with one name the last one counts. -/
def discoverPorts (service : ServicePorts) (containers : Value) : Except Failure Fields := do
  (← containers.elements).foldlM (addContainer service) []

end CanaryRelease.PodTemplate
