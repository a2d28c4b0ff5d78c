import CanaryRelease.Rollout.Readiness
import CanaryRelease.Workload.ObjectName

/-!
# Telemetry

What controllers tell their operators: counters, each increment with labels, and notices in the log.
-/

namespace CanaryRelease

/-- An increment of a counter. -/
inductive Counter where
  /-- A primary was created. -/
  | primaryCreated (kind : String)
  /-- A revision was promoted to the primary. -/
  | promoted (kind : String)
  /-- The scale-to-zero marker was put on a target, or taken off it. -/
  | scaled (kind : String) (down : Bool)
  /-- A rollout was judged. -/
  | readinessChecked (kind : String) (verdict : Verdict)
  /-- The API server refused a call. -/
  | refused (kind : String) (status : String)
  deriving DecidableEq, Repr

namespace Counter

/-- The name of the counter. -/
def metric : Counter → String
  | primaryCreated _ => "canary_workload_primary_created_total"
  | promoted _ => "canary_workload_promotions_total"
  | scaled .. => "canary_workload_scale_transitions_total"
  | readinessChecked .. => "canary_workload_readiness_checks_total"
  | refused .. => "canary_workload_api_errors_total"

/-- The labels of an increment. -/
def labels : Counter → List (String × String)
  | primaryCreated kind | promoted kind => [("kind", kind)]
  | scaled kind down => [("direction", if down then "down" else "up"), ("kind", kind)]
  | readinessChecked kind verdict => [("kind", kind), ("verdict", verdict.name)]
  | refused kind status => [("kind", kind), ("status", status)]

/-- Name and labels as one text, by which increments are listed. -/
def listingKey (c : Counter) : String :=
  "\x00".intercalate (c.metric :: c.labels.flatMap fun (label, value) => [label, value])

/-- The distinct increments by name and labels, with the number of times each was made. -/
def tally (increments : List Counter) : List (Counter × Nat) :=
  (increments.eraseDups.map fun c => (c, increments.count c)).mergeSort fun a b =>
    a.1.listingKey ≤ b.1.listingKey

end Counter

/-- The increment that a refused call is counted by. -/
def RefusedCall.counter (call : RefusedCall) : Counter := .refused call.kind call.status.display

/-- The weight of a notice. -/
inductive Level where
  | debug
  | info
  deriving DecidableEq, Repr

/-- The level as logs name it. -/
def Level.name : Level → String
  | debug => "debug"
  | info => "info"

/-- What a controller notes in the log. -/
inductive Notice where
  /-- An object was created for a canary. -/
  | created (kind : String) (object : ObjectName) (canary : String)
  /-- A target is about to be scaled down for a canary. -/
  | scalingDown (kind : String) (object : ObjectName) (canary : String)
  | alreadyDown (kind : String) (object : ObjectName)
  | notDown (kind : String) (object : ObjectName)
  | scaledUp (kind : String) (object : ObjectName)
  /-- A target was promoted to the primary of the given name. -/
  | promoted (kind : String) (object : ObjectName) (primary : String)
  deriving DecidableEq

namespace Notice

/-- What changed nothing is noted for debugging only. -/
def level : Notice → Level
  | alreadyDown .. | notDown .. => .debug
  | _ => .info

/-- The text of a notice. -/
def message : Notice → String
  | created kind object canary => kind ++ " " ++ object.display ++ " created for canary " ++ canary
  | scalingDown kind object canary =>
    "Scaling down " ++ kind ++ " " ++ object.display ++ " for canary " ++ canary
  | alreadyDown kind object => kind ++ " " ++ object.display ++ " already scaled to zero"
  | notDown kind object => kind ++ " " ++ object.display ++ " is not scaled to zero"
  | scaledUp kind object => "Scaled up " ++ kind ++ " " ++ object.display
  | promoted kind object primary =>
      "Promoted " ++ kind ++ " " ++ object.display ++ " to " ++ primary

end Notice

end CanaryRelease
