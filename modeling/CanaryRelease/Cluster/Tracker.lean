import CanaryRelease.Program

/-!
# Configuration trackers

What keeps the copies of a target's ConfigMaps and Secrets. Without tracking there is nothing to
copy and pod specs stay as they are. The recording tracker follows fixed references, redirects the
volumes that use them to copies named with the suffix of primaries, and can be set up to fail.
-/

namespace CanaryRelease

/-- The calls to a tracker. -/
inductive TrackerCall where
  | targetConfigs (canary : String)
  | copyConfigs (canary : String) (refs labelPrefixes : List String)
  | redirectConfigs (refs : List String)
  | configsChanged (canary : String)
  deriving DecidableEq, Repr

/-- The name that a call is made by. -/
def TrackerCall.name : TrackerCall → String
  | targetConfigs _ => "get_target_configs"
  | copyConfigs .. => "create_primary_configs"
  | redirectConfigs _ => "apply_primary_configs"
  | configsChanged _ => "has_config_changed"

/-- A tracker with fixed references. -/
structure RecordingTracker where
  refs : List ConfigRef
  changed : Bool
  /-- The calls that fail, by name, and their messages. -/
  failures : List (String × String)
  deriving DecidableEq, Repr

namespace RecordingTracker

/-- The suffix of the copies. -/
def copySuffix : String := "-primary"

/-- A reference inside a volume, redirected to its copy if the reference is tracked. -/
def redirectSource (refs : List ConfigRef) (kind nameKey : String) (source : Value) :
    Except Failure Value := do
  if source.isUnset then return source
  match ← source.get nameKey with
  | .text name =>
    if refs.contains ⟨kind, name⟩ then source.set nameKey (.text (name ++ copySuffix))
    else return source
  | _ => return source

/-- A volume with its references redirected. -/
def redirectVolume (refs : List ConfigRef) (volume : Value) : Except Failure Value := do
  let redirect (volume : Value) (field kind nameKey : String) : Except Failure Value := do
    match ← volume.find field with
    | none => return volume
    | some source => volume.set field (← redirectSource refs kind nameKey source)
  let volume ← redirect volume "configMap" "ConfigMap" "name"
  redirect volume "secret" "Secret" "secretName"

/-- A pod spec with the references of its volumes redirected. -/
def redirect (refs : List ConfigRef) (podSpec : Value) : Except Failure Value := do
  let volumes ← podSpec.get "volumes"
  if volumes.isUnset then return podSpec
  podSpec.set "volumes" (.list (← (← volumes.elements).mapM (redirectVolume refs)))

/-- The failure that is set up for a call. -/
def failure? (t : RecordingTracker) (call : TrackerCall) : Option Failure :=
  (t.failures.lookup call.name).map fun message => .workload (.tracker call.name message)

end RecordingTracker

/-- A configuration tracker. -/
inductive Tracker where
  /-- Nothing is tracked. -/
  | off
  | recording (tracker : RecordingTracker)
  deriving DecidableEq, Repr

/-- References by their keys, in order. -/
def sortedKeys (refs : List ConfigRef) : List String :=
  (refs.map ConfigRef.key).mergeSort fun a b => a ≤ b

namespace Tracker

/-- The answer to a call that a tracker records: the failure that is set up for it, if any. -/
def recorded {α : Type} (t : RecordingTracker) (call : TrackerCall) (answer : Except Failure α) :
    Except Failure α × List TrackerCall :=
  match t.failure? call with
  | some failure => (.error failure, [call])
  | none => (answer, [call])

/-- The references of a target. -/
def targetConfigs (t : Tracker) (canary : Canary) :
    Except Failure (List ConfigRef) × List TrackerCall :=
  match t with
  | off => (.ok [], [])
  | recording t => recorded t (.targetConfigs canary.key) (.ok t.refs)

/-- Copies references for a primary. -/
def copyConfigs (t : Tracker) (canary : Canary) (refs : List ConfigRef)
    (labelPrefixes : List String) : Except Failure Unit × List TrackerCall :=
  match t with
  | off => (.ok (), [])
  | recording t => recorded t (.copyConfigs canary.key (sortedKeys refs) labelPrefixes) (.ok ())

/-- Redirects the references of a pod spec to the copies. -/
def redirectConfigs (t : Tracker) (podSpec : Value) (refs : List ConfigRef) :
    Except Failure Value × List TrackerCall :=
  match t with
  | off => (.ok podSpec, [])
  | recording t =>
    recorded t (.redirectConfigs (sortedKeys refs)) (RecordingTracker.redirect refs podSpec)

/-- Whether the references of a target have changed. -/
def configsChanged (t : Tracker) (canary : Canary) : Except Failure Bool × List TrackerCall :=
  match t with
  | off => (.ok false, [])
  | recording t => recorded t (.configsChanged canary.key) (.ok t.changed)

end Tracker

end CanaryRelease
