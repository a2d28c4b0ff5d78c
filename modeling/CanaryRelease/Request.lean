import CanaryRelease.Canary
import CanaryRelease.Telemetry

/-!
# Requests

What a controller asks of its surroundings: calls to the API server, calls to the configuration
tracker, fresh ids, the time, and telemetry. A call to the API server can be refused or break off, a
call to the tracker can fail; `Request.Reply` is the type of the answer to each request.
-/

namespace CanaryRelease

/-- A ConfigMap or Secret that a pod refers to. -/
structure ConfigRef where
  kind : String
  name : String
  deriving DecidableEq, Repr

/-- The reference as one text. -/
def ConfigRef.key (ref : ConfigRef) : String := ref.kind ++ "/" ++ ref.name

/-- Why the API server refused a call. -/
structure Refusal where
  status : Value
  reason : Value
  deriving DecidableEq

/-- Why a call to the API server has no answer. -/
inductive CallFailure where
  | refused (refusal : Refusal)
  /-- The call broke off: nothing can be found under the name, or the object cannot be kept. -/
  | broken (failure : Failure)
  deriving DecidableEq

namespace CallFailure

/-- The server said that the object is not there. -/
def isNotFound : CallFailure → Bool
  | refused refusal => refusal.status.alike (.int 404)
  | broken _ => false

/-- The status of the call: that of the refusal; a call that broke off was not refused. -/
def status : CallFailure → Value
  | refused refusal => refusal.status
  | broken _ => .int 200

end CallFailure

/-- What a controller asks of its surroundings. -/
inductive Request where
  | readObject (kind : Kind) (object : ObjectName)
  | createObject (kind : Kind) (space : Value) (body : Value)
  | replaceObject (kind : Kind) (object : ObjectName) (body : Value)
  /-- The ConfigMaps and Secrets that the target refers to. -/
  | targetConfigs (canary : Canary)
  /-- Copies of them for the primary, with the labels that the prefixes let through. -/
  | copyConfigs (canary : Canary) (refs : List ConfigRef) (labelPrefixes : List String)
  /-- A pod spec that refers to the copies. -/
  | redirectConfigs (podSpec : Value) (refs : List ConfigRef)
  | configsChanged (canary : Canary)
  | drawId
  | readClock
  | count (counter : Counter)
  | note (logger : String) (notice : Notice)
  deriving DecidableEq

/-- The type of the answer to a request. -/
def Request.Reply : Request → Type
  | readObject .. => Except CallFailure Value
  | createObject .. => Except CallFailure Unit
  | replaceObject .. => Except CallFailure Unit
  | targetConfigs _ => Except Failure (List ConfigRef)
  | copyConfigs .. => Except Failure Unit
  | redirectConfigs .. => Except Failure Value
  | configsChanged _ => Except Failure Bool
  | drawId => String
  | readClock => Timestamp
  | count _ => Unit
  | note .. => Unit

end CanaryRelease
