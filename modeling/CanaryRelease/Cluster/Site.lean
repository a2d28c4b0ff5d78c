import CanaryRelease.Cluster.Server
import CanaryRelease.Cluster.Tracker

/-!
# Sites

Everything that a program runs against: the API server, the configuration tracker, a clock, the
supply of ids, and the record of what has happened so far. `Site.surroundings` answers the
requests of programs and records calls, notices and increments in the order in which they happen.
-/

namespace CanaryRelease

/-- A call to the API server and how it ended. -/
structure ApiCall where
  verb : Verb
  kind : Kind
  object : ObjectName
  /-- 200, or the status of the refusal if the call was refused. -/
  status : Value
  /-- What was sent. -/
  body : Option Value
  deriving DecidableEq

/-- Something that happened at a site. -/
inductive Occurrence where
  | apiCall (call : ApiCall)
  | trackerCall (call : TrackerCall)
  | counted (counter : Counter)
  | noted (logger : String) (notice : Notice)
  deriving DecidableEq

/-- What a program runs against. -/
structure Site where
  server : Server
  tracker : Tracker
  clock : Timestamp
  /-- How many ids were drawn. -/
  drawn : Nat
  /-- What has happened, in order. -/
  record : List Occurrence
  deriving DecidableEq

namespace Site

/-- The `n`-th id of a site. -/
def id (n : Nat) : String :=
  "00000000-0000-4000-8000-" ++ String.ofList (Text.padded 12 n)

/-- A site at which more has happened. -/
def recorded (s : Site) (what : List Occurrence) : Site := { s with record := s.record ++ what }

/-- Passes a call on to the server. -/
def callServer (verb : Verb) (kind : Kind) (object : ObjectName) (body : Option Value) (s : Site) :
    Except CallFailure Value × Site :=
  let (reply, server) := s.server.answer verb ⟨kind.name, object⟩ (body.getD .null)
  let status := match reply with
    | .ok _ => .int 200
    | .error failure => failure.status
  (reply, { s with server }.recorded [.apiCall ⟨verb, kind, object, status, body⟩])

/-- The name of an object to be created. -/
def bodyName (body : Value) : Value := ((body.part "metadata").get? "name").getD .null

/-- Answers a request. -/
def surroundings : Surroundings Site
  | .readObject kind object, s => s.callServer .read kind object none
  | .createObject kind space body, s =>
    let (reply, s) := s.callServer .create kind ⟨bodyName body, space⟩ (some body)
    (reply.map fun _ => (), s)
  | .replaceObject kind object body, s =>
    let (reply, s) := s.callServer .replace kind object (some body)
    (reply.map fun _ => (), s)
  | .targetConfigs canary, s =>
    let (reply, calls) := s.tracker.targetConfigs canary
    (reply, s.recorded (calls.map .trackerCall))
  | .copyConfigs canary refs labelPrefixes, s =>
    let (reply, calls) := s.tracker.copyConfigs canary refs labelPrefixes
    (reply, s.recorded (calls.map .trackerCall))
  | .redirectConfigs podSpec refs, s =>
    let (reply, calls) := s.tracker.redirectConfigs podSpec refs
    (reply, s.recorded (calls.map .trackerCall))
  | .configsChanged canary, s =>
    let (reply, calls) := s.tracker.configsChanged canary
    (reply, s.recorded (calls.map .trackerCall))
  | .drawId, s => (id (s.drawn + 1), { s with drawn := s.drawn + 1 })
  | .readClock, s => (s.clock, s)
  | .count counter, s => ((), s.recorded [.counted counter])
  | .note logger notice, s => ((), s.recorded [.noted logger notice])

/-- Runs a program at a site. -/
def run {α : Type} (p : Program α) (s : Site) : Except Failure α × Site := p.run surroundings s

end Site

end CanaryRelease
