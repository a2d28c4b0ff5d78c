import CanaryRelease.Cluster.Store
import CanaryRelease.Program

/-!
# The API server

A server in memory. It refuses to create what exists, to read or replace what does not, and to
replace an object whose resource version is not the one in the body. A call breaks off if the name
cannot be one, or if the next resource version or generation cannot be counted; it leaves the store
as it was. Two kinds of disturbance can be set up beforehand: faults, by which a call is refused
whatever its state, and hooks, by which somebody else acts on the object just before or after a
call.
-/

namespace CanaryRelease

/-- The calls that a server answers. -/
inductive Verb where
  | read
  | create
  | replace
  deriving DecidableEq, Repr

namespace Verb

/-- The verb as reports name it. -/
def name : Verb → String
  | read => "read"
  | create => "create"
  | replace => "replace"

/-- All verbs. -/
def all : List Verb := [read, create, replace]

end Verb

/-- Calls that are to be refused: those of a verb on the objects of a kind and name. -/
structure Fault where
  verb : Verb
  kind : String
  name : Value
  refusal : Refusal
  /-- How many calls are still to be refused. -/
  times : Int
  /-- How many calls are let through before. -/
  skip : Int
  deriving DecidableEq

/-- What somebody else does to an object. -/
inductive Effect where
  /-- Writes it without a change. -/
  | bump
  | delete
  /-- Puts a bare object in its place. -/
  | create
  deriving DecidableEq, Repr

/-- What somebody else does around calls of a verb on the objects of a kind and name. -/
structure Hook where
  before : Bool
  verb : Verb
  kind : String
  name : Value
  effect : Effect
  /-- How many calls it is still to happen around. -/
  times : Int
  deriving DecidableEq

/-- A server in memory. -/
structure Server where
  store : Store
  faults : List Fault
  hooks : List Hook
  deriving DecidableEq

namespace Server

/-! ## Disturbances -/

/-- A bare object. -/
def bareObject (object : ObjectName) : Value :=
  .object [("metadata", .object [("name", object.name), ("namespace", object.space),
    ("resourceVersion", .text "1"), ("generation", .int 1)])]

/-- A store after somebody else acted on an object, as far as they could. -/
def act (store : Store) (key : ObjectKey) : Effect → Store
  | .bump =>
    match (store.get? key).map Value.bumped with
    | some (.ok v) => store.put key v
    | _ => store
  | .delete => store.delete key
  | .create => store.put key (bareObject key.object)

/-- Runs the hooks that are due, in the order in which they were set up. -/
def runHooks (before : Bool) (verb : Verb) (key : ObjectKey) :
    List Hook → Store → List Hook × Store
  | [], store => ([], store)
  | hook :: hooks, store =>
    if hook.before = before ∧ hook.verb = verb ∧ hook.kind = key.kind ∧
        hook.name.alike key.object.name ∧ 0 < hook.times then
      let (rest, store) := runHooks before verb key hooks (act store key hook.effect)
      ({ hook with times := hook.times - 1 } :: rest, store)
    else
      let (rest, store) := runHooks before verb key hooks store
      (hook :: rest, store)

/-- The first fault that is due, used once; faults before it that still let calls through let one
more through. -/
def takeFault (verb : Verb) (key : ObjectKey) : List Fault → Option Refusal × List Fault
  | [] => (none, [])
  | fault :: faults =>
    if fault.verb = verb ∧ fault.kind = key.kind ∧ fault.name.alike key.object.name ∧
        0 < fault.times then
      if 0 < fault.skip then
        let (refusal, rest) := takeFault verb key faults
        (refusal, { fault with skip := fault.skip - 1 } :: rest)
      else (some fault.refusal, { fault with times := fault.times - 1 } :: faults)
    else
      let (refusal, rest) := takeFault verb key faults
      (refusal, fault :: rest)

/-! ## Calls -/

/-- An object that is not there. -/
def notFound : Refusal := ⟨.int 404, .text "Not Found"⟩

/-- An object that is there already. -/
def alreadyExists : Refusal := ⟨.int 409, .text "AlreadyExists"⟩

/-- An object that was written since it was read. -/
def conflict : Refusal := ⟨.int 409, .text "Conflict"⟩

/-- What a call does to the store and what it answers. -/
def perform (verb : Verb) (key : ObjectKey) (body : Value) (store : Store) :
    Except CallFailure Value × Store :=
  let keep : Except Failure Value → Except CallFailure Value × Store
    | .ok v => (.ok v, store.put key v)
    | .error failure => (.error (.broken failure), store)
  match verb, store.get? key with
  | .read, some v => (.ok v, store)
  | .read, none => (.error (.refused notFound), store)
  | .create, some _ => (.error (.refused alreadyExists), store)
  | .create, none => keep body.asCreated
  | .replace, none => (.error (.refused notFound), store)
  | .replace, some old =>
    if body.resourceVersion.alike old.resourceVersion then keep (old.asReplacing body)
    else (.error (.refused conflict), store)

/-- Answers a call about a name that can be one: hooks before it, faults, the call itself, and
hooks after it if it was not refused. -/
def answerAt (verb : Verb) (key : ObjectKey) (body : Value) (s : Server) :
    Except CallFailure Value × Server :=
  let (hooks, store) := runHooks true verb key s.hooks s.store
  match takeFault verb key s.faults with
  | (some refusal, faults) => (.error (.refused refusal), ⟨store, faults, hooks⟩)
  | (none, faults) =>
    match perform verb key body store with
    | (.error failure, store) => (.error failure, ⟨store, faults, hooks⟩)
    | (.ok v, store) =>
      let (hooks, store) := runHooks false verb key hooks store
      (.ok v, ⟨store, faults, hooks⟩)

/-- Answers a call. A call whose name or namespace is a list or an object breaks off unless a fault
comes first. -/
def answer (verb : Verb) (key : ObjectKey) (body : Value) (s : Server) :
    Except CallFailure Value × Server :=
  if key.object.isAddressable then s.answerAt verb key body
  else
    match takeFault verb key s.faults with
    | (some refusal, faults) => (.error (.refused refusal), { s with faults })
    | (none, faults) => (.error (.broken .malformed), { s with faults })

end Server

end CanaryRelease
