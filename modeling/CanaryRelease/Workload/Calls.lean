import CanaryRelease.Program
import CanaryRelease.Value.Manifest

/-!
# Calls about objects

Reading, creating and writing back the objects of a kind. A refused call is counted once and ends
the operation with an error that names the action and the object; a call that broke off ends it
without being counted. Only the question whether an object exists takes a refusal with status 404
for an answer. An object is written back with the resource version it was read with, so that a
write in between is a conflict and is not undone.
-/

namespace CanaryRelease.Workload

/-- Counts a refused call and fails with it. -/
def refuse {α : Type} (action : String) (kind : Kind) (object : ObjectName) (refusal : Refusal) :
    Program α := do
  let call : RefusedCall := ⟨action, kind.name, object, refusal.status, refusal.reason⟩
  Program.request (.count call.counter)
  .fail (.workload (.refused call))

/-- Ends an operation whose call has no answer. -/
def giveUp {α : Type} (action : String) (kind : Kind) (object : ObjectName) :
    CallFailure → Program α
  | .refused refusal => refuse action kind object refusal
  | .broken failure => .fail failure

/-- Reads an object. -/
def fetch (kind : Kind) (object : ObjectName) : Program Value := do
  match ← Program.request (.readObject kind object) with
  | .error failure => giveUp "get" kind object failure
  | .ok v =>
    match v.toManifest with
    | .ok manifest => return manifest
    | .error _ => .fail .malformed

/-- Whether an object exists. -/
def «exists» (kind : Kind) (object : ObjectName) : Program Bool := do
  match ← Program.request (.readObject kind object) with
  | .ok _ => return true
  | .error failure =>
    if failure.isNotFound then return false
    else giveUp "get" kind object failure

/-- Creates an object in a namespace; its body is complete. -/
def create (kind : Kind) (object : ObjectName) (body : Value) : Program Unit := do
  match ← Program.request (.createObject kind object.space body) with
  | .ok () => return
  | .error failure => giveUp "create" kind object failure

/-- The body with which an object is written back: version and kind are added if it has none. -/
def writeBody (kind : Kind) (object : Value) : Except Failure Value := do
  (← object.setDefault "apiVersion" (.text kind.apiVersion)).setDefault "kind" (.text kind.name)

/-- The name that an object gives itself. -/
def ownName (object : Value) : Except Failure ObjectName := do
  let metadata ← object.require "metadata"
  return ⟨← metadata.require "name", ← metadata.require "namespace"⟩

/-- Writes an object back under the name it gives itself. -/
def update (kind : Kind) (object : Value) (action : String) : Program Unit := do
  let name ← ownName object
  match ← Program.request (.replaceObject kind name (← writeBody kind object)) with
  | .ok () => return
  | .error failure => giveUp action kind name failure

end CanaryRelease.Workload
