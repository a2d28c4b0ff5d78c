import CanaryRelease.Rollout.Status

/-!
# Readiness

The verdict on a rollout, by rules tried in turn. A rollout whose latest revision was not observed
yet is awaited; one whose progress deadline was exceeded is given up; otherwise the counts have to
agree: all declared replicas updated, none of an older revision left, all updated ones available.
Counts that disagree are awaited until the workload has been short of replicas for longer than the
deadline.
-/

namespace CanaryRelease

/-- What becomes of a rollout. -/
inductive Verdict where
  | ready
  /-- Not complete, but it may get there. -/
  | retryable
  /-- Not complete, and nobody should wait for it. -/
  | fatal
  deriving DecidableEq, Repr

namespace Verdict

/-- The verdict as counters name it. -/
def name : Verdict → String
  | ready => "ready"
  | retryable => "retryable"
  | fatal => "fatal"

end Verdict

/-- A verdict, and what the rollout waits for unless it is ready. -/
structure Readiness where
  verdict : Verdict
  message : String
  deriving DecidableEq, Repr

namespace RolloutStatus

/-- The reason of a `Progressing` condition that gives a rollout up. -/
def deadlineExceeded : Value := .text "ProgressDeadlineExceeded"

/-- The reason of an `Available` condition that starts the deadline. -/
def shortOfReplicas : Value := .text "MinimumReplicasUnavailable"

/-- Whether the workload has been short of replicas for longer than the deadline, in seconds. A time
with a zone and one without cannot be compared. -/
def isStuck (status : RolloutStatus) (deadline : Int) (now : Timestamp) : Except Failure Bool :=
  match status.availability with
  | none => .ok false
  | some condition =>
    if condition.status ≠ "False" || condition.reason ≠ shortOfReplicas then .ok false
    else
      match condition.since with
      | none => .ok false
      | some since =>
        match since.instantAfter? deadline with
        | none => .error .outOfRange
        | some limit =>
          if since.offset.isSome = now.offset.isSome then .ok (limit < now.instant)
          else .error .malformed

/-- What a rollout still waits for, by its counts. They are written out however long they are: that
an interpreter may refuse to print integers of more than 4300 digits is not part of the rules. -/
def pending? (status : RolloutStatus) : Except Failure (Option String) := do
  let behind ←
    if status.desired = .null then .ok false else status.updated.less status.desired
  if behind then
    return some (status.updated.display ++ " out of " ++ status.desired.display ++
      " new replicas have been updated")
  if ← status.updated.less status.total then
    return some ((← status.total.minus status.updated).display ++
      " old replicas are pending termination")
  if ← status.available.less status.updated then
    return some (status.available.display ++ " of " ++ status.updated.display ++
      " updated replicas are available")
  return none

/-- The verdict on a rollout under a progress deadline in seconds. -/
def readiness (status : RolloutStatus) (deadline : Int) (now : Timestamp) :
    Except Failure Readiness := do
  if ← status.observedGeneration.less status.generation then
    return ⟨.retryable,
      "waiting for rollout to finish: observed generation less than desired generation"⟩
  if (status.progressing.map Condition.reason) = some deadlineExceeded then
    return ⟨.fatal, status.name.literal ++ " exceeded its progress deadline"⟩
  let stuck ← status.isStuck deadline now
  match ← status.pending? with
  | some what =>
    return ⟨if stuck then .fatal else .retryable, "waiting for rollout to finish: " ++ what⟩
  | none => return ⟨.ready, ""⟩

end RolloutStatus

end CanaryRelease
