import CanaryRelease.Value.Access

/-!
# Conditions

The conditions that a workload's status lists, each with the time it last changed. Of several
conditions of one type the first counts. A time without a zone is taken as UTC.
-/

namespace CanaryRelease

/-- A condition of a workload. -/
structure Condition where
  type : Value
  status : String
  reason : Value
  /-- When the condition last changed. -/
  since : Option Timestamp
  deriving DecidableEq

/-- The timestamp that a value stands for: none for null and the empty text. -/
def Value.toTimestamp? (v : Value) : Except Failure (Option Timestamp) :=
  match v with
  | .null | .text "" => .ok none
  | .time t => .ok (some t.zoned)
  | v =>
    match Timestamp.read v.display with
    | .ok t => .ok (some t.zoned)
    | .error e => .error (.invalid (.timestamp e))

namespace Condition

/-- Reads a condition of a known type. -/
def ofEntry (type entry : Value) : Except Failure Condition := do
  let status ← entry.getOr "status" (.text "")
  let reason ← entry.get "reason"
  let since ← (← entry.get "lastTransitionTime").toTimestamp?
  return ⟨type, status.display, reason.orElse (.text ""), since⟩

/-- The first entry of a type. -/
def findEntry (type : Value) : List Value → Except Failure (Option Value)
  | [] => .ok none
  | entry :: entries => do
    if (← entry.get "type").alike type then return some entry
    findEntry type entries

/-- The condition of a type in a list of conditions, which may be missing. -/
def find (conditions type : Value) : Except Failure (Option Condition) := do
  (← findEntry type (← (conditions.orElse (.list [])).elements)).mapM (ofEntry type)

end Condition

end CanaryRelease
