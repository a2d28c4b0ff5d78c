import CanaryRelease.Value.Access

/-!
# Paths into values

Changes deep inside a value. A path leads through the keys of objects and the indexes of lists; one
that leads through something that is not there is malformed.
-/

namespace CanaryRelease.Value

/-- The place that an index of a list means; negative indexes count from the end. -/
def place? (items : List Value) (index : Int) : Option Nat :=
  let place := if index < 0 then index + items.length else index
  if 0 ≤ place ∧ place < items.length then some place.toNat else none

/-- The part of a value that one step of a path leads to. -/
def stepInto (v part : Value) : Except Failure Value :=
  let found := match v, part with
    | object fs, part => part.toKey?.bind (Fields.get? fs)
    | list items, int index => (place? items index).bind (items[·]?)
    | _, _ => none
  match found with
  | some x => .ok x
  | none => .error .malformed

/-- A value with the part that one step of a path leads to replaced. An object may gain a field. -/
def replacePart (v part x : Value) : Except Failure Value :=
  match v, part with
  | object fs, part =>
    match part.toKey? with
    | some key => .ok (object (Fields.set fs key x))
    | none => .error .malformed
  | list items, int index =>
    match place? items index with
    | some place => .ok (list (items.set place x))
    | none => .error .malformed
  | _, _ => .error .malformed

/-- A value without the part that one step of a path leads to. -/
def removePart (v part : Value) : Except Failure Value :=
  match v, part with
  | object fs, part =>
    match part.toKey? with
    | some key => .ok (object (Fields.erase fs key))
    | none => .error .malformed
  | list items, int index =>
    match place? items index with
    | some place => .ok (list (items.eraseIdx place))
    | none => .error .malformed
  | _, _ => .error .malformed

/-- A value changed at the end of a path: the last step is left to a function. -/
def changeAt (change : Value → Value → Except Failure Value) : List Value → Value →
    Except Failure Value
  | [], _ => .error .malformed
  | [part], v => change v part
  | part :: path, v => do
    replacePart v part (← changeAt change path (← v.stepInto part))

/-- A value with the part at the end of a path set. -/
def setAt (path : List Value) (x v : Value) : Except Failure Value :=
  changeAt (fun v part => v.replacePart part x) path v

/-- A value without the part at the end of a path. -/
def unsetAt (path : List Value) (v : Value) : Except Failure Value := changeAt removePart path v

end CanaryRelease.Value
