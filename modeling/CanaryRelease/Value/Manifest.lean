import CanaryRelease.Value.Access

/-!
# Manifests

A manifest is an object in the form in which it goes over the wire: timestamps are text. Nothing at
all counts as a manifest without fields.
-/

namespace CanaryRelease.Value

mutual

/-- A value with its timestamps as text. -/
def wire : Value → Value
  | .time t => .text (String.ofList (t.render 'T'))
  | .list items => .list (wireItems items)
  | .object fields => .object (wireFields fields)
  | v => v

/-- Values with their timestamps as text. -/
def wireItems : List Value → List Value
  | [] => []
  | x :: xs => wire x :: wireItems xs

/-- Fields with the timestamps in their values as text. -/
def wireFields : List (Key × Value) → List (Key × Value)
  | [] => []
  | (k, x) :: fs => (k, wire x) :: wireFields fs

end

/-- The shape of a value, as a refusal names it. -/
def shapeName : Value → String
  | null => "NoneType"
  | bool _ => "bool"
  | int _ => "int"
  | float _ => "float"
  | text _ => "str"
  | time _ => "datetime"
  | list _ => "list"
  | object _ => "dict"

/-- The manifest that a value is; a value of another shape is refused by the name of its shape. -/
def toManifest : Value → Except String Value
  | null => .ok .empty
  | object fields => .ok (object fields).wire
  | v => .error v.shapeName

/-- The text of the refusal of a shape. -/
def manifestRefusal (shape : String) : String := "expected a Kubernetes object, got " ++ shape

end CanaryRelease.Value
