import CanaryRelease.Value.Basic

/-!
# Loose equality and order

Numbers compare by quantity whatever their form, truth values counting as 0 and 1; objects compare
without regard to the order of their fields. Numbers are ordered among themselves, so are texts, by
code points, and lists, by their first difference; other pairs of values have no order.
-/

namespace CanaryRelease.Value

/-- The quantity of a number or truth value. -/
def quantity? (v : Value) : Option Quantity := v.toKey?.bind Key.quantity?

/-- The same quantity, if both values are numbers. -/
def sameQuantity (a b : Value) : Bool :=
  match a.quantity?, b.quantity? with
  | some p, some q => p.same q
  | _, _ => false

mutual

/-- Equal up to the form of numbers and the order of fields. -/
def alike : Value → Value → Bool
  | .null, .null => true
  | .text s, .text t => s = t
  | .time s, .time t => s.offset.isSome = t.offset.isSome && s.instant = t.instant
  | .list xs, .list ys => alikeItems xs ys
  | .object fs, .object gs => fs.length = gs.length && alikeFields fs gs
  | a, b => sameQuantity a b

/-- Alike item by item. -/
def alikeItems : List Value → List Value → Bool
  | [], [] => true
  | x :: xs, y :: ys => alike x y && alikeItems xs ys
  | _, _ => false

/-- Every field has its like among others. -/
def alikeFields : List (Key × Value) → Fields → Bool
  | [], _ => true
  | (k, x) :: fs, gs =>
    match gs.get? k with
    | some y => alike x y && alikeFields fs gs
    | none => false

end

mutual

/-- Strictly less; nothing if the two values have no order. -/
def less? : Value → Value → Option Bool
  | .text s, .text t => some (s < t)
  | .time s, .time t =>
    if s.offset.isSome = t.offset.isSome then some (s.instant < t.instant) else none
  | .list xs, .list ys => lessItems? xs ys
  | a, b =>
    match a.quantity?, b.quantity? with
    | some p, some q => some (p.less q)
    | _, _ => none

/-- Less at the first difference, or shorter. -/
def lessItems? : List Value → List Value → Option Bool
  | _, [] => some false
  | [], _ :: _ => some true
  | x :: xs, y :: ys => if alike x y then lessItems? xs ys else less? x y

end

end CanaryRelease.Value
