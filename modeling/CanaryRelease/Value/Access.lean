import CanaryRelease.Failure

/-!
# Access to manifests

Reading and changing parts of values whose shape nobody has checked. A missing field reads as null;
a section that is not set reads as an empty object; a value of the wrong shape is malformed.
-/

namespace CanaryRelease.Value

/-- The fields of an object. -/
def fields : Value → Except Failure Fields
  | object fs => .ok fs
  | _ => .error .malformed

/-- A field that may be missing. -/
def find (v : Value) (key : Key) : Except Failure (Option Value) := do
  return (← v.fields).get? key

/-- A field, null if it is missing. -/
def get (v : Value) (key : Key) : Except Failure Value := do
  return (← v.find key).getD .null

/-- A field, or a default if it is missing; null is no reason for the default. -/
def getOr (v : Value) (key : Key) (default : Value) : Except Failure Value := do
  return (← v.find key).getD default

/-- A field, or an empty object if it is not set. -/
def getSection (v : Value) (key : Key) : Except Failure Value := do
  return (← v.get key).orElse .empty

/-- A field that has to be there. -/
def require (v : Value) (key : Key) : Except Failure Value := do
  match ← v.find key with
  | some x => .ok x
  | none => .error .malformed

/-- An object with one field set. -/
def set (v : Value) (key : Key) (x : Value) : Except Failure Value := do
  return object ((← v.fields).set key x)

/-- An object without one field. -/
def erase (v : Value) (key : Key) : Except Failure Value := do
  return object ((← v.fields).erase key)

/-- An object with a field added unless it is there. -/
def setDefault (v : Value) (key : Key) (x : Value) : Except Failure Value := do
  return object ((← v.fields).setDefault key x)

/-- What a loop over a value goes through: the items of a list, the keys of an object, the
characters of a text. -/
def elements : Value → Except Failure (List Value)
  | list items => .ok items
  | object fs => .ok (fs.map fun field => ofKey field.1)
  | text s => .ok (s.toList.map fun c => text (String.singleton c))
  | _ => .error .malformed

/-- A text occurs in another one. -/
def occursIn (part : List Char) : List Char → Bool
  | [] => part.isEmpty
  | c :: cs => part.isPrefixOf (c :: cs) || occursIn part cs

/-- Whether a key is one of the keys of an object, the items of a list, or part of a text. -/
def mentions (v : Value) (key : String) : Except Failure Bool :=
  match v with
  | object fs => .ok (Fields.get? fs key).isSome
  | list items => .ok (items.any fun x => x.alike (text key))
  | text s => .ok (occursIn key.toList s.toList)
  | _ => .error .malformed

/-- One entry of a list of pairs as a field. -/
def pairField (index : Nat) (entry : Value) : Except Failure (Key × Value) := do
  match ← entry.elements with
  | [key, x] =>
    match key.toKey? with
    | some key => .ok (key, x)
    | none => .error .malformed
  | items => .error (.invalid (.pairLength index items.length))

/-- The fields that a list of pairs amounts to, onto those before it. -/
def pairFields (index : Nat) (read : Fields) : List Value → Except Failure Fields
  | [] => .ok read
  | entry :: entries => do
    let (key, x) ← pairField index entry
    pairFields (index + 1) (read.set key x) entries

/-- A copy of an object, or the object that a list of pairs amounts to. -/
def toFields : Value → Except Failure Fields
  | object fs => .ok fs
  | list items => pairFields 0 [] items
  | text s => (text s).elements >>= pairFields 0 []
  | _ => .error .malformed

/-- An integer: a number without its fraction, a truth value as 0 or 1, or a numeral. -/
def toInteger : Value → Except Failure Int
  | int n => .ok n
  | bool b => .ok (if b then 1 else 0)
  | float x =>
    match x.quantity with
    | .exact q => .ok (q.num.tdiv q.den)
    | .infinite _ => .error .outOfRange
    | .nan => .error (.invalid .notANumber)
  | text s =>
    match Text.readInteger s.toList with
    | .ok n => .ok n
    | .error e => .error (.invalid (.numeral s e))
  | _ => .error .malformed

/-- Whether one value is strictly less than another. -/
def less (a b : Value) : Except Failure Bool :=
  match a.less? b with
  | some b => .ok b
  | none => .error .malformed

/-- The difference of two numbers: an integer if both are, else a floating-point number. -/
def minus (a b : Value) : Except Failure Value :=
  match a.quantity?, b.quantity? with
  | some p, some q =>
    match a, b with
    | .float _, _ | _, .float _ => do
      let p ← widen p
      let q ← widen q
      return float (p.minus q)
    | _, _ =>
      match p, q with
      | .exact p, .exact q => .ok (int (p - q).num)
      | _, _ => .error .malformed
  | _, _ => .error .malformed
where
  /-- A quantity as a floating-point number has it; an integer too great for one is out of range. -/
  widen (q : Quantity) : Except Failure Quantity :=
    match q, q.nearest with
    | .exact _, .infinite _ => .error .outOfRange
    | _, x => .ok x.quantity

end CanaryRelease.Value
