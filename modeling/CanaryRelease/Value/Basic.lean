import CanaryRelease.Value.Key

/-!
# Values

The data that manifests, statuses and settings are made of: JSON values, with integers and
floating-point numbers kept apart, and timestamps that are not yet text. The fields of an object
keep the order in which they were added. `Fields.get?`, `Fields.set` and `Fields.erase` obey the
laws of a map, stated below, keys that count as one being one key.
-/

namespace CanaryRelease

/-- A JSON value or a timestamp. -/
inductive Value where
  | null
  | bool (b : Bool)
  | int (n : Int)
  | float (x : Binary64)
  | text (s : String)
  | time (t : Timestamp)
  | list (items : List Value)
  | object (fields : List (Key × Value))

/-- The fields of an object in order. -/
abbrev Fields := List (Key × Value)

namespace Value

instance : Inhabited Value := ⟨.null⟩

/-- An object without fields. -/
def empty : Value := .object []

/-! ## Equality -/

mutual

/-- Decides whether two values are the same in kind, content and order of fields. -/
def decEq : (a b : Value) → Decidable (a = b)
  | .null, .null => isTrue rfl
  | .bool a, .bool b => decidable_of_iff (a = b) (by simp)
  | .int a, .int b => decidable_of_iff (a = b) (by simp)
  | .float a, .float b => decidable_of_iff (a = b) (by simp)
  | .text a, .text b => decidable_of_iff (a = b) (by simp)
  | .time a, .time b => decidable_of_iff (a = b) (by simp)
  | .list a, .list b =>
    have := decEqItems a b
    decidable_of_iff (a = b) (by simp)
  | .object a, .object b =>
    have := decEqFields a b
    decidable_of_iff (a = b) (by simp)
  | .null, .bool _ | .null, .int _ | .null, .float _ | .null, .text _ | .null, .time _
  | .null, .list _ | .null, .object _ => isFalse nofun
  | .bool _, .null | .bool _, .int _ | .bool _, .float _ | .bool _, .text _ | .bool _, .time _
  | .bool _, .list _ | .bool _, .object _ => isFalse nofun
  | .int _, .null | .int _, .bool _ | .int _, .float _ | .int _, .text _ | .int _, .time _
  | .int _, .list _ | .int _, .object _ => isFalse nofun
  | .float _, .null | .float _, .bool _ | .float _, .int _ | .float _, .text _ | .float _, .time _
  | .float _, .list _ | .float _, .object _ => isFalse nofun
  | .text _, .null | .text _, .bool _ | .text _, .int _ | .text _, .float _ | .text _, .time _
  | .text _, .list _ | .text _, .object _ => isFalse nofun
  | .time _, .null | .time _, .bool _ | .time _, .int _ | .time _, .float _ | .time _, .text _
  | .time _, .list _ | .time _, .object _ => isFalse nofun
  | .list _, .null | .list _, .bool _ | .list _, .int _ | .list _, .float _ | .list _, .text _
  | .list _, .time _ | .list _, .object _ => isFalse nofun
  | .object _, .null | .object _, .bool _ | .object _, .int _ | .object _, .float _
  | .object _, .text _ | .object _, .time _ | .object _, .list _ => isFalse nofun

/-- Decides whether two lists of values are the same. -/
def decEqItems : (a b : List Value) → Decidable (a = b)
  | [], [] => isTrue rfl
  | [], _ :: _ | _ :: _, [] => isFalse nofun
  | x :: xs, y :: ys =>
    have := decEq x y
    have := decEqItems xs ys
    decidable_of_iff (x = y ∧ xs = ys) (by simp)

/-- Decides whether two lists of fields are the same. -/
def decEqFields : (a b : List (Key × Value)) → Decidable (a = b)
  | [], [] => isTrue rfl
  | [], _ :: _ | _ :: _, [] => isFalse nofun
  | (k, x) :: xs, (l, y) :: ys =>
    have := decEq x y
    have := decEqFields xs ys
    decidable_of_iff (k = l ∧ x = y ∧ xs = ys) (by simp [and_assoc])

end

instance : DecidableEq Value := decEq

/-- What a manifest may hold in place of a field that is not set: null, false, zero, and an empty
text, list or object. -/
def isUnset : Value → Bool
  | null => true
  | bool b => !b
  | int n => n = 0
  | float x => x.quantity.isZero
  | text s => s = ""
  | time _ => false
  | list items => items.isEmpty
  | object fields => fields.isEmpty

/-- The value itself if it is set, another one otherwise. -/
def orElse (v other : Value) : Value := if v.isUnset then other else v

/-- A value that can serve as a name or a key: neither a list nor an object. -/
def isScalar : Value → Bool
  | list _ | object _ => false
  | _ => true

end Value

/-! ## Fields -/

namespace Fields

/-- The value of a field. -/
def get? : Fields → Key → Option Value
  | [], _ => none
  | (k, x) :: fs, key => if k.Same key then some x else get? fs key

/-- The fields with one of them set, in its place if it was there, else at the end. A key that is
there keeps its form. -/
def set : Fields → Key → Value → Fields
  | [], key, v => [(key, v)]
  | (k, x) :: fs, key, v => if k.Same key then (k, v) :: fs else (k, x) :: set fs key v

/-- The fields without one of them. -/
def erase (fs : Fields) (key : Key) : Fields := fs.filter fun field => ¬ field.1.Same key

/-- The fields with others set in turn. -/
def update (fs others : Fields) : Fields :=
  others.foldl (fun acc field => acc.set field.1 field.2) fs

/-- The fields with one of them added at the end unless it is there. -/
def setDefault (fs : Fields) (key : Key) (v : Value) : Fields :=
  if (fs.get? key).isSome then fs else fs.set key v

@[simp] theorem get?_nil (key : Key) : get? [] key = none := rfl

theorem get?_cons (k : Key) (x : Value) (fs : Fields) (key : Key) :
    get? ((k, x) :: fs) key = if k.Same key then some x else get? fs key := rfl

theorem get?_congr (fs : Fields) {key other : Key} (h : key.Same other) :
    fs.get? key = fs.get? other := by
  induction fs with
  | nil => rfl
  | cons field fs ih =>
    have same : field.1.Same key ↔ field.1.Same other := ⟨fun h' => h'.trans h, fun h' =>
      h'.trans h.symm⟩
    rw [get?_cons, get?_cons, ih]
    simp only [same]

theorem get?_set (fs : Fields) (key other : Key) (v : Value) :
    (fs.set key v).get? other = if key.Same other then some v else fs.get? other := by
  induction fs with
  | nil => rfl
  | cons field fs ih =>
    obtain ⟨k, x⟩ := field
    by_cases h : k.Same key
    · by_cases ho : k.Same other <;> simp [set, get?_cons, h, ho, ← h.congr_left other]
    · by_cases ho : k.Same other
      · have apart : ¬ key.Same other := fun h' => h (ho.trans h'.symm)
        simp [set, get?_cons, h, ho, apart]
      · simp [set, get?_cons, h, ho, ih]

@[simp] theorem get?_set_self (fs : Fields) (key : Key) (v : Value) :
    (fs.set key v).get? key = some v := by
  simp [get?_set]

theorem get?_set_of_not_same (fs : Fields) {key other : Key} (v : Value)
    (h : ¬ key.Same other) : (fs.set key v).get? other = fs.get? other := by
  simp [get?_set, h]

theorem get?_erase (fs : Fields) (key other : Key) :
    (fs.erase key).get? other = if key.Same other then none else fs.get? other := by
  induction fs with
  | nil => simp [erase]
  | cons field fs ih =>
    obtain ⟨k, x⟩ := field
    unfold erase at ih ⊢
    by_cases h : k.Same key
    · by_cases ho : key.Same other
      · simpa [h, ho] using ih
      · have apart : ¬ k.Same other := fun h' => ho (h.symm.trans h')
        simpa [get?_cons, h, ho, apart] using ih
    · by_cases ho : k.Same other
      · have apart : ¬ key.Same other := fun h' => h (ho.trans h'.symm)
        simp [get?_cons, h, ho, apart]
      · simpa [get?_cons, h, ho] using ih

theorem get?_setDefault (fs : Fields) (key other : Key) (v : Value) :
    (fs.setDefault key v).get? other =
      if key.Same other then some ((fs.get? key).getD v) else fs.get? other := by
  unfold setDefault
  by_cases ho : key.Same other
  · cases hk : fs.get? key with
    | none => simp [get?_set, ho]
    | some x => simp [ho, ← get?_congr fs ho, hk]
  · cases hk : fs.get? key with
    | none => simp [get?_set, ho]
    | some x => simp [ho]

theorem eq_nil_iff_get? {fs : Fields} : fs = [] ↔ ∀ key, fs.get? key = none := by
  constructor
  · rintro rfl key
    rfl
  · intro h
    cases fs with
    | nil => rfl
    | cons field fs =>
      have first := h field.1
      rw [get?_cons, if_pos (Key.same_self _)] at first
      cases first

theorem erase_set (fs : Fields) (key : Key) (v : Value) :
    (fs.set key v).erase key = fs.erase key := by
  induction fs with
  | nil => simp [set, erase]
  | cons field fs ih =>
    obtain ⟨k, x⟩ := field
    unfold erase at ih ⊢
    by_cases h : k.Same key
    · simp [set, h]
    · simpa [set, h] using ih

theorem erase_set_of_not_same (fs : Fields) {key other : Key} (v : Value)
    (h : ¬ key.Same other) : (fs.set key v).erase other = (fs.erase other).set key v := by
  induction fs with
  | nil => simp [set, erase, h]
  | cons field fs ih =>
    obtain ⟨k, x⟩ := field
    unfold erase at ih ⊢
    by_cases hk : k.Same key
    · have ho : ¬ k.Same other := fun ho => h (hk.symm.trans ho)
      simp [set, hk, ho]
    · by_cases ho : k.Same other
      · simpa [set, hk, ho] using ih
      · simpa [set, hk, ho] using ih

end Fields

/-! ## Scalars as keys -/

namespace Value

/-- The key that a scalar is. -/
def toKey? : Value → Option Key
  | null => some .null
  | bool b => some (.bool b)
  | int n => some (.int n)
  | float x => some (.float x)
  | time t => some (.time t)
  | text s => some (.text s)
  | list _ | object _ => none

/-- The scalar that a key is. -/
def ofKey : Key → Value
  | .null => null
  | .bool b => bool b
  | .int n => int n
  | .float x => float x
  | .time t => time t
  | .text s => text s

theorem toKey?_ofKey (k : Key) : (ofKey k).toKey? = some k := by
  cases k <;> rfl

end Value

end CanaryRelease
