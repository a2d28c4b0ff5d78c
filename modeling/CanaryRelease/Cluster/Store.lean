import CanaryRelease.Value.Access
import CanaryRelease.Workload.ObjectName

/-!
# The store of a cluster

The objects of a cluster by kind, namespace and name, in the order in which they were added, and
what the server itself keeps in their metadata: a resource version that grows with every write,
and a generation that grows with every change of the spec. `Store.get?`, `Store.put` and
`Store.delete` obey the laws of a map, names that count as one being one name.
-/

namespace CanaryRelease

/-- Where an object is stored. -/
structure ObjectKey where
  kind : String
  object : ObjectName
  deriving DecidableEq

namespace ObjectKey

/-- Two keys lead to the same place. -/
def Same (k l : ObjectKey) : Prop := k.kind = l.kind ∧ k.object.standard = l.object.standard

instance (k l : ObjectKey) : Decidable (k.Same l) := inferInstanceAs (Decidable (_ ∧ _))

@[simp] theorem same_self (k : ObjectKey) : k.Same k := ⟨rfl, rfl⟩

theorem Same.symm {k l : ObjectKey} (h : k.Same l) : l.Same k := ⟨h.1.symm, h.2.symm⟩

theorem Same.trans {k l m : ObjectKey} (h : k.Same l) (h' : l.Same m) : k.Same m :=
  ⟨h.1.trans h'.1, h.2.trans h'.2⟩

/-- The parts of a key in the order by which stores are listed: kind, namespace and name. -/
def parts (key : ObjectKey) : List String :=
  [key.kind, key.object.space.display, key.object.name.display]

/-- The key as one text. -/
def path (key : ObjectKey) : String := "/".intercalate key.parts

end ObjectKey

/-- The objects of a cluster. -/
abbrev Store := List (ObjectKey × Value)

namespace Store

/-- The object stored under a key. -/
def get? (s : Store) (key : ObjectKey) : Option Value :=
  (s.find? fun entry => entry.1.Same key).map Prod.snd

/-- Stores an object, in the place of an earlier one, whose key it takes over, or at the end. -/
def put : Store → ObjectKey → Value → Store
  | [], key, v => [(key, v)]
  | (k, x) :: s, key, v => if k.Same key then (k, v) :: s else (k, x) :: put s key v

/-- Removes an object. -/
def delete (s : Store) (key : ObjectKey) : Store := s.filter fun entry => ¬ entry.1.Same key

/-- The objects by kind, namespace and name. -/
def listed (s : Store) : Store :=
  s.mergeSort fun a b =>
    "\x00".intercalate a.1.parts ≤ "\x00".intercalate b.1.parts

@[simp] theorem get?_nil (key : ObjectKey) : get? [] key = none := rfl

theorem get?_cons (k : ObjectKey) (x : Value) (s : Store) (key : ObjectKey) :
    get? ((k, x) :: s) key = if k.Same key then some x else get? s key := by
  by_cases h : k.Same key <;> simp [get?, h]

theorem exists_entry {s : Store} {key : ObjectKey} {v : Value} (h : s.get? key = some v) :
    ∃ entry ∈ s, entry.1.Same key ∧ entry.2 = v := by
  obtain ⟨entry, found, rfl⟩ := Option.map_eq_some_iff.mp h
  exact ⟨entry, List.mem_of_find?_eq_some found, by simpa using List.find?_some found, rfl⟩

theorem get?_congr (s : Store) {key other : ObjectKey} (h : key.Same other) :
    s.get? key = s.get? other := by
  induction s with
  | nil => rfl
  | cons entry s ih =>
    have same : entry.1.Same key ↔ entry.1.Same other := ⟨fun h' => h'.trans h, fun h' =>
      h'.trans h.symm⟩
    rw [get?_cons, get?_cons, ih]
    simp only [same]

theorem get?_put (s : Store) (key other : ObjectKey) (v : Value) :
    (s.put key v).get? other = if key.Same other then some v else s.get? other := by
  induction s with
  | nil => exact get?_cons key v [] other
  | cons entry s ih =>
    obtain ⟨k, x⟩ := entry
    by_cases h : k.Same key
    · have same : k.Same other ↔ key.Same other := ⟨h.symm.trans, h.trans⟩
      by_cases ho : key.Same other <;> simp [put, get?_cons, h, ho, same]
    · by_cases ho : k.Same other
      · have apart : ¬ key.Same other := fun h' => h (ho.trans h'.symm)
        simp [put, get?_cons, h, ho, apart]
      · simp [put, get?_cons, h, ho, ih]

theorem get?_delete (s : Store) (key other : ObjectKey) :
    (s.delete key).get? other = if key.Same other then none else s.get? other := by
  induction s with
  | nil => simp [delete]
  | cons entry s ih =>
    obtain ⟨k, x⟩ := entry
    unfold delete at ih ⊢
    by_cases h : k.Same key
    · have same : k.Same other ↔ key.Same other := ⟨h.symm.trans, h.trans⟩
      by_cases ho : key.Same other <;> simpa [get?_cons, h, ho, same] using ih
    · by_cases ho : k.Same other
      · have apart : ¬ key.Same other := fun h' => h (ho.trans h'.symm)
        simp [get?_cons, h, ho, apart]
      · simpa [get?_cons, h, ho] using ih

end Store

namespace Value

/-- The object in an object's field, an empty one if there is none. -/
def part (v : Value) (key : String) : Fields :=
  match v with
  | object fs =>
    match Fields.get? fs key with
    | some (object gs) => gs
    | _ => []
  | _ => []

/-- The metadata of a stored object, if both are objects. -/
def metadata? : Value → Option (Fields × Fields)
  | object fs =>
    match Fields.get? fs "metadata" with
    | some (object metadata) => some (fs, metadata)
    | _ => none
  | _ => none

/-- An object with its metadata changed; any other value as it is. -/
def changeMetadata (change : Fields → Except Failure Fields) (v : Value) : Except Failure Value :=
  match v.metadata? with
  | some (fs, metadata) => do return object (fs.set "metadata" (object (← change metadata)))
  | none => .ok v

/-- The resource version of an object, null if it has none. -/
def resourceVersion (v : Value) : Value :=
  ((v.part "metadata").get? "resourceVersion").getD null

/-- The resource version after another one: the next number, the first one if there was none. -/
def nextVersion (version : Value) : Except Failure Value := do
  if version.isUnset then return text "1"
  return text (String.ofList (decimalDigits ((← version.toInteger) + 1)))

/-- An object after another write. -/
def bumped : Value → Except Failure Value :=
  changeMetadata fun metadata => do
    let version ← nextVersion ((metadata.get? "resourceVersion").getD null)
    return metadata.set "resourceVersion" version

/-- The generation after an object's own, which is the first one unless it says otherwise. -/
def nextGeneration (v : Value) : Except Failure Value :=
  match ((v.part "metadata").get? "generation").getD (int 1) with
  | int n => .ok (int (n + 1))
  | other => other.minus (int (-1))

/-- An object as the server keeps it when it is new. -/
def asCreated : Value → Except Failure Value :=
  changeMetadata fun metadata =>
    return (metadata.set "resourceVersion" (text "1")).set "generation" (int 1)

/-- The spec of an object, null if it has none. -/
def specOf : Value → Value
  | object fs => (Fields.get? fs "spec").getD null
  | _ => null

/-- An object as the server keeps it after it took the place of an earlier one. -/
def asReplacing (old new : Value) : Except Failure Value := do
  let written ← new.bumped
  if old.specOf.alike new.specOf then return written
  let generation ← old.nextGeneration
  written.changeMetadata fun metadata => return metadata.set "generation" generation

end Value

end CanaryRelease
