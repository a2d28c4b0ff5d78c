import CanaryRelease.Value.Manifest

/-!
# Places in a value

A manifest is looked at through its places: `v.at? path` is what stands in `v` at the end of a path
of keys and indexes. Two values are compared place by place: `SameApart places a b` says that
nothing has changed but in the listed places, and then a change of one field, of a section inside a
section, or of the form in which a manifest goes over the wire has a frame of its own
(`sameApart_set`, `IsSection.sameApart_set`, `at?_wire`).
-/

namespace CanaryRelease

/-- A way into a value: keys of objects and indexes of lists. -/
abbrev Path := List Key

namespace Path

/-- Two paths lead to places of which neither is part of the other. -/
def Apart (p q : Path) : Prop := ¬ p <+: q ∧ ¬ q <+: p

theorem Apart.symm {p q : Path} (h : Apart p q) : Apart q p := ⟨h.2, h.1⟩

@[simp] theorem not_apart_nil_left {q : Path} : ¬ Apart [] q := fun h => h.1 List.nil_prefix

@[simp] theorem not_apart_nil_right {p : Path} : ¬ Apart p [] := fun h => h.2 List.nil_prefix

@[simp] theorem apart_cons {k l : Key} {p q : Path} :
    Apart (k :: p) (l :: q) ↔ (k = l → Apart p q) := by
  unfold Apart
  rw [List.cons_prefix_cons, List.cons_prefix_cons]
  by_cases h : k = l
  · simp [h]
  · simp [h, Ne.symm h]

theorem apart_singleton {p : Path} {l : Key} : Apart p [l] ↔ ∃ k rest, p = k :: rest ∧ k ≠ l := by
  cases p with
  | nil => simp
  | cons k rest => simp

/-- A path is apart from a place, leads to it or beyond it, or to something around it. -/
theorem apart_or (p q : Path) : Apart p q ∨ q <+: p ∨ p <+: q := by
  by_cases h : p <+: q
  · exact .inr (.inr h)
  · by_cases h' : q <+: p
    · exact .inr (.inl h')
    · exact .inl ⟨h, h'⟩

end Path

namespace Value

/-! ## Parts -/

/-- The part of a value under a key: a field of an object or an item of a list. -/
def child? : Value → Key → Option Value
  | object fs, key => Fields.get? fs key
  | list items, .int n => if 0 ≤ n then items[n.toNat]? else none
  | _, _ => none

/-- What stands in a value at the end of a path. -/
def at? : Value → Path → Option Value
  | v, [] => some v
  | v, key :: path => (v.child? key).bind fun x => x.at? path

@[simp] theorem at?_nil (v : Value) : v.at? [] = some v := rfl

theorem at?_cons (v : Value) (key : Key) (path : Path) :
    v.at? (key :: path) = (v.child? key).bind fun x => x.at? path := rfl

theorem at?_append (v : Value) (p q : Path) :
    v.at? (p ++ q) = (v.at? p).bind fun x => x.at? q := by
  induction p generalizing v with
  | nil => rfl
  | cons key p ih =>
    rw [List.cons_append, at?_cons, at?_cons, Option.bind_assoc]
    simp only [ih]

theorem at?_object (fs : Fields) (key : Key) (path : Path) :
    (object fs).at? (key :: path) = (fs.get? key).bind fun x => x.at? path := rfl

@[simp] theorem at?_object_singleton (fs : Fields) (key : Key) :
    (object fs).at? [key] = fs.get? key := by
  rw [at?_object]
  cases fs.get? key <;> rfl

theorem eq_object_of_child? {v x : Value} {s : String} (h : v.child? (.text s) = some x) :
    ∃ fs, v = object fs := by
  cases v with
  | object fs => exact ⟨fs, rfl⟩
  | _ => cases h

theorem at?_text_eq_some {v x : Value} {s : String} {path : Path} :
    v.at? (.text s :: path) = some x ↔
      ∃ (fs : Fields) (a : Value), v = object fs ∧ fs.get? (.text s) = some a ∧
        a.at? path = some x := by
  rw [at?_cons, Option.bind_eq_some_iff]
  constructor
  · rintro ⟨a, ha, h⟩
    obtain ⟨fs, rfl⟩ := eq_object_of_child? ha
    exact ⟨fs, a, rfl, ha, h⟩
  · rintro ⟨fs, a, rfl, ha, h⟩
    exact ⟨a, ha, h⟩

theorem child?_eq_none_of_isUnset {v : Value} (h : v.isUnset = true) (key : Key) :
    v.child? key = none := by
  cases v with
  | list items =>
    obtain rfl : items = [] := List.isEmpty_iff.mp h
    cases key <;> simp [child?]
  | object fs =>
    obtain rfl : fs = [] := List.isEmpty_iff.mp h
    rfl
  | _ => rfl

/-! ## Single fields -/

theorem at?_set (fs : Fields) (s : String) (x : Value) (key : Key) (path : Path) :
    (object (fs.set (.text s) x)).at? (key :: path) =
      if key = .text s then x.at? path else (object fs).at? (key :: path) := by
  simp only [at?_object, Fields.get?_set, Key.text_same]
  split
  · rfl
  · rfl

theorem at?_erase (fs : Fields) (s : String) (key : Key) (path : Path) :
    (object (fs.erase (.text s))).at? (key :: path) =
      if key = .text s then none else (object fs).at? (key :: path) := by
  simp only [at?_object, Fields.get?_erase, Key.text_same]
  split
  · rfl
  · rfl

theorem at?_setDefault (fs : Fields) (s : String) (x : Value) (key : Key) (path : Path) :
    (object (fs.setDefault (.text s) x)).at? (key :: path) =
      if key = .text s then ((fs.get? (.text s)).getD x).at? path
      else (object fs).at? (key :: path) := by
  simp only [at?_object, Fields.get?_setDefault, Key.text_same]
  split
  · rfl
  · rfl

/-! ## The form of the wire -/

theorem wireItems_eq_map (items : List Value) : wireItems items = items.map wire := by
  induction items with
  | nil => rfl
  | cons x xs ih => rw [wireItems, ih, List.map_cons]

theorem get?_wireFields (fs : Fields) (key : Key) :
    Fields.get? (wireFields fs) key = (fs.get? key).map wire := by
  induction fs with
  | nil => rfl
  | cons field fs ih =>
    obtain ⟨k, x⟩ := field
    rw [wireFields, Fields.get?_cons, Fields.get?_cons, ih]
    split
    · rfl
    · rfl

theorem child?_wire (v : Value) (key : Key) : v.wire.child? key = (v.child? key).map wire := by
  cases v with
  | object fs => exact get?_wireFields fs key
  | list items =>
    cases key with
    | int n =>
      rw [wire, wireItems_eq_map]
      simp only [child?, List.getElem?_map]
      split
      · rfl
      · rfl
    | _ => rfl
  | _ => rfl

theorem at?_wire (v : Value) (path : Path) : v.wire.at? path = (v.at? path).map wire := by
  induction path generalizing v with
  | nil => rfl
  | cons key path ih =>
    rw [at?_cons, at?_cons, child?_wire]
    cases v.child? key with
    | none => rfl
    | some x => exact ih x

mutual

theorem wire_wire : ∀ v : Value, v.wire.wire = v.wire
  | .null | .bool _ | .int _ | .float _ | .text _ | .time _ => rfl
  | .list items => by rw [wire, wire, wireItems_wireItems items]
  | .object fs => by rw [wire, wire, wireFields_wireFields fs]

theorem wireItems_wireItems : ∀ items : List Value, wireItems (wireItems items) = wireItems items
  | [] => rfl
  | x :: items => by rw [wireItems, wireItems, wire_wire x, wireItems_wireItems items]

theorem wireFields_wireFields :
    ∀ fs : List (Key × Value), wireFields (wireFields fs) = wireFields fs
  | [] => rfl
  | (k, x) :: fs => by rw [wireFields, wireFields, wire_wire x, wireFields_wireFields fs]

end

theorem wireFields_set (fs : Fields) (key : Key) (x : Value) :
    wireFields (fs.set key x) = Fields.set (wireFields fs) key x.wire := by
  induction fs with
  | nil => rfl
  | cons field fs ih =>
    obtain ⟨k, y⟩ := field
    by_cases h : k.Same key
    · simp [Fields.set, wireFields, h]
    · simp [Fields.set, wireFields, h, ih]

theorem wire_of_get? {fs : Fields} {key : Key} {x : Value} (h : (object fs).wire = object fs)
    (hx : fs.get? key = some x) : x.wire = x := by
  have fields : wireFields fs = fs := Value.object.inj h
  have found := get?_wireFields fs key
  rw [fields, hx] at found
  exact (Option.some.inj found).symm

theorem wire_set {fs : Fields} {key : Key} {x : Value} (h : (object fs).wire = object fs)
    (hx : x.wire = x) : (object (fs.set key x)).wire = object (fs.set key x) := by
  have fields : wireFields fs = fs := Value.object.inj h
  rw [wire, wireFields_set, fields, hx]

theorem wire_orElse {v other : Value} (h : v.wire = v) (ho : other.wire = other) :
    (v.orElse other).wire = v.orElse other := by
  unfold orElse
  split
  · exact ho
  · exact h

theorem wire_getD {fs : Fields} {key : Key} {default : Value} (h : (object fs).wire = object fs)
    (hd : default.wire = default) :
    ((fs.get? key).getD default).wire = (fs.get? key).getD default := by
  cases hx : fs.get? key with
  | none => exact hd
  | some x => exact wire_of_get? h hx

theorem wire_at? {v x : Value} {path : Path} (h : v.wire = v) (hx : v.at? path = some x) :
    x.wire = x := by
  have found := at?_wire v path
  rw [h, hx] at found
  exact (Option.some.inj found).symm

theorem wire_of_toManifest {v m : Value} (h : v.toManifest = .ok m) : m.wire = m := by
  cases v with
  | null =>
    obtain rfl : empty = m := Except.ok.inj h
    rfl
  | object fs =>
    obtain rfl : (object fs).wire = m := Except.ok.inj h
    exact wire_wire _
  | _ => cases h

theorem toManifest_eq_ok {v m : Value} (h : v.toManifest = .ok m) :
    ∃ fs, m = object fs ∧ ∀ key path, m.at? (key :: path) = v.wire.at? (key :: path) := by
  cases v with
  | null =>
    obtain rfl : empty = m := Except.ok.inj h
    exact ⟨[], rfl, fun _ _ => rfl⟩
  | object fs =>
    obtain rfl : (object fs).wire = m := Except.ok.inj h
    exact ⟨wireFields fs, rfl, fun _ _ => rfl⟩
  | _ => cases h

theorem eq_wire_of_toManifest {v m x : Value} {key : Key} {path : Path}
    (h : v.toManifest = .ok m) (hx : v.at? (key :: path) = some x) : m = v.wire := by
  cases v with
  | null => cases hx
  | object fs => exact (Except.ok.inj h).symm
  | _ => cases h

/-! ## Changes in some places alone -/

/-- Two values are the same apart from what stands in some places. -/
def SameApart (places : List Path) (a b : Value) : Prop :=
  ∀ path : Path, (∀ place ∈ places, path.Apart place) → b.at? path = a.at? path

namespace SameApart

variable {places places' : List Path} {a b c : Value}

theorem refl (places : List Path) (a : Value) : SameApart places a a := fun _ _ => rfl

theorem symm (h : SameApart places a b) : SameApart places b a := fun path apart =>
  (h path apart).symm

theorem trans (h : SameApart places a b) (h' : SameApart places b c) : SameApart places a c :=
  fun path apart => (h' path apart).trans (h path apart)

theorem mono (h : SameApart places a b) (sub : ∀ place ∈ places, place ∈ places') :
    SameApart places' a b := fun path apart => h path fun place hp => apart place (sub place hp)

theorem append (h : SameApart places a b) (h' : SameApart places' b c) :
    SameApart (places ++ places') a c :=
  (h.mono fun _ hp => List.mem_append_left _ hp).trans
    (h'.mono fun _ hp => List.mem_append_right _ hp)

theorem wire (h : SameApart places a b) : SameApart places a.wire b.wire := fun path apart => by
  rw [at?_wire, at?_wire, h path apart]

end SameApart

theorem sameApart_set (fs : Fields) (s : String) (x : Value) :
    SameApart [[.text s]] (object fs) (object (fs.set (.text s) x)) := by
  intro path apart
  obtain ⟨key, path, rfl, other⟩ := Path.apart_singleton.mp (apart _ (List.mem_singleton.mpr rfl))
  rw [at?_set, if_neg other]

theorem sameApart_erase (fs : Fields) (s : String) :
    SameApart [[.text s]] (object fs) (object (fs.erase (.text s))) := by
  intro path apart
  obtain ⟨key, path, rfl, other⟩ := Path.apart_singleton.mp (apart _ (List.mem_singleton.mpr rfl))
  rw [at?_erase, if_neg other]

theorem sameApart_setDefault (fs : Fields) (s : String) (x : Value) :
    SameApart [[.text s]] (object fs) (object (fs.setDefault (.text s) x)) := by
  intro path apart
  obtain ⟨key, path, rfl, other⟩ := Path.apart_singleton.mp (apart _ (List.mem_singleton.mpr rfl))
  rw [at?_setDefault, if_neg other]

/-! ## Reading and changing objects -/

section Access

theorem bind_eq_ok {ε α β : Type} {x : Except ε α} {f : α → Except ε β} {b : β} :
    (x >>= f) = .ok b ↔ ∃ a, x = .ok a ∧ f a = .ok b := by
  cases x with
  | ok a => exact ⟨fun h => ⟨a, rfl, h⟩, fun ⟨_, ha, h⟩ => Except.ok.inj ha ▸ h⟩
  | error e => exact ⟨nofun, nofun⟩

variable {v w x : Value} {fs : Fields} {key : Key}

theorem fields_eq_ok : v.fields = .ok fs ↔ v = object fs := by
  cases v <;> simp [fields]

theorem get_eq_ok :
    v.get key = .ok x ↔ ∃ fs : Fields, v = object fs ∧ x = (fs.get? key).getD null := by
  cases v with
  | object fs =>
    change Except.ok ((Fields.get? fs key).getD null) = .ok x ↔ _
    simp [eq_comm]
  | _ => exact ⟨nofun, nofun⟩

theorem getOr_eq_ok {default : Value} :
    v.getOr key default = .ok x ↔
      ∃ fs : Fields, v = object fs ∧ x = (fs.get? key).getD default := by
  cases v with
  | object fs =>
    change Except.ok ((Fields.get? fs key).getD default) = .ok x ↔ _
    simp [eq_comm]
  | _ => exact ⟨nofun, nofun⟩

theorem getSection_eq_ok :
    v.getSection key = .ok x ↔
      ∃ fs : Fields, v = object fs ∧ x = ((fs.get? key).getD null).orElse empty := by
  cases v with
  | object fs =>
    change Except.ok (((Fields.get? fs key).getD null).orElse empty) = .ok x ↔ _
    simp [eq_comm]
  | _ => exact ⟨nofun, nofun⟩

theorem require_eq_ok :
    v.require key = .ok x ↔ ∃ fs : Fields, v = object fs ∧ fs.get? key = some x := by
  cases v with
  | object fs =>
    rw [require, bind_eq_ok]
    constructor
    · rintro ⟨found, get, h⟩
      obtain rfl : Fields.get? fs key = found := Except.ok.inj get
      refine ⟨fs, rfl, ?_⟩
      cases stands : Fields.get? fs key with
      | none =>
        rw [stands] at h
        cases h
      | some y =>
        rw [stands] at h
        exact congrArg some (Except.ok.inj h)
    · rintro ⟨gs, same, stands⟩
      obtain rfl := object.inj same
      refine ⟨some x, ?_, rfl⟩
      rw [← stands]
      rfl
  | _ => exact ⟨nofun, nofun⟩

theorem set_eq_ok :
    v.set key x = .ok w ↔ ∃ fs : Fields, v = object fs ∧ w = object (fs.set key x) := by
  cases v with
  | object fs =>
    change Except.ok (object (Fields.set fs key x)) = .ok w ↔ _
    simp [eq_comm]
  | _ => exact ⟨nofun, nofun⟩

theorem erase_eq_ok :
    v.erase key = .ok w ↔ ∃ fs : Fields, v = object fs ∧ w = object (fs.erase key) := by
  cases v with
  | object fs =>
    change Except.ok (object (Fields.erase fs key)) = .ok w ↔ _
    simp [eq_comm]
  | _ => exact ⟨nofun, nofun⟩

theorem setDefault_eq_ok :
    v.setDefault key x = .ok w ↔
      ∃ fs : Fields, v = object fs ∧ w = object (fs.setDefault key x) := by
  cases v with
  | object fs =>
    change Except.ok (object (Fields.setDefault fs key x)) = .ok w ↔ _
    simp [eq_comm]
  | _ => exact ⟨nofun, nofun⟩

end Access

/-! ## Sections -/

/-- A value stands for a section of another one: it has the parts of that section. A section that
is missing or not set has none, whatever stands for it. -/
def IsSection (v : Value) (s : String) (a : Value) : Prop :=
  ∀ key path, a.at? (key :: path) = v.at? (.text s :: key :: path)

theorem isSection_of_get? {fs : Fields} {s : String} {a : Value}
    (h : fs.get? (.text s) = some a) : IsSection (object fs) s a := fun key path => by
  rw [at?_object, h]
  rfl

theorem isSection_getD_empty (fs : Fields) (s : String) :
    IsSection (object fs) s ((fs.get? (.text s)).getD empty) := fun key path => by
  rw [at?_object]
  cases fs.get? (.text s) with
  | none => rfl
  | some x => rfl

theorem isSection_orElse (fs : Fields) (s : String) :
    IsSection (object fs) s (((fs.get? (.text s)).getD null).orElse empty) := fun key path => by
  rw [at?_object]
  cases fs.get? (.text s) with
  | none => rfl
  | some x =>
    simp only [Option.getD_some, Option.bind_some, orElse]
    split
    · rename_i unset
      rw [at?_cons x, child?_eq_none_of_isUnset unset]
      rfl
    · rfl

theorem isSection_of_getSection {v a : Value} {s : String}
    (h : v.getSection (.text s) = .ok a) : IsSection v s a := by
  obtain ⟨fs, rfl, rfl⟩ := getSection_eq_ok.mp h
  exact isSection_orElse fs s

theorem isSection_of_getOr {v a : Value} {s : String}
    (h : v.getOr (.text s) empty = .ok a) : IsSection v s a := by
  obtain ⟨fs, rfl, rfl⟩ := getOr_eq_ok.mp h
  exact isSection_getD_empty fs s

theorem eq_of_getSection {v a b x : Value} {r s t : String} (ha : v.getSection (.text r) = .ok a)
    (hb : a.getSection (.text s) = .ok b) (hx : b.getSection (.text t) = .ok x) :
    x = ((v.at? [.text r, .text s, .text t]).getD null).orElse empty := by
  have here := isSection_of_getSection ha (.text s) [.text t]
  rw [← isSection_of_getSection hb (.text t) []] at here
  obtain ⟨fs, rfl, rfl⟩ := getSection_eq_ok.mp hx
  rw [← here, at?_object_singleton]

theorem IsSection.sameApart_set {fs : Fields} {s : String} {a b : Value} {places : List Path}
    (h : IsSection (object fs) s a) (hne : places ≠ []) (hab : SameApart places a b) :
    SameApart (places.map (.text s :: ·)) (object fs) (object (fs.set (.text s) b)) := by
  obtain ⟨place, hp⟩ := List.exists_mem_of_ne_nil places hne
  intro (path : Path) apart
  cases path with
  | nil => exact absurd (apart _ (List.mem_map_of_mem hp)) Path.not_apart_nil_left
  | cons key path =>
    rw [at?_set]
    by_cases here : key = .text s
    · subst here
      have inside : ∀ q ∈ places, Path.Apart path q := fun q hq =>
        Path.apart_cons.mp (apart _ (List.mem_map_of_mem hq)) rfl
      rw [if_pos rfl, hab path inside]
      cases path with
      | nil => exact absurd (inside place hp) Path.not_apart_nil_left
      | cons k path => exact h k path
    · rw [if_neg here]

/-- To remove a section with nothing in it but in some places changes those places alone. -/
theorem IsSection.sameApart_erase {fs : Fields} {s : String} {a : Value} {places : List Path}
    (h : IsSection (object fs) s a) (hne : places ≠ []) (hab : SameApart places a empty) :
    SameApart (places.map (.text s :: ·)) (object fs) (object (fs.erase (.text s))) := by
  intro path apart
  rw [← h.sameApart_set hne hab path apart]
  obtain ⟨place, hp⟩ := List.exists_mem_of_ne_nil places hne
  have off := apart _ (List.mem_map_of_mem hp)
  cases path with
  | nil => exact absurd off Path.not_apart_nil_left
  | cons key path =>
    rw [at?_erase, at?_set]
    split
    · rename_i here
      subst here
      cases path with
      | nil => exact absurd (Path.apart_cons.mp off rfl) Path.not_apart_nil_left
      | cons k path => rfl
    · rfl

/-! ## Sections that are objects -/

/-- What stands at a place is an object, if there is anything. -/
def ObjectAt (v : Value) (path : Path) : Prop :=
  ∀ x, v.at? path = some x → ∃ fs : Fields, x = .object fs

section ObjectAt

variable {fs : Fields} {v a : Value} {s : String}

theorem orElse_empty_object (fs : Fields) : (object fs).orElse .empty = object fs := by
  cases fs with
  | nil => rfl
  | cons field fs => rfl

theorem getSection_of_get? {gs : Fields} (h : fs.get? (.text s) = some (.object gs)) :
    (Value.object fs).getSection (.text s) = .ok (.object gs) :=
  getSection_eq_ok.mpr ⟨fs, rfl, by rw [h, Option.getD_some, orElse_empty_object]⟩

theorem getSection_of_at? {gs : Fields} (h : v.at? [.text s] = some (.object gs)) :
    v.getSection (.text s) = .ok (.object gs) := by
  obtain ⟨fs, _, rfl, found, ⟨⟩⟩ := at?_text_eq_some.mp h
  exact getSection_of_get? found

theorem ObjectAt.of_isSection {key : Key} {path : Path} (h : ObjectAt v (.text s :: key :: path))
    (ha : IsSection v s a) : ObjectAt a (key :: path) := fun x hx =>
  h x (by rw [← ha key path, hx])

theorem ObjectAt.in_section {key : Key} {path : Path} (h : ObjectAt a (key :: path))
    (ha : IsSection v s a) : ObjectAt v (.text s :: key :: path) := fun x hx =>
  h x (by rw [ha key path, hx])

theorem objectAt_of_getOr (h : v.getOr (.text s) .empty = .ok (.object fs)) :
    ObjectAt v [.text s] := by
  obtain ⟨gs, rfl, hg⟩ := getOr_eq_ok.mp h
  intro x hx
  rw [at?_object_singleton] at hx
  rw [hx] at hg
  exact ⟨fs, hg.symm⟩

theorem exists_object_above {p q : Path} {x : Value} (h : v.at? (p ++ .text s :: q) = some x) :
    ∃ fs, v.at? p = some (object fs) := by
  rw [at?_append] at h
  obtain ⟨w, hw, hx⟩ := Option.bind_eq_some_iff.mp h
  obtain ⟨fs, _, rfl, -⟩ := at?_text_eq_some.mp hx
  exact ⟨fs, hw⟩

theorem exists_getD_of_objectAt (h : ObjectAt (.object fs) [.text s]) :
    ∃ gs : Fields, (fs.get? (.text s)).getD .empty = .object gs := by
  cases found : fs.get? (.text s) with
  | none => exact ⟨[], rfl⟩
  | some x => exact h x (by rw [at?_object_singleton, found])

theorem exists_orElse_of_objectAt (h : ObjectAt (.object fs) [.text s]) :
    ∃ gs : Fields, ((fs.get? (.text s)).getD .null).orElse .empty = .object gs := by
  cases found : fs.get? (.text s) with
  | none => exact ⟨[], rfl⟩
  | some x =>
    obtain ⟨gs, rfl⟩ := h x (by rw [at?_object_singleton, found])
    exact ⟨gs, orElse_empty_object gs⟩

theorem exists_getSection (h : ObjectAt (.object fs) [.text s]) :
    ∃ gs : Fields, (Value.object fs).getSection (.text s) = .ok (.object gs) := by
  obtain ⟨gs, hg⟩ := exists_orElse_of_objectAt h
  exact ⟨gs, getSection_eq_ok.mpr ⟨fs, rfl, hg.symm⟩⟩

end ObjectAt

/-! ## Sections that may be unset -/

/-- What stands at a place is an object or not set, if there is anything. -/
def SectionAt (v : Value) (path : Path) : Prop :=
  ∀ x, v.at? path = some x → x.isUnset = true ∨ ∃ fs : Fields, x = .object fs

theorem SectionAt.of_isSection {v a : Value} {s : String} {key : Key} {path : Path}
    (h : SectionAt v (.text s :: key :: path)) (ha : IsSection v s a) :
    SectionAt a (key :: path) := fun x hx => h x (by rw [← ha key path, hx])

theorem SectionAt.exists_getSection {fs : Fields} {s : String}
    (h : SectionAt (.object fs) [.text s]) :
    ∃ gs : Fields, (Value.object fs).getSection (.text s) = .ok (.object gs) := by
  have reads : ∃ gs : Fields, ((fs.get? (.text s)).getD .null).orElse .empty = .object gs := by
    cases found : fs.get? (.text s) with
    | none => exact ⟨[], rfl⟩
    | some x =>
      rcases h x (by rw [at?_object_singleton, found]) with unset | ⟨gs, rfl⟩
      · exact ⟨[], if_pos unset⟩
      · exact ⟨gs, orElse_empty_object gs⟩
  obtain ⟨gs, reads⟩ := reads
  exact ⟨gs, getSection_eq_ok.mpr ⟨fs, rfl, reads.symm⟩⟩

/-! ## The same up to the order of fields -/

/-- What a value is but for its parts. -/
def outline : Value → Value
  | object _ => empty
  | list _ => list []
  | v => v

/-- Two values are the same at a place, whatever stands below it. -/
def AgreeAt (a b : Value) (path : Path) : Prop :=
  (b.at? path).map outline = (a.at? path).map outline

/-- Two values are the same but for some places and what stands below them, and up to the order of
fields. -/
def Agree (places : List Path) (a b : Value) : Prop :=
  ∀ path : Path, (∀ place ∈ places, ¬ place <+: path) → AgreeAt a b path

section Agree

variable {a b : Value} {path : Path}

theorem agreeAt_of_eq (h : b.at? path = a.at? path) : AgreeAt a b path := congrArg _ h

theorem outline_wire (v : Value) : v.wire.outline = v.outline.wire := by
  cases v with
  | object fs => rfl
  | list items => rfl
  | _ => rfl

theorem AgreeAt.wire (h : AgreeAt a b path) : AgreeAt a.wire b.wire path := by
  have commute (v : Value) :
      (v.wire.at? path).map outline = ((v.at? path).map outline).map Value.wire := by
    rw [at?_wire, Option.map_map, Option.map_map]
    exact Option.map_congr fun x _ => outline_wire x
  unfold AgreeAt at h ⊢
  rw [commute, commute, h]

theorem agreeAt_above (path : Path) {s t : String} {p q : Path} {x y : Value}
    (ha : a.at? (path ++ .text s :: p) = some x) (hb : b.at? (path ++ .text t :: q) = some y) :
    AgreeAt a b path := by
  obtain ⟨fs, hfs⟩ := exists_object_above ha
  obtain ⟨gs, hgs⟩ := exists_object_above hb
  unfold AgreeAt
  rw [hfs, hgs]
  rfl

theorem agreeAt_below {fs gs : Fields} {place : Path} (ha : a.at? place = some (object fs))
    (hb : b.at? place = some (object gs)) (h : place <+: path)
    (same : ∀ key, place ++ [key] <+: path → gs.get? key = fs.get? key) : AgreeAt a b path := by
  obtain ⟨rest, rfl⟩ := h
  cases rest with
  | nil =>
    unfold AgreeAt
    rw [List.append_nil, ha, hb]
    rfl
  | cons key rest =>
    refine agreeAt_of_eq ?_
    rw [at?_append, at?_append, ha, hb, Option.bind_some, Option.bind_some, at?_object, at?_object,
      same key ⟨rest, by simp⟩]

theorem Agree.symm (h : Agree [] a b) : Agree [] b a := fun path within => (h path within).symm

theorem Agree.trans {c : Value} (h : Agree [] a b) (h' : Agree [] b c) : Agree [] a c :=
  fun path within => (h' path within).trans (h path within)

theorem Agree.outline (h : Agree [] a b) : b.outline = a.outline :=
  Option.some.inj (h [] nofun)

theorem Agree.isSome_child? (h : Agree [] a b) (key : Key) :
    (b.child? key).isSome = (a.child? key).isSome := by
  have at_key := congrArg Option.isSome (h [key] nofun)
  rw [Option.isSome_map, Option.isSome_map, at?_cons, at?_cons] at at_key
  simpa using at_key

theorem Agree.child? {key : Key} {x y : Value} (h : Agree [] a b) (ha : a.child? key = some x)
    (hb : b.child? key = some y) : Agree [] x y := by
  intro path _
  have at_path := h (key :: path) nofun
  unfold AgreeAt at at_path ⊢
  rwa [at?_cons, at?_cons, ha, hb] at at_path

theorem agree_object {fs gs : Fields}
    (h : ∀ key, gs.get? key = fs.get? key ∨
      ∃ x y, fs.get? key = some x ∧ gs.get? key = some y ∧ Agree [] x y) :
    Agree [] (object fs) (object gs) := by
  intro path _
  cases path with
  | nil => rfl
  | cons key path =>
    rcases h key with same | ⟨x, y, hx, hy, agree⟩
    · exact agreeAt_of_eq (by rw [at?_object, at?_object, same])
    · have below := agree path nofun
      unfold AgreeAt at below ⊢
      rwa [at?_object, at?_object, hx, hy]

end Agree

end Value

end CanaryRelease
