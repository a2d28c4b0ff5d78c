import CanaryRelease.Proofs.Places
import CanaryRelease.Value.Canonical
import Mathlib.Data.List.Nodup

/-!
# Values that JSON can say

A value comes from JSON text if the keys of its objects are texts, each of them there once, and it
has no timestamps (`Value.isJson`). The parts of such a value are such values, and it stays one when
a field is set or removed.
-/

namespace CanaryRelease

/-! ## Text keys -/

namespace Fields

/-- The fields of an object that JSON can say: keys are texts, and each is there once. -/
structure TextKeyed (fs : Fields) : Prop where
  texts : ∀ field ∈ fs, ∃ s : String, field.1 = .text s
  nodup : (fs.map Prod.fst).Nodup

instance (fs : Fields) : Decidable fs.TextKeyed :=
  decidable_of_iff ((∀ field ∈ fs, field.1.text?.isSome) ∧ (fs.map Prod.fst).Nodup) <| by
    have isText (k : Key) : k.text?.isSome ↔ ∃ s : String, k = .text s := by
      cases k <;> simp [Key.text?]
    simp only [isText]
    exact ⟨fun ⟨texts, nodup⟩ => ⟨texts, nodup⟩, fun h => ⟨h.texts, h.nodup⟩⟩

variable {fs : Fields} {key : Key} {s : String} {v x : Value}

theorem TextKeyed.tail {field : Key × Value} (h : TextKeyed (field :: fs)) : TextKeyed fs where
  texts other ho := h.texts other (List.mem_cons_of_mem _ ho)
  nodup := (List.nodup_cons.mp h.nodup).2

theorem mem_of_get? {s : String} {x : Value} (h : fs.get? (.text s) = some x) :
    (.text s, x) ∈ fs := by
  induction fs with
  | nil => cases h
  | cons field fs ih =>
    obtain ⟨k, y⟩ := field
    rw [get?_cons] at h
    split at h
    · rename_i same
      obtain rfl := Key.same_text.mp same
      obtain rfl := Option.some.inj h
      exact List.mem_cons_self
    · exact List.mem_cons_of_mem _ (ih h)

theorem mem_keys_iff : .text s ∈ fs.map Prod.fst ↔ (fs.get? (.text s)).isSome := by
  induction fs with
  | nil => simp
  | cons field fs ih =>
    obtain ⟨k, y⟩ := field
    rw [List.map_cons, List.mem_cons, ih, get?_cons]
    by_cases same : k = .text s
    · simp [same]
    · simp [same, Ne.symm same]

theorem get?_of_not_text (h : TextKeyed fs) {key : Key} (hk : ∀ s, key ≠ .text s) :
    fs.get? key = none := by
  induction fs with
  | nil => rfl
  | cons field fs ih =>
    obtain ⟨k, v⟩ := field
    obtain ⟨t, rfl⟩ : ∃ t : String, k = .text t := h.texts _ List.mem_cons_self
    rw [get?_cons, if_neg, ih h.tail]
    rw [Key.text_same]
    exact hk t

theorem mem_set {field : Key × Value} (h : field ∈ fs.set key v) : field.2 = v ∨ field ∈ fs := by
  induction fs with
  | nil =>
    obtain rfl := List.mem_singleton.mp h
    exact .inl rfl
  | cons first fs ih =>
    obtain ⟨k, x⟩ := first
    rw [set] at h
    split at h
    · rcases List.mem_cons.mp h with rfl | h
      · exact .inl rfl
      · exact .inr (List.mem_cons_of_mem _ h)
    · rcases List.mem_cons.mp h with rfl | h
      · exact .inr List.mem_cons_self
      · exact (ih h).imp_right (List.mem_cons_of_mem _)

theorem keys_set (fs : Fields) (s : String) (v : Value) :
    (fs.set (.text s) v).map Prod.fst =
      if (fs.get? (.text s)).isSome then fs.map Prod.fst else fs.map Prod.fst ++ [.text s] := by
  induction fs with
  | nil => rfl
  | cons field fs ih =>
    obtain ⟨k, x⟩ := field
    rw [set, get?_cons]
    by_cases same : k = .text s
    · simp [same]
    · have other : ¬ k.Same (.text s) := by simpa using same
      rw [if_neg other, if_neg other, List.map_cons, ih]
      split
      · rfl
      · rfl

theorem TextKeyed.set (h : TextKeyed fs) (s : String) (v : Value) :
    TextKeyed (fs.set (.text s) v) := by
  have keys := keys_set fs s v
  constructor
  · intro field hf
    have mem : field.1 ∈ (fs.set (.text s) v).map Prod.fst := List.mem_map_of_mem hf
    rw [keys] at mem
    have old : field.1 ∈ fs.map Prod.fst → ∃ t : String, field.1 = .text t := by
      intro mem
      obtain ⟨other, ho, eq⟩ := List.mem_map.mp mem
      rw [← eq]
      exact h.texts other ho
    split at mem
    · exact old mem
    · rcases List.mem_append.mp mem with mem | mem
      · exact old mem
      · exact ⟨s, List.mem_singleton.mp mem⟩
  · rw [keys]
    split
    · exact h.nodup
    · rename_i missing
      rw [List.nodup_append]
      refine ⟨h.nodup, List.nodup_singleton _, ?_⟩
      rintro k hk _ hs rfl
      rw [List.mem_singleton.mp hs] at hk
      exact missing (mem_keys_iff.mp hk)

theorem TextKeyed.erase (h : TextKeyed fs) (key : Key) : TextKeyed (fs.erase key) where
  texts field hf := h.texts field (List.mem_of_mem_filter hf)
  nodup := h.nodup.sublist (List.filter_sublist.map _)

end Fields

/-! ## Values -/

namespace Value

mutual

/-- Whether JSON can say a value, given which floating-point numbers may be in it: the keys of its
objects are texts, each there once, and there are no timestamps. -/
def isJson (floats : Binary64 → Bool) : Value → Bool
  | .null | .bool _ | .int _ | .text _ => true
  | .float x => floats x
  | .time _ => false
  | .list items => areJsonItems floats items
  | .object fields => decide (Fields.TextKeyed fields) && areJsonFields floats fields

/-- Whether JSON can say the items of a list. -/
def areJsonItems (floats : Binary64 → Bool) : List Value → Bool
  | [] => true
  | x :: items => x.isJson floats && areJsonItems floats items

/-- Whether JSON can say the values of fields. -/
def areJsonFields (floats : Binary64 → Bool) : List (Key × Value) → Bool
  | [] => true
  | (_, x) :: fields => x.isJson floats && areJsonFields floats fields

end

variable {floats : Binary64 → Bool} {a b v x : Value} {key : Key}

theorem isJson_list {items : List Value} :
    (list items).isJson floats = true ↔ ∀ x ∈ items, x.isJson floats = true := by
  rw [isJson]
  induction items with
  | nil => simp [areJsonItems]
  | cons x items ih => rw [areJsonItems, Bool.and_eq_true, ih, List.forall_mem_cons]

theorem isJson_object {fs : Fields} :
    (object fs).isJson floats = true ↔
      fs.TextKeyed ∧ ∀ field ∈ fs, field.2.isJson floats = true := by
  have fields : areJsonFields floats fs = true ↔
      ∀ field ∈ fs, field.2.isJson floats = true := by
    induction fs with
    | nil => simp [areJsonFields]
    | cons field fs ih =>
      obtain ⟨k, x⟩ := field
      rw [areJsonFields, Bool.and_eq_true, ih, List.forall_mem_cons]
  rw [isJson, Bool.and_eq_true, decide_eq_true_iff, fields]

theorem child?_eq_some (h : v.child? key = some x) :
    (∃ items, v = list items ∧ x ∈ items) ∨ ∃ fs : Fields, v = object fs ∧ ∃ k, (k, x) ∈ fs := by
  cases v with
  | list items =>
    cases key with
    | int n =>
      rw [child?] at h
      split at h
      · exact .inl ⟨items, rfl, List.mem_of_getElem? h⟩
      · cases h
    | _ => cases h
  | object fs =>
    refine .inr ⟨fs, rfl, ?_⟩
    rw [child?] at h
    induction fs with
    | nil => cases h
    | cons field fs ih =>
      obtain ⟨k, y⟩ := field
      rw [Fields.get?_cons] at h
      split at h
      · obtain rfl := Option.some.inj h
        exact ⟨k, List.mem_cons_self⟩
      · obtain ⟨l, hl⟩ := ih h
        exact ⟨l, List.mem_cons_of_mem _ hl⟩
  | _ => cases h

theorem isJson_child? (hv : v.isJson floats = true) (h : v.child? key = some x) :
    x.isJson floats = true := by
  obtain ⟨items, rfl, hx⟩ | ⟨fs, rfl, k, hk⟩ := child?_eq_some h
  · exact isJson_list.mp hv x hx
  · exact (isJson_object.mp hv).2 _ hk

theorem isJson_at? {path : Path} (hv : v.isJson floats = true) (h : v.at? path = some x) :
    x.isJson floats = true := by
  induction path generalizing v with
  | nil =>
    obtain rfl := Option.some.inj h
    exact hv
  | cons key path ih =>
    obtain ⟨y, hy, h⟩ := Option.bind_eq_some_iff.mp h
    exact ih (isJson_child? hv hy) h

theorem sizeOf_child?_lt (h : v.child? key = some x) : sizeOf x < sizeOf v := by
  obtain ⟨items, rfl, hx⟩ | ⟨fs, rfl, k, hk⟩ := child?_eq_some h
  · have := List.sizeOf_lt_of_mem hx
    simp only [list.sizeOf_spec]
    omega
  · have := List.sizeOf_lt_of_mem hk
    simp only [object.sizeOf_spec, Prod.mk.sizeOf_spec] at this ⊢
    omega

/-! ## Changed objects -/

section Fields

variable {fs : Fields} {s : String}

theorem isJson_set (h : (object fs).isJson floats = true) (hx : x.isJson floats = true) :
    (object (fs.set (.text s) x)).isJson floats = true := by
  obtain ⟨keyed, parts⟩ := isJson_object.mp h
  refine isJson_object.mpr ⟨keyed.set s x, fun field hf => ?_⟩
  rcases Fields.mem_set hf with new | old
  · rw [new]
    exact hx
  · exact parts field old

theorem isJson_erase (h : (object fs).isJson floats = true) (key : Key) :
    (object (fs.erase key)).isJson floats = true := by
  obtain ⟨keyed, parts⟩ := isJson_object.mp h
  exact isJson_object.mpr ⟨keyed.erase key, fun field hf => parts field (List.mem_of_mem_filter hf)⟩

theorem isJson_setDefault (h : (object fs).isJson floats = true) (hx : x.isJson floats = true) :
    (object (fs.setDefault (.text s) x)).isJson floats = true := by
  unfold Fields.setDefault
  split
  · exact h
  · exact isJson_set h hx

theorem isJson_getD {default : Value} (h : (object fs).isJson floats = true)
    (hd : default.isJson floats = true) :
    ((fs.get? key).getD default).isJson floats = true := by
  cases found : fs.get? key with
  | none => exact hd
  | some y => exact isJson_child? (v := object fs) h found

theorem isJson_empty : empty.isJson floats = true := rfl

theorem isJson_getSection (hv : v.isJson floats = true) (h : v.getSection key = .ok x) :
    x.isJson floats = true := by
  obtain ⟨fs, rfl, rfl⟩ := getSection_eq_ok.mp h
  unfold orElse
  split
  · exact isJson_empty
  · exact isJson_getD hv rfl

end Fields

/-! ## The form of the wire -/

mutual

theorem wire_of_isJson {floats : Binary64 → Bool} :
    ∀ v : Value, v.isJson floats = true → v.wire = v
  | .null, _ | .bool _, _ | .int _, _ | .float _, _ | .text _, _ => rfl
  | .time _, h => nomatch h
  | .list items, h => congrArg list (wireItems_of_areJsonItems items h)
  | .object fields, h =>
    congrArg object (wireFields_of_areJsonFields fields (Bool.and_eq_true_iff.mp h).2)

theorem wireItems_of_areJsonItems {floats : Binary64 → Bool} :
    ∀ items : List Value, areJsonItems floats items = true → wireItems items = items
  | [], _ => rfl
  | x :: items, h => by
    obtain ⟨hx, rest⟩ := Bool.and_eq_true_iff.mp h
    rw [wireItems, wire_of_isJson x hx, wireItems_of_areJsonItems items rest]

theorem wireFields_of_areJsonFields {floats : Binary64 → Bool} :
    ∀ fields : List (Key × Value), areJsonFields floats fields = true → wireFields fields = fields
  | [], _ => rfl
  | (key, x) :: fields, h => by
    obtain ⟨hx, rest⟩ := Bool.and_eq_true_iff.mp h
    rw [wireFields, wire_of_isJson x hx, wireFields_of_areJsonFields fields rest]

end

/-! ## Keys that can be sorted -/

mutual

theorem isOrderable_of_isJson {floats : Binary64 → Bool} :
    ∀ v : Value, v.isJson floats = true → v.isOrderable = true
  | .null, _ | .bool _, _ | .int _, _ | .float _, _ | .text _, _ | .time _, _ => rfl
  | .list items, h => areItemsOrderable_of_areJsonItems items h
  | .object fields, h => by
    obtain ⟨keyed, parts⟩ := Bool.and_eq_true_iff.mp h
    refine Bool.and_eq_true_iff.mpr ⟨?_, areFieldsOrderable_of_areJsonFields fields parts⟩
    have texts : (fields.map Prod.fst).all (fun k => k.text?.isSome) = true := by
      refine List.all_eq_true.mpr fun key hk => ?_
      obtain ⟨field, hf, rfl⟩ := List.mem_map.mp hk
      obtain ⟨s, hs⟩ := (of_decide_eq_true keyed).texts field hf
      rw [hs]
      rfl
    rw [Key.areOrderable, texts, Bool.true_or, Bool.true_or]

theorem areItemsOrderable_of_areJsonItems {floats : Binary64 → Bool} :
    ∀ items : List Value, areJsonItems floats items = true → areItemsOrderable items = true
  | [], _ => rfl
  | x :: items, h => by
    obtain ⟨first, rest⟩ := Bool.and_eq_true_iff.mp h
    exact Bool.and_eq_true_iff.mpr
      ⟨isOrderable_of_isJson x first, areItemsOrderable_of_areJsonItems items rest⟩

theorem areFieldsOrderable_of_areJsonFields {floats : Binary64 → Bool} :
    ∀ fields : List (Key × Value),
      areJsonFields floats fields = true → areFieldsOrderable fields = true
  | [], _ => rfl
  | (_, x) :: fields, h => by
    obtain ⟨first, rest⟩ := Bool.and_eq_true_iff.mp h
    exact Bool.and_eq_true_iff.mpr
      ⟨isOrderable_of_isJson x first, areFieldsOrderable_of_areJsonFields fields rest⟩

end

end Value

end CanaryRelease
