import CanaryRelease.Proofs.CanonicalAgreement
import CanaryRelease.Proofs.Decimals

/-!
# JSON values with one text

Two values that come from JSON and have the same canonical text may differ in the order of fields
alone (`SameJson`). Whatever is read from one of them can be read from the other one: parts under
keys, sections that may not be set, and the items of lists have the same texts again, and so have
objects after the same field was set or removed.
-/

namespace CanaryRelease

/-- Two JSON values have the same canonical text. -/
structure SameJson (a b : Value) : Prop where
  left : a.isJson Binary64.isProper = true
  right : b.isJson Binary64.isProper = true
  text : a.canonical = b.canonical

/-- Fields have the same texts under the same keys, some keys apart. -/
def Fields.SameBut (keys : List Key) (fs gs : Fields) : Prop :=
  ∀ key, key ∉ keys → (fs.get? key).map Value.canonical = (gs.get? key).map Value.canonical

/-- Two objects stand at a place and say the same, some keys apart. -/
def SameObjectsAt (place : Path) (keys : List Key) (a b : Value) : Prop :=
  ∃ fs gs : Fields, a.at? place = some (.object fs) ∧ b.at? place = some (.object gs) ∧
    Fields.SameBut keys fs gs

namespace SameJson

open Value Text

variable {a b x y : Value} {fs gs : Fields} {key : Key} {s : String}

theorem symm (h : SameJson a b) : SameJson b a := ⟨h.right, h.left, h.text.symm⟩

theorem at? (h : SameJson a b) (path : Path) :
    (a.at? path).map canonical = (b.at? path).map canonical :=
  at?_of_canonical h.left h.right h.text path

/-! ## Objects -/

theorem exists_object (h : SameJson (object fs) b) : ∃ gs, b = object gs := by
  have opens := opening?_of_canonical h.text
  cases b with
  | object gs => exact ⟨gs, rfl⟩
  | time => exact absurd h.right (by simp [isJson])
  | _ => cases opens

theorem of_sameBut (hf : (object fs).isJson Binary64.isProper = true)
    (hg : (object gs).isJson Binary64.isProper = true) (h : Fields.SameBut [] fs gs) :
    SameJson (object fs) (object gs) where
  left := hf
  right := hg
  text := (canonical_object_eq_iff (isJson_object.mp hf).1 (isJson_object.mp hg).1).mpr
    fun key => h key List.not_mem_nil

theorem sameBut (h : SameJson (object fs) (object gs)) (keys : List Key) :
    Fields.SameBut keys fs gs := fun key _ =>
  (canonical_object_eq_iff (isJson_object.mp h.left).1 (isJson_object.mp h.right).1).mp h.text key

theorem of_get? (hf : (object fs).isJson Binary64.isProper = true)
    (hg : (object gs).isJson Binary64.isProper = true)
    (h : (fs.get? key).map canonical = (gs.get? key).map canonical) {default : Value}
    (hd : default.isJson Binary64.isProper = true) :
    SameJson ((fs.get? key).getD default) ((gs.get? key).getD default) where
  left := isJson_getD hf hd
  right := isJson_getD hg hd
  text := by
    cases hx : fs.get? key with
    | none =>
      rw [hx] at h
      rw [Option.map_eq_none_iff.mp h.symm]
    | some x =>
      rw [hx] at h
      obtain ⟨y, hy, text⟩ := Option.map_eq_some_iff.mp h.symm
      rw [hy]
      exact text.symm

theorem getD (h : SameJson (object fs) (object gs)) (key : Key) :
    SameJson ((fs.get? key).getD .null) ((gs.get? key).getD .null) :=
  of_get? h.left h.right (h.sameBut [] key List.not_mem_nil) rfl

theorem erase (h : SameJson (object fs) (object gs)) (key : Key) :
    SameJson (object (fs.erase key)) (object (gs.erase key)) := by
  refine of_sameBut (isJson_erase h.left key) (isJson_erase h.right key) fun other _ => ?_
  rw [Fields.get?_erase, Fields.get?_erase]
  split
  · rfl
  · exact h.sameBut [] other List.not_mem_nil

theorem map_at?_of_get? (hf : (object fs).isJson Binary64.isProper = true)
    (hg : (object gs).isJson Binary64.isProper = true)
    (h : (fs.get? key).map canonical = (gs.get? key).map canonical) (path : Path) :
    ((object fs).at? (key :: path)).map canonical =
      ((object gs).at? (key :: path)).map canonical := by
  rw [at?_object, at?_object]
  cases hx : fs.get? key with
  | none =>
    rw [hx] at h
    rw [Option.map_eq_none_iff.mp h.symm]
  | some x =>
    have same : SameJson ((fs.get? key).getD .null) ((gs.get? key).getD .null) :=
      of_get? hf hg h rfl
    obtain ⟨y, hy, -⟩ := Option.map_eq_some_iff.mp (h.symm.trans (congrArg (Option.map _) hx))
    rw [hx, hy, Option.getD_some, Option.getD_some] at same
    rw [hy]
    exact same.at? path

theorem set (h : SameJson (object fs) (object gs)) (s : String) (hx : SameJson x y) :
    SameJson (object (fs.set s x)) (object (gs.set s y)) := by
  refine of_sameBut (isJson_set h.left hx.left) (isJson_set h.right hx.right) fun key _ => ?_
  rw [Fields.get?_set, Fields.get?_set]
  split
  · exact congrArg some hx.text
  · exact h.sameBut [] key List.not_mem_nil

theorem eq_text (h : SameJson (.text s) b) : b = .text s := by
  obtain same | ⟨_, _, ⟨⟩, -, -⟩ := outline_or_float_of_canonical h.left h.right h.text
  exact eq_of_outline same.symm nofun nofun

/-! ## Values that are not set -/

theorem isUnset (h : SameJson a b) : a.isUnset = b.isUnset := by
  obtain same | ⟨x, y, rfl, rfl, texts⟩ := outline_or_float_of_canonical h.left h.right h.text
  · cases a with
    | list xs =>
      obtain ⟨ys, rfl⟩ := eq_list_of_outline same.symm
      have lengths := congrArg List.length (canonical_list_eq_iff.mp h.text)
      rw [List.length_map, List.length_map] at lengths
      cases xs with
      | nil => rw [List.length_eq_zero_iff.mp lengths.symm]
      | cons x xs =>
        cases ys with
        | nil => cases lengths
        | cons y ys => rfl
    | object fs =>
      obtain ⟨gs, rfl⟩ := eq_object_of_outline same.symm
      have empty {fs gs : Fields} (h : SameJson (object fs) (object gs)) (none : fs = []) :
          gs = [] := by
        refine Fields.eq_nil_iff_get?.mpr fun key => ?_
        have parts := h.sameBut [] key List.not_mem_nil
        rw [none] at parts
        exact Option.map_eq_none_iff.mp parts.symm
      cases fs with
      | nil => rw [empty h rfl]
      | cons f fs =>
        cases gs with
        | nil => cases empty h.symm rfl
        | cons g gs => rfl
    | _ => rw [eq_of_outline same.symm nofun nofun]
  · have zero : (float x).isUnset = true ↔ (float y).isUnset = true := by
      change x.quantity.isZero = true ↔ y.quantity.isZero = true
      rw [Binary64.isZero_iff_text h.left, Binary64.isZero_iff_text h.right, texts]
    exact Bool.eq_iff_iff.mpr zero

theorem exists_section (h : SameJson x y) (hx : x.orElse .empty = object fs) :
    ∃ gs, y.orElse .empty = object gs ∧ SameJson (object fs) (object gs) := by
  have unset := h.isUnset
  unfold orElse at hx ⊢
  cases hu : x.isUnset with
  | true =>
    rw [hu] at hx unset
    obtain rfl : [] = fs := Value.object.inj hx
    rw [← unset]
    exact ⟨[], rfl, rfl, rfl, rfl⟩
  | false =>
    rw [hu] at hx unset
    obtain rfl : x = object fs := hx
    obtain ⟨gs, rfl⟩ := h.exists_object
    rw [← unset]
    exact ⟨gs, rfl, h⟩

/-! ## Lists -/

theorem exists_items {xs : List Value} (h : SameJson (list xs) b) :
    ∃ ys, b = list ys ∧ List.Forall₂ SameJson xs ys := by
  obtain ⟨ys, rfl⟩ : ∃ ys, b = list ys := by
    have opens := opening?_of_canonical h.text
    cases b with
    | list ys => exact ⟨ys, rfl⟩
    | _ => cases opens
  refine ⟨ys, rfl, ?_⟩
  have texts := canonical_list_eq_iff.mp h.text
  have left := isJson_list.mp h.left
  have right := isJson_list.mp h.right
  clear h
  induction xs generalizing ys with
  | nil =>
    obtain rfl : ys = [] := List.map_eq_nil_iff.mp texts.symm
    exact .nil
  | cons x xs ih =>
    cases ys with
    | nil => cases texts
    | cons y ys =>
      obtain ⟨text, texts⟩ := List.cons.inj texts
      obtain ⟨leftFirst, left⟩ := List.forall_mem_cons.mp left
      obtain ⟨rightFirst, right⟩ := List.forall_mem_cons.mp right
      exact .cons ⟨leftFirst, rightFirst, text⟩ (ih ys texts left right)

theorem of_items {xs ys : List Value} (h : List.Forall₂ SameJson xs ys) :
    SameJson (list xs) (list ys) := by
  have items : (∀ x ∈ xs, x.isJson Binary64.isProper = true) ∧
      (∀ y ∈ ys, y.isJson Binary64.isProper = true) ∧ xs.map canonical = ys.map canonical := by
    induction h with
    | nil => exact ⟨nofun, nofun, rfl⟩
    | cons first rest ih =>
      obtain ⟨left, right, texts⟩ := ih
      exact ⟨List.forall_mem_cons.mpr ⟨first.left, left⟩,
        List.forall_mem_cons.mpr ⟨first.right, right⟩, by rw [List.map_cons, List.map_cons, texts,
          first.text]⟩
  exact ⟨isJson_list.mpr items.1, isJson_list.mpr items.2.1, canonical_list_eq_iff.mpr items.2.2⟩

end SameJson

/-! ## Functions of what values say -/

open Value

/-- A function takes values that say the same to values that say the same. -/
def KeepsSame (f : Value → Except Failure Value) : Prop :=
  ∀ x y x', SameJson x y → f x = .ok x' → ∃ y', f y = .ok y' ∧ SameJson x' y'

theorem KeepsSame.mapM {f : Value → Except Failure Value} (hf : KeepsSame f)
    {xs ys xs' : List Value} (h : List.Forall₂ SameJson xs ys) (hx : xs.mapM f = .ok xs') :
    ∃ ys', ys.mapM f = .ok ys' ∧ List.Forall₂ SameJson xs' ys' := by
  induction h generalizing xs' with
  | nil => exact ⟨[], rfl, by obtain rfl : [] = xs' := Except.ok.inj hx; exact .nil⟩
  | @cons x y xs ys first _ ih =>
    rw [List.mapM_cons] at hx
    obtain ⟨x', hx', hx⟩ := bind_eq_ok.mp hx
    obtain ⟨rest, hrest, ⟨⟩⟩ := bind_eq_ok.mp hx
    obtain ⟨y', hy', same⟩ := hf x y x' first hx'
    obtain ⟨ys', hys', others⟩ := ih hrest
    refine ⟨y' :: ys', ?_, .cons same others⟩
    rw [List.mapM_cons, hy', hys']
    rfl

theorem exists_of_mapM {f : Value → Except Failure Value} {xs xs' : List Value}
    (h : xs.mapM f = .ok xs') : ∀ x ∈ xs, ∃ y, f x = .ok y := by
  induction xs generalizing xs' with
  | nil => simp
  | cons x xs ih =>
    rw [List.mapM_cons] at h
    obtain ⟨y, hy, h⟩ := bind_eq_ok.mp h
    obtain ⟨rest, hrest, -⟩ := bind_eq_ok.mp h
    exact List.forall_mem_cons.mpr ⟨⟨y, hy⟩, ih hrest⟩

theorem eq_list_of_elements {v : Value} {items : List Value} (h : v.elements = .ok items)
    (set : v.isUnset = false) (objects : ∀ x ∈ items, ∃ fs, x = object fs) : v = list items := by
  cases v with
  | list xs => rw [Except.ok.inj h]
  | object fs =>
    cases fs with
    | nil => cases set
    | cons field fs =>
      obtain rfl := Except.ok.inj h
      obtain ⟨gs, key⟩ := objects _ List.mem_cons_self
      rcases field with ⟨_ | _ | _ | _ | _ | _, _⟩ <;> cases key
  | text s =>
    cases chars : s.toList with
    | nil =>
      rw [String.toList_eq_nil_iff.mp chars] at set
      cases set
    | cons c cs =>
      obtain rfl := Except.ok.inj h
      obtain ⟨gs, key⟩ := objects (text (String.singleton c)) (by simp [chars])
      cases key
  | _ => cases h

end CanaryRelease
