import CanaryRelease.Proofs.JsonValues
import CanaryRelease.Proofs.TwinAgreement
import CanaryRelease.Proofs.Versions
import Mathlib.Data.List.Perm.Subperm

/-!
# Generations

A server counts the changes of an object's spec in its generation, and whoever runs the object notes
in its status which generation the status is about. An object is stale if that is an earlier one
than its own (`Value.IsStale`). Stale objects stay stale until somebody updates their status
(`Run.stale_since`): no write lowers a generation, and whatever is no update of the status leaves
the observed generation as it is.

A spec has changed if it is not alike what it was. Loose equality of values is undone place by
place (`Value.Keyed.exists_at?_of_alike`): if a place holds a text, the same place of a value that is alike
holds it too.
-/

namespace CanaryRelease

open PodTemplate

/-! ## Fields that are alike -/

namespace Fields

variable {fs gs : Fields} {key : Key} {x y : Value}

/-- Every key is there once. -/
def Keyed (fs : Fields) : Prop := (fs.map fun field => field.1.standard).Nodup

theorem isSome_get?_iff :
    (fs.get? key).isSome ↔ key.standard ∈ fs.map fun field => field.1.standard := by
  induction fs with
  | nil => simp
  | cons field fs ih =>
    obtain ⟨k, z⟩ := field
    rw [get?_cons, List.map_cons, List.mem_cons, ← ih]
    by_cases same : k.Same key
    · rw [if_pos same]
      exact ⟨fun _ => .inl same.symm, fun _ => rfl⟩
    · rw [if_neg same]
      exact ⟨.inr, fun h => h.resolve_left fun eq => same eq.symm⟩

theorem TextKeyed.keyed (h : TextKeyed fs) : Keyed fs := by
  have standard : fs.map (fun field => field.1.standard) = fs.map Prod.fst := by
    refine List.map_congr_left fun field hf => ?_
    obtain ⟨s, hs⟩ := h.texts field hf
    rw [hs]
    rfl
  rw [Keyed, standard]
  exact h.nodup

theorem exists_of_alikeFields (h : Value.alikeFields fs gs = true) (hx : fs.get? key = some x) :
    ∃ y, gs.get? key = some y ∧ x.alike y = true := by
  induction fs with
  | nil => cases hx
  | cons field fs ih =>
    obtain ⟨k, z⟩ := field
    rw [Value.alikeFields] at h
    split at h
    · rename_i y hy
      obtain ⟨here, rest⟩ := Bool.and_eq_true_iff.mp h
      rw [get?_cons] at hx
      split at hx
      · rename_i same
        obtain rfl := Option.some.inj hx
        exact ⟨y, (get?_congr gs same).symm.trans hy, here⟩
      · exact ih rest hx
    · cases h

theorem Keyed.exists_of_alikeFields (keyed : Keyed fs) (length : fs.length = gs.length)
    (h : Value.alikeFields fs gs = true) (hy : gs.get? key = some y) :
    ∃ x, fs.get? key = some x ∧ x.alike y = true := by
  have sub : (fs.map fun field => field.1.standard) ⊆ gs.map fun field => field.1.standard := by
    intro k mem
    obtain ⟨field, hf, rfl⟩ := List.mem_map.mp mem
    obtain ⟨z, hz⟩ := Option.isSome_iff_exists.mp (isSome_get?_iff.mpr mem)
    obtain ⟨w, hw, -⟩ := Fields.exists_of_alikeFields h hz
    exact isSome_get?_iff.mp (Option.isSome_of_eq_some hw)
  -- the keys are as many, so they are the same ones
  have perm := (keyed.subperm sub).perm_of_length_le (by simp [length])
  obtain ⟨x, hx⟩ := Option.isSome_iff_exists.mp
    (isSome_get?_iff.mpr (perm.mem_iff.mpr (isSome_get?_iff.mp (Option.isSome_of_eq_some hy))))
  obtain ⟨z, hz, alike⟩ := Fields.exists_of_alikeFields h hx
  obtain rfl := Option.some.inj (hy.symm.trans hz)
  exact ⟨x, hx, alike⟩

end Fields

/-! ## Values that are alike -/

namespace Value

variable {a b v x y old new : Value}

/-- Every object in a value has each of its keys once. -/
def Keyed (v : Value) : Prop := ∀ path fs, v.at? path = some (object fs) → Fields.Keyed fs

theorem keyed_of_isJson {floats : Binary64 → Bool} (h : v.isJson floats = true) : v.Keyed :=
  fun _ _ hfs => (isJson_object.mp (isJson_at? h hfs)).1.keyed

theorem Keyed.child {key : Key} (h : v.Keyed) (hx : v.child? key = some x) : x.Keyed :=
  fun path fs hfs => h (key :: path) fs (by rw [at?_cons, hx, Option.bind_some, hfs])

theorem object_alike {fs : Fields} (h : (object fs).alike b = true) :
    ∃ gs : Fields, b = object gs ∧ fs.length = gs.length ∧ alikeFields fs gs = true := by
  cases b with
  | object gs =>
    rw [alike, Bool.and_eq_true, decide_eq_true_iff] at h
    exact ⟨gs, rfl, h⟩
  | _ => simp [alike, sameQuantity, quantity?, toKey?] at h

theorem alike_object {gs : Fields} (h : a.alike (object gs) = true) :
    ∃ fs : Fields, a = object fs := by
  cases a with
  | object fs => exact ⟨fs, rfl⟩
  | _ => simp [alike, sameQuantity, quantity?, toKey?, Key.quantity?] at h

theorem exists_at?_of_alike (path : List String) (h : a.alike b = true)
    (hx : a.at? (path.map .text) = some x) :
    ∃ y, b.at? (path.map .text) = some y ∧ x.alike y = true := by
  induction path generalizing a b with
  | nil =>
    obtain rfl := Option.some.inj hx
    exact ⟨b, rfl, h⟩
  | cons s path ih =>
    obtain ⟨fs, z, rfl, hz, hx⟩ := at?_text_eq_some.mp hx
    obtain ⟨gs, rfl, -, fields⟩ := object_alike h
    obtain ⟨w, hw, alike⟩ := Fields.exists_of_alikeFields fields hz
    obtain ⟨y, hy, found⟩ := ih alike hx
    exact ⟨y, at?_text_eq_some.mpr ⟨gs, w, rfl, hw, hy⟩, found⟩

theorem Keyed.exists_at?_of_alike (path : List String) (keyed : a.Keyed) (h : a.alike b = true)
    (hy : b.at? (path.map .text) = some y) :
    ∃ x, a.at? (path.map .text) = some x ∧ x.alike y = true := by
  induction path generalizing a b with
  | nil =>
    obtain rfl := Option.some.inj hy
    exact ⟨a, rfl, h⟩
  | cons s path ih =>
    obtain ⟨gs, w, rfl, hw, hy⟩ := at?_text_eq_some.mp hy
    obtain ⟨fs, rfl⟩ := alike_object h
    obtain ⟨_, ⟨⟩, length, fields⟩ := object_alike h
    obtain ⟨z, hz, alike⟩ := (keyed [] fs rfl).exists_of_alikeFields length fields hw
    have below : z.Keyed := Keyed.child (v := .object fs) keyed hz
    obtain ⟨x, hx, found⟩ := ih below alike hy
    exact ⟨x, at?_text_eq_some.mpr ⟨fs, z, rfl, hz, hx⟩, found⟩

/-! ## Specs that differ -/

theorem at?_specOf (v : Value) (key : Key) (path : Path) :
    v.specOf.at? (key :: path) = v.at? (.text "spec" :: key :: path) := by
  cases v with
  | object fs =>
    rw [at?_object, specOf]
    cases Fields.get? fs (.text "spec") with
    | none => rfl
    | some spec => rfl
  | _ => rfl

theorem Keyed.specOf (h : v.Keyed) : v.specOf.Keyed := by
  intro path fs hfs
  cases path with
  | nil =>
    refine h ["spec"] fs ?_
    cases v with
    | object gs =>
      rw [at?_object_singleton]
      cases found : Fields.get? gs (.text "spec") with
      | none => simp [Value.specOf, found] at hfs
      | some spec => simpa [Value.specOf, found] using hfs
    | _ => cases hfs
  | cons key path => exact h _ fs (at?_specOf v key path ▸ hfs)

theorem Keyed.spec_changed (s : String) (path : List String) {text : String} (keyed : old.Keyed)
    (now : new.at? (.text "spec" :: .text s :: path.map .text) = some (.text text))
    (before : old.at? (.text "spec" :: .text s :: path.map .text) ≠ some (.text text)) :
    old.specOf.alike new.specOf = false := by
  rw [← at?_specOf] at now before
  refine Bool.eq_false_iff.mpr fun alike => before ?_
  obtain ⟨x, hx, found⟩ := keyed.specOf.exists_at?_of_alike (s :: path) alike now
  rw [eq_text_of_alike found] at hx
  exact hx

theorem spec_changed_of_removed (s : String) (path : List String)
    (before : old.at? (.text "spec" :: .text s :: path.map .text) = some x)
    (now : new.at? (.text "spec" :: .text s :: path.map .text) = none) :
    old.specOf.alike new.specOf = false := by
  rw [← at?_specOf] at now before
  refine Bool.eq_false_iff.mpr fun alike => ?_
  obtain ⟨y, hy, -⟩ := exists_at?_of_alike (s :: path) alike before
  rw [List.map_cons, now] at hy
  cases hy

/-! ## Stale objects -/

/-- The revision that an object's manifest asks for, zero if it is not set. -/
def generation (v : Value) : Value :=
  ((v.at? ["metadata", "generation"]).getD .null).orElse (.int 0)

/-- The revision that an object's status is about, zero if it is not set. -/
def observedGeneration (v : Value) : Value :=
  ((v.at? ["status", "observedGeneration"]).getD .null).orElse (.int 0)

/-- The status of an object is about an earlier revision than the object. -/
def IsStale (v : Value) : Prop :=
  ∃ g n : Int, v.generation = .int g ∧ v.observedGeneration = .int n ∧ n < g

/-- An object whose generations are counted: no key of it is there twice, its sections are objects,
and no generation has been observed that the object has not. -/
structure Counted (v : Value) : Prop where
  keyed : v.Keyed
  sections : ∀ s ∈ ["metadata", "spec", "status"], ∃ fs, v.getSection (.text s) = .ok (.object fs)
  observed : ∃ g n : Int, v.generation = .int g ∧ v.observedGeneration = .int n ∧ n ≤ g

theorem orElse_wire {found : Option Value} {n : Int}
    (h : (found.getD .null).orElse (.int 0) = .int n) :
    ((found.map wire).getD .null).orElse (.int 0) = .int n := by
  cases found with
  | none => exact h
  | some x =>
    cases x with
    | time t => cases h
    | list items =>
      cases items with
      | nil => exact h
      | cons item items => cases h
    | object fs =>
      cases fs with
      | nil => exact h
      | cons field fs => cases h
    | _ => exact h

theorem observed_unique {n l : Int} (status : new.wire.at? ["status"] = old.wire.at? ["status"])
    (hold : old.observedGeneration = .int n) (hnew : new.observedGeneration = .int l) : l = n := by
  have place (v : Value) : (v.at? ["status", "observedGeneration"]).map wire =
      (v.wire.at? ["status"]).bind fun status => status.at? ["observedGeneration"] := by
    rw [← at?_wire, ← at?_append]
    rfl
  have later := orElse_wire hnew
  have earlier := orElse_wire hold
  rw [place, status, ← place, earlier] at later
  exact (Value.int.inj later).symm

end Value

/-! ## Servers that count -/

namespace Moment

/-- A moment is no update of the status of the object at a key. -/
def KeepsStatus (m : Moment) (key : ObjectKey) : Prop :=
  ∀ new, m.after.get? key = some new → ∃ old, m.before.get? key = some old ∧
    new.wire.at? ["status"] = old.wire.at? ["status"]

/-- At a moment the generations of the object at a key are counted: a new object has the first one,
and one that takes the place of another one has the next one if its spec has changed. -/
structure Counts (m : Moment) (key : ObjectKey) : Prop where
  counted : ∀ v, m.after.get? key = some v → v.Counted
  first : m.event.Writes key → m.before.get? key = none →
    ∀ new, m.after.get? key = some new → new.generation = .int 1
  next : m.event.Writes key → ∀ old new g, m.before.get? key = some old →
    m.after.get? key = some new → old.generation = .int g →
      new.generation = .int (if old.specOf.alike new.specOf then g else g + 1)

variable {programs : Nat → Program Value} {past : List Moment} {m : Moment} {key : ObjectKey}

theorem Counts.stale (h : m.Counts key) (follows : m.Follows programs past)
    (kept : m.KeepsStatus key) (before : ∀ v, m.before.get? key = some v → v.IsStale) :
    ∀ v, m.after.get? key = some v → v.IsStale := by
  intro new hnew
  by_cases written : m.event.Writes key
  · obtain ⟨old, hold, status⟩ := kept new hnew
    obtain ⟨g, n, hg, hn, behind⟩ := before old hold
    obtain ⟨_, l, -, hl, -⟩ := (h.counted new hnew).observed
    obtain rfl := Value.observed_unique status hn hl
    refine ⟨_, l, h.next written old new g hold hnew hg, hl, ?_⟩
    split
    · exact behind
    · omega
  · rcases follows.get?_of_not_writes written with same | gone
    · exact before new (same ▸ hnew)
    · rw [gone] at hnew
      cases hnew

end Moment

variable {programs : Nat → Program Value} {start store : Store} {past since future : List Moment}
  {m : Moment} {key : ObjectKey}

/-- What was stale once is stale until its status is updated. -/
theorem Run.stale_since (run : Run programs start (past ++ since) store)
    (counts : ∀ m ∈ since, m.Counts key) (kept : ∀ m ∈ since, m.KeepsStatus key)
    (stale : ∀ s, Run programs start past s → ∀ v, s.get? key = some v → v.IsStale) :
    ∀ v, store.get? key = some v → v.IsStale := by
  -- by induction on the moments since: none lowers the generation or updates the status
  refine run.keeps (P := fun _ s => ∀ v, s.get? key = some v → v.IsStale) stale ?_
  rintro more m ⟨rest, rfl⟩ - follows before
  exact (counts m (by simp)).stale follows (kept m (by simp)) before

end CanaryRelease
