import CanaryRelease.Settings
import Mathlib.Data.List.Basic
import Mathlib.Data.List.TakeWhile

/-!
# Comma-separated lists

A setting lists its items between commas. However the list is written, only the labels matter that
stand between the blanks of its parts: `items_joined` reads them off the parts one by one, so two
lists of the same labels have the same items, in the order in which each of them lists the labels
(`perm_items`). Every text is such a list (`exists_joined`).
-/

namespace CanaryRelease

open Text

/-! ## Trimming -/

theorem Text.trimBy_append_append {p : Char → Bool} {before after : List Char} (cs : List Char)
    (hb : ∀ c ∈ before, p c = true) (ha : ∀ c ∈ after, p c = true) :
    trimBy p (before ++ cs ++ after) = trimBy p cs := by
  have reversed : ∀ c ∈ after.reverse, p c = true := fun c hc => ha c (List.mem_reverse.mp hc)
  rw [trimBy, trimBy, List.append_assoc, List.dropWhile_append_of_pos hb, List.dropWhile_append]
  split
  · rename_i dropped
    rw [List.isEmpty_iff.mp dropped, List.dropWhile_eq_nil_iff.mpr ha]
  · rw [List.reverse_append, List.dropWhile_append_of_pos reversed]

theorem Text.isBlank_comma : isBlank ',' = false := by decide

namespace Settings

/-! ## Parts of a list -/

/-- A part of a comma-separated list: a label without a comma, and the blanks around it. -/
structure Part where
  before : List Char
  label : List Char
  after : List Char
  blank_before : ∀ c ∈ before, isBlank c = true
  plain : ',' ∉ label
  blank_after : ∀ c ∈ after, isBlank c = true

namespace Part

/-- A part as it is written. -/
def chars (p : Part) : List Char := p.before ++ p.label ++ p.after

/-- A label with nothing around it. -/
def bare (label : List Char) (plain : ',' ∉ label) : Part :=
  ⟨[], label, [], List.forall_mem_nil _, plain, List.forall_mem_nil _⟩

@[simp] theorem label_bare (label : List Char) (plain : ',' ∉ label) :
    (bare label plain).label = label := rfl

@[simp] theorem chars_bare (label : List Char) (plain : ',' ∉ label) :
    (bare label plain).chars = label := List.append_nil _

theorem comma_not_mem_chars (p : Part) : ',' ∉ p.chars := by
  have blank : isBlank ',' ≠ true := by rw [isBlank_comma]; exact Bool.false_ne_true
  simp only [chars, List.mem_append, not_or]
  exact ⟨⟨fun h => blank (p.blank_before _ h), p.plain⟩, fun h => blank (p.blank_after _ h)⟩

end Part

/-- The list of some parts, as a variable holds it. -/
def joined (parts : List Part) : String := String.ofList ([','].intercalate (parts.map Part.chars))

theorem comma_not_mem_splitOn (cs : List Char) : ∀ part ∈ cs.splitOn ',', ',' ∉ part := by
  induction cs with
  | nil => simp
  | cons c cs ih =>
    obtain ⟨head, tail, split⟩ := List.exists_cons_of_ne_nil (List.splitOn_ne_nil ',' cs)
    rw [List.splitOn_cons_eq_if_modifyHead, split, List.modifyHead_cons]
    rw [split, List.forall_mem_cons] at ih
    by_cases comma : c = ','
    · rw [if_pos (by simpa using comma)]
      exact List.forall_mem_cons.mpr ⟨List.not_mem_nil, List.forall_mem_cons.mpr ih⟩
    · rw [if_neg (by simpa using comma)]
      exact List.forall_mem_cons.mpr
        ⟨List.not_mem_cons_of_ne_of_not_mem (Ne.symm comma) ih.1, ih.2⟩

/-- Every text is a list of parts. -/
theorem exists_joined (list : String) : ∃ parts : List Part, list = joined parts := by
  refine ⟨(list.toList.splitOn ',').pmap Part.bare (comma_not_mem_splitOn _), ?_⟩
  rw [joined, List.map_pmap]
  simp only [Part.chars_bare, List.pmap_eq_map, List.map_id']
  rw [List.intercalate_splitOn, String.ofList_toList]

/-! ## Items -/

/-- The item that a part amounts to: what is left without the blanks at its ends, if anything is. -/
def item? (part : List Char) : Option String :=
  if (trimBy isBlank part).isEmpty then none else some (String.ofList (trimBy isBlank part))

theorem items_eq_filterMap (list : String) :
    items list = (list.toList.splitOn ',').filterMap item? := by
  rw [items, List.filterMap_map]
  rfl

theorem Part.item?_chars (p : Part) : item? p.chars = item? p.label := by
  rw [item?, item?, chars, trimBy_append_append _ p.blank_before p.blank_after]

/-- The items of a list are those of its labels, in their order. -/
theorem items_joined (parts : List Part) :
    items (joined parts) = (parts.map Part.label).filterMap item? := by
  rw [items_eq_filterMap, joined, String.toList_ofList]
  cases parts with
  | nil => rfl
  | cons part parts =>
    have plain : ∀ cs ∈ (part :: parts).map Part.chars, ',' ∉ cs := fun cs hcs => by
      obtain ⟨p, -, rfl⟩ := List.mem_map.mp hcs
      exact p.comma_not_mem_chars
    rw [List.splitOn_intercalate ',' plain (List.cons_ne_nil _ _),
      List.filterMap_map, List.filterMap_map]
    exact List.filterMap_congr fun p _ => p.item?_chars

theorem perm_items {parts parts' : List Part}
    (h : (parts.map Part.label).Perm (parts'.map Part.label)) :
    (items (joined parts)).Perm (items (joined parts')) := by
  rw [items_joined, items_joined]
  exact h.filterMap item?

end Settings

end CanaryRelease
