import CanaryRelease.Proofs.CommaLists

/-!
# Lists of settings compose

What a variable lists can be taken apart and put together at commas. `variable_lists_compose` says
so of every environment: a list of two lists has the items of the one and then those of the other;
an item is not empty and has neither a comma nor a blank at its ends; items that are listed again,
with blanks around them and blank parts in between, are read back as they were; and the settings of
an environment are refused exactly if nothing but blanks is listed for the pairing label.

Two facts about trimming carry this: what it leaves is trimmed (`isTrimmed_trimBy`), and what is
trimmed it leaves alone (`trimBy_of_isTrimmed`).
-/

namespace CanaryRelease

open Text

/-! ## Trimmed texts -/

namespace Text

variable {p : Char → Bool} {cs : List Char}

/-- Neither the first nor the last character of a text is one of a class. -/
structure IsTrimmed (p : Char → Bool) (cs : List Char) : Prop where
  first : ∀ c ∈ cs.head?, p c = false
  last : ∀ c ∈ cs.getLast?, p c = false

theorem not_of_mem_head?_dropWhile {c : Char} (h : c ∈ (cs.dropWhile p).head?) : p c = false := by
  have kept := List.head?_dropWhile_not p cs
  rw [Option.mem_def.mp h] at kept
  exact kept

theorem dropWhile_of_head? (h : ∀ c ∈ cs.head?, p c = false) : cs.dropWhile p = cs := by
  cases cs with
  | nil => rfl
  | cons c cs => exact List.dropWhile_cons_of_neg (by simp [h c rfl])

theorem isTrimmed_trimBy : IsTrimmed p (trimBy p cs) := by
  have start : trimBy p cs <+: cs.dropWhile p := by
    rw [← List.reverse_suffix, trimBy, List.reverse_reverse]
    exact List.dropWhile_suffix p
  constructor
  · intro c first
    -- the end was cut off a text that starts with the same character
    obtain ⟨tail, split⟩ := start
    have leads : c ∈ (cs.dropWhile p).head? := by
      rw [← split, List.head?_append, Option.mem_def.mp first]
      rfl
    exact not_of_mem_head?_dropWhile leads
  · intro c last
    rw [trimBy, List.getLast?_reverse] at last
    exact not_of_mem_head?_dropWhile last

theorem trimBy_of_isTrimmed (h : IsTrimmed p cs) : trimBy p cs = cs := by
  rw [trimBy, dropWhile_of_head? h.first, dropWhile_of_head?, List.reverse_reverse]
  intro c last
  exact h.last c (List.head?_reverse ▸ last)

theorem mem_of_mem_trimBy {c : Char} (h : c ∈ trimBy p cs) : c ∈ cs := by
  have kept := (List.dropWhile_sublist p).subset (List.mem_reverse.mp h)
  exact (List.dropWhile_sublist p).subset (List.mem_reverse.mp kept)

theorem trimBy_eq_nil_iff : trimBy p cs = [] ↔ ∀ c ∈ cs, p c = true := by
  rw [trimBy, List.reverse_eq_nil_iff, List.dropWhile_eq_nil_iff]
  constructor
  · intro rest
    rw [← List.dropWhile_eq_nil_iff, ← List.head?_eq_none_iff, Option.eq_none_iff_forall_not_mem]
    intro c first
    have blank := rest c (List.mem_reverse.mpr (List.mem_of_mem_head? first))
    simp [not_of_mem_head?_dropWhile first] at blank
  · intro blank c mem
    exact blank c ((List.dropWhile_sublist p).subset (List.mem_reverse.mp mem))

end Text

namespace Settings

variable {environment : Environment} {name default : String} {item : String} {part : List Char}

/-! ## Items -/

/-- What can be an item of a list. -/
structure IsItem (item : String) : Prop where
  nonempty : item ≠ ""
  plain : ',' ∉ item.toList
  trimmed : IsTrimmed isBlank item.toList

theorem item?_eq_none_iff : item? part = none ↔ ∀ c ∈ part, isBlank c = true := by
  rw [← trimBy_eq_nil_iff, item?]
  split
  · rename_i blank
    exact iff_of_true rfl (List.isEmpty_iff.mp blank)
  · rename_i kept
    exact iff_of_false (Option.some_ne_none _) fun blank => kept (List.isEmpty_iff.mpr blank)

theorem isItem_of_item? (plain : ',' ∉ part) (h : item? part = some item) : IsItem item := by
  rw [item?] at h
  split at h
  · cases h
  · rename_i kept
    obtain rfl := Option.some.inj h
    refine ⟨fun empty => kept ?_, ?_, ?_⟩
    · rw [String.ofList_eq_empty_iff] at empty
      exact List.isEmpty_iff.mpr empty
    · rw [String.toList_ofList]
      exact fun mem => plain (mem_of_mem_trimBy mem)
    · rw [String.toList_ofList]
      exact isTrimmed_trimBy

theorem IsItem.item? (h : IsItem item) : Settings.item? item.toList = some item := by
  rw [Settings.item?, trimBy_of_isTrimmed h.trimmed, String.ofList_toList, if_neg]
  rw [List.isEmpty_iff, String.toList_eq_nil_iff]
  exact h.nonempty

theorem isItem_of_mem {list : String} (h : item ∈ items list) : IsItem item := by
  rw [items_eq_filterMap] at h
  obtain ⟨part, mem, read⟩ := List.mem_filterMap.mp h
  exact isItem_of_item? (comma_not_mem_splitOn _ part mem) read

theorem items_append (a b : String) : items (a ++ "," ++ b) = items a ++ items b := by
  have chars : (a ++ "," ++ b).toList = a.toList ++ ',' :: b.toList := by simp
  rw [items_eq_filterMap, chars, List.splitOn_append_cons_self, List.filterMap_append,
    ← items_eq_filterMap, ← items_eq_filterMap]

/-- Parts that list items again: a part is blank if its label is empty, and the other labels are the
items in their order. -/
def ListsAgain (listed : List String) (parts : List Part) : Prop :=
  (parts.map Part.label).filter (· ≠ []) = listed.map String.toList

instance (listed : List String) (parts : List Part) : Decidable (ListsAgain listed parts) :=
  inferInstanceAs (Decidable (_ = _))

theorem filterMap_item?_of_filter {labels : List (List Char)} {listed : List String}
    (valid : ∀ item ∈ listed, IsItem item)
    (h : labels.filter (· ≠ []) = listed.map String.toList) : labels.filterMap item? = listed := by
  have empty (labels : List (List Char)) :
      (labels.filter (· ≠ [])).filterMap item? = labels.filterMap item? := by
    rw [List.filterMap_filter]
    refine List.filterMap_congr fun label _ => ?_
    by_cases none_left : label = []
    · rw [none_left]
      rfl
    · simp [none_left]
  rw [← empty, h, List.filterMap_map]
  calc listed.filterMap (item? ∘ String.toList)
      = listed.filterMap some := List.filterMap_congr fun item mem => (valid item mem).item?
    _ = listed := List.filterMap_some

theorem items_of_listsAgain {list : String} {parts : List Part}
    (h : ListsAgain (items list) parts) : items (joined parts) = items list := by
  rw [items_joined]
  exact filterMap_item?_of_filter (fun item => isItem_of_mem) h

/-! ## Settings -/

/-- Nothing but blanks is listed. -/
def ListsNothing (list : String) : Prop :=
  ∀ part ∈ list.toList.splitOn ',', ∀ c ∈ part, isBlank c = true

theorem items_eq_nil_iff {list : String} : items list = [] ↔ ListsNothing list := by
  simp only [items_eq_filterMap, List.filterMap_eq_nil_iff, item?_eq_none_iff, ListsNothing]

/-- What an environment lists as candidates for the pairing label. -/
def selectorList (environment : Environment) : String :=
  (environment.lookup "SELECTOR_LABELS").getD defaultSelectorLabels

theorem ofEnvironment_of_listsNothing (h : ListsNothing (selectorList environment)) :
    ofEnvironment environment = .error (.workload (.configuration .noSelectorLabels)) := by
  have none_listed : ofVariable environment "SELECTOR_LABELS" defaultSelectorLabels = [] :=
    items_eq_nil_iff.mpr h
  rw [ofEnvironment, none_listed]

theorem ofEnvironment_of_lists (h : ¬ ListsNothing (selectorList environment)) :
    ofEnvironment environment = .ok ⟨items (selectorList environment),
      ofVariable environment "INCLUDE_LABEL_PREFIX" ""⟩ := by
  have some_listed : ofVariable environment "SELECTOR_LABELS" defaultSelectorLabels ≠ [] :=
    mt items_eq_nil_iff.mp h
  unfold ofEnvironment
  split
  · exact absurd ‹_› some_listed
  · rfl

theorem exists_failure_iff :
    (∃ failure, ofEnvironment environment = .error failure) ↔
      ListsNothing (selectorList environment) := by
  constructor
  · rintro ⟨failure, refused⟩
    by_contra lists
    rw [ofEnvironment_of_lists lists] at refused
    cases refused
  · exact fun blank => ⟨_, ofEnvironment_of_listsNothing blank⟩

/-- An environment with a variable set to a list. -/
def withVariable (environment : Environment) (name list : String) : Environment :=
  (name, list) :: environment

theorem ofVariable_withVariable (list : String) :
    ofVariable (withVariable environment name list) name default = items list := by
  rw [ofVariable, withVariable, List.lookup_cons_self, Option.getD_some]

/-- A variable that is set to two lists with a comma in between lists what the two list; every item
is trimmed, not empty and without a comma; items that are listed again in other ways are read back;
and the settings of an environment are refused, as a configuration error, exactly if it lists
nothing as candidates for the pairing label, whatever its label prefixes are. -/
theorem variable_lists_compose (environment : Environment) (name default : String) :
    (∀ a b, ofVariable (withVariable environment name (a ++ "," ++ b)) name default =
      ofVariable (withVariable environment name a) name default ++
        ofVariable (withVariable environment name b) name default) ∧
    (∀ item ∈ ofVariable environment name default, IsItem item) ∧
    (∀ parts, ListsAgain (ofVariable environment name default) parts →
      ofVariable (withVariable environment name (joined parts)) name default =
        ofVariable environment name default) ∧
    (∀ prefixes, (∃ failure, ofEnvironment
        (withVariable environment "INCLUDE_LABEL_PREFIX" prefixes) = .error failure) ↔
      ListsNothing (selectorList environment)) ∧
    (ListsNothing (selectorList environment) → ofEnvironment environment =
      .error (.workload (.configuration .noSelectorLabels))) ∧
    (¬ ListsNothing (selectorList environment) → ofEnvironment environment =
      .ok ⟨items (selectorList environment),
        ofVariable environment "INCLUDE_LABEL_PREFIX" ""⟩) := by
  refine ⟨fun a b => ?_, fun item => isItem_of_mem, fun parts again => ?_, fun prefixes => ?_,
    ofEnvironment_of_listsNothing, ofEnvironment_of_lists⟩
  · rw [ofVariable_withVariable, ofVariable_withVariable, ofVariable_withVariable, items_append]
  · rw [ofVariable_withVariable]
    exact items_of_listsAgain again
  · have same : selectorList (withVariable environment "INCLUDE_LABEL_PREFIX" prefixes) =
        selectorList environment := rfl
    rw [exists_failure_iff, same]

/-- Two labels, a blank part between them, and blanks around them. -/
def sampleListing : Environment := [("SELECTOR_LABELS", "\tapp , ,\u00a0tier")]

/-- The two labels listed again, with other blanks and other blank parts. -/
def sampleParts : List Part := [
  { Part.bare [] List.not_mem_nil with
    before := [' '], blank_before := List.all_eq_true.mp rfl },
  { Part.bare "app".toList (by decide) with
    after := ['\n'], blank_after := List.all_eq_true.mp rfl },
  { Part.bare "tier".toList (by decide) with
    before := [' ', '\t'], blank_before := List.all_eq_true.mp rfl },
  Part.bare [] List.not_mem_nil]

theorem sampleListing_composes :
    ofVariable sampleListing "SELECTOR_LABELS" defaultSelectorLabels = ["app", "tier"] ∧
    IsItem "tier" ∧ joined sampleParts = " ,app\n, \ttier," ∧
    ofVariable (withVariable sampleListing "SELECTOR_LABELS" (joined sampleParts))
      "SELECTOR_LABELS" defaultSelectorLabels = ["app", "tier"] ∧
    ¬ ListsNothing (selectorList sampleListing) ∧
    ofEnvironment sampleListing = .ok ⟨["app", "tier"], []⟩ := by
  have listed : ofVariable sampleListing "SELECTOR_LABELS" defaultSelectorLabels =
      ["app", "tier"] := by decide +kernel
  have lists : ¬ ListsNothing (selectorList sampleListing) := by
    rw [← items_eq_nil_iff]
    decide +kernel
  obtain ⟨-, valid, again, -, -, accepted⟩ :=
    variable_lists_compose sampleListing "SELECTOR_LABELS" defaultSelectorLabels
  rw [listed] at valid again
  refine ⟨listed, valid "tier" (by decide), by decide +kernel, again sampleParts (by decide), lists,
    (accepted lists).trans ?_⟩
  decide +kernel

end Settings

end CanaryRelease
