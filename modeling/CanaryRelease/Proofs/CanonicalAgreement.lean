import CanaryRelease.Proofs.CanonicalTexts
import CanaryRelease.Proofs.JsonValues

/-!
# Canonical texts tell values apart

Values that JSON can say have the same canonical text exactly if they are the same up to the order
of fields, floating-point numbers aside (`canonical_eq_iff_agree`). The texts are compared level by
level: two values with one text have parts with one text under every key (`child?_of_canonical`),
and an object's text is known from the texts of its fields alone, since fields are sorted by keys
that are all different (`canonical_object_eq_iff`).
-/

namespace CanaryRelease

open Text

/-! ## Fields by their keys -/

namespace Fields

/-- The fields of an object, each with its key and the canonical text of its value. -/
def members (fs : Fields) : List (String × List Char) :=
  fs.map fun field => (field.1.text?.getD "", field.2.canonical)

/-- The same in the order of the keys. -/
def sortedMembers (fs : Fields) : List (String × List Char) :=
  (members fs).mergeSort fun a b => a.1 ≤ b.1

variable {fs gs : Fields}

theorem mem_members (h : TextKeyed fs) {s : String} {x : List Char} :
    (s, x) ∈ members fs ↔ (fs.get? (.text s)).map Value.canonical = some x := by
  induction fs with
  | nil => simp [members]
  | cons field fs ih =>
    obtain ⟨k, v⟩ := field
    obtain ⟨t, rfl⟩ : ∃ t : String, k = .text t := h.texts _ List.mem_cons_self
    have rest := ih h.tail
    unfold members at rest ⊢
    rw [List.map_cons, List.mem_cons, rest, get?_cons]
    by_cases same : s = t
    · subst same
      have missing : get? fs (.text s) = none := by
        cases found : get? fs (.text s) with
        | none => rfl
        | some y =>
          have mem := List.mem_map_of_mem (f := Prod.fst) (mem_of_get? found)
          exact absurd mem (List.nodup_cons.mp h.nodup).1
      simp [missing, Key.text?, eq_comm]
    · have other : ¬ (Key.text t).Same (.text s) := by simpa using Ne.symm same
      simp [same, other, Key.text?]

theorem nodup_members (h : TextKeyed fs) : ((members fs).map Prod.fst).Nodup := by
  have keys : ((members fs).map Prod.fst).map Key.text = fs.map Prod.fst := by
    rw [members, List.map_map, List.map_map]
    refine List.map_congr_left fun field hf => ?_
    obtain ⟨s, hs⟩ := h.texts field hf
    simp [hs, Key.text?]
  refine List.Nodup.of_map Key.text ?_
  rw [keys]
  exact h.nodup

theorem pairwise_sortedMembers (fs : Fields) :
    (sortedMembers fs).Pairwise fun a b => a.1 ≤ b.1 := by
  have sorted : (sortedMembers fs).Pairwise fun a b => decide (a.1 ≤ b.1) = true := by
    refine List.pairwise_mergeSort ?_ ?_ _
    · intro a b c hab hbc
      exact decide_eq_true (String.le_trans (of_decide_eq_true hab) (of_decide_eq_true hbc))
    · intro a b
      rcases String.le_total a.1 b.1 with h | h
      · simp [h]
      · simp [h]
  exact sorted.imp of_decide_eq_true

theorem sortedMembers_eq_iff (hf : TextKeyed fs) (hg : TextKeyed gs) :
    sortedMembers fs = sortedMembers gs ↔
      ∀ key, (fs.get? key).map Value.canonical = (gs.get? key).map Value.canonical := by
  have perm (fs : Fields) : (sortedMembers fs).Perm (members fs) := List.mergeSort_perm _ _
  have distinct {fs : Fields} (h : TextKeyed fs) : (members fs).Nodup :=
    List.Nodup.of_map Prod.fst (nodup_members h)
  constructor
  · intro same key
    have both : (members fs).Perm (members gs) := by
      refine (perm fs).symm.trans ?_
      rw [same]
      exact perm gs
    by_cases hk : ∃ s, key = .text s
    · obtain ⟨s, rfl⟩ := hk
      refine Option.ext fun x => ?_
      rw [← mem_members hf, ← mem_members hg]
      exact both.mem_iff
    · have other : ∀ s, key ≠ .text s := fun s h => hk ⟨s, h⟩
      rw [get?_of_not_text hf other, get?_of_not_text hg other]
  · intro same
    have both : (members fs).Perm (members gs) := by
      refine (List.perm_ext_iff_of_nodup (distinct hf) (distinct hg)).mpr ?_
      rintro ⟨s, x⟩
      rw [mem_members hf, mem_members hg, same]
    refine List.Perm.eq_of_pairwise ?_ (pairwise_sortedMembers fs) (pairwise_sortedMembers gs)
      ((perm fs).trans (both.trans (perm gs).symm))
    -- fields with one key are one field
    intro a b ha hb hab hba
    have key : a.1 = b.1 := String.le_antisymm hab hba
    have ma : a ∈ members gs := both.mem_iff.mp ((perm fs).mem_iff.mp ha)
    have mb : b ∈ members gs := (perm gs).mem_iff.mp hb
    exact List.inj_on_of_nodup_map (nodup_members hg) ma mb key

end Fields

namespace Value

/-! ## Texts of lists and objects -/

theorem canonicalItems_eq_map (items : List Value) : canonicalItems items = items.map canonical := by
  induction items with
  | nil => rfl
  | cons x items ih => rw [canonicalItems, ih, List.map_cons]

theorem canonicalFields_eq_map (fs : Fields) :
    canonicalFields fs = fs.map fun field => (field.1, field.2.canonical) := by
  induction fs with
  | nil => rfl
  | cons field fs ih =>
    obtain ⟨k, x⟩ := field
    rw [canonicalFields, ih, List.map_cons]

theorem canonical_list_eq_iff {xs ys : List Value} :
    (list xs).canonical = (list ys).canonical ↔ xs.map canonical = ys.map canonical := by
  rw [← canonicalItems_eq_map, ← canonicalItems_eq_map]
  constructor
  · exact listText_inj (chunk_canonicalItems xs) (chunk_canonicalItems ys)
  · intro same
    rw [canonical, canonical, same]

theorem canonical_object_of_textKeyed {fs : Fields} (h : fs.TextKeyed) :
    (object fs).canonical =
      objectText ((Fields.sortedMembers fs).map fun member => (member.1.toList, member.2)) := by
  have sorted : Fields.sortedMembers fs = (sortedByKey (canonicalFields fs)).map fun field =>
      (field.1.text?.getD "", field.2) := by
    rw [sortedByKey, List.map_mergeSort (s := fun a b => decide (a.1 ≤ b.1)), Fields.sortedMembers,
      Fields.members, canonicalFields_eq_map, List.map_map]
    · rfl
    · intro a ha b hb
      rw [canonicalFields_eq_map] at ha hb
      obtain ⟨f, hf, rfl⟩ := List.mem_map.mp ha
      obtain ⟨g, hg, rfl⟩ := List.mem_map.mp hb
      obtain ⟨s, hs⟩ := h.texts f hf
      obtain ⟨t, ht⟩ := h.texts g hg
      simp [hs, ht, Key.precedes, Key.text?]
  rw [canonical_object, sorted, List.map_map]
  refine congrArg objectText (List.map_congr_left fun field mem => ?_)
  rw [sortedByKey, List.mem_mergeSort, canonicalFields_eq_map] at mem
  obtain ⟨f, hf, rfl⟩ := List.mem_map.mp mem
  obtain ⟨s, hs⟩ := h.texts f hf
  simp [hs, Key.word, Key.text?]

theorem canonical_object_eq_iff {fs gs : Fields} (hf : fs.TextKeyed) (hg : gs.TextKeyed) :
    (object fs).canonical = (object gs).canonical ↔
      ∀ key, (fs.get? key).map canonical = (gs.get? key).map canonical := by
  rw [← Fields.sortedMembers_eq_iff hf hg, canonical_object_of_textKeyed hf,
    canonical_object_of_textKeyed hg]
  have chunk (fs : Fields) : ∀ m ∈ (Fields.sortedMembers fs).map
      (fun member => (member.1.toList, member.2)), Chunk m.2 := by
    intro m hm
    obtain ⟨member, mem, rfl⟩ := List.mem_map.mp hm
    obtain ⟨field, -, rfl⟩ := List.mem_map.mp (List.mem_mergeSort.mp mem)
    exact chunk_canonical field.2
  constructor
  · intro same
    have members := objectText_inj (chunk fs) (chunk gs) same
    refine (List.map_inj_right ?_).mp members
    rintro ⟨s, x⟩ ⟨t, y⟩ h
    obtain ⟨keys, values⟩ := Prod.mk.inj h
    exact Prod.ext (String.toList_inj.mp keys) values
  · intro same
    rw [same]

theorem length_of_canonical {fs gs : Fields} (h : (object fs).canonical = (object gs).canonical) :
    fs.length = gs.length := by
  rw [canonical_object, canonical_object] at h
  have chunk (fs : Fields) : ∀ m ∈ (sortedByKey (canonicalFields fs)).map
      (fun field => (field.1.word, field.2)), Chunk m.2 := by
    intro m hm
    obtain ⟨field, mem, rfl⟩ := List.mem_map.mp hm
    exact chunk_canonicalFields fs field (List.mem_mergeSort.mp mem)
  have size (fs : Fields) : ((sortedByKey (canonicalFields fs)).map
      fun field => (field.1.word, field.2)).length = fs.length := by
    rw [List.length_map, sortedByKey, List.length_mergeSort, canonicalFields_eq_map,
      List.length_map]
  rw [← size fs, objectText_inj (chunk fs) (chunk gs) h, size gs]

/-! ## Texts of values without parts -/

variable {floats : Binary64 → Bool} {a b : Value}

/-- The floating-point numbers of a set are told apart by their texts. -/
def FloatsApart (floats : Binary64 → Bool) : Prop :=
  ∀ x y, floats x = true → floats y = true → x.text jsonWords = y.text jsonWords → x = y

/-- The character that the text of a value opens with, unless that is a word. -/
def opening? : Value → Option Char
  | .text _ | .time _ => some '"'
  | .list _ => some '['
  | .object _ => some '\x7b'
  | _ => none

theorem head_canonical (v : Value) :
    ∃ c tail, v.canonical = c :: tail ∧
      (v.opening? = some c ∨ v.opening? = none ∧ isWordChar c = true) := by
  have word {v : Value} (none : v.opening? = none) (hw : ∀ c ∈ v.canonical, isWordChar c = true) :
      ∃ c tail, v.canonical = c :: tail ∧
        (v.opening? = some c ∨ v.opening? = Option.none ∧ isWordChar c = true) := by
    obtain ⟨c, tail, eq, -⟩ := (chunk_canonical v).head
    exact ⟨c, tail, eq, .inr ⟨none, hw c (by rw [eq]; exact List.mem_cons_self)⟩⟩
  cases v with
  | null => exact word rfl (List.all_eq_true.mp (by decide))
  | bool b =>
    cases b with
    | true => exact word rfl (List.all_eq_true.mp (by decide))
    | false => exact word rfl (List.all_eq_true.mp (by decide))
  | int n =>
    exact word rfl fun c hc => isWordChar_of_isNumberChar (isNumberChar_decimalDigits hc)
  | float x =>
    exact word rfl fun c hc => isWordChar_of_isNumberChar (Binary64.isNumberChar_text x c hc)
  | text s => exact ⟨_, _, rfl, .inl rfl⟩
  | time t => exact ⟨_, _, rfl, .inl rfl⟩
  | list items => exact ⟨_, _, rfl, .inl rfl⟩
  | object fields => exact ⟨_, _, rfl, .inl rfl⟩

theorem opening?_of_canonical (h : a.canonical = b.canonical) : a.opening? = b.opening? := by
  have mark {v : Value} {c : Char} (hc : v.opening? = some c) : isWordChar c = false := by
    cases v with
    | null | bool | int | float => cases hc
    | text | time | list | object =>
      obtain rfl := Option.some.inj hc
      decide
  obtain ⟨c, tail, hac, ha⟩ := head_canonical a
  obtain ⟨d, tail', hbd, hb⟩ := head_canonical b
  obtain ⟨rfl, -⟩ := List.cons.inj (hac.symm.trans (h.trans hbd))
  rcases ha with ha | ⟨ha, hw⟩
  · rcases hb with hb | ⟨hb, hw⟩
    · rw [ha, hb]
    · rw [mark ha] at hw
      cases hw
  · rcases hb with hb | ⟨hb, -⟩
    · rw [mark hb] at hw
      cases hw
    · rw [ha, hb]

theorem word_ne_number {k : Key} (h : k = .null ∨ ∃ b, k = .bool b) {w : List Char}
    (hw : ∀ c ∈ w, isNumberChar c = true) : k.word ≠ w := by
  have letter : 'u' ∈ k.word ∨ 's' ∈ k.word := by
    rcases h with rfl | ⟨b, rfl⟩
    · exact .inl (by decide)
    · cases b with
      | true => exact .inl (by decide)
      | false => exact .inr (by decide)
  rintro rfl
  rcases letter with h | h
  · exact absurd (hw _ h) (by decide)
  · exact absurd (hw _ h) (by decide)

/-- Values with one text are the same but for their parts, or floating-point numbers. -/
theorem outline_or_float_of_canonical (ha : a.isJson floats = true) (hb : b.isJson floats = true)
    (h : a.canonical = b.canonical) :
    a.outline = b.outline ∨
      ∃ x y, a = float x ∧ b = float y ∧ x.text jsonWords = y.text jsonWords := by
  have opens := opening?_of_canonical h
  have int (n : Int) : ∀ c ∈ decimalDigits n, isNumberChar c = true := fun _ =>
    isNumberChar_decimalDigits
  -- the first character tells texts, lists and objects, and no word is in characters of numbers
  cases a with
  | null =>
    cases b with
    | null => exact .inl rfl
    | bool c => cases c <;> exact absurd h (by decide)
    | int n => exact absurd h (word_ne_number (.inl rfl) (int n))
    | float x => exact absurd h (word_ne_number (.inl rfl) (Binary64.isNumberChar_text x))
    | text | time | list | object => cases opens
  | bool c =>
    cases b with
    | null => cases c <;> exact absurd h (by decide)
    | bool d => cases c <;> cases d <;> first | exact .inl rfl | exact absurd h (by decide)
    | int n => exact absurd h (word_ne_number (.inr ⟨c, rfl⟩) (int n))
    | float x => exact absurd h (word_ne_number (.inr ⟨c, rfl⟩) (Binary64.isNumberChar_text x))
    | text | time | list | object => cases opens
  | int n =>
    cases b with
    | null => exact absurd h.symm (word_ne_number (.inl rfl) (int n))
    | bool d => exact absurd h.symm (word_ne_number (.inr ⟨d, rfl⟩) (int n))
    | int m => exact .inl (congrArg Value.int (decimalDigits_inj h))
    | float x => exact absurd h.symm (Binary64.text_ne_decimalDigits x n)
    | text | time | list | object => cases opens
  | float x =>
    cases b with
    | null => exact absurd h.symm (word_ne_number (.inl rfl) (Binary64.isNumberChar_text x))
    | bool d =>
      exact absurd h.symm (word_ne_number (.inr ⟨d, rfl⟩) (Binary64.isNumberChar_text x))
    | int m => exact absurd h (Binary64.text_ne_decimalDigits x m)
    | float y => exact .inr ⟨x, y, rfl, rfl, h⟩
    | text | time | list | object => cases opens
  | text s =>
    cases b with
    | text t =>
      have texts := jsonText_append_inj (congrArg (· ++ []) h)
      exact .inl (congrArg Value.text (String.toList_inj.mp texts.1))
    | time => cases hb
    | null | bool | int | float | list | object => cases opens
  | time => cases ha
  | list xs =>
    cases b with
    | list ys => exact .inl rfl
    | null | bool | int | float | text | time | object => cases opens
  | object fs =>
    cases b with
    | object gs => exact .inl rfl
    | null | bool | int | float | text | time | list => cases opens

theorem outline_of_canonical (apart : FloatsApart floats) (ha : a.isJson floats = true)
    (hb : b.isJson floats = true) (h : a.canonical = b.canonical) : a.outline = b.outline := by
  obtain same | ⟨x, y, rfl, rfl, texts⟩ := outline_or_float_of_canonical ha hb h
  · exact same
  · exact congrArg Value.float (apart x y ha hb texts)

/-! ## Texts and agreement -/

theorem eq_object_of_outline {fs : Fields} (h : b.outline = (object fs).outline) :
    ∃ gs, b = object gs := by
  cases b with
  | object gs => exact ⟨gs, rfl⟩
  | _ => cases h

theorem eq_list_of_outline {xs : List Value} (h : b.outline = (list xs).outline) :
    ∃ ys, b = list ys := by
  cases b with
  | list ys => exact ⟨ys, rfl⟩
  | _ => cases h

theorem eq_of_outline (h : b.outline = a.outline) (hl : ∀ xs, a ≠ list xs)
    (ho : ∀ fs, a ≠ object fs) : b = a := by
  cases a with
  | list xs => exact absurd rfl (hl xs)
  | object fs => exact absurd rfl (ho fs)
  | _ =>
    cases b with
    | list | object => cases h
    | _ => exact h

theorem child?_of_canonical (ha : a.isJson floats = true) (hb : b.isJson floats = true)
    (h : a.canonical = b.canonical) (key : Key) :
    (a.child? key).map canonical = (b.child? key).map canonical := by
  obtain outlines | ⟨x, y, rfl, rfl, -⟩ := outline_or_float_of_canonical ha hb h
  · cases a with
    | list xs =>
      obtain ⟨ys, rfl⟩ := eq_list_of_outline outlines.symm
      have texts := canonical_list_eq_iff.mp h
      cases key with
      | int n =>
        simp only [child?]
        split
        · rw [← List.getElem?_map, ← List.getElem?_map, texts]
        · rfl
      | _ => rfl
    | object fs =>
      obtain ⟨gs, rfl⟩ := eq_object_of_outline outlines.symm
      exact (canonical_object_eq_iff (isJson_object.mp ha).1 (isJson_object.mp hb).1).mp h key
    | _ => rw [eq_of_outline outlines.symm (by simp) (by simp)]
  · rfl

theorem at?_of_canonical (ha : a.isJson floats = true) (hb : b.isJson floats = true)
    (h : a.canonical = b.canonical) (path : Path) :
    (a.at? path).map canonical = (b.at? path).map canonical := by
  induction path generalizing a b with
  | nil => exact congrArg some h
  | cons key path ih =>
    have parts := child?_of_canonical ha hb h key
    rw [at?_cons, at?_cons]
    cases hx : a.child? key with
    | none =>
      rw [hx] at parts
      rw [Option.map_eq_none_iff.mp parts.symm]
    | some x =>
      rw [hx] at parts
      obtain ⟨y, hy, texts⟩ := Option.map_eq_some_iff.mp parts.symm
      rw [hy]
      exact ih (isJson_child? ha hx) (isJson_child? hb hy) texts.symm

theorem agree_of_canonical (apart : FloatsApart floats) (ha : a.isJson floats = true)
    (hb : b.isJson floats = true) (h : a.canonical = b.canonical) : Agree [] a b := by
  intro path _
  have texts := at?_of_canonical ha hb h path
  unfold AgreeAt
  cases hx : a.at? path with
  | none =>
    rw [hx] at texts
    rw [Option.map_eq_none_iff.mp texts.symm]
  | some x =>
    rw [hx] at texts
    obtain ⟨y, hy, text⟩ := Option.map_eq_some_iff.mp texts.symm
    rw [hy]
    exact congrArg some (outline_of_canonical apart (isJson_at? hb hy) (isJson_at? ha hx) text)

theorem canonical_of_agree {a b : Value} (ha : a.isJson floats = true) (hb : b.isJson floats = true)
    (h : Agree [] a b) : a.canonical = b.canonical := by
  -- by induction on the value, whose parts have the same texts as the parts of the other one
  have parts (key : Key) :
      (a.child? key).map canonical = (b.child? key).map canonical := by
    have some_part := h.isSome_child? key
    cases hx : a.child? key with
    | none =>
      rw [hx] at some_part
      have missing : b.child? key = none := by simpa using some_part
      rw [missing]
    | some x =>
      rw [hx] at some_part
      obtain ⟨y, hy⟩ := Option.isSome_iff_exists.mp some_part
      have := sizeOf_child?_lt hx
      rw [hy]
      exact congrArg some
        (canonical_of_agree (isJson_child? ha hx) (isJson_child? hb hy) (h.child? hx hy))
  cases a with
  | list xs =>
    obtain ⟨ys, rfl⟩ := eq_list_of_outline h.outline
    refine canonical_list_eq_iff.mpr (List.ext_getElem? fun n => ?_)
    have item := parts (.int n)
    simp only [child?] at item
    simpa using item
  | object fs =>
    obtain ⟨gs, rfl⟩ := eq_object_of_outline h.outline
    exact (canonical_object_eq_iff (isJson_object.mp ha).1 (isJson_object.mp hb).1).mpr parts
  | _ => rw [eq_of_outline h.outline (by simp) (by simp)]
termination_by sizeOf a

/-- JSON values have the same canonical text if and only if they are the same up to the order of
fields. -/
theorem canonical_eq_iff_agree (apart : FloatsApart floats) (ha : a.isJson floats = true)
    (hb : b.isJson floats = true) : a.canonical = b.canonical ↔ Agree [] a b :=
  ⟨agree_of_canonical apart ha hb, canonical_of_agree ha hb⟩

end Value

end CanaryRelease
