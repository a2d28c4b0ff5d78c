import CanaryRelease.PodTemplate.Location
import CanaryRelease.PodTemplate.ScaleMarker
import CanaryRelease.Proofs.Places

/-!
# Pod specs and the marker in them

Where a workload's pod spec and the scale-to-zero marker stand, and what is changed when they are.
Changing the pod spec of a workload is a change at that place alone, whichever containers above it
are missing (`sameApart_withPodSpec`). Setting and removing the marker changes the marker's place
alone, and leaves a pod spec the same in what it says apart from the marker (`baseEntries`,
`withoutSelector`).
-/

namespace CanaryRelease.PodTemplate

open Value

/-- The place of a workload's pod spec. -/
def podSpecPlace : Path := ["spec", "template", "spec"]

/-- The place of the marker in a pod spec. -/
def markerInPodSpec : Path := ["nodeSelector", .text markerKey]

/-- The place of the marker in a workload. -/
def markerPlace : Path := podSpecPlace ++ markerInPodSpec

variable {workload podSpec changed : Value}

/-! ## Reading and changing the pod spec -/

theorem podSpec_eq_ok (h : PodTemplate.podSpec workload = .ok podSpec) :
    ∃ spec template, workload.getOr "spec" .empty = .ok spec ∧
      spec.getOr "template" .empty = .ok template ∧ template.getOr "spec" .empty = .ok podSpec := by
  unfold PodTemplate.podSpec at h
  obtain ⟨spec, hs, h⟩ := bind_eq_ok.mp h
  obtain ⟨template, ht, h⟩ := bind_eq_ok.mp h
  exact ⟨spec, template, hs, ht, h⟩

theorem podSpec_eq_getD (h : PodTemplate.podSpec workload = .ok podSpec) :
    podSpec = (workload.at? podSpecPlace).getD .empty := by
  obtain ⟨spec, template, hs, ht, hp⟩ := podSpec_eq_ok h
  obtain ⟨fs, rfl, rfl⟩ := getOr_eq_ok.mp hs
  obtain ⟨gs, hg, rfl⟩ := getOr_eq_ok.mp ht
  obtain ⟨ks, hk, rfl⟩ := getOr_eq_ok.mp hp
  rw [podSpecPlace, at?_object]
  cases found : fs.get? (.text "spec") with
  | none =>
    obtain rfl : gs = [] := by simpa [found, Value.empty, eq_comm] using hg
    obtain rfl : ks = [] := by simpa [Value.empty, eq_comm] using hk
    rfl
  | some x =>
    obtain rfl : x = object gs := by simpa [found] using hg
    rw [Option.bind_some, at?_object]
    cases found' : gs.get? (.text "template") with
    | none =>
      obtain rfl : ks = [] := by simpa [found', Value.empty, eq_comm] using hk
      rfl
    | some y =>
      obtain rfl : y = object ks := by simpa [found'] using hk
      rw [Option.bind_some, at?_object_singleton]

theorem wire_podSpec {stored : Value} (hm : stored.toManifest = .ok workload)
    (h : PodTemplate.podSpec workload = .ok podSpec) : podSpec.wire = podSpec := by
  rw [podSpec_eq_getD h]
  cases found : workload.at? podSpecPlace with
  | none => rfl
  | some x => exact wire_at? (wire_of_toManifest hm) found

/-- A changed pod spec stands at its place, and nothing else has changed. -/
theorem sameApart_withPodSpec {new : Value} {places : List Path}
    (h : PodTemplate.podSpec workload = .ok podSpec)
    (h' : withPodSpec workload new = .ok changed) (hne : places ≠ [])
    (same : SameApart places podSpec new) :
    SameApart (places.map (podSpecPlace ++ ·)) workload changed := by
  obtain ⟨spec, template, hs, ht, hp⟩ := podSpec_eq_ok h
  simp only [withPodSpec, bind_eq_ok, set_eq_ok] at h'
  obtain ⟨_, hs', _, ht', _, ⟨fs, rfl, rfl⟩, _, ⟨gs, rfl, rfl⟩, ks, rfl, rfl⟩ := h'
  obtain rfl := Except.ok.inj (hs.symm.trans hs')
  obtain rfl := Except.ok.inj (ht.symm.trans ht')
  have inTemplate := (isSection_of_getOr hp).sameApart_set hne same
  have inSpec := (isSection_of_getOr ht).sameApart_set (by simpa using hne) inTemplate
  have inWorkload := (isSection_of_getOr hs).sameApart_set (by simpa using hne) inSpec
  rw [List.map_map, List.map_map] at inWorkload
  exact inWorkload

theorem at?_withPodSpec {new : Value} (h : withPodSpec workload new = .ok changed) :
    changed.at? podSpecPlace = some new := by
  simp only [withPodSpec, bind_eq_ok, set_eq_ok] at h
  obtain ⟨_, -, _, -, _, ⟨fs, rfl, rfl⟩, _, ⟨gs, rfl, rfl⟩, ks, rfl, rfl⟩ := h
  rw [podSpecPlace, at?_set, if_pos rfl, at?_set, if_pos rfl, at?_set, if_pos rfl, at?_nil]

/-- The places of a workload and of the sections down to its pod spec. -/
def containers : List Path := [[], ["spec"], ["spec", "template"], podSpecPlace]

theorem objectAt_containers {fs : Fields} (h : PodTemplate.podSpec workload = .ok (.object fs)) :
    ∀ path ∈ containers, ObjectAt workload path := by
  obtain ⟨spec, template, hs, ht, hp⟩ := podSpec_eq_ok h
  obtain ⟨ws, rfl, -⟩ := getOr_eq_ok.mp hs
  obtain ⟨ss, rfl, -⟩ := getOr_eq_ok.mp ht
  obtain ⟨ts, rfl, -⟩ := getOr_eq_ok.mp hp
  have inTemplate := objectAt_of_getOr hp
  have inSpec := inTemplate.in_section (isSection_of_getOr ht)
  intro path hpath
  simp only [containers, List.mem_cons, List.not_mem_nil, or_false] at hpath
  rcases hpath with rfl | rfl | rfl | rfl
  · exact fun x hx => ⟨ws, (Option.some.inj hx).symm⟩
  · exact objectAt_of_getOr hs
  · exact (objectAt_of_getOr ht).in_section (isSection_of_getOr hs)
  · exact inSpec.in_section (isSection_of_getOr hs)

theorem exists_container {fs : Fields} (h : workload.at? podSpecPlace = some (.object fs)) :
    ∀ path ∈ containers, ∃ gs : Fields, workload.at? path = some (.object gs) := by
  intro path hpath
  simp only [containers, List.mem_cons, List.not_mem_nil, or_false] at hpath
  rcases hpath with rfl | rfl | rfl | rfl
  · exact exists_object_above (p := []) h
  · exact exists_object_above (p := ["spec"]) h
  · exact exists_object_above (p := ["spec", "template"]) h
  · exact ⟨fs, h⟩

/-- The pod spec that a target's primary is made from, empty if it is not set. -/
def sourcePodSpec (target : Value) : Value := ((target.at? podSpecPlace).getD .null).orElse .empty

theorem sourcePodSpec_of_podSpec {fs : Fields}
    (h : PodTemplate.podSpec workload = .ok (.object fs)) :
    sourcePodSpec workload = .object fs := by
  have stands := podSpec_eq_getD h
  unfold sourcePodSpec
  cases found : workload.at? podSpecPlace with
  | none =>
    rw [found] at stands
    exact stands.symm
  | some x =>
    rw [found] at stands
    rw [Option.getD_some, show x = .object fs from stands.symm, orElse_empty_object]

theorem sourcePodSpec_of_at? {fs : Fields} (h : workload.at? podSpecPlace = some (.object fs)) :
    sourcePodSpec workload = .object fs := by
  rw [sourcePodSpec, h, Option.getD_some, orElse_empty_object]

/-! ## Node selectors -/

/-- A pod spec apart from its node selector. -/
def withoutSelector : Value → Value
  | .object fs => .object (Fields.erase fs "nodeSelector")
  | v => v

/-- The node selector of a pod spec, empty if it is not set. -/
def selectorOf (podSpec : Value) : Value :=
  ((podSpec.child? "nodeSelector").getD .null).orElse .empty

theorem selectorOf_eq {fs entries : Fields}
    (h : (fs.get? "nodeSelector").getD .null = .object entries ∨
      (fs.get? "nodeSelector").getD .null = .null ∧ entries = []) :
    selectorOf (.object fs) = .object entries := by
  rw [selectorOf, child?]
  rcases h with found | ⟨found, rfl⟩
  · rw [found, orElse_empty_object]
  · rw [found]
    rfl

/-- The entries of a pod spec's node selector but for the marker. -/
def baseEntries (podSpec : Value) : Except Failure Fields := do
  return (← (selectorOf podSpec).toFields).erase markerKey

theorem baseEntries_of_selectorOf {entries : Fields} (h : selectorOf podSpec = .object entries) :
    baseEntries podSpec = .ok (entries.erase markerKey) := by
  unfold baseEntries
  rw [h]
  rfl

theorem getSection_selector (fs : Fields) :
    getSection (.object fs) "nodeSelector" = .ok (selectorOf (.object fs)) := rfl

theorem selectorEntries_object (fs : Fields) :
    selectorEntries (.object fs) = (selectorOf (.object fs)).toFields := rfl

theorem child?_withoutSelector {key : Key} (h : key ≠ .text "nodeSelector") :
    (withoutSelector podSpec).child? key = podSpec.child? key := by
  cases podSpec with
  | object fs =>
    change (Fields.erase fs _).get? key = Fields.get? fs key
    rw [Fields.get?_erase, if_neg (by simpa using h)]
  | _ => rfl

theorem exists_selector {b : Bool} (h : hasMarker podSpec = .ok b) :
    ∃ fs entries : Fields, podSpec = .object fs ∧ selectorOf podSpec = .object entries := by
  obtain ⟨selector, hs, h⟩ := bind_eq_ok.mp h
  obtain ⟨x, hx, -⟩ := bind_eq_ok.mp h
  obtain ⟨entries, rfl, -⟩ := get_eq_ok.mp hx
  obtain ⟨fs, rfl, -⟩ := getSection_eq_ok.mp hs
  exact ⟨fs, entries, rfl, Except.ok.inj hs⟩

theorem isSection_selectorOf (fs : Fields) :
    IsSection (.object fs) "nodeSelector" (selectorOf (.object fs)) :=
  isSection_of_getSection (getSection_selector fs)

/-! ## Setting the marker -/

theorem addMarker_eq_ok {fs entries : Fields} {marked : Value}
    (hs : selectorOf (.object fs) = .object entries) (h : addMarker (.object fs) = .ok marked) :
    marked = .object (fs.set "nodeSelector" (.object (entries.set markerKey markerValue))) := by
  unfold addMarker at h
  rw [selectorEntries_object, hs] at h
  exact (Except.ok.inj h).symm

theorem sameApart_addMarker {b : Bool} {marked : Value} (hb : hasMarker podSpec = .ok b)
    (h : addMarker podSpec = .ok marked) :
    SameApart [markerInPodSpec] podSpec marked ∧
      marked.at? markerInPodSpec = some markerValue := by
  obtain ⟨fs, entries, rfl, hs⟩ := exists_selector hb
  obtain rfl := addMarker_eq_ok hs h
  have isSelector := isSection_selectorOf fs
  rw [hs] at isSelector
  constructor
  · exact isSelector.sameApart_set (by simp) (sameApart_set entries markerKey markerValue)
  · rw [markerInPodSpec, at?_set, if_pos rfl, at?_set, if_pos rfl, at?_nil]

theorem addMarker_same {b : Bool} {marked : Value} (hb : hasMarker podSpec = .ok b)
    (h : addMarker podSpec = .ok marked) :
    withoutSelector marked = withoutSelector podSpec ∧ baseEntries marked = baseEntries podSpec ∧
      (podSpec.wire = podSpec → marked.wire = marked) ∧ ∃ fs, marked = .object fs := by
  obtain ⟨fs, entries, rfl, hs⟩ := exists_selector hb
  obtain rfl := addMarker_eq_ok hs h
  refine ⟨congrArg object (Fields.erase_set fs _ _), ?_, ?_, _, rfl⟩
  · have set : selectorOf (.object (fs.set "nodeSelector"
        (.object (entries.set markerKey markerValue)))) =
        .object (entries.set markerKey markerValue) := by
      rw [selectorOf, child?, Fields.get?_set_self, Option.getD_some, orElse_empty_object]
    unfold baseEntries
    rw [hs, set]
    exact congrArg Except.ok (Fields.erase_set entries _ _)
  · intro wire
    have entriesWire : (object entries).wire = object entries := by
      rw [← hs]
      exact wire_orElse (wire_getD wire rfl) rfl
    exact wire_set wire (wire_set entriesWire rfl)

/-! ## Removing the marker -/

theorem removeMarker_eq_ok {unmarked : Value} :
    removeMarker podSpec = .ok unmarked ↔
      ∃ fs base : Fields, podSpec = .object fs ∧ baseEntries podSpec = .ok base ∧
        unmarked = if base.isEmpty then .object (fs.erase "nodeSelector")
          else .object (fs.set "nodeSelector" (.object base)) := by
  have object_of {fs : Fields} :
      removeMarker (.object fs) = do
        let base ← baseEntries (.object fs)
        return if base.isEmpty then .object (fs.erase "nodeSelector")
          else .object (fs.set "nodeSelector" (.object base)) := by
    unfold removeMarker baseEntries
    rw [selectorEntries_object]
    cases (selectorOf (object fs)).toFields with
    | error e => rfl
    | ok entries =>
      change (if (entries.erase markerKey).isEmpty then _ else _) = Except.ok (if _ then _ else _)
      split
      · rfl
      · rfl
  constructor
  · intro h
    obtain ⟨entries, he, -⟩ := bind_eq_ok.mp h
    obtain ⟨selector, hs, -⟩ := bind_eq_ok.mp he
    obtain ⟨fs, rfl, -⟩ := getSection_eq_ok.mp hs
    rw [object_of] at h
    obtain ⟨base, hb, ⟨⟩⟩ := bind_eq_ok.mp h
    exact ⟨fs, base, rfl, hb, rfl⟩
  · rintro ⟨fs, base, rfl, hb, rfl⟩
    rw [object_of, hb]
    rfl

theorem child?_of_removeMarker {unmarked : Value} (h : removeMarker podSpec = .ok unmarked) :
    (∃ fs, unmarked = .object fs) ∧ ∃ base, baseEntries podSpec = .ok base ∧
      ∀ key, unmarked.child? key =
        if key = .text "nodeSelector" then if base.isEmpty then none else some (.object base)
        else podSpec.child? key := by
  obtain ⟨fs, base, rfl, hb, rfl⟩ := removeMarker_eq_ok.mp h
  by_cases none_left : base.isEmpty = true
  · rw [if_pos none_left]
    refine ⟨⟨_, rfl⟩, base, hb, fun key => ?_⟩
    rw [if_pos none_left, child?, Fields.get?_erase]
    simp only [Key.text_same, child?]
  · rw [if_neg none_left]
    refine ⟨⟨_, rfl⟩, base, hb, fun key => ?_⟩
    rw [if_neg none_left, child?, Fields.get?_set]
    simp only [Key.text_same, child?]

theorem removeMarker_congr {a b p q : Value} (hw : withoutSelector a = withoutSelector b)
    (he : baseEntries a = baseEntries b) (ha : removeMarker a = .ok p)
    (hb : removeMarker b = .ok q) (key : Key) : p.child? key = q.child? key := by
  obtain ⟨-, base, hbase, hp⟩ := child?_of_removeMarker ha
  obtain ⟨-, base', hbase', hq⟩ := child?_of_removeMarker hb
  obtain rfl := Except.ok.inj (hbase.symm.trans (he.trans hbase'))
  rw [hp, hq]
  split
  · rfl
  · rename_i other
    rw [← child?_withoutSelector other, hw, child?_withoutSelector other]

/-- `unmarked` is a pod spec without the marker, and without a node selector if there is nothing
else in it. -/
structure Unmarked (podSpec unmarked : Value) : Prop where
  object : ∃ fs, unmarked = .object fs
  others : ∀ key, key ≠ .text "nodeSelector" → unmarked.child? key = podSpec.child? key
  entries : ∀ key, unmarked.at? ["nodeSelector", key] =
    if key = .text markerKey then none else podSpec.at? ["nodeSelector", key]
  selector : unmarked.child? "nodeSelector" = none ↔
    ∀ key, key ≠ .text markerKey → podSpec.at? ["nodeSelector", key] = none

theorem get?_erase_marker (entries : Fields) (key : Key) :
    (entries.erase markerKey).get? key =
      if key = .text markerKey then none else entries.get? key := by
  rw [Fields.get?_erase]
  simp only [Key.text_same]

theorem isEmpty_erase_marker {entries : Fields} :
    (entries.erase markerKey).isEmpty = true ↔
      ∀ key, key ≠ .text markerKey → entries.get? key = none := by
  rw [List.isEmpty_iff, Fields.eq_nil_iff_get?]
  refine forall_congr' fun key => ?_
  rw [get?_erase_marker, ite_eq_left_iff]

/-- The removal of the marker leaves a pod spec unmarked, and so it does anything that only differs
from the pod spec by having the entries of the node selector in an object. -/
theorem unmarked_of_removeMarker {plain unmarked : Value} {entries : Fields}
    (removed : removeMarker podSpec = .ok unmarked)
    (read : (selectorOf podSpec).toFields = .ok entries)
    (others : ∀ key, key ≠ .text "nodeSelector" → plain.child? key = podSpec.child? key)
    (here : ∀ key, plain.at? ["nodeSelector", key] = entries.get? key) :
    Unmarked plain unmarked := by
  have base : baseEntries podSpec = .ok (entries.erase markerKey) := by
    rw [baseEntries, read]
    rfl
  obtain ⟨isObject, _, base', children⟩ := child?_of_removeMarker removed
  obtain rfl := Except.ok.inj (base.symm.trans base')
  refine ⟨isObject, fun key other => ?_, fun key => ?_, ?_⟩
  · rw [children, if_neg other, others key other]
  · rw [at?_cons, children, if_pos rfl, here, ← get?_erase_marker]
    split
    · rename_i none_left
      rw [List.isEmpty_iff.mp none_left]
      rfl
    · exact at?_object_singleton _ key
  · simp only [here, ← isEmpty_erase_marker]
    rw [children, if_pos rfl]
    split
    · rename_i none_left
      simp [none_left]
    · rename_i some_left
      simp [some_left]

theorem exists_unmarked {fs : Fields} (typed : ObjectAt (.object fs) ["nodeSelector"]) :
    ∃ unmarked, removeMarker (.object fs) = .ok unmarked ∧ Unmarked (.object fs) unmarked := by
  obtain ⟨entries, he⟩ : ∃ entries : Fields, selectorOf (.object fs) = .object entries :=
    exists_orElse_of_objectAt typed
  have isSelector := isSection_selectorOf fs
  rw [he] at isSelector
  have removed := removeMarker_eq_ok.mpr ⟨fs, _, rfl, baseEntries_of_selectorOf he, rfl⟩
  refine ⟨_, removed, unmarked_of_removeMarker removed (congrArg toFields he) (fun _ _ => rfl) ?_⟩
  intro key
  rw [← isSelector key [], at?_object_singleton]

/-! ## Selectors that are no objects -/

theorem exists_pairField {index : Nat} {read fields : Fields} {entries : List Value}
    (h : pairFields index read entries = .ok fields) :
    ∀ entry ∈ entries, ∃ i field, pairField i entry = .ok field := by
  induction entries generalizing index read with
  | nil => simp
  | cons entry entries ih =>
    obtain ⟨field, hf, h⟩ := bind_eq_ok.mp h
    intro x hx
    rcases List.mem_cons.mp hx with rfl | hx
    · exact ⟨index, field, hf⟩
    · exact ih h x hx

theorem length_eq_two_of_pairField {index : Nat} {s : String} {field : Key × Value}
    (h : pairField index (.text s) = .ok field) : s.toList.length = 2 := by
  obtain ⟨items, hi, h⟩ := bind_eq_ok.mp h
  obtain rfl := Except.ok.inj hi
  split at h
  · rename_i two
    simpa using congrArg List.length two
  · cases h

theorem eq_empty_of_toFields {s : String} {fields : Fields} (h : (text s).toFields = .ok fields) :
    s = "" := by
  obtain ⟨items, hi, h⟩ := bind_eq_ok.mp h
  obtain rfl := Except.ok.inj hi
  cases hs : s.toList with
  | nil => exact String.toList_eq_nil_iff.mp hs
  | cons char chars =>
    obtain ⟨i, field, h⟩ := exists_pairField h (.text (String.singleton char)) (by simp [hs])
    exact absurd (length_eq_two_of_pairField h) (by simp)

theorem eq_text_of_alike {v : Value} {s : String} (h : v.alike (.text s) = true) : v = .text s := by
  cases v with
  | text t => simpa [alike] using h
  | _ => simp [alike, sameQuantity, quantity?, toKey?, Key.quantity?] at h

theorem exists_entries_of_mentions {selector : Value} {fields : Fields}
    (hm : selector.mentions markerKey = .ok true) (hf : selector.toFields = .ok fields) :
    ∃ entries, selector = .object entries := by
  cases selector with
  | object entries => exact ⟨entries, rfl⟩
  | list items =>
    obtain ⟨x, hx, found⟩ := List.any_eq_true.mp (Except.ok.inj hm)
    obtain rfl := eq_text_of_alike found
    obtain ⟨i, field, h⟩ := exists_pairField hf _ hx
    exact absurd (length_eq_two_of_pairField h) (by decide)
  | text s =>
    obtain rfl := eq_empty_of_toFields hf
    exact absurd (Except.ok.inj hm) (by decide)
  | _ => cases hm

/-- `plain` is a pod spec with the entries of its node selector in an object: the pod spec itself if
the node selector is an object or not set, and otherwise with the object that the pairs of the node
selector amount to. -/
inductive PlainSelector : Value → Value → Prop where
  | same {fs : Fields} (typed : SectionAt (.object fs) ["nodeSelector"]) :
      PlainSelector (.object fs) (.object fs)
  | paired {fs entries : Fields} {pairs : List Value}
      (given : fs.get? "nodeSelector" = some (.list pairs))
      (amounts : (Value.list pairs).toFields = .ok entries) :
      PlainSelector (.object fs) (.object (fs.set "nodeSelector" (.object entries)))

/-- Whatever shape a node selector has, the marker is not among its entries after the removal. -/
theorem exists_plain {unmarked : Value} (removed : removeMarker podSpec = .ok unmarked) :
    ∃ plain, PlainSelector podSpec plain ∧ Unmarked plain unmarked := by
  obtain ⟨fs, base, rfl, hb, -⟩ := removeMarker_eq_ok.mp removed
  obtain ⟨entries, read, -⟩ := bind_eq_ok.mp hb
  by_cases typed : SectionAt (.object fs) ["nodeSelector"]
  · obtain ⟨gs, hg⟩ := typed.exists_getSection
    have isSelector := isSection_of_getSection hg
    have given : selectorOf (.object fs) = .object gs := Except.ok.inj hg
    refine ⟨_, .same typed, unmarked_of_removeMarker removed (congrArg toFields given)
      (fun _ _ => rfl) fun key => ?_⟩
    rw [← isSelector key [], at?_object_singleton]
  · obtain ⟨x, found, set, other⟩ : ∃ x, fs.get? "nodeSelector" = some x ∧ x.isUnset = false ∧
        ∀ gs, x ≠ .object gs := by
      simpa [SectionAt, at?_object_singleton] using typed
    have selector : selectorOf (.object fs) = x := by
      rw [selectorOf, child?, found, Option.getD_some, orElse, if_neg (by simp [set])]
    rw [selector] at read
    obtain ⟨pairs, rfl⟩ : ∃ pairs, x = .list pairs := by
      cases x with
      | object gs => exact absurd rfl (other gs)
      | list pairs => exact ⟨pairs, rfl⟩
      | text s =>
        obtain rfl := eq_empty_of_toFields read
        cases set
      | _ => cases read
    refine ⟨_, .paired found read, unmarked_of_removeMarker removed (by rwa [selector]) ?_ ?_⟩
    · intro key apart
      rw [child?, child?, Fields.get?_set, if_neg (by simpa using apart)]
    · intro key
      rw [at?_set, if_pos rfl, at?_object_singleton]

/-- Removing the marker removes one entry of the node selector, and with it a selector that has no
other. -/
theorem sameApart_removeMarker {selector unmarked : Value}
    (hs : podSpec.getSection "nodeSelector" = .ok selector)
    (hm : selector.mentions markerKey = .ok true) (h : removeMarker podSpec = .ok unmarked) :
    SameApart [markerInPodSpec] podSpec unmarked ∧ unmarked.at? markerInPodSpec = none := by
  obtain ⟨fs, base, rfl, hbase, rfl⟩ := removeMarker_eq_ok.mp h
  obtain rfl := Except.ok.inj (hs.symm.trans (getSection_selector fs))
  obtain ⟨entries, he, rfl⟩ : ∃ entries : Fields, selectorOf (.object fs) = .object entries ∧
      base = entries.erase markerKey := by
    obtain ⟨fields, hf, hbase⟩ := bind_eq_ok.mp hbase
    obtain ⟨entries, he⟩ := exists_entries_of_mentions hm hf
    rw [he] at hf
    obtain rfl : entries = fields := Except.ok.inj hf
    exact ⟨entries, he, (Except.ok.inj hbase).symm⟩
  have isSelector := isSection_selectorOf fs
  rw [he] at isSelector
  have erased := sameApart_erase entries markerKey
  split
  · rename_i none_left
    rw [List.isEmpty_iff.mp none_left] at erased
    refine ⟨isSelector.sameApart_erase (by simp) erased, ?_⟩
    rw [markerInPodSpec, at?_erase, if_pos rfl]
  · refine ⟨isSelector.sameApart_set (by simp) erased, ?_⟩
    rw [markerInPodSpec, at?_set, if_pos rfl, at?_erase, if_pos rfl]

end CanaryRelease.PodTemplate
