import CanaryRelease.Proofs.CallWrites
import CanaryRelease.Proofs.Revisions

/-!
# The states of a target's scaling

A target is in one of two states, down or up; until it is first scaled down it is up as it was found
(`Scale`). What a target is in a state is a function of what it was found as (`Scale.target`). The
marker is all that scaling changes (`Stands`), which determines the target up to the order of fields
(`Stands.agree`) and keeps the fingerprint of its pod template (`Stands.exists_fingerprint`).
-/

namespace CanaryRelease

open Program Workload PodTemplate Value

/-- Where the scaling of a target stands. -/
inductive Scale where
  /-- The target is as it was found. -/
  | untouched
  | down
  | up
  deriving DecidableEq, Repr

namespace Scale

/-- Where the scaling stands after another call: only a target that is down is scaled up. -/
def after : Scale → Operation → Scale
  | _, .scaleToZero => down
  | down, .scaleFromZero => up
  | down, .finalize => up
  | scale, _ => scale

/-- The entries of a pod spec's node selector; there are none if it is null or missing. -/
def entries (podSpec : Value) : Except Failure Fields := do
  match ← podSpec.get "nodeSelector" with
  | .object entries => .ok entries
  | .null => .ok []
  | _ => .error .malformed

/-- The pod spec of a target: the one that was found, with the marker among the entries of its node
selector, or with those entries alone and no node selector if there are none. -/
def podSpec (scale : Scale) (found : Value) : Except Failure Value := do
  let entries ← entries found
  match scale with
  | untouched => return found
  | down => found.set "nodeSelector" (.object (entries.set markerKey markerValue))
  | up =>
    if entries.isEmpty then found.erase "nodeSelector"
    else found.set "nodeSelector" (.object entries)

/-- A target that was found, as its scaling leaves it. -/
def target (scale : Scale) (found : Value) : Except Failure Value := do
  match scale with
  | untouched => return found
  | down | up => withPodSpec found (← scale.podSpec (← PodTemplate.podSpec found))

end Scale

/-! ## Workloads whose pod spec can be read -/

/-- A workload whose pod spec, and all it lies in, is an object or missing, and the node selector in
it an object, null or missing. -/
structure Readable (workload : Value) : Prop where
  sections : ∀ path ∈ containers, ObjectAt workload path
  selector : ∀ x, workload.at? selectorPlace = some x → x = .null ∨ ∃ fs, x = .object fs

theorem at?_podSpec {workload podSpec : Value} (h : PodTemplate.podSpec workload = .ok podSpec)
    (key : Key) (path : Path) :
    podSpec.at? (key :: path) = workload.at? (podSpecPlace ++ key :: path) := by
  rw [podSpec_eq_getD h, at?_append]
  cases workload.at? podSpecPlace with
  | none => rfl
  | some x => rfl

theorem exists_withPodSpec {workload podSpec : Value}
    (h : PodTemplate.podSpec workload = .ok podSpec) (new : Value) :
    ∃ changed : Fields, withPodSpec workload new = .ok (.object changed) := by
  obtain ⟨spec, template, hs, ht, hp⟩ := podSpec_eq_ok h
  obtain ⟨fs, rfl, -⟩ := getOr_eq_ok.mp hs
  obtain ⟨gs, rfl, -⟩ := getOr_eq_ok.mp ht
  obtain ⟨ks, rfl, -⟩ := getOr_eq_ok.mp hp
  exact ⟨_, bind_eq_ok.mpr ⟨_, hs, bind_eq_ok.mpr ⟨_, ht, rfl⟩⟩⟩

theorem exists_podSpec {workload : Value} (h : ∀ path ∈ containers, ObjectAt workload path) :
    ∃ spec : Fields, PodTemplate.podSpec workload = .ok (.object spec) := by
  obtain ⟨fs, rfl⟩ := h [] (by simp [containers]) workload rfl
  obtain ⟨spec, hs⟩ := exists_getD_of_objectAt (h ["spec"] (by simp [containers]))
  have inSpec := isSection_getD_empty fs "spec"
  rw [hs] at inSpec
  have template := (h ["spec", "template"] (by simp [containers])).of_isSection inSpec
  obtain ⟨ts, ht⟩ := exists_getD_of_objectAt template
  have inTemplate := isSection_getD_empty spec "template"
  rw [ht] at inTemplate
  have podSpecAt := (h podSpecPlace (by simp [containers])).of_isSection inSpec
  obtain ⟨ps, hp⟩ := exists_getD_of_objectAt (podSpecAt.of_isSection inTemplate)
  refine ⟨ps, bind_eq_ok.mpr ⟨.object spec, getOr_eq_ok.mpr ⟨fs, rfl, hs.symm⟩, ?_⟩⟩
  refine bind_eq_ok.mpr ⟨.object ts, getOr_eq_ok.mpr ⟨spec, rfl, ht.symm⟩, ?_⟩
  exact getOr_eq_ok.mpr ⟨ts, rfl, hp.symm⟩

/-- What is read from a workload: the fields of its pod spec, and the entries of the node selector
in that. -/
structure Reads (workload : Value) (spec entries : Fields) : Prop where
  podSpec : PodTemplate.podSpec workload = .ok (.object spec)
  selector : (spec.get? "nodeSelector").getD .null = .object entries ∨
    (spec.get? "nodeSelector").getD .null = .null ∧ entries = []

theorem Readable.exists_reads {workload : Value} (h : Readable workload) :
    ∃ spec entries : Fields, Reads workload spec entries := by
  obtain ⟨spec, podSpec⟩ := exists_podSpec h.sections
  have inside : spec.get? "nodeSelector" = workload.at? selectorPlace := by
    rw [← at?_object_singleton]
    exact at?_podSpec podSpec "nodeSelector" []
  have selector := h.selector
  rw [← inside] at selector
  have not_set (hx : (spec.get? "nodeSelector").getD .null = .null) : Reads workload spec [] :=
    ⟨podSpec, .inr ⟨hx, rfl⟩⟩
  cases stands : spec.get? "nodeSelector" with
  | none =>
    refine ⟨spec, [], not_set ?_⟩
    rw [stands]
    rfl
  | some x =>
    rcases selector x stands with rfl | ⟨entries, rfl⟩
    · refine ⟨spec, [], not_set ?_⟩
      rw [stands]
      rfl
    · refine ⟨spec, entries, podSpec, .inl ?_⟩
      rw [stands]
      rfl

theorem Reads.entries_eq {workload : Value} {spec entries : Fields}
    (h : Reads workload spec entries) : Scale.entries (.object spec) = .ok entries := by
  rcases h.selector with found | ⟨found, rfl⟩
  · exact bind_eq_ok.mpr ⟨.object entries, get_eq_ok.mpr ⟨spec, rfl, found.symm⟩, rfl⟩
  · exact bind_eq_ok.mpr ⟨.null, get_eq_ok.mpr ⟨spec, rfl, found.symm⟩, rfl⟩

theorem Reads.get?_marker {workload : Value} {spec entries : Fields}
    (h : Reads workload spec entries) : entries.get? markerKey = workload.at? markerPlace := by
  have inside := isSection_selectorOf spec markerKey []
  rw [selectorOf_eq h.selector, at?_object_singleton] at inside
  rw [inside, markerPlace, markerInPodSpec, ← at?_podSpec h.podSpec]

/-! ## Targets that can be scaled -/

/-- A target whose pod spec, and all it lies in, is an object or missing. Its node selector is an
object without the marker, null or missing. -/
structure Unscaled (found : Value) : Prop where
  sections : ∀ path ∈ containers, ObjectAt found path
  selector : ∀ x, found.at? selectorPlace = some x →
    x = .null ∨ ∃ entries : Fields, x = .object entries ∧ entries.get? markerKey = none

namespace Unscaled

variable {found : Value}

theorem readable (h : Unscaled found) : Readable found where
  sections := h.sections
  selector x hx := (h.selector x hx).imp_right fun ⟨entries, hx, _⟩ => ⟨entries, hx⟩

theorem at?_marker (h : Unscaled found) : found.at? markerPlace = none := by
  show found.at? (selectorPlace ++ [.text markerKey]) = none
  rw [at?_append]
  cases stands : found.at? selectorPlace with
  | none => rfl
  | some x =>
    rw [Option.bind_some]
    rcases h.selector x stands with rfl | ⟨entries, rfl, marker⟩
    · rfl
    · rw [at?_object_singleton, marker]

end Unscaled

/-! ## What stays when a target is scaled -/

/-- The places of an object that are filled when it is written. -/
def filledPlaces : List Path := ["apiVersion"] :: ["kind"] :: serverPlaces

/-- `now` is what a target that was found is after it was scaled. Nothing has changed but the marker
and what a write fills; the pod spec is there, and no node selector is left empty. -/
structure Stands (scale : Scale) (found now : Value) : Prop where
  same : SameApart (markerPlace :: filledPlaces) found now
  untouched : scale = .untouched → now = found
  sections : scale ≠ .untouched →
    ∀ path ∈ containers, ∃ fs : Fields, now.at? path = some (.object fs)
  marker : now.at? markerPlace = if scale = .down then some markerValue else none
  selector : scale = .up → now.at? selectorPlace = none ∨
    ∃ entries : Fields, entries ≠ [] ∧ now.at? selectorPlace = some (.object entries)

theorem Unscaled.stands_untouched {found : Value} (h : Unscaled found) :
    Stands .untouched found found :=
  ⟨.refl _ _, fun _ => rfl, nofun, h.at?_marker, nofun⟩

theorem Stands.readable {scale : Scale} {found now : Value} (h : Stands scale found now)
    (unscaled : Unscaled found) : Readable now := by
  by_cases untouched : scale = .untouched
  · rw [h.untouched untouched]
    exact unscaled.readable
  constructor
  · intro path hp x hx
    obtain ⟨fs, stands⟩ := h.sections untouched path hp
    exact ⟨fs, Option.some.inj (hx.symm.trans stands)⟩
  · intro x hx
    right
    cases scale with
    | untouched => exact absurd rfl untouched
    | down =>
      have marker : now.at? (selectorPlace ++ [.text markerKey]) = some markerValue := h.marker
      obtain ⟨fs, stands⟩ := exists_object_above marker
      exact ⟨fs, Option.some.inj (hx.symm.trans stands)⟩
    | up =>
      rcases h.selector rfl with none_left | ⟨fs, -, stands⟩
      · rw [none_left] at hx
        cases hx
      · exact ⟨fs, Option.some.inj (hx.symm.trans stands)⟩

theorem exists_changed {found : Value} {spec new : Fields}
    (h : PodTemplate.podSpec found = .ok (.object spec))
    (same : SameApart [markerInPodSpec] (.object spec) (.object new)) :
    ∃ changed : Fields, withPodSpec found (.object new) = .ok (.object changed) ∧
      SameApart [markerPlace] found (.object changed) ∧
      (∀ path, (Value.object changed).at? (podSpecPlace ++ path) = (Value.object new).at? path) ∧
      ∀ path ∈ containers, ∃ fs : Fields, (Value.object changed).at? path = some (.object fs) := by
  obtain ⟨changed, hc⟩ := exists_withPodSpec h (.object new)
  have stands := at?_withPodSpec hc
  refine ⟨changed, hc, sameApart_withPodSpec h hc (by simp) same, ?_, exists_container stands⟩
  intro path
  rw [at?_append, stands, Option.bind_some]

theorem Scale.target_eq_ok {scale : Scale} {found podSpec new changed : Value}
    (scaled : scale ≠ .untouched) (hp : PodTemplate.podSpec found = .ok podSpec)
    (hn : scale.podSpec podSpec = .ok new) (hc : withPodSpec found new = .ok changed) :
    scale.target found = .ok changed := by
  have made : (do withPodSpec found (← scale.podSpec (← PodTemplate.podSpec found))) =
    .ok changed := bind_eq_ok.mpr ⟨_, hp, bind_eq_ok.mpr ⟨_, hn, hc⟩⟩
  cases scale with
  | untouched => exact absurd rfl scaled
  | down | up => exact made

theorem exists_target_of_podSpec {scale : Scale} {found : Value} {spec new : Fields}
    (scaled : scale ≠ .untouched) (hp : PodTemplate.podSpec found = .ok (.object spec))
    (hn : scale.podSpec (.object spec) = .ok (.object new))
    (same : SameApart [markerInPodSpec] (.object spec) (.object new))
    (marker : (Value.object new).at? markerInPodSpec =
      if scale = .down then some markerValue else none)
    (selector : scale = .up → new.get? "nodeSelector" = none ∨
      ∃ entries : Fields, entries ≠ [] ∧ new.get? "nodeSelector" = some (.object entries)) :
    ∃ expected, scale.target found = .ok expected ∧ Stands scale found expected := by
  obtain ⟨changed, hc, changed_same, inside, sections⟩ := exists_changed hp same
  refine ⟨_, Scale.target_eq_ok scaled hp hn hc, changed_same.mono (by simp),
    fun untouched => absurd untouched scaled, fun _ => sections, ?_, fun up => ?_⟩
  · rw [markerPlace, inside, marker]
  · rw [selectorPlace, inside, at?_object_singleton]
    exact selector up

theorem Unscaled.exists_target {found : Value} (h : Unscaled found) (scale : Scale) :
    ∃ expected, scale.target found = .ok expected ∧ Stands scale found expected := by
  obtain ⟨spec, entries, reads⟩ := h.readable.exists_reads
  have isSelector := isSection_selectorOf spec
  rw [selectorOf_eq reads.selector] at isSelector
  have unmarked : entries.get? markerKey = none := by
    rw [reads.get?_marker, h.at?_marker]
  cases scale with
  | untouched => exact ⟨found, rfl, h.stands_untouched⟩
  | down =>
    apply exists_target_of_podSpec (by simp) reads.podSpec
    · exact bind_eq_ok.mpr ⟨entries, reads.entries_eq, rfl⟩
    · exact isSelector.sameApart_set (by simp) (sameApart_set entries markerKey markerValue)
    · rw [markerInPodSpec, at?_set, if_pos rfl, at?_object_singleton, Fields.get?_set_self,
        if_pos rfl]
    · simp
  | up =>
    by_cases none_left : entries.isEmpty = true
    · obtain rfl := List.isEmpty_iff.mp none_left
      apply exists_target_of_podSpec (by simp) reads.podSpec
      · exact bind_eq_ok.mpr ⟨[], reads.entries_eq, rfl⟩
      · exact isSelector.sameApart_erase (by simp) (.refl [[.text markerKey]] _)
      · rw [markerInPodSpec, at?_erase, if_pos rfl, if_neg (by simp)]
      · simp [Fields.get?_erase]
    · apply exists_target_of_podSpec (by simp) reads.podSpec
      · refine bind_eq_ok.mpr ⟨entries, reads.entries_eq, ?_⟩
        dsimp only
        rw [if_neg none_left]
        rfl
      · exact isSelector.sameApart_set (by simp) (.refl [[.text markerKey]] _)
      · rw [markerInPodSpec, at?_set, if_pos rfl, at?_object_singleton, unmarked, if_neg (by simp)]
      · intro _
        exact .inr ⟨entries, by simpa using none_left, Fields.get?_set_self _ _ _⟩

/-! ## A state says what the target is -/

section Agree

variable {scale : Scale} {found a b : Value}

theorem Stands.entry (h : Stands scale found a) {key : Key} (other : key ≠ .text markerKey) :
    a.at? (selectorPlace ++ [key]) = found.at? (selectorPlace ++ [key]) := by
  apply h.same
  simp [filledPlaces, serverPlaces, markerPlace, markerInPodSpec, selectorPlace, podSpecPlace, other]

theorem Stands.exists_selector {entries : Fields} (h : Stands .up found a)
    (h' : Stands .up found b) (some_left : entries ≠ [])
    (stands : a.at? selectorPlace = some (.object entries)) :
    ∃ others : Fields, b.at? selectorPlace = some (.object others) := by
  obtain ⟨key, here⟩ : ∃ key, entries.get? key ≠ none := by
    by_contra none_there
    push Not at none_there
    exact some_left (Fields.eq_nil_iff_get?.mpr none_there)
  have inside (key : Key) : a.at? (selectorPlace ++ [key]) = entries.get? key := by
    rw [at?_append, stands, Option.bind_some, at?_object_singleton]
  have other : key ≠ .text markerKey := by
    rintro rfl
    apply here
    rw [← inside]
    exact h.marker
  rcases h'.selector rfl with none_left | ⟨others, -, there⟩
  · have missing : b.at? (selectorPlace ++ [key]) = none := by
      rw [at?_append, none_left]
      rfl
    rw [h'.entry other, ← h.entry other, inside] at missing
    exact absurd missing here
  · exact ⟨others, there⟩

theorem agreeAt_of_objects {fs gs : Fields} {path : Path} (ha : a.at? path = some (.object fs))
    (hb : b.at? path = some (.object gs)) : AgreeAt a b path := by
  rw [AgreeAt, ha, hb]
  rfl

theorem Stands.agreeAt_selector (h : Stands scale found a) (h' : Stands scale found b)
    (scaled : scale ≠ .untouched) : AgreeAt a b selectorPlace := by
  cases scale with
  | untouched => exact absurd rfl scaled
  | down =>
    have above {x : Value} (hx : Stands .down found x) :
        x.at? (selectorPlace ++ [.text markerKey]) = some markerValue := hx.marker
    exact agreeAt_above selectorPlace (above h) (above h')
  | up =>
    rcases h.selector rfl with none_left | ⟨entries, some_left, here⟩
    · rcases h'.selector rfl with none_left' | ⟨others, some_left', there⟩
      · apply agreeAt_of_eq
        rw [none_left, none_left']
      · obtain ⟨entries, here⟩ := h'.exists_selector h some_left' there
        exact agreeAt_of_objects here there
    · obtain ⟨others, there⟩ := h.exists_selector h' some_left here
      exact agreeAt_of_objects here there

theorem Stands.agreeAt_above_marker (h : Stands scale found a) (h' : Stands scale found b)
    (scaled : scale ≠ .untouched) {path : Path} (hp : path <+: markerPlace) : AgreeAt a b path := by
  have cases_of : path ∈ containers ∨ path = selectorPlace ∨ path = markerPlace := by
    simp only [markerPlace, markerInPodSpec, podSpecPlace, List.cons_append, List.nil_append,
      List.prefix_cons_iff, List.prefix_nil] at hp
    simp only [containers, selectorPlace, markerPlace, markerInPodSpec, podSpecPlace]
    grind
  rcases cases_of with container | rfl | rfl
  · obtain ⟨fs, here⟩ := h.sections scaled path container
    obtain ⟨gs, there⟩ := h'.sections scaled path container
    exact agreeAt_of_objects here there
  · exact h.agreeAt_selector h' scaled
  · apply agreeAt_of_eq
    rw [h.marker, h'.marker]

/-- Targets that were found as one and stand alike are the same up to the order of fields, but for
what a write fills. -/
theorem Stands.agree (h : Stands scale found a) (h' : Stands scale found b) {name : Value}
    (named : found.at? ["metadata", "name"] = some name) : Agree filledPlaces a b := by
  intro path within
  by_cases untouched : scale = .untouched
  · rw [h.untouched untouched, h'.untouched untouched]
    rfl
  have named_of {x : Value} (hx : Stands scale found x) :
      x.at? ["metadata", "name"] = some name := by
    rw [hx.same _ (by simp [filledPlaces, serverPlaces, markerPlace, podSpecPlace]), named]
  have root : AgreeAt a b [] := h.agreeAt_above_marker h' untouched List.nil_prefix
  by_cases apart : ∀ place ∈ markerPlace :: filledPlaces, path.Apart place
  · apply agreeAt_of_eq
    rw [h.same path apart, h'.same path apart]
  push Not at apart
  obtain ⟨place, mem, touches⟩ := apart
  rcases Path.apart_or path place with apart | beyond | around
  · exact absurd apart touches
  · rcases List.mem_cons.mp mem with rfl | filled
    · obtain ⟨rest, rfl⟩ := beyond
      apply agreeAt_of_eq
      rw [at?_append, at?_append, h.marker, h'.marker]
    · exact absurd beyond (within place filled)
  · rcases List.mem_cons.mp mem with rfl | filled
    · exact h.agreeAt_above_marker h' untouched around
    · have outside : path = [] ∨ path = [.text "metadata"] := by
        have other := within place filled
        simp only [filledPlaces, serverPlaces, List.mem_cons, List.not_mem_nil, or_false] at filled
        rcases filled with rfl | rfl | rfl | rfl
        all_goals
          simp only [List.prefix_cons_iff, List.prefix_nil] at around
          grind
      rcases outside with rfl | rfl
      · exact root
      · exact agreeAt_above ["metadata"] (named_of h) (named_of h')

end Agree

/-! ## A state does not show in the fingerprint -/

section Fingerprint

variable {template₁ template₂ : Value} {fs₁ fs₂ spec₁ spec₂ entries₁ entries₂ : Fields}
  {floats : Binary64 → Bool}

theorem PodTemplate.Parts.places (h : Parts template₁ fs₁ spec₁ entries₁) (key : Key) :
    fs₁.get? key = template₁.at? [key] ∧ spec₁.get? key = template₁.at? ["spec", key] ∧
      entries₁.get? key = template₁.at? ["spec", "nodeSelector", key] := by
  have inSpec := isSection_getD_empty fs₁ "spec"
  rw [h.podSpec, ← h.isObject] at inSpec
  have inSelector := isSection_selectorOf spec₁ key []
  rw [selectorOf_eq h.selector, at?_object_singleton] at inSelector
  refine ⟨?_, ?_, ?_⟩
  · rw [h.isObject, at?_object_singleton]
  · rw [← inSpec, at?_object_singleton]
  · rw [← inSpec, ← inSelector]

theorem agree_tidied (h₁ : Parts template₁ fs₁ spec₁ entries₁)
    (h₂ : Parts template₂ fs₂ spec₂ entries₂)
    (same : SameApart [.text "spec" :: markerInPodSpec] template₁ template₂) :
    Agree []
      (.object (fs₁.set "spec" (.object
        (spec₁.set "nodeSelector" (.object (entries₁.erase markerKey))))))
      (.object (fs₂.set "spec" (.object
        (spec₂.set "nodeSelector" (.object (entries₂.erase markerKey)))))) := by
  apply agree_object
  intro key
  simp only [Fields.get?_set, Key.text_same]
  by_cases atSpec : key = .text "spec"
  · rw [if_pos atSpec, if_pos atSpec]
    refine .inr ⟨_, _, rfl, rfl, ?_⟩
    apply agree_object
    intro key
    simp only [Fields.get?_set, Key.text_same]
    by_cases atSelector : key = .text "nodeSelector"
    · rw [if_pos atSelector, if_pos atSelector]
      refine .inr ⟨_, _, rfl, rfl, ?_⟩
      apply agree_object
      intro key
      left
      simp only [Fields.get?_erase, Key.text_same]
      by_cases atMarker : key = .text markerKey
      · rw [if_pos atMarker, if_pos atMarker]
      · rw [if_neg atMarker, if_neg atMarker, (h₁.places key).2.2, (h₂.places key).2.2]
        apply same
        simp [markerInPodSpec, atMarker]
    · rw [if_neg atSelector, if_neg atSelector, (h₁.places key).2.1, (h₂.places key).2.1]
      left
      apply same
      simp [markerInPodSpec, atSelector]
  · rw [if_neg atSpec, if_neg atSpec, (h₁.places key).1, (h₂.places key).1]
    left
    apply same
    simp [markerInPodSpec, atSpec]

/-- Pod templates that differ in the marker alone have one fingerprint. -/
theorem exists_fingerprint (legible₁ : Legible template₁) (legible₂ : Legible template₂)
    (json₁ : template₁.isJson floats = true) (json₂ : template₂.isJson floats = true)
    (same : SameApart [.text "spec" :: markerInPodSpec] template₁ template₂) :
    ∃ digest, PodTemplate.fingerprint template₁ = .ok digest ∧
      PodTemplate.fingerprint template₂ = .ok digest := by
  obtain ⟨_, _, _, parts₁⟩ := legible₁.exists_parts
  obtain ⟨_, _, _, parts₂⟩ := legible₂.exists_parts
  obtain ⟨normal₁, tidy₁, hn₁, ht₁, normalJson₁, tidyJson₁, agree₁⟩ := parts₁.agree_normalized json₁
  obtain ⟨normal₂, tidy₂, hn₂, ht₂, normalJson₂, tidyJson₂, agree₂⟩ := parts₂.agree_normalized json₂
  obtain rfl := Except.ok.inj (parts₁.tidied_eq.symm.trans ht₁)
  obtain rfl := Except.ok.inj (parts₂.tidied_eq.symm.trans ht₂)
  have agree : Agree [] normal₁ normal₂ :=
    agree₁.trans ((agree_tidied parts₁ parts₂ same).trans agree₂.symm)
  have texts := canonical_of_agree normalJson₁ normalJson₂ agree
  refine ⟨normal₁.canonicalDigest, fingerprint_of_normalized hn₁ normalJson₁, ?_⟩
  rw [fingerprint_of_normalized hn₂ normalJson₂, canonicalDigest, canonicalDigest, texts]

theorem exists_templateOf {workload : Value} (h : ∀ path ∈ containers, ObjectAt workload path) :
    ∃ template : Fields, templateOf workload = .ok (.object template) ∧
      ∀ key path, (Value.object template).at? (key :: path) =
        workload.at? ("spec" :: "template" :: key :: path) := by
  obtain ⟨fs, rfl⟩ := h [] (by simp [containers]) workload rfl
  obtain ⟨spec, hs⟩ := exists_getSection (h ["spec"] (by simp [containers]))
  have inSpec := isSection_of_getSection hs
  have templateAt := (h ["spec", "template"] (by simp [containers])).of_isSection inSpec
  obtain ⟨template, ht⟩ := exists_getSection templateAt
  refine ⟨template, bind_eq_ok.mpr ⟨.object spec, hs, ht⟩, ?_⟩
  intro key path
  rw [isSection_of_getSection ht, inSpec]

theorem isJson_templateOf_of_spec {workload template : Value}
    (json : ∀ x, workload.at? ["spec"] = some x → x.isJson floats = true)
    (h : templateOf workload = .ok template) : template.isJson floats = true := by
  obtain ⟨spec, hs, ht⟩ := bind_eq_ok.mp h
  obtain ⟨fs, rfl, rfl⟩ := getSection_eq_ok.mp hs
  refine isJson_getSection ?_ ht
  rw [orElse]
  split
  · exact isJson_empty
  · cases stands : fs.get? "spec" with
    | none => rfl
    | some x => exact json x (by rw [at?_object_singleton, stands])

theorem Readable.exists_legible {workload : Value} (h : Readable workload) :
    ∃ template, templateOf workload = .ok template ∧ Legible template ∧
      ∀ key path, template.at? (key :: path) =
        workload.at? ("spec" :: "template" :: key :: path) := by
  obtain ⟨template, ht, inside⟩ := exists_templateOf h.sections
  refine ⟨_, ht, ⟨⟨template, rfl⟩, ?_, ?_⟩, inside⟩
  · intro x hx
    rw [inside] at hx
    exact h.sections podSpecPlace (by simp [containers]) x hx
  · intro x hx
    rw [inside] at hx
    exact h.selector x hx

variable {scale : Scale} {found now : Value}

theorem Stands.exists_fingerprint (h : Stands scale found now) (unscaled : Unscaled found)
    (json : found.isJson floats = true)
    (json' : ∀ x, now.at? ["spec"] = some x → x.isJson floats = true) :
    ∃ template template' digest, templateOf found = .ok template ∧
      PodTemplate.fingerprint template = .ok digest ∧ templateOf now = .ok template' ∧
      PodTemplate.fingerprint template' = .ok digest := by
  obtain ⟨template, ht, legible, inside⟩ := unscaled.readable.exists_legible
  obtain ⟨template', ht', legible', inside'⟩ := (h.readable unscaled).exists_legible
  have templateJson := isJson_templateOf_of_spec (fun x hx => isJson_at? json hx) ht
  have templateJson' := isJson_templateOf_of_spec json' ht'
  have same : SameApart [.text "spec" :: markerInPodSpec] template template' := by
    intro path apart
    cases path with
    | nil => exact absurd (apart _ List.mem_cons_self) Path.not_apart_nil_left
    | cons key path =>
      rw [inside, inside']
      apply h.same
      simpa [markerPlace, podSpecPlace, markerInPodSpec, filledPlaces, serverPlaces] using apart
  obtain ⟨digest, hf, hf'⟩ :=
    CanaryRelease.exists_fingerprint legible legible' templateJson templateJson' same
  exact ⟨template, template', digest, ht, hf, ht', hf'⟩

end Fingerprint

end CanaryRelease
