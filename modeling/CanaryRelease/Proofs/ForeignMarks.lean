import CanaryRelease.Proofs.Pairings
import CanaryRelease.Proofs.Tallies

/-!
# Marks of other tools

Other tools mark the objects that they manage: by labels under a prefix of theirs, and by
annotations that hold a whole earlier configuration. An object that is created for a canary belongs
to the canary alone, and four rules decide what it takes over from the target. The labels of the
object go through the list of prefixes, the annotations of the pod template through the rule on
revisions, and neither lets a mark through. The annotations of the object and the labels of the pod
template are handed on as they are, so a mark that stands there is handed on with them
(`marks_handed_on`).

`HandsOnMarks` says what this comes to: a body has no marks in the first two places, and in the
other two none but those of the target that was read (`created_bodies_keep_marks_out`).
-/

namespace CanaryRelease

open Program Workload PodTemplate Value

/-! ## Marks -/

namespace PodTemplate

/-- The key of a label by which another tool marks what it owns. -/
def IsToolkitKey (key : String) : Prop := toolkitMark.toList <+: key.toList

/-- The key of an annotation that holds an earlier configuration. -/
def IsLastAppliedKey (key : String) : Prop := lastAppliedName.toList <:+: key.toList

instance : DecidablePred IsToolkitKey := fun _ => inferInstanceAs (Decidable (_ <+: _))

instance : DecidablePred IsLastAppliedKey := fun key =>
  decidable_of_iff (occursIn lastAppliedName.toList key.toList = true)
    TemplateController.occursIn_iff

/-- The place of an object's own labels. -/
def ownLabelsPlace : Path := ["metadata", "labels"]

/-- The place of an object's own annotations. -/
def ownAnnotationsPlace : Path := ["metadata", "annotations"]

/-- The annotations of an object as a copy has them. -/
def ownAnnotations (v : Value) : Except Failure Fields := do
  (← (← v.getSection "metadata").getSection "annotations").toFields

end PodTemplate

/-- A body that is made from a target has no marks among its own labels and its template's
annotations, and elsewhere none that the target does not have in the same place. -/
structure HandsOnMarks (target body : Value) : Prop where
  labels : ∀ key, IsToolkitKey key → body.at? (ownLabelsPlace ++ [.text key]) = none
  annotations : ∀ key x, IsLastAppliedKey key →
    body.at? (ownAnnotationsPlace ++ [.text key]) = some x →
      ∃ fs, ownAnnotations target = .ok fs ∧ fs.get? key = some x
  templateLabels : ∀ key x, IsToolkitKey key → body.at? (labelsPlace ++ [.text key]) = some x →
    target.at? (labelsPlace ++ [.text key]) = some x
  templateAnnotations : ∀ key, IsLastAppliedKey key →
    body.at? (annotationsPlace ++ [.text key]) = none

/-- A body has no marks at all. -/
structure Unmarked (body : Value) : Prop where
  labels : ∀ place ∈ [ownLabelsPlace, labelsPlace], ∀ key, IsToolkitKey key →
    body.at? (place ++ [.text key]) = none
  annotations : ∀ place ∈ [ownAnnotationsPlace, annotationsPlace], ∀ key, IsLastAppliedKey key →
    body.at? (place ++ [.text key]) = none

variable {target body : Value} {canary : Canary} {log : List Exchange} {fs : Fields} {v : Value}

theorem HandsOnMarks.unmarked (h : HandsOnMarks target body)
    (labels : ∀ key, IsToolkitKey key → target.at? (labelsPlace ++ [.text key]) = none)
    (annotations : ∀ fs key, ownAnnotations target = .ok fs → IsLastAppliedKey key →
      fs.get? key = none) : Unmarked body := by
  constructor
  · intro place mem key mark
    obtain rfl | rfl : place = ownLabelsPlace ∨ place = labelsPlace := by simpa using mem
    · exact h.labels key mark
    · refine Option.eq_none_iff_forall_ne_some.mpr fun x stands => ?_
      have found := h.templateLabels key x mark stands
      rw [labels key mark] at found
      cases found
  · intro place mem key mark
    obtain rfl | rfl : place = ownAnnotationsPlace ∨ place = annotationsPlace := by simpa using mem
    · refine Option.eq_none_iff_forall_ne_some.mpr fun x stands => ?_
      obtain ⟨fs, copied, found⟩ := h.annotations key x mark stands
      rw [annotations fs key copied mark] at found
      cases found
    · exact h.templateAnnotations key mark

/-! ## What is let through -/

theorem get?_of_includedLabels {prefixes : List String} {key : String}
    (h : includedLabels v prefixes = .ok fs) (mark : IsToolkitKey key) : fs.get? key = none := by
  unfold includedLabels at h
  obtain ⟨labels, -, ⟨⟩⟩ := bind_eq_ok.mp h
  have marked : isIncluded prefixes (.text key) = false := by
    rw [isIncluded, List.isPrefixOf_iff_prefix.mpr mark]
    rfl
  rw [TemplateController.get?_filter fun k same => by rw [Key.same_text.mp same], marked]
  rfl

theorem at?_own {name space owners : Value} {labels annotations : Fields}
    (h : body.at? ["metadata"] = some (.object [("name", name), ("namespace", space),
      ("labels", .object labels), ("annotations", .object annotations),
      ("ownerReferences", owners)])) (key : Key) :
    body.at? (ownLabelsPlace ++ [key]) = labels.get? key ∧
      body.at? (ownAnnotationsPlace ++ [key]) = annotations.get? key := by
  have inside (path : Path) := at?_append body ["metadata"] path
  rw [h] at inside
  constructor
  · refine (inside ["labels", key]).trans ?_
    exact at?_object_singleton labels key
  · refine (inside ["annotations", key]).trans ?_
    exact at?_object_singleton annotations key

theorem ownAnnotations_eq {metadata annotated : Value}
    (hm : target.getSection "metadata" = .ok metadata)
    (ha : metadata.getSection "annotations" = .ok annotated) :
    ownAnnotations target = annotated.toFields := by
  rw [ownAnnotations, hm]
  change (metadata.getSection "annotations" >>= _) = _
  rw [ha]
  rfl

/-! ## Primaries -/

namespace TemplateController

variable {c : TemplateController} {label value : String} {refs : List ConfigRef} {r : Request}

theorem mem_of_pairingLabel {paired : String × Value} (h : c.pairingLabel target = .ok paired) :
    paired.1 ∈ c.labels := by
  obtain ⟨found, required⟩ := pairingLabel_eq_ok h
  obtain ⟨fs, selected, -⟩ := require_eq_ok.mp required
  rw [selected, filterM_mentions] at found
  have mem : paired.1 ∈ [paired.1] := List.mem_singleton_self _
  rw [← Except.ok.inj found] at mem
  exact (List.mem_filter.mp mem).1

theorem metadata_of_primaryBody
    (h : Ends (c.primaryBody canary target label value refs) log (.ok body)) :
    ∃ metadata, c.primaryMetadata canary target label value = .ok metadata ∧
      body.at? ["metadata"] = some metadata := by
  obtain ⟨_, _, metadata, -, -, hm, rfl⟩ := exists_parts_of_primaryBody h
  exact ⟨metadata, hm, rfl⟩

theorem handsOnMarks_primaryBody (own : ¬ IsToolkitKey label)
    (h : Ends (c.primaryBody canary target label value refs) log (.ok body)) :
    HandsOnMarks target body := by
  obtain ⟨metadata, made, stands⟩ := metadata_of_primaryBody h
  obtain ⟨-, id, _, -, -, twin⟩ := ends_primaryBody h
  unfold primaryMetadata at made
  simp only [bind_eq_ok] at made
  obtain ⟨_, hm, _, -, included, hi, labels, hp, _, ha, annotations, hc, ⟨⟩⟩ := made
  obtain ⟨source, same, rfl⟩ := pairedLabels_eq_ok.mp hp
  rw [orElse_empty_object] at same
  obtain rfl := object.inj same
  obtain ⟨templateLabels, hl, twinLabels⟩ := twin.labels
  obtain ⟨templateAnnotations, ht, twinAnnotations⟩ := twin.annotations
  have other {key : String} (mark : IsToolkitKey key) : Key.text key ≠ .text label := fun same =>
    own (Key.text.inj same ▸ mark)
  have foreign {key : String} (mark : IsToolkitKey key) : ¬ (Key.text label).Same (.text key) :=
    fun same => other mark (Key.text_same.mp same)
  constructor
  · intro key mark
    rw [(at?_own stands _).1, Fields.get?_set_of_not_same _ _ (foreign mark), Fields.get?_erase,
      if_neg (foreign mark), get?_of_includedLabels hi mark]
  · intro key x _ found
    rw [(at?_own stands _).2] at found
    exact ⟨annotations, (ownAnnotations_eq hm ha).trans hc, found⟩
  · intro key x mark found
    rw [at?_append, hl] at found
    have stood := twinLabels (.text key)
    rw [if_neg (other mark)] at stood
    rw [← stood]
    exact (at?_object_singleton _ _).symm.trans found
  · intro key mark
    rw [at?_append, ht]
    refine (at?_object_singleton templateAnnotations key).trans ?_
    have marked : ¬ isHandedOn (.text key) = true := fun kept => (isHandedOn_text.mp kept).2 mark
    have no_id : Key.text key ≠ .text idKey := by
      rintro ⟨⟩
      revert mark
      decide
    rw [twinAnnotations, if_neg no_id, if_neg marked]

end TemplateController

/-! ## Services -/

namespace ServiceController

variable {c : ServiceController} {object : ObjectName}

/-- The body of a derived service has no pod template, and hands on marks among its own
annotations alone. -/
theorem handsOnMarks_derivedBody (h : c.derivedBody canary object target = .ok body) :
    HandsOnMarks target body := by
  obtain ⟨_, ports, selector, -, -, -, -, spec⟩ := exists_spec_of_derivedBody h
  have no_template (path : Path) : body.at? ("spec" :: "template" :: path) = none := by
    refine (at?_append body ["spec"] ("template" :: path)).trans ?_
    rw [spec]
    refine (at?_object _ _ _).trans ?_
    rw [get?_withSelector]
    rfl
  unfold derivedBody at h
  simp only [bind_eq_ok] at h
  obtain ⟨metadata, hm, _, -, labelled, -, labels, hi, annotated, ha, annotations, hc, _, -, _, -,
    _, -, h⟩ := h
  have stands : body.at? ["metadata"] = some (.object [("name", object.name),
      ("namespace", object.space), ("labels", .object labels), ("annotations", .object annotations),
      ("ownerReferences", .list [canary.ownerReference])]) := by
    split at h
    · obtain ⟨_, ⟨⟩, ⟨⟩⟩ := h
      rfl
    · obtain ⟨_, -, ⟨⟩⟩ := bind_eq_ok.mp h
      rfl
  constructor
  · intro key mark
    rw [(at?_own stands _).1, get?_of_includedLabels hi mark]
  · intro key x _ found
    rw [(at?_own stands _).2] at found
    exact ⟨annotations, (ownAnnotations_eq hm ha).trans hc, found⟩
  · intro key x _ found
    have missing := (no_template ["metadata", "labels", .text key]).symm.trans found
    cases missing
  · intro key _
    exact no_template _

end ServiceController

/-! ## All creations -/

/-- Whatever establishing a canary creates, from whatever target and whatever is replied: no label
with a mark is among the labels of the object, no annotation with one in its pod template, and what
marks there are elsewhere are those of the target that was read. -/
theorem created_bodies_keep_marks_out (controller : Controller) (canary : Canary)
    {log : List Exchange} {kind : Kind} {space body : Value}
    (candidates : ∀ c, controller = .template c → ∀ label ∈ c.labels, ¬ IsToolkitKey label)
    (asks : Asks (controller.call .establish canary) log (.createObject kind space body)) :
    ∃ v target, readExchange controller.kind canary.targetObject (.ok v) ∈ log ∧
      v.toManifest = .ok target ∧ HandsOnMarks target body ∧
      ((∀ key, IsToolkitKey key → target.at? (labelsPlace ++ [.text key]) = none) →
        (∀ fs key, ownAnnotations target = .ok fs → IsLastAppliedKey key → fs.get? key = none) →
        Unmarked body) := by
  suffices created : ∃ v target, readExchange controller.kind canary.targetObject (.ok v) ∈ log ∧
      v.toManifest = .ok target ∧ HandsOnMarks target body by
    obtain ⟨v, target, read, manifest, marks⟩ := created
    exact ⟨v, target, read, manifest, marks, marks.unmarked⟩
  cases controller with
  | template c =>
    have writes : Writes (c.establish canary) log _ := Controller.writes_silent.mp ⟨asks, rfl⟩
    obtain creating | ⟨_, _, _, -, -, -, -, scaling⟩ := TemplateController.writes_establish writes
    · obtain ⟨v, target, label, value, _, _, _, _, rfl, manifest, paired, made, ⟨⟩⟩ :=
        TemplateController.exists_body_of_writes creating
      have own := candidates c rfl _ (TemplateController.mem_of_pairingLabel paired)
      exact ⟨v, target, by simp [Controller.kind], manifest,
        TemplateController.handsOnMarks_primaryBody own made⟩
    · obtain ⟨_, _, _, _, -, -, -, ⟨⟩, -⟩ := TemplateController.rescaled_of_scaleToZero scaling
  | service c =>
    have writes : Writes (c.establish canary) log _ := Controller.writes_silent.mp ⟨asks, rfl⟩
    obtain ⟨v, target, object, _, _, rfl, manifest, -, made, ⟨⟩⟩ :=
      ServiceController.exists_body_of_writes writes
    exact ⟨v, target, List.mem_cons_self, manifest,
      ServiceController.handsOnMarks_derivedBody made⟩

/-! ## Marks that are handed on -/

/-- A Deployment that was applied by another tool. The marks of that tool are among its labels and
annotations and among those of its pod template. -/
def sampleMarked : Value :=
  let labels : Fields :=
    [("app", .text "web"), ("tier", .text "front"), ("toolkit.fluxcd.io/name", .text "apps")]
  let annotations : Fields := [("team", .text "core"), (.text lastAppliedName, .text "\x7b\x7d")]
  .object [
    ("metadata", .object [("name", .text "web"), ("namespace", .text "prod"),
      ("resourceVersion", .text "1"), ("labels", .object labels),
      ("annotations", .object annotations)]),
    ("spec", .object [
      ("selector", .object [("matchLabels", .object [("app", .text "web")])]),
      ("template", .object [("metadata", .object [("labels", .object labels),
        ("annotations", .object annotations)])])])]

/-- A site with this Deployment. -/
def sampleMarkedSite : Site :=
  let site := sampleSite [] []
  { site with server.store := [(⟨"Deployment", ⟨.text "web", .text "prod"⟩⟩, sampleMarked)] }

/-- Whether an object is created whose body has some property. -/
def Request.creates (p : Value → Bool) : Request → Bool
  | createObject _ _ body => p body
  | _ => false

theorem exists_creation {call : Call} {site : Site} {p : Value → Bool}
    (h : ((call.exchangesAt site).any fun e => e.request.creates p) = true) :
    ∃ log kind space body, Asks call.program log (.createObject kind space body) ∧
      p body = true := by
  obtain ⟨e, mem, created⟩ := List.any_eq_true.mp h
  obtain ⟨before, after, split⟩ := List.append_of_mem mem
  have asks := (split ▸ call.ends_exchangesAt site).asks
  cases request : e.request with
  | createObject kind space body =>
    rw [request] at asks created
    exact ⟨before, kind, space, body, asks, created⟩
  | _ =>
    rw [request] at created
    cases created

/-- A primary is created with an annotation that holds its target's configuration and, in its pod
template, the label by which another tool marks the target's pods. -/
theorem marks_handed_on :
    (∀ label ∈ sampleController.labels, ¬ IsToolkitKey label) ∧
      ∃ log kind space body,
        Asks ((Controller.template sampleController).call .establish sampleCanary) log
          (.createObject kind space body) ∧
        (∃ key, IsLastAppliedKey key ∧ (body.at? (ownAnnotationsPlace ++ [.text key])).isSome) ∧
        ∃ key, IsToolkitKey key ∧ (body.at? (labelsPlace ++ [.text key])).isSome := by
  have created : (((⟨.template sampleController, .establish, sampleCanary⟩ : Call).exchangesAt
      sampleMarkedSite).any fun e => e.request.creates fun body =>
        (body.at? (ownAnnotationsPlace ++ [.text lastAppliedName])).isSome &&
          (body.at? (labelsPlace ++ [.text "toolkit.fluxcd.io/name"])).isSome) = true := by
    decide +kernel
  obtain ⟨log, kind, space, body, asks, marked⟩ := exists_creation created
  obtain ⟨annotated, labelled⟩ := Bool.and_eq_true_iff.mp marked
  exact ⟨by decide, log, kind, space, body, asks, ⟨_, List.infix_refl _, annotated⟩,
    ⟨_, by decide, labelled⟩⟩

/-- A controller of Deployments that takes over all labels it may. -/
def sampleLabelling : TemplateController := { sampleController with labelPrefixes := ["*"] }

/-- The exchanges that lead to the creation of a primary for the Deployment. -/
def sampleMarkedLog : List Exchange :=
  [readExchange (.template .deployment) sampleCanary.targetObject (.ok sampleMarked),
    readExchange (.template .deployment) (TemplateController.primaryObject sampleCanary)
      (.error (.refused ⟨.int 404, .text "Not Found"⟩)),
    ⟨.targetConfigs sampleCanary, .ok []⟩, ⟨.copyConfigs sampleCanary [] ["*"], .ok ()⟩,
    ⟨.drawId, "0"⟩, ⟨.redirectConfigs .empty [], .ok .empty⟩]

/-- The primary has the labels of its target and the annotations of its pod template, without the
marks among them. -/
theorem sampleCreation_keeps_marks_out :
    ∃ kind space body,
      Asks ((Controller.template sampleLabelling).call .establish sampleCanary) sampleMarkedLog
        (.createObject kind space body) ∧
      HandsOnMarks sampleMarked body ∧
      body.at? (ownLabelsPlace ++ [.text "tier"]) = some (.text "front") ∧
      body.at? (ownLabelsPlace ++ [.text "toolkit.fluxcd.io/name"]) = none ∧
      body.at? (annotationsPlace ++ [.text "team"]) = some (.text "core") ∧
      body.at? (annotationsPlace ++ [.text lastAppliedName]) = none := by
  obtain ⟨kind, space, body, asks, kept⟩ : ∃ kind space body,
      Asks ((Controller.template sampleLabelling).call .establish sampleCanary) sampleMarkedLog
        (.createObject kind space body) ∧
      (body.at? (ownLabelsPlace ++ [.text "tier"]) = some (.text "front") ∧
        body.at? (annotationsPlace ++ [.text "team"]) = some (.text "core")) :=
    ⟨_, _, _, .later (.later (.later (.later (.later (.later (.now _ _)))))), by decide +kernel⟩
  obtain ⟨v, target, read, manifest, marks, -⟩ := created_bodies_keep_marks_out
    (.template sampleLabelling) sampleCanary (by rintro _ ⟨⟩; decide) asks
  obtain rfl : v = sampleMarked := by
    simp only [sampleMarkedLog, List.mem_cons, List.not_mem_nil, or_false] at read
    obtain same | same | same | same | same | same := read
    · cases same
      rfl
    · cases congrArg Exchange.refusal? same
    all_goals cases same
  obtain rfl : sampleMarked = target := Except.ok.inj manifest
  exact ⟨kind, space, body, asks, marks, kept.1, marks.labels _ (by decide), kept.2,
    marks.templateAnnotations _ (List.infix_refl _)⟩

end CanaryRelease
