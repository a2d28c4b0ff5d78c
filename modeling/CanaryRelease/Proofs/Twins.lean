import CanaryRelease.Proofs.ObjectCalls
import CanaryRelease.Proofs.PodSpecs
import CanaryRelease.Workload.Primary

/-!
# Twins

A primary is the twin of its target: it has the target's deployment policy, the target's pod spec
redirected to the copied configuration and without the marker, and the target's template labels and
annotations with a pairing label and an id of its own (`Twin`). Creation and promotion build their
objects by different steps; that both build a twin is proved apart for each of them, from the lemmas
on the parts that they share.
-/

namespace CanaryRelease

open Program Workload PodTemplate Value

/-- The place of a workload's template labels. -/
def PodTemplate.labelsPlace : Path := ["spec", "template", "metadata", "labels"]

/-- The place of a workload's template annotations. -/
def PodTemplate.annotationsPlace : Path := ["spec", "template", "metadata", "annotations"]

namespace TemplateController

variable {c : TemplateController} {kind : TemplateKind} {canary : Canary} {target v : Value}
  {log : List Exchange} {label value id : String} {fs : Fields}

/-- The places of a twin that come from its target. -/
def twinPlaces (kind : TemplateKind) : List Path :=
  kind.policyFields.map (fun field => [.text "spec", .text field]) ++
    [podSpecPlace, annotationsPlace, labelsPlace]

/-- `labels` are a target's template labels with the pairing label set. -/
def TwinLabels (target : Value) (label value : String) (labels : Fields) : Prop :=
  ∀ key, labels.get? key =
    if key = .text label then some (.text value) else target.at? (labelsPlace ++ [key])

/-- `annotations` are those of a target's template that are handed on, and an id. -/
def TwinAnnotations (target : Value) (id : String) (annotations : Fields) : Prop :=
  ∀ key, annotations.get? key =
    if key = .text idKey then some (.text id)
    else if isHandedOn key then target.at? (annotationsPlace ++ [key]) else none

/-- `primary` is the twin of a target whose redirected pod spec is given. -/
structure Twin (kind : TemplateKind) (target : Value) (label value : String) (redirected : Value)
    (id : String) (primary : Value) : Prop where
  policy : ∀ field ∈ kind.policyFields,
    primary.at? ["spec", .text field] = target.at? ["spec", .text field]
  podSpec : ∃ podSpec, removeMarker redirected = .ok podSpec ∧
    primary.at? podSpecPlace = some podSpec
  labels : ∃ labels, primary.at? labelsPlace = some (.object labels) ∧
    TwinLabels target label value labels
  annotations : ∃ annotations, primary.at? annotationsPlace = some (.object annotations) ∧
    TwinAnnotations target id annotations

theorem ne_of_mem_policyFields {field : String} (h : field ∈ kind.policyFields) :
    "replicas" ≠ field ∧ "selector" ≠ field ∧ "template" ≠ field := by
  refine ⟨?_, ?_, ?_⟩
  all_goals
    rintro rfl
    revert h
    cases kind <;> decide

theorem apart_twinPlaces {key : Key} {path : Path} (h : key ≠ .text "spec") :
    ∀ place ∈ twinPlaces kind, Path.Apart (key :: path) place := by
  intro place hp
  rcases List.mem_append.mp hp with hp | hp
  · obtain ⟨field, -, rfl⟩ := List.mem_map.mp hp
    simp [h]
  · simp only [List.mem_cons, List.not_mem_nil, or_false] at hp
    rcases hp with rfl | rfl | rfl
    all_goals simp [podSpecPlace, annotationsPlace, labelsPlace, h]

theorem Twin.congr {redirected a b : Value} {places : List Path}
    (h : Twin kind target label value redirected id a) (same : SameApart places a b)
    (apart : ∀ other ∈ places, ∀ place ∈ twinPlaces kind, Path.Apart other place) :
    Twin kind target label value redirected id b := by
  have at_place : ∀ place ∈ twinPlaces kind, b.at? place = a.at? place := fun place hp =>
    same place fun other ho => (apart other ho place hp).symm
  obtain ⟨policy, podSpec, labels, annotations⟩ := h
  constructor
  · intro field hf
    rw [at_place _ (List.mem_append_left _ (List.mem_map_of_mem hf)), policy field hf]
  · rw [at_place podSpecPlace (by simp [twinPlaces])]
    exact podSpec
  · rw [at_place labelsPlace (by simp [twinPlaces])]
    exact labels
  · rw [at_place annotationsPlace (by simp [twinPlaces])]
    exact annotations

/-! ## Labels and annotations -/

theorem pairedLabels_eq_ok {w : Value} :
    pairedLabels v label w = .ok fs ↔
      ∃ labels : Fields, v.orElse .empty = .object labels ∧
        fs = (labels.erase label).set label w := by
  unfold pairedLabels
  simp only [bind_eq_ok, fields_eq_ok]
  constructor
  · rintro ⟨labels, hl, ⟨⟩⟩
    exact ⟨labels, hl, rfl⟩
  · rintro ⟨labels, hl, rfl⟩
    exact ⟨labels, hl, rfl⟩

theorem handedOn_eq_ok :
    handedOn v = .ok fs ↔
      ∃ annotations : Fields, v.orElse .empty = .object annotations ∧
        fs = annotations.filter fun field => isHandedOn field.1 := by
  unfold handedOn
  simp only [bind_eq_ok, fields_eq_ok]
  constructor
  · rintro ⟨annotations, ha, ⟨⟩⟩
    exact ⟨annotations, ha, rfl⟩
  · rintro ⟨annotations, ha, rfl⟩
    exact ⟨annotations, ha, rfl⟩

theorem occursIn_iff {part s : List Char} : occursIn part s = true ↔ part <:+: s := by
  induction s with
  | nil => simp [occursIn, List.isEmpty_iff]
  | cons c s ih =>
    rw [occursIn, Bool.or_eq_true, List.isPrefixOf_iff_prefix, ih, List.infix_cons_iff]

/-- Handed on are all annotations but the id and those that hold an earlier configuration. -/
theorem isHandedOn_text {key : String} :
    isHandedOn (.text key) = true ↔ key ≠ idKey ∧ ¬ lastAppliedName.toList <:+: key.toList := by
  simp [isHandedOn, ← occursIn_iff]

theorem isHandedOn_congr {k l : Key} (h : k.Same l) : isHandedOn k = isHandedOn l := by
  cases l with
  | text s => rw [Key.same_text.mp h]
  | _ =>
    cases k with
    | text s => exact absurd (Key.text_same.mp h) (by simp)
    | _ => rfl

theorem get?_filter {keeps : Key → Bool} {key : Key}
    (respects : ∀ k : Key, k.Same key → keeps k = keeps key) (fs : Fields) :
    Fields.get? (fs.filter fun field => keeps field.1) key =
      if keeps key then fs.get? key else none := by
  induction fs with
  | nil => simp
  | cons field fs ih =>
    obtain ⟨k, x⟩ := field
    rw [Fields.get?_cons, List.filter_cons]
    by_cases same : k.Same key
    · rw [respects k same, if_pos same]
      split
      · rw [Fields.get?_cons, if_pos same]
      · rename_i kept
        rw [ih, if_neg kept]
    · rw [if_neg same]
      split
      · rw [Fields.get?_cons, if_neg same, ih]
      · exact ih

theorem get?_handedOn (annotations : Fields) (key : Key) :
    Fields.get? (annotations.filter fun field => isHandedOn field.1) key =
      if isHandedOn key then annotations.get? key else none :=
  get?_filter (fun _ same => isHandedOn_congr same) annotations

/-! ## Blueprints -/

/-- The sections of a target that its primary is made from. -/
structure Blueprint where
  spec : Fields
  template : Fields
  metadata : Fields
  labels : Fields
  annotations : Fields

namespace Blueprint

variable {plan : Blueprint}

/-- A target has these sections; what is not set counts as empty. -/
structure Of (plan : Blueprint) (target : Value) : Prop where
  spec : target.getSection "spec" = .ok (.object plan.spec)
  template : (object plan.spec).getSection "template" = .ok (.object plan.template)
  metadata : (object plan.template).getSection "metadata" = .ok (.object plan.metadata)
  labels : ((plan.metadata.get? "labels").getD .null).orElse .empty = .object plan.labels
  annotations : ((plan.metadata.get? "annotations").getD .null).orElse .empty =
    .object plan.annotations

/-- The template labels of a twin. -/
def twinLabels (plan : Blueprint) (label value : String) : Fields :=
  (plan.labels.erase label).set label (.text value)

/-- The template annotations that a twin takes over. -/
def handedOn (plan : Blueprint) : Fields := plan.annotations.filter fun field => isHandedOn field.1

theorem Of.at?_metadata (h : plan.Of target) (key : Key) (path : Path) :
    (object plan.metadata).at? (key :: path) =
      target.at? ("spec" :: "template" :: "metadata" :: key :: path) := by
  rw [isSection_of_getSection h.metadata, isSection_of_getSection h.template,
    isSection_of_getSection h.spec]

theorem Of.twinLabels (h : plan.Of target) :
    TwinLabels target label value (plan.twinLabels label value) := by
  intro key
  have inMetadata := isSection_orElse plan.metadata "labels" key []
  rw [h.labels, h.at?_metadata, at?_object_singleton] at inMetadata
  rw [Blueprint.twinLabels, Fields.get?_set, Fields.get?_erase, inMetadata]
  simp only [Key.text_same]
  split
  · rfl
  · rfl

theorem Of.twinAnnotations (h : plan.Of target) :
    TwinAnnotations target id (stamp plan.handedOn id) := by
  intro key
  have inMetadata := isSection_orElse plan.metadata "annotations" key []
  rw [h.annotations, h.at?_metadata, at?_object_singleton] at inMetadata
  rw [stamp, Fields.get?_set, handedOn, get?_handedOn, inMetadata]
  simp only [Key.text_same]
  rfl

theorem Of.sourcePodSpec (h : plan.Of target) :
    (object plan.template).getSection "spec" = .ok (PodTemplate.sourcePodSpec target) := by
  obtain ⟨podSpec, hp⟩ : ∃ x, (object plan.template).getSection "spec" = .ok x := ⟨_, rfl⟩
  obtain rfl : podSpec = PodTemplate.sourcePodSpec target := eq_of_getSection h.spec h.template hp
  exact hp

theorem exists_of_reads {spec template metadata foundLabels foundAnnotations : Value}
    {labels kept : Fields} (hs : target.getSection "spec" = .ok spec)
    (ht : spec.getSection "template" = .ok template)
    (hm : template.getSection "metadata" = .ok metadata)
    (hl : metadata.get "labels" = .ok foundLabels)
    (hp : pairedLabels foundLabels label (.text value) = .ok labels)
    (ha : metadata.get "annotations" = .ok foundAnnotations)
    (hk : PodTemplate.handedOn foundAnnotations = .ok kept) :
    ∃ plan : Blueprint, plan.Of target ∧ spec = .object plan.spec ∧
      template = .object plan.template ∧ metadata = .object plan.metadata ∧
      labels = plan.twinLabels label value ∧ kept = plan.handedOn := by
  obtain ⟨labelFields, hlabels, rfl⟩ := pairedLabels_eq_ok.mp hp
  obtain ⟨annotationFields, hannotations, rfl⟩ := handedOn_eq_ok.mp hk
  obtain ⟨ms, rfl, rfl⟩ := get_eq_ok.mp hl
  obtain ⟨_, ⟨⟩, rfl⟩ := get_eq_ok.mp ha
  obtain ⟨ts, rfl, -⟩ := getSection_eq_ok.mp hm
  obtain ⟨ss, rfl, -⟩ := getSection_eq_ok.mp ht
  exact ⟨⟨ss, ts, ms, labelFields, annotationFields⟩, ⟨hs, ht, hm, hlabels, hannotations⟩, rfl, rfl,
    rfl, rfl, rfl⟩

end Blueprint

/-! ## What a twin is made of -/

theorem readOnly_copyConfigs : ReadOnly (c.copyConfigs canary) :=
  (readOnly_orFail (readOnly_request rfl)).bind fun _ =>
    (readOnly_orFail (readOnly_request rfl)).bind fun _ => readOnly_pure _

theorem ends_copyConfigs {refs : List ConfigRef} :
    Ends (c.copyConfigs canary) log (.ok refs) ↔
      log = [⟨.targetConfigs canary, .ok refs⟩,
        ⟨.copyConfigs canary refs c.labelPrefixes, .ok ()⟩] := by
  unfold copyConfigs
  rw [ends_bind_ok]
  constructor
  · rintro ⟨_, _, _, rfl, ht, rest⟩
    obtain ⟨_, rfl, ⟨⟩⟩ := ends_request.mp (ends_orFail_ok.mp ht)
    obtain ⟨_, _, _, rfl, hc, ended⟩ := ends_bind_ok.mp rest
    obtain ⟨_, rfl, ⟨⟩⟩ := ends_request.mp (ends_orFail_ok.mp hc)
    obtain ⟨rfl, ⟨⟩⟩ := ends_pure.mp ended
    rfl
  · rintro rfl
    refine ⟨refs, [_], [_], rfl, ends_orFail_ok.mpr (ends_request.mpr ⟨_, rfl, rfl⟩), ?_⟩
    refine ends_bind_ok.mpr ⟨(), [_], [], rfl, ?_, .done refs⟩
    exact ends_orFail_ok.mpr (ends_request.mpr ⟨_, rfl, rfl⟩)

theorem readOnly_primaryPodSpec {template : Value} {refs : List ConfigRef} :
    ReadOnly (primaryPodSpec template refs) :=
  (readOnly_lift _).bind fun _ =>
    (readOnly_orFail (readOnly_request rfl)).bind fun _ => readOnly_lift _

theorem ends_primaryPodSpec {template podSpec : Value} {refs : List ConfigRef} :
    Ends (primaryPodSpec template refs) log (.ok podSpec) ↔
      ∃ source redirected, template.getSection "spec" = .ok source ∧
        removeMarker redirected = .ok podSpec ∧
        log = [⟨.redirectConfigs source refs, .ok redirected⟩] := by
  unfold primaryPodSpec
  rw [ends_lift_bind]
  constructor
  · rintro ⟨source, hs, rest⟩
    obtain ⟨redirected, _, _, rfl, hd, ended⟩ := ends_bind_ok.mp rest
    obtain ⟨_, rfl, ⟨⟩⟩ := ends_request.mp (ends_orFail_ok.mp hd)
    obtain ⟨rfl, hr⟩ := ends_lift.mp ended
    exact ⟨source, redirected, hs, hr.symm, rfl⟩
  · rintro ⟨source, redirected, hs, hr, rfl⟩
    refine ⟨source, hs, ends_bind_ok.mpr ⟨redirected, [_], [], rfl, ?_, ?_⟩⟩
    · exact ends_orFail_ok.mpr (ends_request.mpr ⟨_, rfl, rfl⟩)
    · exact ends_lift.mpr ⟨rfl, hr.symm⟩

theorem readOnly_freshAnnotations {annotations : Value} :
    ReadOnly (freshAnnotations annotations) :=
  (readOnly_lift _).bind fun _ => (readOnly_request rfl).bind fun _ => readOnly_pure _

theorem ends_freshAnnotations {annotations : Value} :
    Ends (freshAnnotations annotations) log (.ok fs) ↔
      ∃ kept id, handedOn annotations = .ok kept ∧ fs = stamp kept id ∧ log = [⟨.drawId, id⟩] := by
  unfold freshAnnotations
  rw [ends_lift_bind]
  constructor
  · rintro ⟨kept, hk, rest⟩
    obtain ⟨id, _, _, rfl, hd, ended⟩ := ends_bind_ok.mp rest
    obtain ⟨_, rfl, ⟨⟩⟩ := ends_request.mp hd
    obtain ⟨rfl, ⟨⟩⟩ := ends_pure.mp ended
    exact ⟨kept, id, hk, rfl, rfl⟩
  · rintro ⟨kept, id, hk, rfl, rfl⟩
    exact ⟨kept, hk, ends_bind_ok.mpr ⟨id, [_], [], rfl, ends_request.mpr ⟨_, rfl, rfl⟩, .done _⟩⟩

end TemplateController

end CanaryRelease
