import CanaryRelease.Proofs.Revisions
import CanaryRelease.Proofs.TrackerTexts
import CanaryRelease.Proofs.Twins

/-!
# Versions of one revision

Two versions of a target whose pod templates have the same fingerprint are one revision, whatever
the fingerprint does not see (`SameRevision`). Their pod templates say the same but for the pod
spec, their pod specs say the same but for the node selector, and the node selectors have the same
entries but for the marker (`SameRevision.exists_parts`). Twins of them have the same pod template up
to their ids (`same_of_twins`), if the redirection to copied configuration is a function of what the
pod specs say (`JsonRedirection`).
-/

namespace CanaryRelease

open Program Workload PodTemplate Value

namespace PodTemplate

/-- The digest does not collide on what the fingerprints of two pod templates are taken of. -/
def NoCollision (t₁ t₂ : Value) : Prop :=
  ∀ normal₁ normal₂, normalized t₁ = .ok normal₁ → normalized t₂ = .ok normal₂ →
    Sha256.NoCollision normal₁.payload normal₂.payload

/-- Two pod templates have one fingerprint, and not by a collision. -/
structure SameFingerprint (t₁ t₂ : Value) : Prop where
  same : ∃ digest, PodTemplate.fingerprint t₁ = .ok digest ∧ PodTemplate.fingerprint t₂ = .ok digest
  noCollision : NoCollision t₁ t₂

theorem SameFingerprint.exists_normalized {t₁ t₂ : Value} (h : SameFingerprint t₁ t₂) :
    ∃ normal₁ normal₂, normalized t₁ = .ok normal₁ ∧ normalized t₂ = .ok normal₂ ∧
      normal₁.canonical = normal₂.canonical := by
  obtain ⟨digest, h₁, h₂⟩ := h.same
  obtain ⟨normal₁, hn₁, h₁⟩ := bind_eq_ok.mp h₁
  obtain ⟨normal₂, hn₂, h₂⟩ := bind_eq_ok.mp h₂
  have same : normal₁.SameDigest normal₂ := ⟨⟨digest, h₁, h₂⟩, h.noCollision _ _ hn₁ hn₂⟩
  exact ⟨normal₁, normal₂, hn₁, hn₂, same.canonical⟩

theorem textKeyed_setDefault {fs : Fields} (h : fs.TextKeyed) (s : String) (v : Value) :
    (fs.setDefault (.text s) v).TextKeyed := by
  unfold Fields.setDefault
  split
  · exact h
  · exact h.set s v

theorem textKeyed_withEntries {spec : Fields} (h : spec.TextKeyed) (base : Fields) :
    Fields.TextKeyed (withEntries spec base) := by
  refine textKeyed_setDefault ?_ _ _
  split
  · exact h.erase _
  · exact h.set _ _

/-- Normalized pod templates say the same only if the pod templates do but for their pod specs, the
pod specs but for their node selectors, and the node selectors but for the marker. -/
theorem sameBut_of_normalized {fs₁ fs₂ spec₁ spec₂ base₁ base₂ : Fields}
    (h₁ : fs₁.TextKeyed) (h₂ : fs₂.TextKeyed) (hs₁ : spec₁.TextKeyed) (hs₂ : spec₂.TextKeyed)
    (same : (Value.object ((fs₁.setDefault "spec" .empty).set "spec"
        (.object (withEntries spec₁ base₁)))).canonical =
      (Value.object ((fs₂.setDefault "spec" .empty).set "spec"
        (.object (withEntries spec₂ base₂)))).canonical) :
    Fields.SameBut ["spec"] fs₁ fs₂ ∧ Fields.SameBut ["nodeSelector"] spec₁ spec₂ ∧
      (Value.object base₁).canonical = (Value.object base₂).canonical := by
  have templates := (canonical_object_eq_iff ((textKeyed_setDefault h₁ _ _).set _ _)
    ((textKeyed_setDefault h₂ _ _).set _ _)).mp same
  have podSpecs := templates "spec"
  rw [Fields.get?_set_self, Fields.get?_set_self] at podSpecs
  have entries := (canonical_object_eq_iff (textKeyed_withEntries hs₁ base₁)
    (textKeyed_withEntries hs₂ base₂)).mp (Option.some.inj podSpecs)
  refine ⟨fun key other => ?_, fun key other => ?_, ?_⟩
  · have field := templates key
    have apart : ¬ (Key.text "spec").Same key := by simpa using other
    rwa [Fields.get?_set, Fields.get?_set, if_neg apart, if_neg apart, Fields.get?_setDefault,
      Fields.get?_setDefault, if_neg apart, if_neg apart] at field
  · have field := entries key
    have apart : ¬ (Key.text "nodeSelector").Same key := by simpa using other
    rwa [get?_withEntries, get?_withEntries, Fields.get?_set, Fields.get?_set, if_neg apart,
      if_neg apart] at field
  · have selectors := entries "nodeSelector"
    rw [get?_withEntries, get?_withEntries, Fields.get?_set_self, Fields.get?_set_self] at selectors
    exact Option.some.inj selectors

/-- Two workloads have pod templates with the same pod spec, labels and annotations, but for the id
of the revision. -/
structure SamePodTemplate (a b : Value) : Prop where
  podSpec : SameObjectsAt podSpecPlace [] a b
  labels : SameObjectsAt labelsPlace [] a b
  annotations : SameObjectsAt annotationsPlace [.text idKey] a b

/-- The pod templates of two workloads, as fingerprints see them: `spec` are the fields of the pod
spec and `base` the entries of its node selector but for the marker. -/
structure SameTemplates (fs₁ fs₂ spec₁ spec₂ base₁ base₂ : Fields) : Prop where
  podSpec₁ : (fs₁.get? "spec").getD .empty = .object spec₁
  podSpec₂ : (fs₂.get? "spec").getD .empty = .object spec₂
  entries₁ : baseEntries (.object spec₁) = .ok base₁
  entries₂ : baseEntries (.object spec₂) = .ok base₂
  templates : Fields.SameBut ["spec"] fs₁ fs₂
  podSpecs : Fields.SameBut ["nodeSelector"] spec₁ spec₂
  entries : (Value.object base₁).canonical = (Value.object base₂).canonical

variable {fs₁ fs₂ spec₁ spec₂ base₁ base₂ : Fields}

theorem SameFingerprint.exists_sameTemplates
    (h : SameFingerprint (.object fs₁) (.object fs₂))
    (json₁ : (Value.object fs₁).isJson Binary64.isProper = true)
    (json₂ : (Value.object fs₂).isJson Binary64.isProper = true) :
    ∃ spec₁ spec₂ base₁ base₂, SameTemplates fs₁ fs₂ spec₁ spec₂ base₁ base₂ := by
  obtain ⟨_, _, hn₁, hn₂, same⟩ := h.exists_normalized
  obtain ⟨spec₁, base₁, hs₁, hb₁, rfl⟩ := normalized_eq_ok.mp hn₁
  obtain ⟨spec₂, base₂, hs₂, hb₂, rfl⟩ := normalized_eq_ok.mp hn₂
  have specJson₁ : (Value.object spec₁).isJson Binary64.isProper = true := by
    rw [← hs₁]
    exact isJson_getD json₁ isJson_empty
  have specJson₂ : (Value.object spec₂).isJson Binary64.isProper = true := by
    rw [← hs₂]
    exact isJson_getD json₂ isJson_empty
  obtain ⟨templates, podSpecs, entries⟩ := sameBut_of_normalized (isJson_object.mp json₁).1
    (isJson_object.mp json₂).1 (isJson_object.mp specJson₁).1 (isJson_object.mp specJson₂).1 same
  exact ⟨spec₁, spec₂, base₁, base₂, hs₁, hs₂, hb₁, hb₂, templates, podSpecs, entries⟩

theorem baseEntries_congr {fs gs : Fields}
    (h : (Value.object fs).child? "nodeSelector" = (Value.object gs).child? "nodeSelector") :
    baseEntries (.object fs) = baseEntries (.object gs) := by
  unfold baseEntries selectorOf
  rw [h]

end PodTemplate

namespace TemplateController

/-- Two versions of a target, as JSON has them, that are paired alike. -/
structure Versions (c : TemplateController) (target₁ target₂ : Value) (label : String)
    (value : Value) : Prop where
  json₁ : target₁.isJson Binary64.isProper = true
  json₂ : target₂.isJson Binary64.isProper = true
  paired₁ : c.pairingLabel target₁ = .ok (label, value)
  paired₂ : c.pairingLabel target₂ = .ok (label, value)

/-- Two versions of a target that are one revision: their pod templates have one fingerprint. -/
structure SameRevision (c : TemplateController) (target₁ target₂ : Value) (label : String)
    (value : Value) : Prop extends Versions c target₁ target₂ label value where
  fingerprints : ∃ template₁ template₂, templateOf target₁ = .ok template₁ ∧
    templateOf target₂ = .ok template₂ ∧ SameFingerprint template₁ template₂

variable {c : TemplateController} {kind : TemplateKind} {target target₁ target₂ : Value}
  {label paired id₁ id₂ : String} {value : Value} {plan plan₁ plan₂ : Blueprint}
  {fs fs₁ fs₂ spec spec₁ spec₂ base₁ base₂ : Fields}

/-! ## Templates and blueprints -/

theorem Blueprint.Of.templateOf (h : plan.Of target) :
    PodTemplate.templateOf target = .ok (.object plan.template) :=
  bind_eq_ok.mpr ⟨_, h.spec, h.template⟩

theorem isJson_templateOf {floats : Binary64 → Bool} {template : Value}
    (json : target.isJson floats = true) (h : templateOf target = .ok template) :
    template.isJson floats = true := by
  obtain ⟨_, hs, ht⟩ := bind_eq_ok.mp h
  exact isJson_getSection (isJson_getSection json hs) ht

theorem sourcePodSpec_of_templateOf (h : templateOf target = .ok (.object fs))
    (hs : (fs.get? "spec").getD .empty = .object spec) :
    sourcePodSpec target = .object spec := by
  obtain ⟨_, hspec, htemplate⟩ := bind_eq_ok.mp h
  have source : ((fs.get? "spec").getD .null).orElse .empty = sourcePodSpec target :=
    eq_of_getSection hspec htemplate rfl
  rw [← source]
  cases found : fs.get? "spec" with
  | none =>
    rw [found] at hs
    exact hs
  | some x =>
    rw [found] at hs
    obtain rfl : x = .object spec := hs
    exact orElse_empty_object spec

namespace SameRevision

theorem exists_sameTemplates (h : SameRevision c target₁ target₂ label value)
    (ht₁ : templateOf target₁ = .ok (.object fs₁)) (ht₂ : templateOf target₂ = .ok (.object fs₂)) :
    ∃ spec₁ spec₂ base₁ base₂, SameTemplates fs₁ fs₂ spec₁ spec₂ base₁ base₂ := by
  obtain ⟨_, _, found₁, found₂, same⟩ := h.fingerprints
  obtain rfl := Except.ok.inj (ht₁.symm.trans found₁)
  obtain rfl := Except.ok.inj (ht₂.symm.trans found₂)
  exact same.exists_sameTemplates (isJson_templateOf h.json₁ ht₁) (isJson_templateOf h.json₂ ht₂)

theorem exists_blueprint (h : SameRevision c target₁ target₂ label value) (of₁ : plan₁.Of target₁)
    (ht₂ : templateOf target₂ = .ok (.object fs₂)) : ∃ plan : Blueprint, plan.Of target₂ := by
  obtain ⟨_, _, _, _, same⟩ := h.exists_sameTemplates of₁.templateOf ht₂
  have json₁ := isJson_templateOf h.json₁ of₁.templateOf
  have json₂ := isJson_templateOf h.json₂ ht₂
  obtain ⟨_, hspec, htemplate⟩ := bind_eq_ok.mp ht₂
  obtain ⟨spec₂, rfl, -⟩ := getSection_eq_ok.mp htemplate
  have sections : SameJson ((plan₁.template.get? "metadata").getD .null)
      ((fs₂.get? "metadata").getD .null) :=
    SameJson.of_get? json₁ json₂ (same.templates "metadata" (by simp)) rfl
  obtain ⟨_, ⟨⟩, metadata₁⟩ := getSection_eq_ok.mp of₁.metadata
  obtain ⟨metadata₂, hmetadata, metadata⟩ := sections.exists_section metadata₁.symm
  obtain ⟨labels₂, hlabels, -⟩ := (metadata.getD "labels").exists_section of₁.labels
  obtain ⟨annotations₂, hannotations, -⟩ :=
    (metadata.getD "annotations").exists_section of₁.annotations
  exact ⟨⟨spec₂, fs₂, metadata₂, labels₂, annotations₂⟩, hspec, htemplate,
    getSection_eq_ok.mpr ⟨fs₂, rfl, hmetadata.symm⟩, hlabels, hannotations⟩

/-! ## Twins of versions -/

theorem map_at?_metadata (h : SameRevision c target₁ target₂ label value)
    (of₁ : plan₁.Of target₁) (of₂ : plan₂.Of target₂) (path : Path) :
    (target₁.at? ("spec" :: "template" :: "metadata" :: path)).map canonical =
      (target₂.at? ("spec" :: "template" :: "metadata" :: path)).map canonical := by
  obtain ⟨_, _, _, _, same⟩ := h.exists_sameTemplates of₁.templateOf of₂.templateOf
  have place {plan : Blueprint} {target : Value} (of : plan.Of target) :
      target.at? ("spec" :: "template" :: "metadata" :: path) =
        (object plan.template).at? ("metadata" :: path) := by
    rw [isSection_of_getSection of.template, isSection_of_getSection of.spec]
  rw [place of₁, place of₂]
  exact SameJson.map_at?_of_get? (isJson_templateOf h.json₁ of₁.templateOf)
    (isJson_templateOf h.json₂ of₂.templateOf) (same.templates "metadata" (by simp)) path

variable {redirect : Value → List ConfigRef → Except Failure Value} {refs : List ConfigRef}
  {redirected₁ redirected₂ podSpec₁ a b : Value}

/-- Pod specs of one revision are redirected alike, and what the marker can be removed from for one
version it can be removed from for the other. -/
theorem exists_redirected (h : SameRevision c target₁ target₂ label value)
    (ht₁ : templateOf target₁ = .ok (.object fs₁)) (ht₂ : templateOf target₂ = .ok (.object fs₂))
    (tracker : JsonRedirection redirect)
    (hr : redirect (sourcePodSpec target₁) refs = .ok redirected₁)
    (removed : removeMarker redirected₁ = .ok podSpec₁) :
    ∃ redirected₂ podSpec₂, redirect (sourcePodSpec target₂) refs = .ok redirected₂ ∧
      removeMarker redirected₂ = .ok podSpec₂ ∧
      ∀ key, (podSpec₁.child? key).map canonical = (podSpec₂.child? key).map canonical := by
  obtain ⟨spec₁, spec₂, base₁, base₂, same⟩ := h.exists_sameTemplates ht₁ ht₂
  have json₁ : (object spec₁).isJson Binary64.isProper = true := by
    rw [← same.podSpec₁]
    exact isJson_getD (isJson_templateOf h.json₁ ht₁) isJson_empty
  have json₂ : (object spec₂).isJson Binary64.isProper = true := by
    rw [← same.podSpec₂]
    exact isJson_getD (isJson_templateOf h.json₂ ht₂) isJson_empty
  rw [sourcePodSpec_of_templateOf ht₁ same.podSpec₁] at hr
  rw [sourcePodSpec_of_templateOf ht₂ same.podSpec₂]
  obtain ⟨fs', _, rfl, -, -⟩ := removeMarker_eq_ok.mp removed
  obtain ⟨gs', hr₂, others⟩ := tracker.congr spec₁ spec₂ fs' refs json₁ json₂ same.podSpecs hr
  have kept₁ := baseEntries_congr (tracker.keeps _ _ _ hr)
  have kept₂ := baseEntries_congr (tracker.keeps _ _ _ hr₂)
  obtain ⟨podSpec₂, removed₂⟩ : ∃ podSpec₂, removeMarker (.object gs') = .ok podSpec₂ :=
    ⟨_, removeMarker_eq_ok.mpr ⟨gs', base₂, rfl, kept₂.trans same.entries₂, rfl⟩⟩
  refine ⟨_, podSpec₂, hr₂, removed₂, fun key => ?_⟩
  obtain ⟨-, base, hb₁, child₁⟩ := child?_of_removeMarker removed
  obtain ⟨-, base', hb₂, child₂⟩ := child?_of_removeMarker removed₂
  obtain rfl := Except.ok.inj (hb₁.symm.trans (kept₁.trans same.entries₁))
  obtain rfl := Except.ok.inj (hb₂.symm.trans (kept₂.trans same.entries₂))
  rw [child₁, child₂]
  split
  · have lengths := length_of_canonical same.entries
    have empty : base.isEmpty = base'.isEmpty := by
      rw [Bool.eq_iff_iff, List.isEmpty_iff_length_eq_zero, List.isEmpty_iff_length_eq_zero, lengths]
    rw [empty]
    split
    · rfl
    · exact congrArg some same.entries
  · rename_i other
    exact others key (by simpa using other)

theorem same_of_twins (h : SameRevision c target₁ target₂ label value) (of₁ : plan₁.Of target₁)
    (of₂ : plan₂.Of target₂) (tracker : JsonRedirection redirect)
    (hr₁ : redirect (sourcePodSpec target₁) refs = .ok redirected₁)
    (hr₂ : redirect (sourcePodSpec target₂) refs = .ok redirected₂)
    (twin₁ : Twin kind target₁ label paired redirected₁ id₁ a)
    (twin₂ : Twin kind target₂ label paired redirected₂ id₂ b) : SamePodTemplate a b := by
  have metadata := h.map_at?_metadata of₁ of₂
  constructor
  · obtain ⟨_, removed₁, stands₁⟩ := twin₁.podSpec
    obtain ⟨_, removed₂, stands₂⟩ := twin₂.podSpec
    obtain ⟨_, _, hr, removed, same⟩ :=
      h.exists_redirected of₁.templateOf of₂.templateOf tracker hr₁ removed₁
    obtain rfl := Except.ok.inj (hr₂.symm.trans hr)
    obtain rfl := Except.ok.inj (removed₂.symm.trans removed)
    obtain ⟨⟨fs, rfl⟩, -⟩ := child?_of_removeMarker removed₁
    obtain ⟨⟨gs, rfl⟩, -⟩ := child?_of_removeMarker removed₂
    exact ⟨fs, gs, stands₁, stands₂, fun key _ => same key⟩
  · obtain ⟨labels₁, stands₁, labelled₁⟩ := twin₁.labels
    obtain ⟨labels₂, stands₂, labelled₂⟩ := twin₂.labels
    refine ⟨labels₁, labels₂, stands₁, stands₂, fun key _ => ?_⟩
    rw [labelled₁, labelled₂]
    split
    · rfl
    · exact metadata ["labels", key]
  · obtain ⟨annotations₁, stands₁, annotated₁⟩ := twin₁.annotations
    obtain ⟨annotations₂, stands₂, annotated₂⟩ := twin₂.annotations
    refine ⟨annotations₁, annotations₂, stands₁, stands₂, fun key other => ?_⟩
    rw [annotated₁, annotated₂]
    rw [List.mem_singleton] at other
    rw [if_neg other, if_neg other]
    split
    · exact metadata ["annotations", key]
    · rfl

end SameRevision

end TemplateController

end CanaryRelease
