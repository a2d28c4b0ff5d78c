import CanaryRelease.Proofs.CalmRuns
import CanaryRelease.Proofs.Promotion
import CanaryRelease.Proofs.ScaleDown
import CanaryRelease.Proofs.Versions
import Mathlib.Data.List.Infix

/-!
# The effect of a promotion

In calm surroundings a promotion of well-typed objects never fails: it makes one replacement, and
afterwards the primary is its target's twin and otherwise what it was (`promote_effect`). That every
step of the operation goes through is shown by following its exchanges (`exists_ends_promote`); what
they amount to is known from the promotions that end well (`ends_promoted`).
-/

namespace CanaryRelease

open Program Workload PodTemplate Value

namespace TemplateController

variable {c : TemplateController} {canary : Canary} {target primary body : Value}
  {label value id : String} {refs : List ConfigRef} {redirected podSpec : Value}

/-- The sections of a workload that a promotion goes through are objects where they are there. -/
structure WellTyped (workload : Value) : Prop where
  isObject : ∃ fs, workload = .object fs
  spec : ObjectAt workload ["spec"]
  template : ObjectAt workload ["spec", "template"]
  podSpec : ObjectAt workload podSpecPlace
  metadata : ObjectAt workload ["spec", "template", "metadata"]
  labels : ObjectAt workload labelsPlace
  annotations : ObjectAt workload annotationsPlace

/-! ## No step fails -/

theorem WellTyped.exists_blueprint (h : WellTyped target) : ∃ plan : Blueprint, plan.Of target := by
  obtain ⟨fs, rfl⟩ := h.isObject
  obtain ⟨spec, hspec⟩ := exists_getSection h.spec
  have inSpec := isSection_of_getSection hspec
  obtain ⟨template, htemplate⟩ := exists_getSection (h.template.of_isSection inSpec)
  have inTemplate := isSection_of_getSection htemplate
  have metadataAt := (h.metadata.of_isSection inSpec).of_isSection inTemplate
  obtain ⟨metadata, hmetadata⟩ := exists_getSection metadataAt
  have inMetadata := isSection_of_getSection hmetadata
  have labelsAt := (h.labels.of_isSection inSpec).of_isSection inTemplate
  have annotationsAt := (h.annotations.of_isSection inSpec).of_isSection inTemplate
  obtain ⟨labels, hlabels⟩ := exists_orElse_of_objectAt (labelsAt.of_isSection inMetadata)
  obtain ⟨annotations, hannotations⟩ :=
    exists_orElse_of_objectAt (annotationsAt.of_isSection inMetadata)
  exact ⟨⟨spec, template, metadata, labels, annotations⟩, hspec, htemplate, hmetadata, hlabels,
    hannotations⟩

theorem WellTyped.exists_frame (h : WellTyped primary) : ∃ frame : Frame, frame.Of primary := by
  obtain ⟨fs, rfl⟩ := h.isObject
  obtain ⟨spec, hspec⟩ := exists_getD_of_objectAt h.spec
  have inSpec := isSection_getD_empty fs "spec"
  rw [hspec] at inSpec
  obtain ⟨template, htemplate⟩ := exists_getD_of_objectAt (h.template.of_isSection inSpec)
  have inTemplate := isSection_getD_empty spec "template"
  rw [htemplate] at inTemplate
  have metadataAt := (h.metadata.of_isSection inSpec).of_isSection inTemplate
  obtain ⟨metadata, hmetadata⟩ := exists_getD_of_objectAt metadataAt
  exact ⟨⟨fs, spec, template, metadata⟩, rfl, hspec, htemplate, hmetadata⟩

theorem exists_ends_promote {plan : Blueprint} {frame : Frame} {v w : Value} {name : ObjectName}
    {value : Value} (canary : Canary) (refs : List ConfigRef) (hv : v.toManifest = .ok target)
    (hw : w.toManifest = .ok primary) (paired : c.pairingLabel target = .ok (label, value))
    (ht : plan.Of target) (hp : frame.Of primary) (own : ownName primary = .ok name)
    (hr : removeMarker redirected = .ok podSpec) (id : String) :
    ∃ body, WrittenBack (.template c.kind) (twinPlaces c.kind) primary body ∧
      Twin c.kind target label (primaryName value) redirected id body ∧
      Ends (c.promote canary) ([readExchange (.template c.kind) canary.targetObject (.ok v),
        readExchange (.template c.kind) (primaryObject canary) (.ok w),
        ⟨.targetConfigs canary, .ok refs⟩, ⟨.copyConfigs canary refs c.labelPrefixes, .ok ()⟩,
        ⟨.redirectConfigs (sourcePodSpec target) refs, .ok redirected⟩, ⟨.drawId, id⟩,
        replaceExchange (.template c.kind) name body (.ok ()),
        ⟨.count (.promoted c.kind.name), ()⟩, ⟨.note c.logger (.promoted c.kind.name
          canary.targetObject (primaryName canary.target.name)), ()⟩]) (.ok ()) := by
  obtain ⟨changed, ended⟩ : ∃ changed,
      Ends (c.promoted primary target label (primaryName value) refs) _ (.ok changed) :=
    ⟨_, ends_promoted_iff.mpr ⟨plan, frame, redirected, podSpec, id, ht, hp, hr, rfl, rfl⟩⟩
  obtain ⟨_, _, -, twin, same⟩ := ends_promoted ended
  have own_changed := ownName_of_sameApart own same.symm fun place hp =>
    ⟨apart_twinPlaces (by decide) place hp, apart_twinPlaces (by decide) place hp⟩
  obtain ⟨_, stands, -⟩ := twin.labels
  obtain ⟨fields, _, rfl, -⟩ := at?_text_eq_some.mp stands
  obtain ⟨body, hb⟩ : ∃ body, writeBody (.template c.kind) (.object fields) = .ok body := ⟨_, rfl⟩
  obtain ⟨_, _, ⟨⟩, -, written, twin⟩ := writtenBack_of_promoted ended own_changed hb
  refine ⟨body, written, twin, ?_⟩
  unfold promote
  refine ends_bind_ok.mpr ⟨target, [_], _, rfl, ends_fetch.mpr ⟨v, rfl, hv⟩, ?_⟩
  refine ends_lift_bind.mpr ⟨(label, value), paired, ?_⟩
  refine ends_bind_ok.mpr ⟨primary, [_], _, rfl, ends_fetch.mpr ⟨w, rfl, hw⟩, ?_⟩
  refine ends_bind_ok.mpr ⟨refs, [_, _], _, rfl, ends_copyConfigs.mpr rfl, ?_⟩
  refine ends_bind_ok.mpr ⟨_, [_, _], _, rfl, ended, ?_⟩
  refine ends_bind_ok.mpr ⟨(), [_], _, rfl, ends_update.mpr ⟨name, body, own_changed, hb, rfl⟩, ?_⟩
  exact ends_bind_ok.mpr ⟨(), [_], _, rfl, ends_request.mpr ⟨_, rfl, rfl⟩,
    ends_request.mpr ⟨_, rfl, rfl⟩⟩

/-! ## The effect -/

/-- `new` is a primary as a promotion leaves it: `old` was it before, and `redirected` is the
target's pod spec, redirected to the copied configuration. -/
structure Promoted (kind : TemplateKind) (target old : Value) (label value : String)
    (redirected : Value) (id : String) (new : Value) : Prop where
  policy : ∀ field ∈ kind.policyFields,
    new.at? ["spec", .text field] = target.at? ["spec", .text field]
  podSpec : ∃ podSpec, new.at? podSpecPlace = some podSpec ∧ Unmarked redirected podSpec
  labels : ∃ labels : Fields, new.at? labelsPlace = some (.object labels) ∧
    ∀ key, labels.get? key =
      if key = .text label then some (.text value) else target.at? (labelsPlace ++ [key])
  annotations : ∃ annotations : Fields, new.at? annotationsPlace = some (.object annotations) ∧
    annotations.get? (.text idKey) = some (.text id) ∧
    ∀ key : String, key ≠ idKey → annotations.get? (.text key) =
      if lastAppliedName.toList <:+: key.toList then none
      else target.at? (annotationsPlace ++ [.text key])
  frame : WrittenBack (.template kind) (twinPlaces kind ++ serverPlaces) old new

/-- A target with a pairing label and its primary are stored. -/
structure StoredPair (c : TemplateController) (canary : Canary) (store : Store)
    (target primary : Value) (label : String) (value : Value) : Prop
    extends Stored (.template c.kind) canary store target primary where
  paired : c.pairingLabel target = .ok (label, value)

/-- A target and its primary are stored and fit for a promotion. -/
structure Promotable (c : TemplateController) (canary : Canary) (store : Store)
    (target primary : Value) (label : String) (value : Value) : Prop
    extends StoredPair c canary store target primary label value where
  target_typed : WellTyped target
  primary_typed : WellTyped primary

theorem promoted_of_twin {kept : Value} {unmarked : Value}
    (written : WrittenBack (.template c.kind) (twinPlaces c.kind) primary body)
    (twin : Twin c.kind target label value redirected id body)
    (removed : removeMarker redirected = .ok unmarked) (spec : Unmarked redirected unmarked)
    (same : SameApart serverPlaces body kept) :
    Promoted c.kind target primary label value redirected id kept := by
  have kept_twin := twin.congr same (by
    simp only [serverPlaces, List.mem_cons, List.not_mem_nil, or_false]
    rintro _ (rfl | rfl)
    · exact apart_twinPlaces (by decide)
    · exact apart_twinPlaces (by decide))
  obtain ⟨podSpec, removed', stands⟩ := kept_twin.podSpec
  obtain rfl := Except.ok.inj (removed.symm.trans removed')
  obtain ⟨annotations, here, handed⟩ := kept_twin.annotations
  refine ⟨kept_twin.policy, ⟨unmarked, stands, spec⟩, kept_twin.labels,
    ⟨annotations, here, by rw [handed, if_pos rfl], fun key other => ?_⟩,
    written.of_sameApart same (by simp [serverPlaces])⟩
  rw [handed, if_neg (by simpa using other)]
  by_cases earlier : lastAppliedName.toList <:+: key.toList
  · rw [if_pos earlier, if_neg fun kept => (isHandedOn_text.mp kept).2 earlier]
  · rw [if_neg earlier, if_pos (isHandedOn_text.mpr ⟨other, earlier⟩)]

variable {σ : Type} {S : Surroundings σ} {store : σ → Store} {s : σ}
  {redirect : Value → List ConfigRef → Except Failure Value}

/-- A promotion runs to its end in calm surroundings, and the store has changed by what it writes. -/
theorem run_promote {plan : Blueprint} {frame : Frame} {unmarked value : Value}
    (calm : Calm S store refs redirect)
    (h : StoredPair c canary (store s) target primary label value) (ht : plan.Of target)
    (hp : frame.Of primary)
    (redirection : redirect (sourcePodSpec target) refs = .ok redirected)
    (removed : removeMarker redirected = .ok unmarked) :
    ∃ name body id kept s',
      name.standard = (primaryObject canary).standard ∧
      WrittenBack (.template c.kind) (twinPlaces c.kind) primary body ∧
      Twin c.kind target label (primaryName value) redirected id body ∧
      SameApart serverPlaces body kept ∧ store s' = (store s).put ⟨c.kind.name, name⟩ kept ∧
      (c.promote canary).run S s = (.ok (), s') ∧
      ((c.promote canary).log S s).filter (fun e => e.request.isWrite) =
        [replaceExchange (.template c.kind) name body (.ok ())] ∧
      ⟨.drawId, id⟩ ∈ (c.promote canary).log S s := by
  have quiet := calm.undisturbed
  obtain ⟨v, target_stored, hv⟩ := h.target_stored
  obtain ⟨w, primary_stored, hw, version⟩ := h.primary_stored
  obtain ⟨name, own, standard⟩ := h.own
  -- The states that the operation goes through up to the id of its replacement.
  let s₁ := (S (.readObject (.template c.kind) canary.targetObject) s).2
  let s₂ := (S (.readObject (.template c.kind) (primaryObject canary)) s₁).2
  let s₃ := (S (.targetConfigs canary) s₂).2
  let s₄ := (S (.copyConfigs canary refs c.labelPrefixes) s₃).2
  let s₅ := (S (.redirectConfigs (sourcePodSpec target) refs) s₄).2
  obtain ⟨body, written, twin, ends⟩ := exists_ends_promote canary refs hv hw h.paired ht hp own
    removed (S .drawId s₅).1
  have alike : body.resourceVersion.alike w.resourceVersion = true := by
    rwa [resourceVersion_of_writtenBack hw written (apart_twinPlaces (by decide))]
  have stored₁ : (store s₁).get? (c.primaryKey canary) = some w := by
    rw [quiet.store_eq rfl s]
    exact primary_stored
  obtain ⟨-, kept, s', -, -, same, run, logged, after⟩ :=
    quiet.exists_run_of_replacement [_, _, _, _, _, _] ends
      ⟨_, quiet.read h.addressable target_stored, quiet.read h.primary_addressable stored₁,
        calm.targetConfigs .., calm.copyConfigs .., (calm.redirectConfigs ..).trans redirection,
        rfl, rfl⟩
      (by simp [Request.isWrite]) ⟨fun s => ⟨_, rfl, rfl, rfl⟩, by simp [Request.isWrite]⟩
      h.primary_addressable primary_stored standard alike
  refine ⟨name, body, _, kept, s', standard, written, twin, same, after, run, ?_, ?_⟩
  · rw [logged]
    rfl
  · rw [logged]
    simp

/-- In calm surroundings a promotion makes one replacement, which succeeds, and changes the primary
as it should and nothing else. -/
theorem promote_effect {fs : Fields} {value : Value} (calm : Calm S store refs redirect)
    (h : Promotable c canary (store s) target primary label value)
    (redirection : redirect (sourcePodSpec target) refs = .ok (.object fs))
    (typed : ObjectAt (.object fs) ["nodeSelector"]) :
    ∃ name body id last s',
      (c.promote canary).run S s = (.ok (), s') ∧
      ((c.promote canary).log S s).filter (fun e => e.request.isWrite) =
        [replaceExchange (.template c.kind) name body (.ok ())] ∧
      ⟨.drawId, id⟩ ∈ (c.promote canary).log S s ∧
      (store s').get? (c.primaryKey canary) = some last ∧
      Promoted c.kind target primary label (primaryName value) (.object fs) id last ∧
      ∀ key, ¬ (c.primaryKey canary).Same key → (store s').get? key = (store s).get? key := by
  obtain ⟨unmarked, removed, spec⟩ := exists_unmarked typed
  obtain ⟨plan, ht⟩ := h.target_typed.exists_blueprint
  obtain ⟨frame, hp⟩ := h.primary_typed.exists_frame
  obtain ⟨name, body, id, kept, s', standard, written, twin, same, after, run, writes, drawn⟩ :=
    run_promote calm h.toStoredPair ht hp redirection removed
  have here : ObjectKey.Same ⟨c.kind.name, name⟩ (c.primaryKey canary) := ⟨rfl, standard⟩
  have promoted := promoted_of_twin written twin removed spec same
  refine ⟨name, body, id, kept, s', run, writes, drawn, ?_, promoted, fun key other => ?_⟩
  · rw [after, Store.get?_put, if_pos here]
  · rw [after, Store.get?_put, if_neg fun there => other (here.symm.trans there)]

theorem wellTyped_sampleDeployment (name version : String) (selector : Fields) :
    WellTyped (.object (sampleDeployment name version selector)) where
  isObject := ⟨_, rfl⟩
  spec := by
    rintro x ⟨⟩
    exact ⟨_, rfl⟩
  template := by
    rintro x ⟨⟩
    exact ⟨_, rfl⟩
  podSpec := by
    rintro x ⟨⟩
    exact ⟨_, rfl⟩
  metadata := by
    rintro x ⟨⟩
    exact ⟨_, rfl⟩
  labels := by
    rintro x ⟨⟩
    exact ⟨_, rfl⟩
  annotations := by
    rintro x ⟨⟩

/-- The Deployment `web`, scaled down. -/
def sampleTarget : Value :=
  .object (sampleDeployment "web" "7" [("disk", .text "ssd"), (.text markerKey, markerValue)])

/-- A primary of it with another node selector. -/
def sampleOutdated : Value :=
  .object (sampleDeployment "web-primary" "3" [("disk", .text "hdd")])

/-- Both of them. -/
def samplePair : Store :=
  [(⟨"Deployment", ⟨.text "web", .text "prod"⟩⟩, sampleTarget),
    (⟨"Deployment", ⟨.text "web-primary", .text "prod"⟩⟩, sampleOutdated)]

theorem promotable_samplePair :
    Promotable sampleController sampleCanary samplePair sampleTarget sampleOutdated "app"
      (.text "web") where
  addressable := by decide +kernel
  target_stored := ⟨sampleTarget, by decide +kernel, rfl⟩
  primary_stored := ⟨sampleOutdated, by decide +kernel, rfl, by decide +kernel⟩
  own := ⟨⟨.text "web-primary", .text "prod"⟩, by decide +kernel, by decide +kernel⟩
  paired := by decide +kernel
  target_typed := wellTyped_sampleDeployment ..
  primary_typed := wellTyped_sampleDeployment ..

/-- The scaled down target is promoted without its marker. -/
theorem samplePair_promotes :
    ∃ id last s',
      (sampleController.promote sampleCanary).run
        (calmSurroundings [] (fun podSpec _ => .ok podSpec) (sampleSite [] []).clock)
        (samplePair, 0) = (.ok (), s') ∧
      s'.1.get? (primaryKey sampleController sampleCanary) = some last ∧
      Promoted .deployment sampleTarget sampleOutdated "app" "web-primary"
        (sourcePodSpec sampleTarget) id last := by
  have typed : ObjectAt (sourcePodSpec sampleTarget) ["nodeSelector"] := by
    rintro x ⟨⟩
    exact ⟨_, rfl⟩
  have calm : Calm (calmSurroundings [] (fun podSpec _ => .ok podSpec) (sampleSite [] []).clock)
      Prod.fst [] fun podSpec _ => .ok podSpec := calm_calmSurroundings _
  have promotable : Promotable sampleController sampleCanary (Prod.fst (samplePair, 0)) _ _ _ _ :=
    promotable_samplePair
  obtain ⟨_, _, id, last, s', run, -, -, stored, promoted, -⟩ :=
    promote_effect calm promotable rfl typed
  exact ⟨id, last, s', run, stored, promoted⟩

end TemplateController

end CanaryRelease
