import CanaryRelease.Proofs.Twins
import CanaryRelease.Workload.ServiceController

/-!
# How primaries are promoted

A promotion reads target and primary and writes the primary back as the target's twin, changed in
the places of a twin alone (`writes_promote`). The promotion of a Service changes the type, the
ports and the selector of the primary's.
-/

namespace CanaryRelease

open Program Workload PodTemplate Value

variable {canary : Canary} {target primary body : Value} {log : List Exchange} {r : Request}

namespace TemplateController

variable {c : TemplateController} {kind : TemplateKind} {label value : String}
  {refs : List ConfigRef}

/-! ## The policy of a promoted primary -/

theorem get?_foldl_policy (fields : List String) (spec source : Fields) (key : Key) :
    (fields.foldl
        (fun acc (field : String) =>
          match source.get? field with
          | some x => Fields.set acc field x
          | none => Fields.erase acc field)
        spec).get? key =
      if ∃ field ∈ fields, key = .text field then source.get? key else spec.get? key := by
  induction fields generalizing spec with
  | nil => simp
  | cons field fields ih =>
    rw [List.foldl_cons, ih]
    by_cases later : ∃ other ∈ fields, key = .text other
    · obtain ⟨other, mem, rfl⟩ := later
      rw [if_pos ⟨other, mem, rfl⟩, if_pos ⟨other, List.mem_cons_of_mem _ mem, rfl⟩]
    · rw [if_neg later]
      by_cases here : key = .text field
      · subst here
        rw [if_pos ⟨field, List.mem_cons_self, rfl⟩]
        cases found : source.get? (.text field) with
        | none => simp [Fields.get?_erase]
        | some x => simp
      · have other : ¬ ∃ other ∈ field :: fields, key = .text other := by
          rintro ⟨other, mem, rfl⟩
          rcases List.mem_cons.mp mem with rfl | mem
          · exact here rfl
          · exact later ⟨other, mem, rfl⟩
        rw [if_neg other]
        cases source.get? (.text field) with
        | none => simp [Fields.get?_erase, here]
        | some x => simp [Fields.get?_set, here]

theorem get?_withPolicy (spec source : Fields) (key : Key) :
    (withPolicy kind spec source).get? key =
      if ∃ field ∈ kind.policyFields, key = .text field then source.get? key else spec.get? key :=
  get?_foldl_policy _ spec source key

theorem sameApart_withPolicy (spec source : Fields) :
    SameApart (kind.policyFields.map fun field => [.text field]) (object spec)
      (object (withPolicy kind spec source)) := by
  intro (path : Path) apart
  cases path with
  | nil =>
    obtain ⟨place, hp⟩ : ∃ place : Path,
        place ∈ kind.policyFields.map fun field => [(.text field : Key)] := by
      cases kind <;> exact ⟨_, List.mem_cons_self⟩
    exact absurd (apart place hp) Path.not_apart_nil_left
  | cons key path =>
    have other : ¬ ∃ field ∈ kind.policyFields, key = .text field := by
      rintro ⟨field, hf, rfl⟩
      exact Path.not_apart_nil_right (Path.apart_cons.mp (apart _ (List.mem_map_of_mem hf)) rfl)
    rw [at?_object, at?_object, get?_withPolicy, if_neg other]

/-! ## The body of a promoted primary -/

theorem readOnly_promoted : ReadOnly (c.promoted primary target label value refs) := by
  refine (readOnly_lift _).bind fun _ => (readOnly_lift _).bind fun _ => ?_
  refine (readOnly_lift _).bind fun _ => (readOnly_lift _).bind fun _ => ?_
  refine (readOnly_lift _).bind fun _ => (readOnly_lift _).bind fun _ => ?_
  refine readOnly_primaryPodSpec.bind fun _ => (readOnly_lift _).bind fun _ => ?_
  refine (readOnly_lift _).bind fun _ => (readOnly_lift _).bind fun _ => ?_
  refine readOnly_freshAnnotations.bind fun _ => (readOnly_lift _).bind fun _ => ?_
  refine (readOnly_lift _).bind fun _ => (readOnly_lift _).bind fun _ => ?_
  exact (readOnly_lift _).bind fun _ => (readOnly_lift _).bind fun _ => readOnly_lift _

theorem sameApart_template {template metadata : Fields} {podSpec : Value}
    (annotations labels : Value)
    (hm : IsSection (object (template.set "spec" podSpec)) "metadata" (object metadata)) :
    SameApart [["spec"], ["metadata", "annotations"], ["metadata", "labels"]] (object template)
      (object ((template.set "spec" podSpec).set "metadata"
        (object ((metadata.set "annotations" annotations).set "labels" labels)))) := by
  have inMetadata := (sameApart_set metadata "annotations" annotations).append
    (sameApart_set _ "labels" labels)
  exact (sameApart_set template "spec" podSpec).append (hm.sameApart_set (by simp) inMetadata)

theorem sameApart_primary {fs spec source template : Fields} {changed : Value}
    (hs : IsSection (object fs) "spec" (object spec))
    (ht : ((withPolicy kind spec source).get? "template").getD .empty = object template)
    (same : SameApart [["spec"], ["metadata", "annotations"], ["metadata", "labels"]]
      (object template) changed) :
    SameApart (twinPlaces kind) (object fs)
      (object (fs.set "spec" (object ((withPolicy kind spec source).set "template" changed)))) := by
  have isTemplate := isSection_getD_empty (withPolicy kind spec source) "template"
  rw [ht] at isTemplate
  have inSpec := (sameApart_withPolicy spec source).append
    (isTemplate.sameApart_set (by simp) same)
  have inPrimary := hs.sameApart_set (by simp) inSpec
  rw [List.map_append, List.map_map] at inPrimary
  exact inPrimary

/-- The sections of a primary that a promotion goes through. -/
structure Frame where
  fields : Fields
  spec : Fields
  template : Fields
  metadata : Fields

namespace Frame

variable {frame : Frame} {plan : Blueprint} {podSpec : Value} {id : String}

/-- A primary has these sections; what is missing counts as empty. -/
structure Of (frame : Frame) (primary : Value) : Prop where
  isObject : primary = .object frame.fields
  spec : (frame.fields.get? "spec").getD .empty = .object frame.spec
  template : (frame.spec.get? "template").getD .empty = .object frame.template
  metadata : (frame.template.get? "metadata").getD .empty = .object frame.metadata

/-- The primary after a promotion of the target with a blueprint. -/
def promoted (frame : Frame) (kind : TemplateKind) (plan : Blueprint) (label value : String)
    (podSpec : Value) (id : String) : Value :=
  .object (frame.fields.set "spec" (.object ((withPolicy kind frame.spec plan.spec).set "template"
    (.object ((frame.template.set "spec" podSpec).set "metadata"
      (.object ((frame.metadata.set "annotations" (.object (stamp plan.handedOn id))).set "labels"
        (.object (plan.twinLabels label value)))))))))

theorem get?_template_withPolicy (spec source : Fields) :
    (withPolicy kind spec source).get? "template" = spec.get? "template" := by
  rw [get?_withPolicy, if_neg]
  rintro ⟨field, hf, same⟩
  obtain ⟨-, -, other⟩ := ne_of_mem_policyFields hf
  exact other (Key.text.inj same)

theorem Of.sameApart_promoted (h : frame.Of primary) :
    SameApart (twinPlaces kind) primary (frame.promoted kind plan label value podSpec id) := by
  rw [h.isObject]
  have inFields := isSection_getD_empty frame.fields "spec"
  rw [h.spec] at inFields
  have inTemplate := isSection_getD_empty (frame.template.set "spec" podSpec) "metadata"
  rw [Fields.get?_set_of_not_same _ _ (by simp), h.metadata] at inTemplate
  refine sameApart_primary inFields ?_ (sameApart_template _ _ inTemplate)
  rw [get?_template_withPolicy, h.template]

theorem twin_promoted {redirected : Value} (hp : plan.Of target)
    (hr : removeMarker redirected = .ok podSpec) :
    Twin kind target label value redirected id
      (frame.promoted kind plan label value podSpec id) where
  policy field hfield := by
    obtain ⟨-, -, other⟩ := ne_of_mem_policyFields hfield
    have inSource := isSection_of_getSection hp.spec (.text field) []
    rw [promoted, at?_set, if_pos rfl, at?_set, if_neg (by simpa using Ne.symm other), ← inSource,
      at?_object_singleton, at?_object_singleton, get?_withPolicy, if_pos ⟨field, hfield, rfl⟩]
  podSpec := by
    refine ⟨podSpec, hr, ?_⟩
    rw [promoted, podSpecPlace, at?_set, if_pos rfl, at?_set, if_pos rfl, at?_set,
      if_neg (by decide), at?_set, if_pos rfl, at?_nil]
  labels := by
    refine ⟨_, ?_, hp.twinLabels⟩
    rw [promoted, labelsPlace, at?_set, if_pos rfl, at?_set, if_pos rfl, at?_set, if_pos rfl,
      at?_set, if_pos rfl, at?_nil]
  annotations := by
    refine ⟨_, ?_, hp.twinAnnotations⟩
    rw [promoted, annotationsPlace, at?_set, if_pos rfl, at?_set, if_pos rfl, at?_set, if_pos rfl,
      at?_set, if_neg (by decide), at?_set, if_pos rfl, at?_nil]

end Frame

/-- A primary can be promoted if target and primary have the sections that are gone through and the
marker can be removed from the redirected pod spec. -/
theorem ends_promoted_iff :
    Ends (c.promoted primary target label value refs) log (.ok body) ↔
      ∃ (plan : Blueprint) (frame : Frame) (redirected podSpec : Value) (id : String),
        plan.Of target ∧ frame.Of primary ∧ removeMarker redirected = .ok podSpec ∧
        log = [⟨.redirectConfigs (sourcePodSpec target) refs, .ok redirected⟩, ⟨.drawId, id⟩] ∧
        body = frame.promoted c.kind plan label value podSpec id := by
  unfold promoted
  simp only [ends_lift_bind]
  constructor
  · rintro ⟨_, hs, _, ht, _, hm, _, hspec, spec, hf, source, hsf, rest⟩
    obtain rfl := fields_eq_ok.mp hf
    obtain ⟨podSpec, _, _, rfl, made, after⟩ := ends_bind_ok.mp rest
    obtain ⟨podSpecSource, redirected, hp, hr, rfl⟩ := ends_primaryPodSpec.mp made
    obtain rfl := eq_of_getSection hs ht hp
    simp only [ends_lift_bind] at after
    obtain ⟨_, htemplate, _, hmetadata, found, ha, stamping⟩ := after
    obtain ⟨annotations, _, _, rfl, fresh, last⟩ := ends_bind_ok.mp stamping
    obtain ⟨kept, id, hk, rfl, rfl⟩ := ends_freshAnnotations.mp fresh
    simp only [ends_lift_bind, ends_lift, set_eq_ok] at last
    obtain ⟨_, ⟨metadata, rfl, rfl⟩, _, hl, labels, hpaired, _, ⟨_, ⟨⟩, rfl⟩, _, ⟨_, ⟨⟩, rfl⟩, rfl,
      hbody⟩ := last
    obtain ⟨fs, rfl, rfl⟩ := set_eq_ok.mp hbody.symm
    obtain ⟨template, isTemplate, ⟨⟩⟩ := set_eq_ok.mp htemplate
    obtain ⟨_, ⟨⟩, isSpec⟩ := getOr_eq_ok.mp hspec
    obtain ⟨_, ⟨⟩, isMetadata⟩ := getOr_eq_ok.mp hmetadata
    obtain ⟨plan, of, rfl, rfl, rfl, rfl, rfl⟩ := Blueprint.exists_of_reads hs ht hm hl hpaired ha hk
    obtain rfl := Value.object.inj (fields_eq_ok.mp hsf)
    rw [Frame.get?_template_withPolicy] at isTemplate
    rw [Fields.get?_set_of_not_same _ _ (by simp)] at isMetadata
    exact ⟨plan, ⟨fs, spec, template, metadata⟩, redirected, podSpec, id, of,
      ⟨rfl, isSpec.symm, isTemplate, isMetadata.symm⟩, hr, rfl, rfl⟩
  · rintro ⟨plan, frame, redirected, podSpec, id, hp, hf, hr, rfl, rfl⟩
    refine ⟨_, hp.spec, _, hp.template, _, hp.metadata, _,
      getOr_eq_ok.mpr ⟨_, hf.isObject, hf.spec.symm⟩, _, rfl, _, rfl,
      ends_bind_ok.mpr ⟨podSpec, [_], [_], rfl, ?_, ?_⟩⟩
    · exact ends_primaryPodSpec.mpr ⟨_, redirected, hp.sourcePodSpec, hr, rfl⟩
    · have isMetadata : ((frame.template.set "spec" podSpec).get? "metadata").getD .empty =
          .object frame.metadata := by
        rw [Fields.get?_set_of_not_same _ _ (by simp), hf.metadata]
      have isTemplate : ((withPolicy c.kind frame.spec plan.spec).get? "template").getD .empty =
          .object frame.template := by
        rw [Frame.get?_template_withPolicy, hf.template]
      have paired : pairedLabels ((plan.metadata.get? "labels").getD .null) label (.text value) =
          .ok (plan.twinLabels label value) := pairedLabels_eq_ok.mpr ⟨plan.labels, hp.labels, rfl⟩
      have kept := handedOn_eq_ok.mpr ⟨plan.annotations, hp.annotations, rfl⟩
      simp only [ends_lift_bind]
      refine ⟨_, set_eq_ok.mpr ⟨_, isTemplate, rfl⟩, _, getOr_eq_ok.mpr ⟨_, rfl, isMetadata.symm⟩, _,
        get_eq_ok.mpr ⟨_, rfl, rfl⟩,
        ends_bind_ok.mpr ⟨stamp plan.handedOn id, [_], [], rfl, ?_, ?_⟩⟩
      · exact ends_freshAnnotations.mpr ⟨_, id, kept, rfl, rfl⟩
      · simp only [ends_lift_bind]
        exact ⟨_, rfl, _, get_eq_ok.mpr ⟨_, rfl, rfl⟩, _, paired, _, rfl, _, rfl,
          ends_lift.mpr ⟨rfl, by rw [hf.isObject]; rfl⟩⟩

theorem ends_promoted (h : Ends (c.promoted primary target label value refs) log (.ok body)) :
    ∃ id redirected,
      log = [⟨.redirectConfigs (sourcePodSpec target) refs, .ok redirected⟩, ⟨.drawId, id⟩] ∧
      Twin c.kind target label value redirected id body ∧
      SameApart (twinPlaces c.kind) primary body := by
  obtain ⟨plan, frame, redirected, podSpec, id, hp, hf, hr, rfl, rfl⟩ := ends_promoted_iff.mp h
  exact ⟨id, redirected, rfl, Frame.twin_promoted hp hr, hf.sameApart_promoted⟩

/-! ## Promotion -/

theorem writtenBack_of_promoted {changed : Value} {name : ObjectName}
    (h : Ends (c.promoted primary target label value refs) log (.ok changed))
    (hn : ownName changed = .ok name) (hb : writeBody (.template c.kind) changed = .ok body) :
    ∃ id redirected,
      log = [⟨.redirectConfigs (sourcePodSpec target) refs, .ok redirected⟩, ⟨.drawId, id⟩] ∧
      ownName primary = .ok name ∧ WrittenBack (.template c.kind) (twinPlaces c.kind) primary body ∧
      Twin c.kind target label value redirected id body := by
  obtain ⟨id, redirected, rfl, twin, same⟩ := ends_promoted h
  have kept := (writtenBack_of_writeBody hb (.refl [] changed) (by simp)).same
  have own := ownName_of_sameApart hn same fun place hp =>
    ⟨apart_twinPlaces (by decide) place hp, apart_twinPlaces (by decide) place hp⟩
  have written := writtenBack_of_writeBody hb same fun place hp =>
    ⟨apart_twinPlaces (by decide) place hp, apart_twinPlaces (by decide) place hp⟩
  refine ⟨id, redirected, rfl, own, written, twin.congr kept ?_⟩
  simp only [List.mem_cons, List.not_mem_nil, or_false]
  rintro _ (rfl | rfl)
  · exact apart_twinPlaces (by decide)
  · exact apart_twinPlaces (by decide)

theorem exists_promoted_of_writes (h : Writes (c.promote canary) log r) :
    ∃ v target label value w primary refs made changed name body,
      log = [readExchange (.template c.kind) canary.targetObject (.ok v),
        readExchange (.template c.kind) (primaryObject canary) (.ok w),
        ⟨.targetConfigs canary, .ok refs⟩, ⟨.copyConfigs canary refs c.labelPrefixes, .ok ()⟩] ++
        made ∧
      v.toManifest = .ok target ∧ c.pairingLabel target = .ok (label, value) ∧
      w.toManifest = .ok primary ∧
      Ends (c.promoted primary target label (primaryName value) refs) made (.ok changed) ∧
      ownName changed = .ok name ∧ writeBody (.template c.kind) changed = .ok body ∧
      r = .replaceObject (.template c.kind) name body := by
  unfold promote at h
  obtain ⟨target, _, after, rfl, ht, rest⟩ := (readOnly_fetch _ _).writes_bind.mp h
  obtain ⟨v, rfl, hv⟩ := ends_fetch.mp ht
  obtain ⟨⟨label, value⟩, hl, rest⟩ := writes_lift_bind.mp rest
  obtain ⟨primary, _, after, rfl, hp, copying⟩ := (readOnly_fetch _ _).writes_bind.mp rest
  obtain ⟨w, rfl, hw⟩ := ends_fetch.mp hp
  obtain ⟨refs, _, after, rfl, hc, making⟩ := readOnly_copyConfigs.writes_bind.mp copying
  obtain rfl := ends_copyConfigs.mp hc
  obtain ⟨changed, made, after, rfl, hb, writing⟩ := readOnly_promoted.writes_bind.mp making
  obtain update | ⟨_, _, _, -, -, telling⟩ := writes_bind.mp writing
  · obtain ⟨rfl, name, body, hn, hwrite, rfl⟩ := writes_update.mp update
    exact ⟨v, target, label, value, w, primary, refs, made, changed, name, body, by simp, hv, hl, hw,
      hb, hn, hwrite, rfl⟩
  · exact absurd telling ((readOnly_request rfl).bind (fun _ => readOnly_request rfl) _ _)

/-- A primary is written back as it was read, turned into the twin of the target that was read. -/
theorem writes_promote (h : Writes (c.promote canary) log r) :
    ∃ v target label value w primary refs redirected id name body,
      log = [readExchange (.template c.kind) canary.targetObject (.ok v),
        readExchange (.template c.kind) (primaryObject canary) (.ok w),
        ⟨.targetConfigs canary, .ok refs⟩, ⟨.copyConfigs canary refs c.labelPrefixes, .ok ()⟩,
        ⟨.redirectConfigs (sourcePodSpec target) refs, .ok redirected⟩, ⟨.drawId, id⟩] ∧
      v.toManifest = .ok target ∧ c.pairingLabel target = .ok (label, value) ∧
      w.toManifest = .ok primary ∧ ownName primary = .ok name ∧
      r = .replaceObject (.template c.kind) name body ∧
      WrittenBack (.template c.kind) (twinPlaces c.kind) primary body ∧
      Twin c.kind target label (primaryName value) redirected id body := by
  obtain ⟨v, target, label, value, w, primary, refs, made, changed, name, body, rfl, hv, hl, hw, hb,
    hn, hwrite, rfl⟩ := exists_promoted_of_writes h
  obtain ⟨id, redirected, rfl, own, written, twin⟩ := writtenBack_of_promoted hb hn hwrite
  exact ⟨v, target, label, value, w, primary, refs, redirected, id, name, body, rfl, hv, hl, hw,
    own, rfl, written, twin⟩

end TemplateController

namespace ServiceController

variable {c : ServiceController}

/-- The places of a primary service that promotions change. -/
def promotedPlaces : List Path := [["spec", "type"], ["spec", "ports"], ["spec", "selector"]]

/-- The selector that a derived service takes over, none if the target's is not set. -/
def handedSelector (source : Fields) : Except Failure (Option Value) :=
  let selector := (source.get? "selector").getD .null
  if selector.isUnset then .ok none else do return some (.object (← selector.toFields))

/-- A spec with another selector or none. -/
def withSelector (spec : Fields) : Option Value → Fields
  | none => spec.erase "selector"
  | some selector => spec.set "selector" selector

theorem get?_withSelector (spec : Fields) (selector : Option Value) (key : Key) :
    (withSelector spec selector).get? key =
      if key = .text "selector" then selector else spec.get? key := by
  cases selector with
  | none => rw [withSelector, Fields.get?_erase]; simp only [Key.text_same]
  | some x => rw [withSelector, Fields.get?_set]; simp only [Key.text_same]

theorem promoted_eq_ok {changed : Value} :
    promoted primary target = .ok changed ↔
      ∃ (source fs spec : Fields) (ports : Value) (selector : Option Value),
        target.getSection "spec" = .ok (.object source) ∧ primary = .object fs ∧
        (fs.get? "spec").getD .empty = .object spec ∧
        clusterPorts ((source.get? "ports").getD .null) = .ok ports ∧
        handedSelector source = .ok selector ∧
        changed = .object (fs.set "spec" (.object
          (withSelector ((spec.set "type" (.text "ClusterIP")).set "ports" ports) selector))) := by
  unfold promoted handedSelector
  simp only [bind_eq_ok, set_eq_ok]
  constructor
  · rintro ⟨_, hsource, _, hspec, _, ⟨spec, rfl, rfl⟩, _, hports, ports, hp, _, ⟨_, ⟨⟩, rfl⟩, _,
      hselector, rest⟩
    obtain ⟨source, rfl, rfl⟩ := get_eq_ok.mp hports
    obtain ⟨_, ⟨⟩, rfl⟩ := get_eq_ok.mp hselector
    obtain ⟨fs, rfl, isSpec⟩ := getOr_eq_ok.mp hspec
    split at rest
    · obtain ⟨_, he, hset⟩ := bind_eq_ok.mp rest
      obtain ⟨_, ⟨⟩, rfl⟩ := erase_eq_ok.mp he
      obtain ⟨_, ⟨⟩, rfl⟩ := set_eq_ok.mp hset
      exact ⟨source, fs, spec, ports, none, hsource, rfl, isSpec.symm, hp, if_pos ‹_›, rfl⟩
    · obtain ⟨fields, hf, rest⟩ := bind_eq_ok.mp rest
      obtain ⟨_, hs, hset⟩ := bind_eq_ok.mp rest
      obtain ⟨_, ⟨⟩, rfl⟩ := set_eq_ok.mp hs
      obtain ⟨_, ⟨⟩, rfl⟩ := set_eq_ok.mp hset
      refine ⟨source, fs, spec, ports, some (.object fields), hsource, rfl, isSpec.symm, hp, ?_, rfl⟩
      rw [if_neg ‹_›, hf]
      rfl
  · rintro ⟨source, fs, spec, ports, selector, hsource, rfl, isSpec, hp, hselector, rfl⟩
    refine ⟨_, hsource, _, getOr_eq_ok.mpr ⟨fs, rfl, isSpec.symm⟩, _, ⟨spec, rfl, rfl⟩, _,
      get_eq_ok.mpr ⟨source, rfl, rfl⟩, ports, hp, _, ⟨_, rfl, rfl⟩, _,
      get_eq_ok.mpr ⟨source, rfl, rfl⟩, ?_⟩
    split at hselector
    · obtain rfl := Except.ok.inj hselector
      rw [if_pos ‹_›]
      rfl
    · obtain ⟨fields, hf, ⟨⟩⟩ := bind_eq_ok.mp hselector
      rw [if_neg ‹_›, hf]
      rfl

theorem sameApart_promoted {changed : Value} (h : promoted primary target = .ok changed) :
    SameApart promotedPlaces primary changed := by
  obtain ⟨source, fs, spec, ports, selector, -, rfl, isSpec, -, -, rfl⟩ := promoted_eq_ok.mp h
  have inPrimary := isSection_getD_empty fs "spec"
  rw [isSpec] at inPrimary
  have ported := (sameApart_set spec "type" (.text "ClusterIP")).append
    (sameApart_set _ "ports" ports)
  cases selector with
  | none => exact inPrimary.sameApart_set (by simp) (ported.append (sameApart_erase _ "selector"))
  | some x => exact inPrimary.sameApart_set (by simp) (ported.append (sameApart_set _ "selector" x))

theorem exists_promoted_of_writes (h : Writes (c.promote canary) log r) :
    ∃ v target w primary changed name body,
      log = [readExchange .service canary.targetObject (.ok v),
        readExchange .service (primaryObject canary) (.ok w)] ∧
      v.toManifest = .ok target ∧ w.toManifest = .ok primary ∧
      promoted primary target = .ok changed ∧ ownName changed = .ok name ∧
      writeBody .service changed = .ok body ∧ r = .replaceObject .service name body := by
  unfold promote at h
  obtain ⟨target, _, after, rfl, ht, rest⟩ := (readOnly_fetch _ _).writes_bind.mp h
  obtain ⟨v, rfl, hv⟩ := ends_fetch.mp ht
  obtain ⟨primary, _, after, rfl, hp, making⟩ := (readOnly_fetch _ _).writes_bind.mp rest
  obtain ⟨w, rfl, hw⟩ := ends_fetch.mp hp
  obtain ⟨changed, hc, writing⟩ := writes_lift_bind.mp making
  obtain update | ⟨_, _, _, -, -, telling⟩ := writes_bind.mp writing
  · obtain ⟨rfl, name, body, hn, hwrite, rfl⟩ := writes_update.mp update
    exact ⟨v, target, w, primary, changed, name, body, rfl, hv, hw, hc, hn, hwrite, rfl⟩
  · exact absurd telling ((readOnly_request rfl).bind (fun _ => readOnly_request rfl) _ _)

theorem writes_promote (h : Writes (c.promote canary) log r) :
    ∃ v w primary name body,
      log = [readExchange .service canary.targetObject (.ok v),
        readExchange .service (primaryObject canary) (.ok w)] ∧
      w.toManifest = .ok primary ∧ ownName primary = .ok name ∧
      r = .replaceObject .service name body ∧ WrittenBack .service promotedPlaces primary body := by
  obtain ⟨v, target, w, primary, changed, name, body, rfl, -, hw, hc, hn, hwrite, rfl⟩ :=
    exists_promoted_of_writes h
  have same := sameApart_promoted hc
  exact ⟨v, w, primary, name, body, rfl, hw,
    ownName_of_sameApart hn same (by simp [promotedPlaces]), rfl,
    writtenBack_of_writeBody hwrite same (by simp [promotedPlaces])⟩

end ServiceController

end CanaryRelease
