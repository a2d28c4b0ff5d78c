import CanaryRelease.Proofs.Twins

/-!
# How primaries are created

A primary is created once its target was read and accepted and the primary was found missing, and
what is created is the target's twin (`writes_createPrimary`). If the creation ends well, the
primary was seen to exist or has been created (`ends_createPrimary`).
-/

namespace CanaryRelease.TemplateController

open Program Workload PodTemplate Value

variable {c : TemplateController} {kind : TemplateKind} {canary : Canary} {target body : Value}
  {log : List Exchange} {label value : String} {refs : List ConfigRef} {r : Request}

/-! ## The spec of a new primary -/

theorem get?_policy_fields (fields : List String) (spec : Fields) (field : String) :
    Fields.get? (fields.filterMap fun (key : String) =>
        (spec.get? key).map fun x => ((.text key : Key), x)) (.text field) =
      if field ∈ fields then spec.get? (.text field) else none := by
  induction fields with
  | nil => rfl
  | cons key fields ih =>
    rw [List.filterMap_cons]
    by_cases here : field = key
    · subst here
      cases found : spec.get? (.text field) with
      | none => simp [ih, found]
      | some x => simp [Fields.get?_cons]
    · cases found : spec.get? (.text key) with
      | none => simp [ih, here]
      | some x =>
        have other : key ≠ field := Ne.symm here
        simp [ih, here, other, Fields.get?_cons]

theorem get?_policy (spec : Fields) {field : String} (h : field ∈ kind.policyFields) :
    (policy kind spec).get? (.text field) = spec.get? (.text field) := by
  rw [policy, get?_policy_fields, if_pos h]

theorem get?_update_firstReplicas (spec fs : Fields) {field : String}
    (h : field ∈ kind.policyFields) :
    (fs.update (firstReplicas kind spec)).get? (.text field) = fs.get? (.text field) := by
  obtain ⟨replicas, -, -⟩ := ne_of_mem_policyFields h
  cases kind with
  | deployment =>
    change (fs.set (.text "replicas") _).get? _ = _
    exact Fields.get?_set_of_not_same _ _ (by simpa using replicas)
  | daemonSet => rfl
  | cloneSet => rfl

/-! ## The body of a new primary -/

theorem ends_primaryTemplate {template : Value}
    (h : Ends (primaryTemplate target label value refs) log (.ok template)) :
    ∃ plan : Blueprint, plan.Of target ∧ ∃ id podSpec redirected,
      log = [⟨.drawId, id⟩, ⟨.redirectConfigs (sourcePodSpec target) refs, .ok redirected⟩] ∧
      removeMarker redirected = .ok podSpec ∧
      template = .object [
        ("metadata", .object [("labels", .object (plan.twinLabels label value)),
          ("annotations", .object (stamp plan.handedOn id))]),
        ("spec", podSpec)] := by
  unfold primaryTemplate at h
  simp only [ends_lift_bind] at h
  obtain ⟨spec, hs, template, ht, metadata, hm, labelsField, hl, labels, hp, field, ha, rest⟩ := h
  obtain ⟨annotations, _, _, rfl, fresh, after⟩ := ends_bind_ok.mp rest
  obtain ⟨kept, id, hk, rfl, rfl⟩ := ends_freshAnnotations.mp fresh
  obtain ⟨podSpec, _, _, rfl, made, ended⟩ := ends_bind_ok.mp after
  obtain ⟨source, redirected, hsource, hr, rfl⟩ := ends_primaryPodSpec.mp made
  obtain ⟨rfl, ⟨⟩⟩ := ends_pure.mp ended
  obtain rfl := eq_of_getSection hs ht hsource
  obtain ⟨plan, of, rfl, rfl, rfl, rfl, rfl⟩ := Blueprint.exists_of_reads hs ht hm hl hp ha hk
  exact ⟨plan, of, id, podSpec, redirected, rfl, hr, rfl⟩

theorem primaryMetadata_eq_ok {metadata : Value}
    (h : primaryMetadata c canary target label value = .ok metadata) :
    ∃ labels annotations : Fields, metadata = .object [
      ("name", (primaryObject canary).name), ("namespace", canary.space),
      ("labels", .object labels), ("annotations", .object annotations),
      ("ownerReferences", .list [canary.ownerReference])] := by
  unfold primaryMetadata at h
  simp only [bind_eq_ok] at h
  obtain ⟨_, -, _, -, _, -, labels, -, _, -, annotations, -, ⟨⟩⟩ := h
  exact ⟨labels, annotations, rfl⟩

theorem exists_parts_of_primaryBody
    (h : Ends (c.primaryBody canary target label value refs) log (.ok body)) :
    ∃ (spec : Fields) (template metadata : Value),
      target.getSection "spec" = .ok (.object spec) ∧
      Ends (primaryTemplate target label value refs) log (.ok template) ∧
      c.primaryMetadata canary target label value = .ok metadata ∧
      body = .object [
        ("apiVersion", .text c.kind.apiVersion), ("kind", .text c.kind.name),
        ("metadata", metadata),
        ("spec", .object ((((policy c.kind spec).update (firstReplicas c.kind spec)).set "selector"
          (.object [("matchLabels", .object [(.text label, .text value)])])).set
            "template" template))] := by
  unfold primaryBody at h
  simp only [ends_lift_bind] at h
  obtain ⟨_, hs, spec, hf, rest⟩ := h
  obtain rfl := fields_eq_ok.mp hf
  obtain ⟨template, _, _, rfl, made, after⟩ := ends_bind_ok.mp rest
  obtain ⟨metadata, hm, ended⟩ := ends_lift_bind.mp after
  obtain ⟨rfl, ⟨⟩⟩ := ends_pure.mp ended
  rw [List.append_nil]
  exact ⟨spec, template, metadata, hs, made, hm, rfl⟩

/-- The body of a new primary names the primary and is the target's twin. -/
theorem ends_primaryBody
    (h : Ends (c.primaryBody canary target label value refs) log (.ok body)) :
    (∃ plan : Blueprint, plan.Of target) ∧ ∃ id redirected,
      log = [⟨.drawId, id⟩, ⟨.redirectConfigs (sourcePodSpec target) refs, .ok redirected⟩] ∧
      ownName body = .ok (primaryObject canary) ∧
      Twin c.kind target label value redirected id body := by
  obtain ⟨spec, template, metadata, hs, made, hm, rfl⟩ := exists_parts_of_primaryBody h
  obtain ⟨plan, of, id, podSpec, redirected, rfl, hr, rfl⟩ := ends_primaryTemplate made
  obtain ⟨mlabels, mannotations, rfl⟩ := primaryMetadata_eq_ok hm
  refine ⟨⟨plan, of⟩, id, redirected, rfl, ?_, ?_, ⟨podSpec, hr, ?_⟩, ⟨_, ?_, of.twinLabels⟩,
    ⟨_, ?_, of.twinAnnotations⟩⟩
  · rw [ownName_eq_ok]
    exact ⟨rfl, rfl⟩
  · intro field hfield
    obtain ⟨-, selector, template⟩ := ne_of_mem_policyFields hfield
    have source := isSection_of_getSection hs (.text field) []
    rw [at?_object_singleton] at source
    rw [← source, ← get?_policy spec hfield, ← get?_update_firstReplicas spec _ hfield]
    change (object ((Fields.set _ (.text "selector") _).set (.text "template") _)).at? [_] = _
    rw [at?_object_singleton, Fields.get?_set_of_not_same, Fields.get?_set_of_not_same]
    · simpa using selector
    · simpa using template
  · change (object (Fields.set _ (.text "template") _)).at? [.text "template", .text "spec"] = _
    rw [at?_set, if_pos rfl]
    rfl
  · change (object (Fields.set _ (.text "template") _)).at?
      [.text "template", .text "metadata", .text "labels"] = _
    rw [at?_set, if_pos rfl]
    rfl
  · change (object (Fields.set _ (.text "template") _)).at?
      [.text "template", .text "metadata", .text "annotations"] = _
    rw [at?_set, if_pos rfl]
    rfl

/-! ## Creation -/

theorem readOnly_primaryBody {target : Value} :
    ReadOnly (c.primaryBody canary target label value refs) := by
  refine (readOnly_lift _).bind fun _ => (readOnly_lift _).bind fun _ => ?_
  refine ReadOnly.bind ?_ fun _ => (readOnly_lift _).bind fun _ => readOnly_pure _
  refine (readOnly_lift _).bind fun _ => (readOnly_lift _).bind fun _ => ?_
  refine (readOnly_lift _).bind fun _ => (readOnly_lift _).bind fun _ => ?_
  refine (readOnly_lift _).bind fun _ => (readOnly_lift _).bind fun _ => ?_
  exact readOnly_freshAnnotations.bind fun _ => readOnly_primaryPodSpec.bind fun _ =>
    readOnly_pure _

theorem exists_body_of_writes (h : Writes (c.createPrimary canary) log r) :
    ∃ v target label value failure refs made body,
      log = [readExchange (.template c.kind) canary.targetObject (.ok v),
        readExchange (.template c.kind) (primaryObject canary) (.error failure),
        ⟨.targetConfigs canary, .ok refs⟩, ⟨.copyConfigs canary refs c.labelPrefixes, .ok ()⟩] ++
        made ∧
      v.toManifest = .ok target ∧ c.pairingLabel target = .ok (label, value) ∧
      Ends (c.primaryBody canary target label (primaryName value) refs) made (.ok body) ∧
      r = .createObject (.template c.kind) canary.space body := by
  unfold createPrimary at h
  obtain ⟨target, _, after, rfl, ht, rest⟩ := (readOnly_fetch _ _).writes_bind.mp h
  obtain ⟨v, rfl, hv⟩ := ends_fetch.mp ht
  obtain ⟨_, -, rest⟩ := writes_lift_bind.mp rest
  obtain ⟨⟨label, value⟩, hl, rest⟩ := writes_lift_bind.mp rest
  obtain ⟨found, _, after, rfl, hf, missing⟩ := (readOnly_exists _ _).writes_bind.mp rest
  obtain ⟨reply, rfl, seen⟩ := ends_exists.mp hf
  cases found with
  | true => exact absurd missing (readOnly_pure _ _ _)
  | false =>
    obtain ⟨failure, rfl, -⟩ := seen
    obtain ⟨refs, _, after, rfl, hc, making⟩ := readOnly_copyConfigs.writes_bind.mp missing
    obtain rfl := ends_copyConfigs.mp hc
    obtain ⟨body, made, after, rfl, hb, creating⟩ := readOnly_primaryBody.writes_bind.mp making
    obtain create | ⟨_, _, _, -, -, telling⟩ := writes_bind.mp creating
    · obtain ⟨rfl, rfl⟩ := writes_create.mp create
      exact ⟨v, target, label, value, failure, refs, made, body, by simp, hv, hl, hb, rfl⟩
    · exact absurd telling ((readOnly_request rfl).bind (fun _ => readOnly_request rfl) _ _)

/-- A primary is created as the twin of the target that was read, after its target was accepted and
the primary was found missing. -/
theorem writes_createPrimary (h : Writes (c.createPrimary canary) log r) :
    ∃ v target label value failure refs id redirected body,
      log = [readExchange (.template c.kind) canary.targetObject (.ok v),
        readExchange (.template c.kind) (primaryObject canary) (.error failure),
        ⟨.targetConfigs canary, .ok refs⟩, ⟨.copyConfigs canary refs c.labelPrefixes, .ok ()⟩,
        ⟨.drawId, id⟩, ⟨.redirectConfigs (sourcePodSpec target) refs, .ok redirected⟩] ∧
      v.toManifest = .ok target ∧ c.pairingLabel target = .ok (label, value) ∧
      r = .createObject (.template c.kind) canary.space body ∧
      ownName body = .ok (primaryObject canary) ∧
      Twin c.kind target label (primaryName value) redirected id body := by
  obtain ⟨v, target, label, value, failure, refs, made, body, rfl, hv, hl, hb, rfl⟩ :=
    exists_body_of_writes h
  obtain ⟨-, id, redirected, rfl, name, twin⟩ := ends_primaryBody hb
  exact ⟨v, target, label, value, failure, refs, id, redirected, body, rfl, hv, hl, rfl, name, twin⟩

/-- The exchanges in which a primary turned out to exist or was created. -/
def ShowsPrimary (c : TemplateController) (canary : Canary) (e : Exchange) : Prop :=
  (∃ v, e = readExchange (.template c.kind) (primaryObject canary) (.ok v)) ∨
    ∃ body, ownName body = .ok (primaryObject canary) ∧
      e = createExchange (.template c.kind) canary.space body (.ok ())

theorem ends_createPrimary (h : Ends (c.createPrimary canary) log (.ok ())) :
    ∃ e ∈ log, ShowsPrimary c canary e := by
  unfold createPrimary at h
  obtain ⟨target, _, after, rfl, ht, rest⟩ := ends_bind_ok.mp h
  obtain ⟨_, -, rest⟩ := ends_lift_bind.mp rest
  obtain ⟨_, -, rest⟩ := ends_lift_bind.mp rest
  obtain ⟨found, _, after, rfl, hf, missing⟩ := ends_bind_ok.mp rest
  obtain ⟨reply, rfl, seen⟩ := ends_exists.mp hf
  cases found with
  | true =>
    obtain ⟨v, rfl⟩ := seen
    exact ⟨_, by simp, .inl ⟨v, rfl⟩⟩
  | false =>
    obtain ⟨refs, _, after, rfl, -, making⟩ := ends_bind_ok.mp missing
    obtain ⟨body, _, after, rfl, hb, creating⟩ := ends_bind_ok.mp making
    obtain ⟨-, id, redirected, -, name, -⟩ := ends_primaryBody hb
    obtain ⟨_, _, after, rfl, hc, -⟩ := ends_bind_ok.mp creating
    obtain rfl := ends_create.mp hc
    exact ⟨createExchange (.template c.kind) canary.space body (.ok ()), by simp [primaryObject],
      .inr ⟨body, name, rfl⟩⟩

end CanaryRelease.TemplateController
