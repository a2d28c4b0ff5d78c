import CanaryRelease.Proofs.Replacements

/-!
# What calls write

Everything that the call of an operation may ask to be changed: establishing creates the objects
derived from the target, a promotion replaces the primary, scaling replaces the target, and all
other calls ask for no change (`Controller.writes_call`). A target that is scaled is written back
with another node selector, in containers that are there or are made (`Rescaled`).
-/

namespace CanaryRelease

open Program Workload PodTemplate Value

/-- The place of a workload's node selector. -/
def PodTemplate.selectorPlace : Path := podSpecPlace ++ [.text "nodeSelector"]

/-! ## Targets that are scaled -/

/-- `body` is what a target is scaled with: the marker is set or removed, the sections above it are
objects, and there is no empty node selector. -/
structure Rescaled (kind : TemplateKind) (target body : Value) : Prop where
  written : WrittenBack (.template kind) [markerPlace] target body
  before : ∀ path ∈ containers, ObjectAt target path
  after : ∀ path ∈ containers, ∃ fs : Fields, body.at? path = some (.object fs)
  selector : body.at? selectorPlace = none ∨
    ∃ entries : Fields, entries ≠ [] ∧ body.at? selectorPlace = some (.object entries)

namespace TemplateController

variable {c : TemplateController} {canary : Canary} {log : List Exchange} {r : Request}
  {target podSpec new body : Value}

theorem Rewrites.rescaled {ps fs : Fields}
    (h : Rewrites c canary log r target (.object ps) (.object fs) body)
    (same : SameApart [markerInPodSpec] (.object ps) (.object fs))
    (selector : fs.get? "nodeSelector" = none ∨
      ∃ entries : Fields, entries ≠ [] ∧ fs.get? "nodeSelector" = some (.object entries)) :
    Rescaled c.kind target body := by
  obtain ⟨written, inside⟩ := h.writtenBack same
  have stands : body.at? podSpecPlace = some (.object fs) := by simpa using inside []
  have place : body.at? selectorPlace = fs.get? "nodeSelector" := by
    rw [selectorPlace, inside, at?_object_singleton]
  refine ⟨written, objectAt_containers h.podSpec, exists_container stands, ?_⟩
  rw [place]
  exact selector

theorem rescaled_of_scaleToZero (h : Writes (c.scaleToZero canary) log r) :
    ∃ v target name body,
      log = [readExchange (.template c.kind) canary.targetObject (.ok v)] ∧
      v.toManifest = .ok target ∧ ownName target = .ok name ∧
      r = .replaceObject (.template c.kind) name body ∧ Rescaled c.kind target body ∧
      body.at? markerPlace = some markerValue := by
  obtain ⟨target, podSpec, marked, body, rewrites, hd, hm⟩ := rewrites_of_scaleToZero h
  obtain ⟨v, rfl, hv⟩ := rewrites.read
  obtain ⟨same, here⟩ := sameApart_addMarker hd hm
  obtain ⟨name, own, rfl⟩ := rewrites.own same
  have place := (rewrites.writtenBack same).2 markerInPodSpec
  obtain ⟨fs, entries, rfl, hs⟩ := exists_selector hd
  obtain rfl := addMarker_eq_ok hs hm
  refine ⟨v, target, name, body, rfl, hv, own, rfl, ?_, by rw [markerPlace, place, here]⟩
  refine rewrites.rescaled same (.inr ⟨_, ?_, Fields.get?_set_self ..⟩)
  intro none_left
  have marker := Fields.get?_set_self entries markerKey markerValue
  rw [none_left] at marker
  cases marker

theorem rescaled_of_scaleFromZero (h : Writes (c.scaleFromZero canary) log r) :
    ∃ v target name body,
      log = [readExchange (.template c.kind) canary.targetObject (.ok v)] ∧
      v.toManifest = .ok target ∧ ownName target = .ok name ∧
      r = .replaceObject (.template c.kind) name body ∧ Rescaled c.kind target body ∧
      body.at? markerPlace = none := by
  obtain ⟨target, podSpec, unmarked, body, selector, rewrites, hs, hd, hu⟩ :=
    rewrites_of_scaleFromZero h
  obtain ⟨v, rfl, hv⟩ := rewrites.read
  obtain ⟨same, here⟩ := sameApart_removeMarker hs hd hu
  obtain ⟨name, own, rfl⟩ := rewrites.own same
  have place := (rewrites.writtenBack same).2 markerInPodSpec
  refine ⟨v, target, name, body, rfl, hv, own, rfl, ?_, by rw [markerPlace, place, here]⟩
  obtain ⟨fs, -, rfl, -⟩ := removeMarker_eq_ok.mp hu
  obtain ⟨⟨gs, rfl⟩, base, -, children⟩ := child?_of_removeMarker hu
  refine rewrites.rescaled same ?_
  have selected := children (.text "nodeSelector")
  rw [if_pos rfl, child?] at selected
  rw [selected]
  split
  · exact .inl rfl
  · rename_i some_left
    exact .inr ⟨base, by simpa using some_left, rfl⟩

end TemplateController

/-! ## Services that are created -/

namespace ServiceController

variable {c : ServiceController} {canary : Canary} {object : ObjectName} {target body : Value}
  {log : List Exchange} {r : Request}

/-- The body of a derived service names the service and has a spec made from the target's. -/
theorem exists_spec_of_derivedBody (h : c.derivedBody canary object target = .ok body) :
    ∃ (source : Fields) (ports : Value) (selector : Option Value),
      target.getSection "spec" = .ok (.object source) ∧
      clusterPorts ((source.get? "ports").getD .null) = .ok ports ∧
      handedSelector source = .ok selector ∧ ownName body = .ok object ∧
      body.at? ["spec"] = some (.object
        (withSelector [("type", .text "ClusterIP"), ("ports", ports)] selector)) := by
  unfold derivedBody at h
  simp only [bind_eq_ok] at h
  obtain ⟨metadata, -, _, hspec, labelled, -, labels, -, annotated, -, annotations, -, _, hports, ports,
    hp, _, hselector, h⟩ := h
  obtain ⟨source, rfl, rfl⟩ := get_eq_ok.mp hports
  obtain ⟨_, ⟨⟩, rfl⟩ := get_eq_ok.mp hselector
  -- name and namespace do not depend on whether there is a selector
  split at h
  · obtain ⟨_, ⟨⟩, ⟨⟩⟩ := h
    exact ⟨source, ports, none, hspec, hp, if_pos ‹_›, ownName_eq_ok.mpr ⟨rfl, rfl⟩, rfl⟩
  · obtain ⟨fields, hfields, ⟨⟩⟩ := bind_eq_ok.mp h
    refine ⟨source, ports, some (.object fields), hspec, hp, ?_, ownName_eq_ok.mpr ⟨rfl, rfl⟩, rfl⟩
    rw [handedSelector, if_neg ‹_›, hfields]
    rfl

theorem writes_ensureDerived (h : Writes (c.ensureDerived canary object target) log r) :
    ∃ body, c.derivedBody canary object target = .ok body ∧
      r = .createObject .service object.space body := by
  unfold ensureDerived at h
  obtain ⟨found, _, after, rfl, -, rest⟩ := (readOnly_exists _ _).writes_bind.mp h
  cases found with
  | true => exact absurd rest (readOnly_pure _ _ _)
  | false =>
    obtain ⟨body, hb, rest⟩ := writes_lift_bind.mp rest
    obtain create | ⟨_, _, _, -, -, rest⟩ := writes_bind.mp rest
    · exact ⟨body, hb, (writes_create.mp create).2⟩
    · exact absurd rest ((readOnly_request rfl).bind (fun _ => readOnly_pure _) _ _)

theorem exists_body_of_writes (h : Writes (c.establish canary) log r) :
    ∃ v target object body rest,
      log = readExchange .service canary.targetObject (.ok v) :: rest ∧ v.toManifest = .ok target ∧
      (object = primaryObject canary ∨ object = canaryObject canary) ∧
      c.derivedBody canary object target = .ok body ∧
      r = .createObject .service object.space body := by
  unfold establish at h
  obtain ⟨target, _, after, rfl, ht, rest⟩ := (readOnly_fetch _ _).writes_bind.mp h
  obtain ⟨v, rfl, hv⟩ := ends_fetch.mp ht
  obtain first | ⟨_, _, _, -, -, rest⟩ := writes_bind.mp rest
  · obtain ⟨body, hb, rfl⟩ := writes_ensureDerived first
    exact ⟨v, target, _, body, after, rfl, hv, .inr rfl, hb, rfl⟩
  · obtain second | ⟨_, _, _, -, -, rest⟩ := writes_bind.mp rest
    · obtain ⟨body, hb, rfl⟩ := writes_ensureDerived second
      exact ⟨v, target, _, body, after, rfl, hv, .inl rfl, hb, rfl⟩
    · exact absurd rest (readOnly_ite (readOnly_request rfl) (readOnly_pure _) _ _)

theorem writes_establish (h : Writes (c.establish canary) log r) :
    ∃ object body, (object = primaryObject canary ∨ object = canaryObject canary) ∧
      ownName body = .ok object ∧ r = .createObject .service object.space body := by
  obtain ⟨v, target, object, body, rest, rfl, -, derived, hb, rfl⟩ := exists_body_of_writes h
  obtain ⟨_, _, _, -, -, -, own, -⟩ := exists_spec_of_derivedBody hb
  exact ⟨object, body, derived, own, rfl⟩

end ServiceController

/-! ## All calls -/

namespace Operation

/-- The operations that ask for no change. -/
def isCheck : Operation → Bool
  | hasTargetChanged | haveConfigsChanged | pairing | checkPrimary | checkTarget => true
  | establish | promote | scaleToZero | scaleFromZero | finalize => false

end Operation

namespace Controller

variable {controller : Controller} {operation : Operation} {canary : Canary}
  {log : List Exchange} {r : Request}

/-- What a call may ask to be changed after the exchanges of a log. -/
inductive CallWrites (controller : Controller) (operation : Operation) (canary : Canary)
    (log : List Exchange) : Request → Prop where
  | creates {object : ObjectName} {body : Value} (establishing : operation = .establish)
      (derived : object = TemplateController.primaryObject canary ∨
        controller.kind = .service ∧ object = ServiceController.canaryObject canary)
      (own : ownName body = .ok object) :
      CallWrites controller operation canary log
        (.createObject controller.kind canary.space body)
  | promotes {w primary body : Value} {name : ObjectName} (promoting : operation = .promote)
      (read : readExchange controller.kind (TemplateController.primaryObject canary) (.ok w) ∈ log)
      (manifest : w.toManifest = .ok primary) (own : ownName primary = .ok name) :
      CallWrites controller operation canary log (.replaceObject controller.kind name body)
  | scales {kind : TemplateKind} {v target body : Value} {name : ObjectName}
      (kind_eq : controller.kind = .template kind)
      (read : readExchange controller.kind canary.targetObject (.ok v) ∈ log)
      (manifest : v.toManifest = .ok target) (own : ownName target = .ok name)
      (rescaled : Rescaled kind target body)
      (direction :
        (operation = .scaleToZero ∨ operation = .establish) ∧
          body.at? markerPlace = some markerValue ∨
        (operation = .scaleFromZero ∨ operation = .finalize) ∧ body.at? markerPlace = none) :
      CallWrites controller operation canary log (.replaceObject controller.kind name body)

theorem callWrites_of_scaleToZero {c : TemplateController} {before last : List Exchange}
    (h : Writes (c.scaleToZero canary) last r) (hlog : log = before ++ last)
    (down : operation = .scaleToZero ∨ operation = .establish) :
    CallWrites (.template c) operation canary log r := by
  obtain ⟨v, target, name, body, rfl, hv, hn, rfl, rescaled, marker⟩ :=
    TemplateController.rescaled_of_scaleToZero h
  exact .scales rfl (by simp [hlog, kind]) hv hn rescaled (.inl ⟨down, marker⟩)

theorem callWrites_of_scaleFromZero {c : TemplateController}
    (h : Writes (c.scaleFromZero canary) log r)
    (up : operation = .scaleFromZero ∨ operation = .finalize) :
    CallWrites (.template c) operation canary log r := by
  obtain ⟨v, target, name, body, rfl, hv, hn, rfl, rescaled, marker⟩ :=
    TemplateController.rescaled_of_scaleFromZero h
  exact .scales rfl (by simp [kind]) hv hn rescaled (.inr ⟨up, marker⟩)

theorem callWrites_of_establish {c : TemplateController} (h : Writes (c.establish canary) log r) :
    CallWrites (.template c) .establish canary log r := by
  obtain creating | ⟨seen, checked, last, hlog, -, -, -, scaling⟩ :=
    TemplateController.writes_establish h
  · obtain ⟨_, _, _, _, _, _, _, _, body, -, -, -, rfl, own, -⟩ :=
      TemplateController.writes_createPrimary creating
    exact .creates rfl (.inl rfl) own
  · exact callWrites_of_scaleToZero scaling hlog (.inr rfl)

theorem callWrites_of_promote {c : TemplateController} (h : Writes (c.promote canary) log r) :
    CallWrites (.template c) .promote canary log r := by
  obtain ⟨_, _, _, _, w, primary, _, _, _, name, body, rfl, -, -, hw, hn, rfl, -⟩ :=
    TemplateController.writes_promote h
  exact .promotes rfl (by simp [kind]) hw hn

theorem callWrites_of_promoteService {c : ServiceController} (h : Writes (c.promote canary) log r) :
    CallWrites (.service c) .promote canary log r := by
  obtain ⟨v, w, primary, name, body, rfl, hw, hn, rfl, -⟩ := ServiceController.writes_promote h
  have read : readExchange .service (ServiceController.primaryObject canary) (.ok w) ∈
      [readExchange .service canary.targetObject (.ok v),
        readExchange .service (ServiceController.primaryObject canary) (.ok w)] :=
    List.mem_cons_of_mem _ List.mem_cons_self
  exact .promotes rfl read hw hn

theorem callWrites_of_establishService {c : ServiceController}
    (h : Writes (c.establish canary) log r) :
    CallWrites (.service c) .establish canary log r := by
  obtain ⟨object, body, rfl | rfl, own, rfl⟩ := ServiceController.writes_establish h
  · exact .creates rfl (.inl rfl) own
  · exact .creates rfl (.inr ⟨rfl, rfl⟩) own

theorem readOnly_call (h : operation.isCheck = true) :
    ReadOnly (controller.call operation canary) := by
  have silent {p : Program Unit} (hp : ReadOnly p) : ReadOnly (silent p) :=
    hp.bind fun _ => readOnly_pure _
  cases controller with
  | template c =>
    cases operation with
    | hasTargetChanged =>
      exact TemplateController.readOnly_hasTargetChanged.bind fun _ => readOnly_pure _
    | haveConfigsChanged =>
      exact (readOnly_orFail (readOnly_request rfl)).bind fun _ => readOnly_pure _
    | pairing => exact TemplateController.readOnly_pairing.bind fun _ => readOnly_pure _
    | checkPrimary => exact silent TemplateController.readOnly_checkPrimary
    | checkTarget => exact TemplateController.readOnly_checkTarget.bind fun _ => readOnly_pure _
    | establish | promote | scaleToZero | scaleFromZero | finalize => cases h
  | service c =>
    cases operation with
    | hasTargetChanged =>
      exact ServiceController.readOnly_hasTargetChanged.bind fun _ => readOnly_pure _
    | haveConfigsChanged | pairing | checkPrimary | checkTarget => exact readOnly_pure _
    | establish | promote | scaleToZero | scaleFromZero | finalize => cases h

/-- Whatever a call asks to be changed is what its operation is for. -/
theorem writes_call (h : Writes (controller.call operation canary) log r) :
    CallWrites controller operation canary log r := by
  cases check : operation.isCheck with
  | true => exact absurd h (readOnly_call check log r)
  | false =>
    cases controller with
    | template c =>
      cases operation with
      | establish => exact callWrites_of_establish (writes_silent.mp h)
      | promote => exact callWrites_of_promote (writes_silent.mp h)
      | scaleToZero =>
        exact callWrites_of_scaleToZero (writes_silent.mp h) (List.nil_append _).symm (.inl rfl)
      | scaleFromZero => exact callWrites_of_scaleFromZero (writes_silent.mp h) (.inl rfl)
      | finalize => exact callWrites_of_scaleFromZero (writes_silent.mp h) (.inr rfl)
      | hasTargetChanged | haveConfigsChanged | pairing | checkPrimary | checkTarget => cases check
    | service c =>
      cases operation with
      | establish => exact callWrites_of_establishService (writes_silent.mp h)
      | promote => exact callWrites_of_promoteService (writes_silent.mp h)
      | scaleToZero | scaleFromZero | finalize => exact absurd h (readOnly_pure _ _ _)
      | hasTargetChanged | haveConfigsChanged | pairing | checkPrimary | checkTarget => cases check

end Controller

end CanaryRelease
