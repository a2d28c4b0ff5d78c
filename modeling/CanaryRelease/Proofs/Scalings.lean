import CanaryRelease.Proofs.ObjectCalls
import CanaryRelease.Proofs.PodSpecs
import CanaryRelease.Workload.Scaling

/-!
# What scaling writes

Scaling a target down or up writes at most once, right after the target was read, and what it
writes is the target with a change at the marker's place alone.
-/

namespace CanaryRelease

open Program Workload PodTemplate

namespace TemplateController

variable {c : TemplateController} {canary : Canary} {log : List Exchange} {r : Request}

/-- `body` is what a target is scaled down with: the target with the marker set. -/
structure ScaledDown (kind : TemplateKind) (target body : Value) : Prop where
  written : WrittenBack (.template kind) [markerPlace] target body
  marker : body.at? markerPlace = some markerValue
  podSpec : withoutSelector (sourcePodSpec body) = withoutSelector (sourcePodSpec target)
  entries : baseEntries (sourcePodSpec body) = baseEntries (sourcePodSpec target)
  wire : body.wire.at? podSpecPlace = body.at? podSpecPlace

theorem writtenBack_of_withPodSpec {kind : Kind} {target podSpec new changed body : Value}
    (hp : PodTemplate.podSpec target = .ok podSpec) (hc : withPodSpec target new = .ok changed)
    (hb : writeBody kind changed = .ok body)
    (same : Value.SameApart [markerInPodSpec] podSpec new) :
    WrittenBack kind [markerPlace] target body ∧
      ∀ path, body.at? (podSpecPlace ++ path) = new.at? path := by
  have changed_same := sameApart_withPodSpec hp hc (by simp) same
  refine ⟨writtenBack_of_writeBody hb changed_same (by simp [markerPlace, podSpecPlace]), ?_⟩
  intro path
  have kept := (writtenBack_of_writeBody hb (.refl [] changed) (by simp)).same podSpecPlace
    (by simp [podSpecPlace])
  rw [Value.at?_append, kept, at?_withPodSpec hc, Option.bind_some]

/-- A target is written back as it was just read, with another pod spec. -/
structure Rewrites (c : TemplateController) (canary : Canary) (log : List Exchange) (r : Request)
    (target podSpec new body : Value) : Prop where
  read : ∃ v, log = [readExchange (.template c.kind) canary.targetObject (.ok v)] ∧
    v.toManifest = .ok target
  podSpec : PodTemplate.podSpec target = .ok podSpec
  written : ∃ changed name, withPodSpec target new = .ok changed ∧ ownName changed = .ok name ∧
    writeBody (.template c.kind) changed = .ok body ∧
    r = .replaceObject (.template c.kind) name body

theorem rewrites_of_scaleToZero (h : Writes (c.scaleToZero canary) log r) :
    ∃ target podSpec marked body, Rewrites c canary log r target podSpec marked body ∧
      hasMarker podSpec = .ok false ∧ addMarker podSpec = .ok marked := by
  unfold scaleToZero at h
  obtain ⟨target, _, after, rfl, ht, rest⟩ := (readOnly_fetch _ _).writes_bind.mp h
  obtain ⟨v, rfl, hv⟩ := ends_fetch.mp ht
  obtain ⟨podSpec, hp, rest⟩ := writes_lift_bind.mp rest
  obtain ⟨down, hd, rest⟩ := writes_lift_bind.mp rest
  cases down with
  | true => exact absurd rest ((readOnly_request rfl).bind (fun _ => readOnly_pure _) _ _)
  | false =>
    obtain ⟨marked, hm, rest⟩ := writes_lift_bind.mp rest
    obtain ⟨changed, hc, rest⟩ := writes_lift_bind.mp rest
    obtain update | ⟨_, _, _, -, -, rest⟩ := writes_bind.mp rest
    · obtain ⟨rfl, name, body, hn, hb, rfl⟩ := writes_update.mp update
      exact ⟨target, podSpec, marked, body, ⟨⟨v, rfl, hv⟩, hp, changed, name, hc, hn, hb, rfl⟩, hd,
        hm⟩
    · exact absurd rest (readOnly_request rfl _ _)

theorem rewrites_of_scaleFromZero (h : Writes (c.scaleFromZero canary) log r) :
    ∃ target podSpec unmarked body selector, Rewrites c canary log r target podSpec unmarked body ∧
      podSpec.getSection "nodeSelector" = .ok selector ∧ selector.mentions markerKey = .ok true ∧
      removeMarker podSpec = .ok unmarked := by
  unfold scaleFromZero at h
  obtain ⟨target, _, after, rfl, ht, rest⟩ := (readOnly_fetch _ _).writes_bind.mp h
  obtain ⟨v, rfl, hv⟩ := ends_fetch.mp ht
  obtain ⟨podSpec, hp, rest⟩ := writes_lift_bind.mp rest
  obtain ⟨selector, hs, rest⟩ := writes_lift_bind.mp rest
  obtain ⟨down, hd, rest⟩ := writes_lift_bind.mp rest
  cases down with
  | false => exact absurd rest ((readOnly_request rfl).bind (fun _ => readOnly_pure _) _ _)
  | true =>
    obtain ⟨unmarked, hu, rest⟩ := writes_lift_bind.mp rest
    obtain ⟨changed, hc, rest⟩ := writes_lift_bind.mp rest
    obtain update | ⟨_, _, _, -, -, rest⟩ := writes_bind.mp rest
    · obtain ⟨rfl, name, body, hn, hb, rfl⟩ := writes_update.mp update
      exact ⟨target, podSpec, unmarked, body, selector,
        ⟨⟨v, rfl, hv⟩, hp, changed, name, hc, hn, hb, rfl⟩, hs, hd, hu⟩
    · exact absurd rest ((readOnly_request rfl).bind (fun _ => readOnly_request rfl) _ _)

section Rewrites

variable {target podSpec new body : Value}

theorem Rewrites.own (h : Rewrites c canary log r target podSpec new body)
    (same : Value.SameApart [markerInPodSpec] podSpec new) :
    ∃ name, ownName target = .ok name ∧ r = .replaceObject (.template c.kind) name body := by
  obtain ⟨changed, name, hc, hn, -, rfl⟩ := h.written
  refine ⟨name, ?_, rfl⟩
  exact ownName_of_sameApart hn (sameApart_withPodSpec h.podSpec hc (by simp) same)
    (by simp [podSpecPlace])

theorem Rewrites.writtenBack (h : Rewrites c canary log r target podSpec new body)
    (same : Value.SameApart [markerInPodSpec] podSpec new) :
    WrittenBack (.template c.kind) [markerPlace] target body ∧
      ∀ path, body.at? (podSpecPlace ++ path) = new.at? path := by
  obtain ⟨changed, name, hc, -, hb, -⟩ := h.written
  exact writtenBack_of_withPodSpec h.podSpec hc hb same

end Rewrites

theorem writes_scaleToZero (h : Writes (c.scaleToZero canary) log r) :
    ∃ v target name body,
      log = [readExchange (.template c.kind) canary.targetObject (.ok v)] ∧
      v.toManifest = .ok target ∧ ownName target = .ok name ∧
      r = .replaceObject (.template c.kind) name body ∧ ScaledDown c.kind target body := by
  obtain ⟨target, podSpec, marked, body, rewrites, hd, hm⟩ := rewrites_of_scaleToZero h
  obtain ⟨v, rfl, hv⟩ := rewrites.read
  have hp := rewrites.podSpec
  obtain ⟨same, here⟩ := sameApart_addMarker hd hm
  obtain ⟨name, own, rfl⟩ := rewrites.own same
  obtain ⟨written, inside⟩ := rewrites.writtenBack same
  obtain ⟨others, entries, wire, fs, rfl⟩ := addMarker_same hd hm
  obtain ⟨gs, _, rfl, -⟩ := exists_selector hd
  have stands : body.at? podSpecPlace = some (.object fs) := by simpa using inside []
  refine ⟨v, target, name, body, rfl, hv, own, rfl, written, ?_, ?_, ?_, ?_⟩
  · rw [markerPlace, inside, here]
  · rw [sourcePodSpec_of_at? stands, sourcePodSpec_of_podSpec hp, others]
  · rw [sourcePodSpec_of_at? stands, sourcePodSpec_of_podSpec hp, entries]
  · rw [Value.at?_wire, stands, Option.map_some, wire (wire_podSpec hv hp)]

theorem writes_scaleFromZero (h : Writes (c.scaleFromZero canary) log r) :
    ∃ v target name body,
      log = [readExchange (.template c.kind) canary.targetObject (.ok v)] ∧
      v.toManifest = .ok target ∧ ownName target = .ok name ∧
      r = .replaceObject (.template c.kind) name body ∧
      WrittenBack (.template c.kind) [markerPlace] target body ∧
      body.at? markerPlace = none := by
  obtain ⟨target, podSpec, unmarked, body, selector, rewrites, hs, hd, hu⟩ :=
    rewrites_of_scaleFromZero h
  obtain ⟨v, rfl, hv⟩ := rewrites.read
  obtain ⟨same, here⟩ := sameApart_removeMarker hs hd hu
  obtain ⟨name, own, rfl⟩ := rewrites.own same
  obtain ⟨written, inside⟩ := rewrites.writtenBack same
  refine ⟨v, target, name, body, rfl, hv, own, rfl, written, ?_⟩
  rw [markerPlace, inside, here]

end TemplateController

end CanaryRelease
