import CanaryRelease.Proofs.ServiceVersions
import CanaryRelease.Proofs.VersionPromotions

/-!
# Unchanged targets

What a fingerprint does not see a promotion does not see either: versions of a target with one
fingerprint promote alike, so a target that counts as unchanged has the pod template, or the spec of
a Service, that its primary was given (`unchanged_targets_promote_alike`). Fingerprints are taken of
more shapes than promotions accept. A pod template that is a list of pairs has the fingerprint of
the object it amounts to and cannot be promoted, and a Service's selector that is one has the
fingerprint of every order of the keys of its pairs (`pairs_promote_otherwise`).
-/

namespace CanaryRelease

open Program Workload PodTemplate Value

variable {refs : List ConfigRef} {redirect : Value → List ConfigRef → Except Failure Value}

/-- Whatever a primary is given for one of two versions of a target it is given for the other one:
what is written has the same pod template but for the id, and the second version can be promoted
once a primary was made from the first one. -/
structure TemplateController.PromoteAlike (c : TemplateController) (refs : List ConfigRef)
    (redirect : Value → List ConfigRef → Except Failure Value) (target₁ target₂ : Value)
    (label : String) (value : Value) : Prop where
  bodies : ∀ body₁ body₂, MakesPrimary c refs redirect target₁ body₁ →
    MakesPrimary c refs redirect target₂ body₂ → SamePodTemplate body₁ body₂
  runs : ∀ (σ : Type) (S : Surroundings σ) (store : σ → Store) (s : σ) (canary : Canary)
      (primary body₁ : Value) (fs₂ : Fields),
    MakesPrimary c refs redirect target₁ body₁ → Calm S store refs redirect →
    StoredPair c canary (store s) target₂ primary label value →
    templateOf target₂ = .ok (.object fs₂) →
    (WellTyped primary ∨ ∃ body, Promotes c refs redirect target₁ primary body) →
      ∃ name body₂ s', (c.promote canary).run S s = (.ok (), s') ∧
        ((c.promote canary).log S s).filter (fun e => e.request.isWrite) =
          [replaceExchange (.template c.kind) name body₂ (.ok ())] ∧
        SamePodTemplate body₁ body₂

/-- Whatever derived services are given for one of two versions of a Service they are given for the
other one: type, ports and selector are the same, a promotion of either leaves a primary with the
same spec, and the second version can be promoted once a service was made from the first one. -/
structure ServiceController.PromoteAlike (target₁ target₂ : Value) : Prop where
  parts : ∀ body₁ body₂, MakesDerived target₁ body₁ → MakesDerived target₂ body₂ →
    ∀ place ∈ promotedPlaces, (body₁.at? place).map canonical = (body₂.at? place).map canonical
  specs : ∀ primary body₁ body₂, Promotes target₁ primary body₁ → Promotes target₂ primary body₂ →
    SameObjectsAt ["spec"] [] body₁ body₂
  runs : ∀ (σ : Type) (S : Surroundings σ) (store : σ → Store) (s : σ) (refs : List ConfigRef)
      (redirect : Value → List ConfigRef → Except Failure Value) (c : ServiceController)
      (canary : Canary) (primary body₁ : Value),
    MakesDerived target₁ body₁ → Calm S store refs redirect →
    Stored .service canary (store s) target₂ primary →
    (ObjectAt primary ["spec"] ∨ ∃ body, Promotes target₁ primary body) →
      ∃ name body₂ s', (c.promote canary).run S s = (.ok (), s') ∧
        ((c.promote canary).log S s).filter (fun e => e.request.isWrite) =
          [replaceExchange .service name body₂ (.ok ())] ∧
        ∀ place ∈ promotedPlaces,
          (body₁.at? place).map canonical = (body₂.at? place).map canonical

theorem TemplateController.SameRevision.promoteAlike {c : TemplateController}
    {target₁ target₂ : Value} {label : String} {value : Value}
    (h : SameRevision c target₁ target₂ label value) (tracker : JsonRedirection redirect) :
    PromoteAlike c refs redirect target₁ target₂ label value where
  bodies _ _ made₁ made₂ := h.same_of_makes tracker made₁ made₂
  runs _ _ _ _ _ _ _ _ made calm stored template fit :=
    h.exists_run tracker calm stored template made fit

theorem ServiceController.SameRevision.promoteAlike {target₁ target₂ : Value}
    (h : SameRevision target₁ target₂) : PromoteAlike target₁ target₂ where
  parts _ _ made₁ made₂ := h.same_of_made made₁.madeFrom made₂.madeFrom
  specs _ _ _ promotes₁ promotes₂ := h.same_spec promotes₁ promotes₂
  runs _ _ _ _ _ _ c _ _ _ made calm stored fit := h.exists_run c calm stored made fit

/-- A canary has a hash on record, of the revision last applied or last promoted. -/
def Canary.Records (canary : Canary) (digest : String) : Prop :=
  canary.lastPromotedSpec = .text digest ∨ canary.lastAppliedSpec = .text digest

/-- Versions of a target with one fingerprint promote alike, and so do versions of a Service. A
target only counts as unchanged if its fingerprint is on record, and then it promotes like every
version that the record may be of. -/
theorem unchanged_targets_promote_alike (tracker : JsonRedirection redirect) :
    (∀ (c : TemplateController) (target₁ target₂ : Value) (label : String) (value : Value),
      c.SameRevision target₁ target₂ label value →
        c.PromoteAlike refs redirect target₁ target₂ label value) ∧
    (∀ target₁ target₂ : Value, ServiceController.SameRevision target₁ target₂ →
      ServiceController.PromoteAlike target₁ target₂) ∧
    (∀ (c : TemplateController) (canary : Canary) (v target₂ : Value),
      Ends (c.hasTargetChanged canary)
        [readExchange (.template c.kind) canary.targetObject (.ok v)] (.ok false) →
      v.toManifest = .ok target₂ →
        ∃ digest, canary.Records digest ∧
          ∀ (target₁ template₁ : Value) (label : String) (value : Value),
            c.Versions target₁ target₂ label value → templateOf target₁ = .ok template₁ →
            PodTemplate.fingerprint template₁ = .ok digest →
            (∀ template₂, templateOf target₂ = .ok template₂ → NoCollision template₁ template₂) →
              c.PromoteAlike refs redirect target₁ target₂ label value) ∧
    (∀ (canary : Canary) (v target₂ : Value),
      Ends (ServiceController.hasTargetChanged canary)
        [readExchange .service canary.targetObject (.ok v)] (.ok false) →
      v.toManifest = .ok target₂ →
        ∃ digest, canary.Records digest ∧
          ∀ target₁ spec₁ : Value, target₁.isJson Binary64.isProper = true →
            target₂.isJson Binary64.isProper = true → ServiceController.MappedSelector target₁ →
            target₁.getSection "spec" = .ok spec₁ → spec₁.fingerprint = .ok digest →
            (∀ spec₂, target₂.getSection "spec" = .ok spec₂ →
              Sha256.NoCollision spec₁.payload spec₂.payload) →
              ServiceController.PromoteAlike target₁ target₂) := by
  refine ⟨fun _ _ _ _ _ h => h.promoteAlike tracker, fun _ _ h => h.promoteAlike, ?_, ?_⟩
  · intro c canary v target₂ unchanged hv
    obtain ⟨_, _, template₂, digest, hlog, hv', ht₂, hf₂, same⟩ :=
      TemplateController.ends_hasTargetChanged.mp unchanged
    cases hlog
    obtain rfl := Except.ok.inj (hv.symm.trans hv')
    refine ⟨digest, recorded_of_isNewRevision same.symm, ?_⟩
    intro target₁ template₁ label value versions ht₁ hf₁ noCollision
    have revision : c.SameRevision target₁ target₂ label value :=
      ⟨versions, template₁, template₂, ht₁, ht₂, ⟨digest, hf₁, hf₂⟩, noCollision template₂ ht₂⟩
    exact revision.promoteAlike tracker
  · intro canary v target₂ unchanged hv
    obtain ⟨_, _, spec₂, digest, hlog, hv', hs₂, hf₂, same⟩ :=
      ServiceController.ends_hasTargetChanged.mp unchanged
    cases hlog
    obtain rfl := Except.ok.inj (hv.symm.trans hv')
    refine ⟨digest, recorded_of_isNewRevision same.symm, ?_⟩
    intro target₁ spec₁ json₁ json₂ mapped hs₁ hf₁ noCollision
    have revision : ServiceController.SameRevision target₁ target₂ :=
      ⟨json₁, json₂, mapped, spec₁, spec₂, hs₁, hs₂, ⟨digest, hf₁, hf₂⟩, noCollision spec₂ hs₂⟩
    exact revision.promoteAlike

/-- Calm surroundings without copied configuration. -/
def sampleCalm : Surroundings (Store × Nat) :=
  calmSurroundings [] Tracker.off.redirect (sampleSite [] []).clock

/-- A Service with a selector. -/
def sampleService (name : String) (selector : Value) : Value :=
  .object [
    ("metadata", .object [("name", .text name), ("namespace", .text "prod"),
      ("resourceVersion", .text "1")]),
    ("spec", .object [("ports", .list [.object [("port", .int 80)]]), ("selector", selector)])]

/-- The Service `web` and its primary, which has no selector yet. -/
def sampleServices (selector : Value) : Store :=
  [(⟨"Service", ⟨.text "web", .text "prod"⟩⟩, sampleService "web" selector),
    (⟨"Service", ⟨.text "web-primary", .text "prod"⟩⟩, sampleService "web-primary" .null)]

/-- Two selectors with the same entries. -/
def sampleEntries (swapped : Bool) : Value :=
  let entries : Fields := [("app", .text "web"), ("tier", .text "front")]
  .object (if swapped then entries.reverse else entries)

theorem sameRevision_sampleEntries :
    ServiceController.SameRevision (sampleService "web" (sampleEntries false))
      (sampleService "web" (sampleEntries true)) where
  json₁ := by decide
  json₂ := by decide
  mapped := by
    rintro x ⟨⟩
    exact .inr ⟨_, rfl⟩
  fingerprints := by
    let spec (swapped : Bool) : Value := .object
      [("ports", .list [.object [("port", .int 80)]]), ("selector", sampleEntries swapped)]
    have text : (spec false).canonical = (spec true).canonical := by cbv
    refine ⟨spec false, spec true, rfl, rfl, ⟨(spec false).canonicalDigest, if_pos (by decide), ?_⟩,
      fun _ => payload_eq_iff.mpr text⟩
    rw [canonicalDigest, text]
    exact if_pos (by decide)

theorem stored_sampleServices :
    Stored .service sampleCanary (sampleServices (sampleEntries true))
      (sampleService "web" (sampleEntries true)) (sampleService "web-primary" .null) where
  addressable := by decide +kernel
  target_stored := ⟨sampleService "web" (sampleEntries true), by decide +kernel, rfl⟩
  primary_stored := ⟨sampleService "web-primary" .null, by decide +kernel, rfl, by decide +kernel⟩
  own := ⟨⟨.text "web-primary", .text "prod"⟩, by decide +kernel, by decide +kernel⟩

theorem fingerprint_sampleTemplate :
    PodTemplate.fingerprint (sampleTemplate (.object [("disk", .text "ssd")])) =
      .ok (sampleTemplate (.object [("disk", .text "ssd")])).canonicalDigest := by
  have orderable : (sampleTemplate (.object [("disk", .text "ssd")])).isOrderable = true := by decide
  exact bind_eq_ok.mpr ⟨_, rfl, if_pos orderable⟩

theorem exists_samplePromotes :
    ∃ body, TemplateController.Promotes sampleController [] Tracker.off.redirect sampleUnscaled
      TemplateController.sampleOutdated body := by
  obtain ⟨plan, of⟩ := (TemplateController.wellTyped_sampleDeployment "web" "7"
    [("disk", .text "ssd")]).exists_blueprint
  obtain ⟨frame, frameOf⟩ := TemplateController.promotable_samplePair.primary_typed.exists_frame
  have target : sampleUnscaled.toManifest = .ok sampleUnscaled := rfl
  have primary : TemplateController.sampleOutdated.toManifest =
    .ok TemplateController.sampleOutdated := rfl
  have paired : sampleController.pairingLabel sampleUnscaled = .ok ("app", .text "web") := by
    decide +kernel
  exact TemplateController.exists_promotes sampleCanary [] target primary paired of frameOf rfl rfl
    rfl

theorem versions_sampleScaling :
    sampleController.Versions sampleUnscaled TemplateController.sampleTarget "app" (.text "web") :=
  ⟨by decide, by decide, by decide +kernel, by decide +kernel⟩

theorem noCollision_sampleScaling {template₂ : Value}
    (h : templateOf TemplateController.sampleTarget = .ok template₂) :
    NoCollision (sampleTemplate (.object [("disk", .text "ssd")])) template₂ := by
  intro normal₁ normal₂ h₁ h₂ _
  obtain rfl : sampleTemplate (.object [("disk", .text "ssd"), (.text markerKey, markerValue)]) =
    template₂ := Except.ok.inj h
  obtain rfl : sampleTemplate (.object [("disk", .text "ssd")]) = normal₁ := Except.ok.inj h₁
  obtain rfl : sampleTemplate (.object [("disk", .text "ssd")]) = normal₂ := Except.ok.inj h₂
  rfl

theorem unchanged_sampleScaling {digest : String}
    (h : PodTemplate.fingerprint (sampleTemplate (.object [("disk", .text "ssd")])) = .ok digest) :
    Ends (sampleController.hasTargetChanged (samplePromoted digest))
      [readExchange (.template .deployment) sampleCanary.targetObject
        (.ok TemplateController.sampleTarget)] (.ok false) := by
  have set : digest ≠ "" := by
    rw [fingerprint_sampleTemplate] at h
    exact Except.ok.inj h ▸ canonicalDigest_ne_empty _
  have answer : (samplePromoted digest).isNewRevision (.text digest) = false := by
    rw [← Bool.not_eq_true, isNewRevision_iff set rfl rfl]
    exact fun changed => changed rfl
  exact TemplateController.ends_hasTargetChanged.mpr
    ⟨_, _, _, digest, rfl, rfl, rfl, h, answer.symm⟩

/-- After its promotion a Deployment is scaled down. It counts as unchanged, and another promotion
writes the same pod template again. So does a Service whose selector was written in another order. -/
theorem sampleScaling_promotes_alike :
    (∃ digest body₁ name body₂ s',
      PodTemplate.fingerprint (sampleTemplate (.object [("disk", .text "ssd")])) = .ok digest ∧
      TemplateController.Promotes sampleController [] Tracker.off.redirect sampleUnscaled
        TemplateController.sampleOutdated body₁ ∧
      Ends (sampleController.hasTargetChanged (samplePromoted digest))
        [readExchange (.template .deployment) sampleCanary.targetObject
          (.ok TemplateController.sampleTarget)] (.ok false) ∧
      (sampleController.promote sampleCanary).run sampleCalm
        (TemplateController.samplePair, 0) = (.ok (), s') ∧
      ((sampleController.promote sampleCanary).log sampleCalm
        (TemplateController.samplePair, 0)).filter (fun e => e.request.isWrite) =
          [replaceExchange (.template .deployment) name body₂ (.ok ())] ∧
      SamePodTemplate body₁ body₂) ∧
    ∃ body₁ name body₂ s',
      ServiceController.Promotes (sampleService "web" (sampleEntries false))
        (sampleService "web-primary" .null) body₁ ∧
      (ServiceController.promote ⟨[], "canary"⟩ sampleCanary).run sampleCalm
        (sampleServices (sampleEntries true), 0) = (.ok (), s') ∧
      ((ServiceController.promote ⟨[], "canary"⟩ sampleCanary).log sampleCalm
        (sampleServices (sampleEntries true), 0)).filter (fun e => e.request.isWrite) =
          [replaceExchange .service name body₂ (.ok ())] ∧
      (body₁.at? ["spec", "selector"]).map canonical =
        (body₂.at? ["spec", "selector"]).map canonical := by
  have alikes := @unchanged_targets_promote_alike [] _ (Tracker.jsonRedirection .off)
  refine ⟨?_, ?_⟩
  · have fingerprint := fingerprint_sampleTemplate
    generalize (sampleTemplate (.object [("disk", .text "ssd")])).canonicalDigest = known
      at fingerprint
    have unchanged := unchanged_sampleScaling fingerprint
    obtain ⟨digest, recorded, alike⟩ :=
      alikes.2.2.1 sampleController (samplePromoted known) _ _ unchanged rfl
    obtain rfl : known = digest := by
      rcases recorded with same | same
      · exact Value.text.inj same
      · exact Value.text.inj same
    have promoteAlike := alike sampleUnscaled _ "app" (.text "web") versions_sampleScaling rfl
      fingerprint fun _ => noCollision_sampleScaling
    obtain ⟨body₁, promotes⟩ := exists_samplePromotes
    obtain ⟨name, body₂, s', run, writes, same⟩ := promoteAlike.runs _ sampleCalm Prod.fst
      (TemplateController.samplePair, 0) sampleCanary _ body₁ _ (.inl ⟨_, promotes⟩)
      (calm_calmSurroundings _) TemplateController.promotable_samplePair.toStoredPair rfl
      (.inr ⟨body₁, promotes⟩)
    exact ⟨known, body₁, name, body₂, s', fingerprint, promotes, unchanged, run, writes, same⟩
  · have promoteAlike := alikes.2.1 _ _ sameRevision_sampleEntries
    have before : (sampleService "web" (sampleEntries false)).toManifest =
      .ok (sampleService "web" (sampleEntries false)) := rfl
    have primary : (sampleService "web-primary" .null).toManifest =
      .ok (sampleService "web-primary" .null) := rfl
    obtain ⟨body₁, promotes⟩ := ServiceController.exists_promotes before primary rfl rfl
    obtain ⟨name, body₂, s', run, writes, same⟩ := promoteAlike.runs _ sampleCalm Prod.fst
      (sampleServices (sampleEntries true), 0) [] Tracker.off.redirect ⟨[], "canary"⟩ sampleCanary _
      body₁ (.inl ⟨_, promotes⟩) (calm_calmSurroundings _) stored_sampleServices
      (.inr ⟨body₁, promotes⟩)
    exact ⟨body₁, name, body₂, s', promotes, run, writes,
      same _ (by simp [ServiceController.promotedPlaces])⟩

/-! ## Lists of pairs -/

/-- A list of one pair, which is given by the keys of an object. -/
def samplePairList (first second : String) : Value :=
  .list [.object [(.text first, .text "web"), (.text second, .text "web")]]

/-- The pod template of the Deployment `web` as a list of pairs. -/
def sampleListedTemplate : Value :=
  .list [
    .list [.text "metadata", .object [("labels", .object [("app", .text "web")])]],
    .list [.text "spec", .object [("nodeSelector", .object [("disk", .text "ssd")])]]]

/-- The Deployment `web` with a pod template. -/
def sampleWithTemplate (template : Value) : Value :=
  .object [
    ("metadata", .object [("name", .text "web"), ("namespace", .text "prod"),
      ("resourceVersion", .text "7")]),
    ("spec", .object [("selector", .object [("matchLabels", .object [("app", .text "web")])]),
      ("template", template)])]

/-- The Deployment `web` with a pod template, and its primary. -/
def sampleDeployments (template : Value) : Store :=
  [(⟨"Deployment", ⟨.text "web", .text "prod"⟩⟩, sampleWithTemplate template),
    (⟨"Deployment", ⟨.text "web-primary", .text "prod"⟩⟩, TemplateController.sampleOutdated)]

/-- The selector of the primary after the Service `web` was promoted. -/
def promotedSelector (selector : Value) : Option Value :=
  let services := ((ServiceController.promote ⟨[], "canary"⟩ sampleCanary).run sampleCalm
    (sampleServices selector, 0)).2.1
  (services.get? ⟨"Service", ⟨.text "web-primary", .text "prod"⟩⟩).bind
    fun primary => primary.at? ["spec", "selector"]

/-- The fingerprint that is taken of a Service. -/
def specFingerprint (service : Value) : Except Failure String := do
  (← service.getSection "spec").fingerprint

/-- Two Services with one fingerprint whose promotions give their primaries other selectors, and two
Deployments whose pod templates have one fingerprint and of which only one can be promoted. -/
theorem pairs_promote_otherwise :
    (∃ digest, specFingerprint (sampleService "web" (samplePairList "app" "tier")) = .ok digest ∧
      specFingerprint (sampleService "web" (samplePairList "tier" "app")) = .ok digest) ∧
    promotedSelector (samplePairList "app" "tier") = some (.object [("app", .text "tier")]) ∧
    promotedSelector (samplePairList "tier" "app") = some (.object [("tier", .text "app")]) ∧
    (∃ digest,
      PodTemplate.fingerprint (sampleTemplate (.object [("disk", .text "ssd")])) = .ok digest ∧
      PodTemplate.fingerprint sampleListedTemplate = .ok digest) ∧
    ((sampleController.promote sampleCanary).run sampleCalm
      (sampleDeployments (sampleTemplate (.object [("disk", .text "ssd")])), 0)).1 = .ok () ∧
    ((sampleController.promote sampleCanary).run sampleCalm
      (sampleDeployments sampleListedTemplate, 0)).1 = .error .malformed := by
  have taken (first second : String) :
      specFingerprint (sampleService "web" (samplePairList first second)) =
        .ok (Value.object [("ports", .list [.object [("port", .int 80)]]),
          ("selector", samplePairList first second)]).canonicalDigest := rfl
  have text : (Value.object [("ports", .list [.object [("port", .int 80)]]),
        ("selector", samplePairList "app" "tier")]).canonical =
      (Value.object [("ports", .list [.object [("port", .int 80)]]),
        ("selector", samplePairList "tier" "app")]).canonical := by
    cbv
  refine ⟨⟨_, taken "app" "tier", ?_⟩, by decide +kernel, by decide +kernel,
    ⟨_, fingerprint_sampleTemplate, fingerprint_sampleTemplate⟩, by decide +kernel,
    by decide +kernel⟩
  rw [taken, canonicalDigest, ← text]
  rfl

end CanaryRelease
