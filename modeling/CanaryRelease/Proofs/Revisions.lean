import CanaryRelease.Proofs.CalmRuns
import CanaryRelease.Proofs.CanonicalAgreement
import CanaryRelease.Proofs.Digests
import CanaryRelease.Proofs.PodSpecs
import CanaryRelease.Proofs.Versions
import CanaryRelease.Workload.Checks
import Mathlib.Data.List.Permutation

/-!
# Revisions

Two pod templates are one revision if they are the same once they are tidied up: a missing pod spec
or node selector counts as empty, and the scale-to-zero marker does not count (`tidied`). What a
fingerprint is taken of is the tidied template up to the order of fields (`agree_normalized`), so a
target has changed exactly if it is another revision (`revisions_told_apart`).
-/

namespace CanaryRelease

open Program Workload PodTemplate Value

namespace PodTemplate

/-- A pod template whose pod spec is an object or missing, and the node selector in it an object,
null or missing. -/
structure Legible (template : Value) : Prop where
  isObject : ∃ fs, template = .object fs
  podSpec : ObjectAt template ["spec"]
  selector : ∀ x, template.at? ["spec", "nodeSelector"] = some x → x = .null ∨ ∃ fs, x = .object fs

/-- A pod template in which a missing pod spec and a missing node selector, or null in its place,
were made empty objects and the marker was removed. -/
def tidied (template : Value) : Except Failure Value := do
  let podSpec ← template.getOr "spec" .empty
  let selector ← podSpec.get "nodeSelector"
  let entries ← (if selector = .null then .empty else selector).erase markerKey
  template.set "spec" (← podSpec.set "nodeSelector" entries)

/-! ## What fingerprints are taken of -/

/-- A pod spec with other entries of the node selector, which may be none. -/
def withEntries (spec base : Fields) : Fields :=
  Fields.setDefault (if base.isEmpty then spec.erase "nodeSelector"
    else spec.set "nodeSelector" (.object base)) "nodeSelector" .empty

theorem get?_withEntries (spec base : Fields) (key : Key) :
    Fields.get? (withEntries spec base) key =
      (spec.set "nodeSelector" (.object base)).get? key := by
  unfold withEntries
  rw [Fields.get?_setDefault, Fields.get?_set]
  by_cases here : (Key.text "nodeSelector").Same key
  · rw [if_pos here, if_pos here]
    split
    · rename_i none_left
      rw [Fields.get?_erase, if_pos (Key.same_self _), List.isEmpty_iff.mp none_left]
      rfl
    · rw [Fields.get?_set_self]
      rfl
  · rw [if_neg here, if_neg here]
    split
    · rw [Fields.get?_erase, if_neg here]
    · rw [Fields.get?_set, if_neg here]

theorem normalized_eq_ok {fs : Fields} {normal : Value} :
    normalized (.object fs) = .ok normal ↔
      ∃ spec base : Fields, (fs.get? "spec").getD .empty = .object spec ∧
        baseEntries (.object spec) = .ok base ∧
        normal = .object ((fs.setDefault "spec" .empty).set "spec"
          (.object (withEntries spec base))) := by
  have found : (Value.object (fs.setDefault "spec" .empty)).get "spec" =
      .ok ((fs.get? "spec").getD .empty) := by
    refine get_eq_ok.mpr ⟨_, rfl, ?_⟩
    rw [Fields.get?_setDefault, if_pos (Key.same_self _), Option.getD_some]
  constructor
  · intro h
    obtain ⟨_, ⟨⟩, h⟩ := bind_eq_ok.mp h
    obtain ⟨_, hs, h⟩ := bind_eq_ok.mp h
    obtain rfl := Except.ok.inj (found.symm.trans hs)
    obtain ⟨_, hm, h⟩ := bind_eq_ok.mp h
    obtain ⟨spec, base, hspec, hbase, rfl⟩ := removeMarker_eq_ok.mp hm
    rw [hspec] at hbase
    refine ⟨spec, base, hspec, hbase, ?_⟩
    unfold withEntries
    by_cases none_left : base.isEmpty = true
    · rw [if_pos none_left] at h ⊢
      exact (Except.ok.inj h).symm
    · rw [if_neg none_left] at h ⊢
      exact (Except.ok.inj h).symm
  · rintro ⟨spec, base, hspec, hbase, rfl⟩
    rw [hspec] at found
    refine bind_eq_ok.mpr ⟨fs, rfl, bind_eq_ok.mpr ⟨_, found, ?_⟩⟩
    refine bind_eq_ok.mpr ⟨_, removeMarker_eq_ok.mpr ⟨spec, _, rfl, hbase, rfl⟩, ?_⟩
    unfold withEntries
    split
    · rfl
    · rfl

/-- The pod template of a workload, empty if it is not set. -/
def templateOf (workload : Value) : Except Failure Value := do
  (← workload.getSection "spec").getSection "template"

/-! ## Legible templates -/

/-- What a legible template is made of: its fields, those of its pod spec, and the entries of the
node selector in that. -/
structure Parts (template : Value) (fs spec entries : Fields) : Prop where
  isObject : template = .object fs
  podSpec : (fs.get? "spec").getD .empty = .object spec
  selector : (spec.get? "nodeSelector").getD .null = .object entries ∨
    (spec.get? "nodeSelector").getD .null = .null ∧ entries = []

variable {template tidy normal : Value} {fs spec entries : Fields} {floats : Binary64 → Bool}

theorem Legible.exists_parts (h : Legible template) :
    ∃ fs spec entries, Parts template fs spec entries := by
  obtain ⟨fs, rfl⟩ := h.isObject
  obtain ⟨spec, hs⟩ := exists_getD_of_objectAt h.podSpec
  have selector := h.selector
  have inSpec := isSection_getD_empty fs "spec"
  rw [hs] at inSpec
  rw [← inSpec "nodeSelector" [], at?_object_singleton] at selector
  cases found : spec.get? "nodeSelector" with
  | none => exact ⟨fs, spec, [], rfl, hs, .inr ⟨by rw [found]; rfl, rfl⟩⟩
  | some x =>
    rcases selector x found with rfl | ⟨entries, rfl⟩
    · exact ⟨fs, spec, [], rfl, hs, .inr ⟨by rw [found]; rfl, rfl⟩⟩
    · exact ⟨fs, spec, entries, rfl, hs, .inl (by rw [found]; rfl)⟩

namespace Parts

theorem tidied_eq (h : Parts template fs spec entries) :
    tidied template = .ok (.object (fs.set "spec" (.object
      (spec.set "nodeSelector" (.object (entries.erase markerKey)))))) := by
  obtain ⟨rfl, podSpec, selector⟩ := h
  have entries_eq : (if (spec.get? "nodeSelector").getD .null = .null then .empty
      else (spec.get? "nodeSelector").getD .null) = Value.object entries := by
    rcases selector with found | ⟨found, rfl⟩
    · rw [found, if_neg nofun]
    · rw [found, if_pos rfl, Value.empty]
  refine bind_eq_ok.mpr ⟨_, getOr_eq_ok.mpr ⟨fs, rfl, podSpec.symm⟩, ?_⟩
  refine bind_eq_ok.mpr ⟨_, get_eq_ok.mpr ⟨spec, rfl, rfl⟩, ?_⟩
  rw [entries_eq]
  rfl

theorem baseEntries_eq (h : Parts template fs spec entries) :
    baseEntries (.object spec) = .ok (entries.erase markerKey) :=
  baseEntries_of_selectorOf (selectorOf_eq h.selector)

/-- Fingerprints are taken of the tidied template up to the order of fields. -/
theorem agree_normalized (h : Parts template fs spec entries)
    (json : template.isJson floats = true) :
    ∃ normal tidy, normalized template = .ok normal ∧ tidied template = .ok tidy ∧
      normal.isJson floats = true ∧ tidy.isJson floats = true ∧ Agree [] normal tidy := by
  have base := h.baseEntries_eq
  have tidied := h.tidied_eq
  obtain ⟨rfl, podSpec, selector⟩ := h
  have normalized := normalized_eq_ok.mpr ⟨spec, _, podSpec, base, rfl⟩
  have specJson : (Value.object spec).isJson floats = true := by
    rw [← podSpec]
    exact isJson_getD json isJson_empty
  have entriesJson : (Value.object entries).isJson floats = true := by
    rcases selector with found | ⟨-, rfl⟩
    · rw [← found]
      exact isJson_getD specJson rfl
    · exact isJson_empty
  have baseJson := isJson_erase entriesJson (.text markerKey)
  refine ⟨_, _, normalized, tidied, ?_, ?_, ?_⟩
  · refine isJson_set (isJson_setDefault json isJson_empty) (isJson_setDefault ?_ isJson_empty)
    split
    · exact isJson_erase specJson _
    · exact isJson_set specJson baseJson
  · exact isJson_set json (isJson_set specJson baseJson)
  · refine agree_object fun key => ?_
    rw [Fields.get?_set, Fields.get?_set, Fields.get?_setDefault]
    by_cases here : (Key.text "spec").Same key
    · rw [if_pos here, if_pos here]
      refine .inr ⟨_, _, rfl, rfl, agree_object fun key => .inl ?_⟩
      exact (get?_withEntries spec _ key).symm
    · rw [if_neg here, if_neg here, if_neg here]
      exact .inl rfl

end Parts

theorem fingerprint_of_normalized (h : normalized template = .ok normal)
    (json : normal.isJson floats = true) :
    fingerprint template = .ok normal.canonicalDigest := by
  unfold fingerprint Value.fingerprint
  rw [h]
  change (if normal.isOrderable then _ else _) = _
  rw [if_pos (isOrderable_of_isJson normal json)]

end PodTemplate

/-! ## Changed targets -/

theorem isNewRevision_iff {canary : Canary} {known : String} (set : known ≠ "")
    (applied : canary.lastAppliedSpec = .text known)
    (promoted : canary.lastPromotedSpec = .text known) (fingerprint : String) :
    canary.isNewRevision (.text fingerprint) = true ↔ known ≠ fingerprint := by
  unfold Canary.isNewRevision
  rw [applied, promoted, if_neg (by simpa [isUnset] using set)]
  by_cases same : known = fingerprint
  · rw [if_pos (text_alike.mpr same)]
    simp [same]
  · have apart : (text known).alike (text fingerprint) = false := by
      simpa [← Bool.not_eq_true, text_alike] using same
    rw [apart]
    simp [same]

theorem recorded_of_isNewRevision {canary : Canary} {fingerprint : String}
    (h : canary.isNewRevision (.text fingerprint) = false) :
    canary.lastPromotedSpec = .text fingerprint ∨ canary.lastAppliedSpec = .text fingerprint := by
  unfold Canary.isNewRevision at h
  split at h
  · cases h
  · split at h
    · rename_i promoted
      exact .inl (eq_text_of_alike promoted)
    · exact .inr (eq_text_of_alike (by simpa using h))

theorem TemplateController.ends_hasTargetChanged {c : TemplateController} {canary : Canary}
    {log : List Exchange} {answer : Bool} :
    Ends (c.hasTargetChanged canary) log (.ok answer) ↔
      ∃ v target template digest,
        log = [readExchange (.template c.kind) canary.targetObject (.ok v)] ∧
        v.toManifest = .ok target ∧ templateOf target = .ok template ∧
        PodTemplate.fingerprint template = .ok digest ∧
        answer = canary.isNewRevision (.text digest) := by
  unfold hasTargetChanged templateOf
  simp only [ends_bind_ok, ends_fetch, ends_lift, bind_eq_ok, ends_pure]
  constructor
  · rintro ⟨target, _, _, rfl, ⟨v, rfl, hv⟩, spec, _, _, rfl, ⟨rfl, hs⟩, template, _, _, rfl,
      ⟨rfl, ht⟩, digest, _, _, rfl, ⟨rfl, hf⟩, rfl, ha⟩
    exact ⟨v, target, template, digest, rfl, hv, ⟨spec, hs.symm, ht.symm⟩, hf.symm,
      Except.ok.inj ha⟩
  · rintro ⟨v, target, template, digest, rfl, hv, ⟨spec, hs, ht⟩, hf, rfl⟩
    exact ⟨target, [_], [], rfl, ⟨v, rfl, hv⟩, spec, [], [], rfl, ⟨rfl, hs.symm⟩, template, [], [],
      rfl, ⟨rfl, ht.symm⟩, digest, [], [], rfl, ⟨rfl, hf.symm⟩, rfl, rfl⟩

/-- There are no floating-point numbers. -/
def noFloats (_ : Binary64) : Bool := false

/-- Values without floating-point numbers are fingerprinted by messages that are the same exactly if
the values are, up to the order of fields. So are pod templates once they are tidied up, and unless
the digest collides, a target counts as changed since its template was last applied and promoted
exactly if its tidied template is another one. -/
theorem revisions_told_apart :
    (∀ a b : Value, a.isJson noFloats = true → b.isJson noFloats = true →
      a.fingerprint = .ok (Sha256.digest a.payload).toHex ∧
        (a.payload = b.payload ↔ Agree [] a b)) ∧
    ∀ t₁ t₂ : Value, Legible t₁ → Legible t₂ →
      t₁.isJson noFloats = true → t₂.isJson noFloats = true →
        ∃ normal₁ normal₂ tidy₁ tidy₂,
          normalized t₁ = .ok normal₁ ∧ normalized t₂ = .ok normal₂ ∧
          PodTemplate.fingerprint t₁ = .ok normal₁.canonicalDigest ∧
          PodTemplate.fingerprint t₂ = .ok normal₂.canonicalDigest ∧
          tidied t₁ = .ok tidy₁ ∧ tidied t₂ = .ok tidy₂ ∧
          (normal₁.payload = normal₂.payload ↔ Agree [] tidy₁ tidy₂) ∧
          (Sha256.NoCollision normal₁.payload normal₂.payload →
            ∀ (σ : Type) (S : Surroundings σ) (s : σ) (c : TemplateController) (canary : Canary)
              (v target spec : Value),
              canary.lastAppliedSpec = .text normal₁.canonicalDigest →
              canary.lastPromotedSpec = .text normal₁.canonicalDigest →
              (S (.readObject (.template c.kind) canary.targetObject) s).1 = .ok v →
              v.toManifest = .ok target → target.getSection "spec" = .ok spec →
              spec.getSection "template" = .ok t₂ →
                ∃ changed s', (c.hasTargetChanged canary).run S s = (.ok changed, s') ∧
                  (changed = true ↔ ¬ Agree [] tidy₁ tidy₂)) := by
  have apart : FloatsApart noFloats := nofun
  have told (a b : Value) (ha : a.isJson noFloats = true) (hb : b.isJson noFloats = true) :
      a.payload = b.payload ↔ Agree [] a b :=
    payload_eq_iff.trans (canonical_eq_iff_agree apart ha hb)
  refine ⟨fun a b ha hb => ⟨if_pos (isOrderable_of_isJson a ha), told a b ha hb⟩, ?_⟩
  intro t₁ t₂ h₁ h₂ json₁ json₂
  obtain ⟨_, _, _, parts₁⟩ := h₁.exists_parts
  obtain ⟨_, _, _, parts₂⟩ := h₂.exists_parts
  obtain ⟨normal₁, tidy₁, hn₁, ht₁, normalJson₁, -, agree₁⟩ := parts₁.agree_normalized json₁
  obtain ⟨normal₂, tidy₂, hn₂, ht₂, normalJson₂, -, agree₂⟩ := parts₂.agree_normalized json₂
  -- the normalized templates are the tidied ones up to the order of fields
  have payloads : normal₁.payload = normal₂.payload ↔ Agree [] tidy₁ tidy₂ := by
    rw [told normal₁ normal₂ normalJson₁ normalJson₂]
    exact ⟨fun h => agree₁.symm.trans (h.trans agree₂), fun h => agree₁.trans (h.trans agree₂.symm)⟩
  have fingerprint₂ := fingerprint_of_normalized hn₂ normalJson₂
  refine ⟨normal₁, normal₂, tidy₁, tidy₂, hn₁, hn₂, fingerprint_of_normalized hn₁ normalJson₁,
    fingerprint₂, ht₁, ht₂, payloads, ?_⟩
  intro no_collision σ S s c canary v target spec applied promoted read manifest hs ht
  have ends : Ends (c.hasTargetChanged canary) _ _ := TemplateController.ends_hasTargetChanged.mpr
    ⟨v, target, t₂, _, rfl, manifest, bind_eq_ok.mpr ⟨spec, hs, ht⟩, fingerprint₂, rfl⟩
  obtain ⟨run, -⟩ := run_of_ends _ ends ⟨read, rfl⟩
  refine ⟨_, _, run, ?_⟩
  rw [isNewRevision_iff (canonicalDigest_ne_empty normal₁) applied promoted, Ne,
    canonicalDigest_eq_iff no_collision, payloads]

/-- The pod template of a Deployment `web` with a node selector. -/
def sampleTemplate (selector : Value) : Value :=
  .object [("metadata", .object [("labels", .object [("app", .text "web")])]),
    ("spec", .object [("nodeSelector", selector)])]

theorem legible_sampleTemplate {selector : Value}
    (h : selector = .null ∨ ∃ fs, selector = .object fs) : Legible (sampleTemplate selector) where
  isObject := ⟨_, rfl⟩
  podSpec := by
    rintro x ⟨⟩
    exact ⟨_, rfl⟩
  selector := by
    rintro x ⟨⟩
    exact h

theorem noCollision_sampleTemplate :
    Sha256.NoCollision (sampleTemplate .empty).payload
      (sampleTemplate (.object [("disk", .text "ssd")])).payload := by
  have before : (sampleTemplate .empty).canonical =
      "\x7b\"metadata\":\x7b\"labels\":\x7b\"app\":\"web\"\x7d\x7d,\"spec\":\x7b\"nodeSelector\":\x7b\x7d\x7d\x7d".toList := by
    cbv
  have after : (sampleTemplate (.object [("disk", .text "ssd")])).canonical =
      "\x7b\"metadata\":\x7b\"labels\":\x7b\"app\":\"web\"\x7d\x7d,\"spec\":\x7b\"nodeSelector\":\x7b\"disk\":\"ssd\"\x7d\x7d\x7d".toList := by
    cbv
  intro same
  rw [payload_eq, payload_eq, before, after] at same
  exact absurd same (by decide +kernel)

/-- The Deployment `web`, bound to other nodes and scaled down. -/
def sampleMoved : Value :=
  .object (sampleDeployment "web" "7" [("disk", .text "ssd"), (.text markerKey, markerValue)])

/-- The canary of the Deployment `web` after the revision of a fingerprint was promoted. -/
def samplePromoted (fingerprint : String) : Canary :=
  { sampleCanary with
    lastAppliedSpec := .text fingerprint
    lastPromotedSpec := .text fingerprint }

/-- A Deployment that was bound to other nodes and scaled down since it was last promoted has
changed. -/
theorem sampleMove_told_apart :
    ∃ digest s', PodTemplate.fingerprint (sampleTemplate .null) = .ok digest ∧
      (sampleController.hasTargetChanged (samplePromoted digest)).run
        (calmSurroundings [] (fun podSpec _ => .ok podSpec) (sampleSite [] []).clock)
        ([(⟨"Deployment", ⟨.text "web", .text "prod"⟩⟩, sampleMoved)], 0) = (.ok true, s') := by
  obtain ⟨normal₁, normal₂, tidy₁, tidy₂, hn₁, hn₂, fingerprint, -, ht₁, ht₂, -, changes⟩ :=
    revisions_told_apart.2 (sampleTemplate .null)
      (sampleTemplate (.object [("disk", .text "ssd"), (.text markerKey, markerValue)]))
      (legible_sampleTemplate (.inl rfl)) (legible_sampleTemplate (.inr ⟨_, rfl⟩))
      (by decide) (by decide)
  obtain rfl : sampleTemplate .empty = normal₁ := Except.ok.inj hn₁
  obtain rfl : sampleTemplate (.object [("disk", .text "ssd")]) = normal₂ := Except.ok.inj hn₂
  obtain rfl : sampleTemplate .empty = tidy₁ := Except.ok.inj ht₁
  obtain rfl : sampleTemplate (.object [("disk", .text "ssd")]) = tidy₂ := Except.ok.inj ht₂
  obtain ⟨changed, s', run, changed_iff⟩ := changes noCollision_sampleTemplate _
    (calmSurroundings [] (fun podSpec _ => .ok podSpec) (sampleSite [] []).clock)
    ([(⟨"Deployment", ⟨.text "web", .text "prod"⟩⟩, sampleMoved)], 0)
    sampleController (samplePromoted (sampleTemplate .empty).canonicalDigest) sampleMoved
    sampleMoved _ rfl rfl rfl rfl rfl rfl
  have apart : ¬ Agree [] (sampleTemplate .empty)
      (sampleTemplate (.object [("disk", .text "ssd")])) := by
    intro agree
    have entry := agree ["spec", "nodeSelector", "disk"] nofun
    cases entry
  obtain rfl := changed_iff.mpr apart
  exact ⟨_, s', fingerprint, run⟩

end CanaryRelease
