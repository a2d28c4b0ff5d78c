import CanaryRelease.Proofs.PromotionEffect
import CanaryRelease.Proofs.Revisions
import CanaryRelease.Proofs.SameRevisions

/-!
# Promotions of one revision

A primary's body is written by its creation and by promotions, each time from the target that was
read (`MakesPrimary`). Bodies that were made from versions of one revision have the same pod template
but for the id (`SameRevision.same_of_makes`), and a version can be promoted onto a primary onto
which another version of the revision was (`SameRevision.exists_run`).
-/

namespace CanaryRelease

open Program Workload PodTemplate Value

namespace TemplateController

variable {c : TemplateController} {canary : Canary} {target target₁ target₂ primary : Value}
  {label : String} {value body body₁ body₂ : Value} {refs : List ConfigRef}
  {redirect : Value → List ConfigRef → Except Failure Value}

/-- A promotion that read a target and a primary asks to replace the primary by a body. -/
structure Promotes (c : TemplateController) (refs : List ConfigRef)
    (redirect : Value → List ConfigRef → Except Failure Value) (target primary body : Value) :
    Prop where
  asks : ∃ canary v w rest name,
    Writes (c.promote canary) (readExchange (.template c.kind) canary.targetObject (.ok v) ::
      readExchange (.template c.kind) (primaryObject canary) (.ok w) :: rest)
      (.replaceObject (.template c.kind) name body) ∧
    v.toManifest = .ok target ∧ w.toManifest = .ok primary ∧
    ∀ e ∈ rest, e.FromTracker refs redirect

/-- An initialization that read a target asks to create its primary with a body. -/
structure CreatesPrimary (c : TemplateController) (refs : List ConfigRef)
    (redirect : Value → List ConfigRef → Except Failure Value) (target body : Value) : Prop where
  asks : ∃ canary v rest space,
    Writes (c.establish canary) (readExchange (.template c.kind) canary.targetObject (.ok v) :: rest)
      (.createObject (.template c.kind) space body) ∧
    v.toManifest = .ok target ∧ ∀ e ∈ rest, e.FromTracker refs redirect

/-- A primary's body is written that was made from a target. -/
def MakesPrimary (c : TemplateController) (refs : List ConfigRef)
    (redirect : Value → List ConfigRef → Except Failure Value) (target body : Value) : Prop :=
  (∃ primary, Promotes c refs redirect target primary body) ∨
    CreatesPrimary c refs redirect target body

/-- A body is the twin of a target, whose pod spec was redirected. -/
structure MadeFrom (c : TemplateController) (refs : List ConfigRef)
    (redirect : Value → List ConfigRef → Except Failure Value) (target : Value) (label : String)
    (value body : Value) : Prop where
  blueprint : ∃ plan : Blueprint, plan.Of target
  twin : ∃ redirected id, redirect (sourcePodSpec target) refs = .ok redirected ∧
    Twin c.kind target label (primaryName value) redirected id body

theorem exists_promotes {plan : Blueprint} {frame : Frame} {redirected podSpec : Value}
    {v w : Value} {name : ObjectName} (canary : Canary) (refs : List ConfigRef)
    (hv : v.toManifest = .ok target) (hw : w.toManifest = .ok primary)
    (paired : c.pairingLabel target = .ok (label, value)) (of : plan.Of target)
    (frameOf : frame.Of primary) (own : ownName primary = .ok name)
    (hr : redirect (sourcePodSpec target) refs = .ok redirected)
    (removed : removeMarker redirected = .ok podSpec) :
    ∃ body, Promotes c refs redirect target primary body := by
  obtain ⟨body, -, -, ends⟩ :=
    exists_ends_promote canary refs hv hw paired of frameOf own removed ""
  have asks := @Ends.asks _ _ [_, _, _, _, _, _] _ _ _ ends
  refine ⟨body, canary, v, w, _, name, ⟨asks, rfl⟩, hv, hw, ?_⟩
  simp only [List.mem_cons, List.not_mem_nil, or_false]
  rintro _ (rfl | rfl | rfl | rfl)
  · rintro found ⟨⟩
    rfl
  · trivial
  · rintro _ ⟨⟩
    exact hr
  · trivial

theorem Promotes.madeFrom (h : Promotes c refs redirect target primary body)
    (paired : c.pairingLabel target = .ok (label, value)) :
    (∃ frame : Frame, frame.Of primary) ∧ MadeFrom c refs redirect target label value body := by
  obtain ⟨canary, v, w, rest, name, writes, hv, hw, tracker⟩ := h.asks
  obtain ⟨_, _, _, _, _, _, found, made, changed, _, _, hlog, hv', paired', hw', hb, hn, hbody, ⟨⟩⟩ :=
    exists_promoted_of_writes writes
  cases hlog
  obtain rfl := Except.ok.inj (hv.symm.trans hv')
  obtain rfl := Except.ok.inj (hw.symm.trans hw')
  obtain ⟨⟩ := Except.ok.inj (paired.symm.trans paired')
  obtain ⟨plan, frame, _, _, _, of, frameOf, -, -, -⟩ := ends_promoted_iff.mp hb
  obtain ⟨id, redirected, rfl, -, -, twin⟩ := writtenBack_of_promoted hb hn hbody
  have told : found = refs := tracker ⟨.targetConfigs canary, .ok found⟩ (by simp) found rfl
  have redirection : redirect (sourcePodSpec target) found = .ok redirected :=
    tracker ⟨.redirectConfigs (sourcePodSpec target) found, .ok redirected⟩ (by simp) redirected rfl
  rw [told] at redirection
  exact ⟨⟨frame, frameOf⟩, ⟨plan, of⟩, redirected, id, redirection, twin⟩

theorem CreatesPrimary.madeFrom (h : CreatesPrimary c refs redirect target body)
    (paired : c.pairingLabel target = .ok (label, value)) :
    MadeFrom c refs redirect target label value body := by
  obtain ⟨canary, v, rest, space, writes, hv, tracker⟩ := h.asks
  obtain creating | ⟨_, _, _, -, -, -, -, scaling⟩ := writes_establish writes
  · obtain ⟨_, _, _, _, failure, found, made, _, hlog, hv', paired', hb, ⟨⟩⟩ :=
      exists_body_of_writes creating
    cases hlog
    obtain rfl := Except.ok.inj (hv.symm.trans hv')
    obtain ⟨⟩ := Except.ok.inj (paired.symm.trans paired')
    obtain ⟨plan, id, redirected, rfl, -, twin⟩ := ends_primaryBody hb
    have told : found = refs := tracker ⟨.targetConfigs canary, .ok found⟩ (by simp) found rfl
    have redirection : redirect (sourcePodSpec target) found = .ok redirected :=
      tracker ⟨.redirectConfigs (sourcePodSpec target) found, .ok redirected⟩ (by simp) redirected
        rfl
    rw [told] at redirection
    exact ⟨plan, redirected, id, redirection, twin⟩
  · obtain ⟨_, _, _, _, -, -, -, ⟨⟩, -⟩ := writes_scaleToZero scaling

theorem MakesPrimary.madeFrom (h : MakesPrimary c refs redirect target body)
    (paired : c.pairingLabel target = .ok (label, value)) :
    MadeFrom c refs redirect target label value body := by
  rcases h with ⟨_, promotes⟩ | creates
  · exact (promotes.madeFrom paired).2
  · exact creates.madeFrom paired

theorem SameRevision.same_of_makes (h : SameRevision c target₁ target₂ label value)
    (tracker : JsonRedirection redirect) (made₁ : MakesPrimary c refs redirect target₁ body₁)
    (made₂ : MakesPrimary c refs redirect target₂ body₂) : SamePodTemplate body₁ body₂ := by
  obtain ⟨⟨_, of₁⟩, _, _, hr₁, twin₁⟩ := made₁.madeFrom h.paired₁
  obtain ⟨⟨_, of₂⟩, _, _, hr₂, twin₂⟩ := made₂.madeFrom h.paired₂
  exact h.same_of_twins of₁ of₂ tracker hr₁ hr₂ twin₁ twin₂

/-- After a primary was made from one version of a target, another version of the revision can be
promoted, onto a well-typed primary or onto one that the first version was promoted onto. -/
theorem SameRevision.exists_run {σ : Type} {S : Surroundings σ} {store : σ → Store} {s : σ}
    {fs₂ : Fields} (h : SameRevision c target₁ target₂ label value)
    (tracker : JsonRedirection redirect) (calm : Calm S store refs redirect)
    (stored : StoredPair c canary (store s) target₂ primary label value)
    (template : templateOf target₂ = .ok (.object fs₂))
    (made : MakesPrimary c refs redirect target₁ body₁)
    (fit : WellTyped primary ∨ ∃ body, Promotes c refs redirect target₁ primary body) :
    ∃ name body₂ s', (c.promote canary).run S s = (.ok (), s') ∧
      ((c.promote canary).log S s).filter (fun e => e.request.isWrite) =
        [replaceExchange (.template c.kind) name body₂ (.ok ())] ∧
      SamePodTemplate body₁ body₂ := by
  obtain ⟨⟨_, of₁⟩, _, _, hr₁, twin₁⟩ := made.madeFrom h.paired₁
  obtain ⟨frame, frameOf⟩ : ∃ frame : Frame, frame.Of primary := by
    rcases fit with typed | ⟨_, promotes⟩
    · exact typed.exists_frame
    · exact (promotes.madeFrom h.paired₁).1
  obtain ⟨plan₂, of₂⟩ := h.exists_blueprint of₁ template
  obtain ⟨_, removed₁, -⟩ := twin₁.podSpec
  obtain ⟨redirected₂, _, hr₂, removed₂, -⟩ :=
    h.exists_redirected of₁.templateOf of₂.templateOf tracker hr₁ removed₁
  obtain ⟨name, body₂, _, _, s', -, -, twin₂, -, -, run, writes, -⟩ :=
    run_promote calm stored of₂ frameOf hr₂ removed₂
  exact ⟨name, body₂, s', run, writes, h.same_of_twins of₁ of₂ tracker hr₁ hr₂ twin₁ twin₂⟩

end TemplateController

end CanaryRelease
