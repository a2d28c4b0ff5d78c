import CanaryRelease.Proofs.CalmRuns
import CanaryRelease.Proofs.CallWrites
import CanaryRelease.Proofs.Revisions
import CanaryRelease.Proofs.SameTexts

/-!
# Services of one revision

The services that are derived from a target take over its ports and its selector, when they are
created and with every promotion (`MadeFrom`). Made from versions with one fingerprint they have the
same of both (`SameRevision.same_of_made`), and a version can be promoted wherever another one of the
revision can (`SameRevision.exists_run`). A selector has to be an object or not set: of a list of
pairs the fingerprint does not see which of two keys of a pair comes first.
-/

namespace CanaryRelease.ServiceController

open Program Workload Value

variable {c : ServiceController} {canary : Canary} {target target₁ target₂ primary : Value}
  {body body₁ body₂ changed : Value}

/-! ## Ports and selectors -/

theorem keepsSame_clusterPort : KeepsSame clusterPort := by
  intro x y x' same hx
  obtain ⟨fs, rfl, rfl⟩ := erase_eq_ok.mp hx
  obtain ⟨gs, rfl⟩ := same.exists_object
  exact ⟨_, erase_eq_ok.mpr ⟨gs, rfl, rfl⟩, same.erase _⟩

theorem keepsSame_clusterPorts : KeepsSame clusterPorts := by
  intro x y x' same hx
  unfold clusterPorts orElse at hx ⊢
  rw [← same.isUnset]
  split at hx
  · obtain rfl : .list [] = x' := Except.ok.inj hx
    rw [if_pos ‹_›]
    exact ⟨.list [], rfl, rfl, rfl, rfl⟩
  · rename_i set
    rw [if_neg set]
    obtain ⟨items, hitems, hx⟩ := bind_eq_ok.mp hx
    obtain ⟨ports, hports, ⟨⟩⟩ := bind_eq_ok.mp hx
    have objects : ∀ item ∈ items, ∃ fs, item = .object fs := fun item hi => by
      obtain ⟨_, hp⟩ := exists_of_mapM hports item hi
      obtain ⟨fs, rfl, -⟩ := erase_eq_ok.mp hp
      exact ⟨fs, rfl⟩
    obtain rfl := eq_list_of_elements hitems (Bool.eq_false_iff.mpr set) objects
    obtain ⟨items₂, rfl, each⟩ := same.exists_items
    obtain ⟨ports₂, hports₂, again⟩ := keepsSame_clusterPort.mapM each hports
    exact ⟨_, bind_eq_ok.mpr ⟨items₂, rfl, bind_eq_ok.mpr ⟨_, hports₂, rfl⟩⟩, SameJson.of_items again⟩

/-- The selector of a Service is an object or not set. -/
def MappedSelector (target : Value) : Prop :=
  ∀ x, target.at? ["spec", "selector"] = some x → x.isUnset = true ∨ ∃ fs, x = .object fs

theorem exists_handedSelector {fs gs : Fields} {selector : Option Value}
    (same : SameJson (.object fs) (.object gs))
    (mapped : ((fs.get? "selector").getD .null).isUnset = true ∨
      ∃ entries, (fs.get? "selector").getD .null = .object entries)
    (h : handedSelector fs = .ok selector) :
    ∃ selector₂, handedSelector gs = .ok selector₂ ∧
      selector.map canonical = selector₂.map canonical := by
  have selectors := same.getD "selector"
  unfold handedSelector at h ⊢
  dsimp only at h ⊢
  rw [← selectors.isUnset]
  rcases mapped with unset | ⟨entries, isObject⟩
  · rw [if_pos unset] at h ⊢
    obtain rfl := Except.ok.inj h
    exact ⟨none, rfl, rfl⟩
  · split at h
    · rw [if_pos ‹_›]
      obtain rfl := Except.ok.inj h
      exact ⟨none, rfl, rfl⟩
    · rw [if_neg ‹_›]
      rw [isObject] at h selectors
      obtain ⟨entries₂, isObject₂⟩ := selectors.exists_object
      rw [isObject₂] at selectors ⊢
      obtain rfl := Except.ok.inj h
      exact ⟨_, rfl, congrArg some selectors.text⟩

/-! ## What is made from a target -/

/-- Ports and selector of a service are those that are handed on by a target. -/
def MadeFrom (target body : Value) : Prop :=
  ∃ (source : Fields) (ports : Value) (selector : Option Value),
    target.getSection "spec" = .ok (.object source) ∧
    clusterPorts ((source.get? "ports").getD .null) = .ok ports ∧
    handedSelector source = .ok selector ∧
    body.at? ["spec", "type"] = some (.text "ClusterIP") ∧
    body.at? ["spec", "ports"] = some ports ∧ body.at? ["spec", "selector"] = selector

theorem madeFrom_of_promoted (h : promoted primary target = .ok changed)
    (hb : writeBody .service changed = .ok body) : MadeFrom target body := by
  obtain ⟨source, fs, spec, ports, selector, hsource, rfl, -, hp, hs, rfl⟩ := promoted_eq_ok.mp h
  have written := (writtenBack_of_writeBody hb (.refl [] _) (by simp)).same
  refine ⟨source, ports, selector, hsource, hp, hs, ?_, ?_, ?_⟩
  · rw [written _ (by simp), at?_set, if_pos rfl, at?_object_singleton, get?_withSelector,
      if_neg (by simp), Fields.get?_set_of_not_same _ _ (by simp), Fields.get?_set_self]
  · rw [written _ (by simp), at?_set, if_pos rfl, at?_object_singleton, get?_withSelector,
      if_neg (by simp), Fields.get?_set_self]
  · rw [written _ (by simp), at?_set, if_pos rfl, at?_object_singleton, get?_withSelector,
      if_pos rfl]

theorem madeFrom_of_derivedBody {object : ObjectName}
    (h : c.derivedBody canary object target = .ok body) : MadeFrom target body := by
  obtain ⟨source, ports, selector, hsource, hp, hs, -, stands⟩ := exists_spec_of_derivedBody h
  obtain ⟨fs, _, rfl, hspec, ⟨⟩⟩ := at?_text_eq_some.mp stands
  refine ⟨source, ports, selector, hsource, hp, hs, ?_, ?_, ?_⟩
  · rw [at?_object, hspec, Option.bind_some, at?_object_singleton, get?_withSelector,
      if_neg (by simp)]
    rfl
  · rw [at?_object, hspec, Option.bind_some, at?_object_singleton, get?_withSelector,
      if_neg (by simp)]
    rfl
  · rw [at?_object, hspec, Option.bind_some, at?_object_singleton, get?_withSelector, if_pos rfl]

/-! ## Versions of one revision -/

/-- Two versions of a Service, as JSON has them, that are one revision: their specs have one
fingerprint. -/
structure SameRevision (target₁ target₂ : Value) : Prop where
  json₁ : target₁.isJson Binary64.isProper = true
  json₂ : target₂.isJson Binary64.isProper = true
  mapped : MappedSelector target₁
  fingerprints : ∃ spec₁ spec₂, target₁.getSection "spec" = .ok spec₁ ∧
    target₂.getSection "spec" = .ok spec₂ ∧ spec₁.SameDigest spec₂

theorem SameRevision.exists_handedOn (h : SameRevision target₁ target₂) {source₁ : Fields}
    {ports₁ : Value} {selector₁ : Option Value}
    (hs : target₁.getSection "spec" = .ok (.object source₁))
    (hports : clusterPorts ((source₁.get? "ports").getD .null) = .ok ports₁)
    (hselector : handedSelector source₁ = .ok selector₁) :
    ∃ (source₂ : Fields) (ports₂ : Value) (selector₂ : Option Value),
      target₂.getSection "spec" = .ok (.object source₂) ∧
      clusterPorts ((source₂.get? "ports").getD .null) = .ok ports₂ ∧
      handedSelector source₂ = .ok selector₂ ∧ SameJson ports₁ ports₂ ∧
      selector₁.map canonical = selector₂.map canonical := by
  obtain ⟨spec₁, spec₂, hs₁, hs₂, digest⟩ := h.fingerprints
  obtain rfl := Except.ok.inj (hs.symm.trans hs₁)
  have same : SameJson (.object source₁) spec₂ :=
    ⟨isJson_getSection h.json₁ hs₁, isJson_getSection h.json₂ hs₂, digest.canonical⟩
  obtain ⟨source₂, rfl⟩ := same.exists_object
  obtain ⟨ports₂, hports₂, ports⟩ := keepsSame_clusterPorts _ _ _ (same.getD "ports") hports
  have mapped : ((source₁.get? "selector").getD .null).isUnset = true ∨
      ∃ entries, (source₁.get? "selector").getD .null = .object entries := by
    cases found : source₁.get? "selector" with
    | none => exact .inl rfl
    | some x =>
      refine h.mapped x ?_
      rw [← isSection_of_getSection hs, at?_object_singleton, found]
  obtain ⟨selector₂, hselector₂, selectors⟩ := exists_handedSelector same mapped hselector
  exact ⟨source₂, ports₂, selector₂, hs₂, hports₂, hselector₂, ports, selectors⟩

theorem SameRevision.same_of_made (h : SameRevision target₁ target₂)
    (made₁ : MadeFrom target₁ body₁) (made₂ : MadeFrom target₂ body₂) :
    ∀ place ∈ promotedPlaces,
      (body₁.at? place).map canonical = (body₂.at? place).map canonical := by
  obtain ⟨source₁, ports₁, selector₁, hs₁, hp₁, hh₁, type₁, ports_at₁, selector_at₁⟩ := made₁
  obtain ⟨source₂, ports₂, selector₂, hs₂, hp₂, hh₂, type₂, ports_at₂, selector_at₂⟩ := made₂
  obtain ⟨_, _, _, hs, hp, hh, ports, selectors⟩ := h.exists_handedOn hs₁ hp₁ hh₁
  obtain ⟨⟩ := Except.ok.inj (hs₂.symm.trans hs)
  obtain rfl := Except.ok.inj (hp₂.symm.trans hp)
  obtain rfl := Except.ok.inj (hh₂.symm.trans hh)
  simp only [promotedPlaces, List.mem_cons, List.not_mem_nil, or_false]
  rintro _ (rfl | rfl | rfl)
  · rw [type₁, type₂]
  · rw [ports_at₁, ports_at₂, Option.map_some, Option.map_some, ports.text]
  · rw [selector_at₁, selector_at₂, selectors]

theorem same_spec_of_writtenBack (written₁ : WrittenBack .service promotedPlaces primary body₁)
    (written₂ : WrittenBack .service promotedPlaces primary body₂) (made₁ : MadeFrom target₁ body₁)
    (made₂ : MadeFrom target₂ body₂)
    (same : ∀ place ∈ promotedPlaces,
      (body₁.at? place).map canonical = (body₂.at? place).map canonical) :
    SameObjectsAt ["spec"] [] body₁ body₂ := by
  obtain ⟨-, -, -, -, -, -, type₁, -, -⟩ := made₁
  obtain ⟨-, -, -, -, -, -, type₂, -, -⟩ := made₂
  obtain ⟨fs, hfs⟩ := exists_object_above (p := ["spec"]) (q := []) type₁
  obtain ⟨gs, hgs⟩ := exists_object_above (p := ["spec"]) (q := []) type₂
  refine ⟨fs, gs, hfs, hgs, fun key _ => ?_⟩
  have field {body : Value} {spec : Fields} (h : body.at? ["spec"] = some (.object spec)) :
      spec.get? key = body.at? ["spec", key] := by
    have whole := at?_append body [.text "spec"] [key]
    rw [h, Option.bind_some, at?_object_singleton] at whole
    exact whole.symm
  rw [field hfs, field hgs]
  by_cases place : [.text "spec", key] ∈ promotedPlaces
  · exact same _ place
  · have apart : ∀ other ∈ [.text "apiVersion"] :: [.text "kind"] :: promotedPlaces,
        Path.Apart [.text "spec", key] other := by
      simp only [promotedPlaces, List.mem_cons, List.cons.injEq, List.not_mem_nil, or_false,
        true_and, and_true, not_or] at place ⊢
      rintro _ (rfl | rfl | rfl | rfl | rfl)
      all_goals simp [place]
    rw [written₁.same _ apart, written₂.same _ apart]

theorem ends_hasTargetChanged {log : List Exchange} {answer : Bool} :
    Ends (hasTargetChanged canary) log (.ok answer) ↔
      ∃ v target spec digest, log = [readExchange .service canary.targetObject (.ok v)] ∧
        v.toManifest = .ok target ∧ target.getSection "spec" = .ok spec ∧
        spec.fingerprint = .ok digest ∧ answer = canary.isNewRevision (.text digest) := by
  unfold hasTargetChanged
  simp only [ends_bind_ok, ends_fetch, ends_lift, ends_pure]
  constructor
  · rintro ⟨target, _, _, rfl, ⟨v, rfl, hv⟩, spec, _, _, rfl, ⟨rfl, hs⟩, digest, _, _, rfl, ⟨rfl, hf⟩,
      rfl, ha⟩
    exact ⟨v, target, spec, digest, rfl, hv, hs.symm, hf.symm, Except.ok.inj ha⟩
  · rintro ⟨v, target, spec, digest, rfl, hv, hs, hf, rfl⟩
    exact ⟨target, [_], [], rfl, ⟨v, rfl, hv⟩, spec, [], [], rfl, ⟨rfl, hs.symm⟩, digest, [], [], rfl,
      ⟨rfl, hf.symm⟩, rfl, rfl⟩

/-! ## Promotions and creations -/

/-- A promotion that read a target and a primary asks to replace the primary by a body. -/
structure Promotes (target primary body : Value) : Prop where
  asks : ∃ (c : ServiceController) (canary : Canary) (v w : Value) (name : ObjectName),
    Writes (c.promote canary) [readExchange .service canary.targetObject (.ok v),
      readExchange .service (primaryObject canary) (.ok w)] (.replaceObject .service name body) ∧
    v.toManifest = .ok target ∧ w.toManifest = .ok primary

/-- An initialization that read a target asks to create a service with a body. -/
structure CreatesDerived (target body : Value) : Prop where
  asks : ∃ (c : ServiceController) (canary : Canary) (v : Value) (rest : List Exchange)
      (space : Value),
    Writes (c.establish canary) (readExchange .service canary.targetObject (.ok v) :: rest)
      (.createObject .service space body) ∧ v.toManifest = .ok target

theorem Promotes.exists_promoted (h : Promotes target primary body) :
    ∃ changed, promoted primary target = .ok changed ∧ writeBody .service changed = .ok body := by
  obtain ⟨c, canary, v, w, name, writes, hv, hw⟩ := h.asks
  obtain ⟨_, _, _, _, changed, _, _, hlog, hv', hw', hc, -, hb, ⟨⟩⟩ :=
    exists_promoted_of_writes writes
  cases hlog
  obtain rfl := Except.ok.inj (hv.symm.trans hv')
  obtain rfl := Except.ok.inj (hw.symm.trans hw')
  exact ⟨changed, hc, hb⟩

theorem CreatesDerived.madeFrom (h : CreatesDerived target body) : MadeFrom target body := by
  obtain ⟨c, canary, v, rest, space, writes, hv⟩ := h.asks
  obtain ⟨_, _, _, _, _, hlog, hv', -, hb, ⟨⟩⟩ := exists_body_of_writes writes
  cases hlog
  obtain rfl := Except.ok.inj (hv.symm.trans hv')
  exact madeFrom_of_derivedBody hb

/-- A service is written that was made from a target. -/
def MakesDerived (target body : Value) : Prop :=
  (∃ primary, Promotes target primary body) ∨ CreatesDerived target body

theorem MakesDerived.madeFrom (h : MakesDerived target body) : MadeFrom target body := by
  rcases h with ⟨_, promotes⟩ | creates
  · obtain ⟨changed, hc, hb⟩ := promotes.exists_promoted
    exact madeFrom_of_promoted hc hb
  · exact creates.madeFrom

theorem SameRevision.same_spec (h : SameRevision target₁ target₂)
    (promotes₁ : Promotes target₁ primary body₁) (promotes₂ : Promotes target₂ primary body₂) :
    SameObjectsAt ["spec"] [] body₁ body₂ := by
  obtain ⟨_, hc₁, hb₁⟩ := promotes₁.exists_promoted
  obtain ⟨_, hc₂, hb₂⟩ := promotes₂.exists_promoted
  have made₁ := madeFrom_of_promoted hc₁ hb₁
  have made₂ := madeFrom_of_promoted hc₂ hb₂
  have written {changed body target : Value} (hc : promoted primary target = .ok changed)
      (hb : writeBody .service changed = .ok body) :
      WrittenBack .service promotedPlaces primary body :=
    writtenBack_of_writeBody hb (sameApart_promoted hc) (by simp [promotedPlaces])
  exact same_spec_of_writtenBack (written hc₁ hb₁) (written hc₂ hb₂) made₁ made₂
    (h.same_of_made made₁ made₂)

/-! ## Runs -/

variable {σ : Type} {S : Surroundings σ} {store : σ → Store} {s : σ} {refs : List ConfigRef}
  {redirect : Value → List ConfigRef → Except Failure Value}

theorem exists_ends_promote (c : ServiceController) (canary : Canary) {v w : Value}
    {name : ObjectName} (hv : v.toManifest = .ok target) (hw : w.toManifest = .ok primary)
    (own : ownName primary = .ok name) (hc : promoted primary target = .ok changed) :
    ∃ body, writeBody .service changed = .ok body ∧
      WrittenBack .service promotedPlaces primary body ∧
      Ends (c.promote canary) ([readExchange .service canary.targetObject (.ok v),
        readExchange .service (primaryObject canary) (.ok w),
        replaceExchange .service name body (.ok ()), ⟨.count (.promoted Kind.service.name), ()⟩,
        ⟨.note c.logger (.promoted Kind.service.name canary.targetObject
          (primaryName canary.target.name)), ()⟩]) (.ok ()) := by
  have same := sameApart_promoted hc
  have own_changed := ownName_of_sameApart own same.symm (by simp [promotedPlaces])
  obtain ⟨body, hb⟩ : ∃ body, writeBody .service changed = .ok body := by
    obtain ⟨_, _, _, _, _, -, -, -, -, -, rfl⟩ := promoted_eq_ok.mp hc
    exact ⟨_, rfl⟩
  refine ⟨body, hb, writtenBack_of_writeBody hb same (by simp [promotedPlaces]), ?_⟩
  unfold promote
  refine ends_bind_ok.mpr ⟨target, [_], _, rfl, ends_fetch.mpr ⟨v, rfl, hv⟩, ?_⟩
  refine ends_bind_ok.mpr ⟨primary, [_], _, rfl, ends_fetch.mpr ⟨w, rfl, hw⟩, ?_⟩
  refine ends_lift_bind.mpr ⟨changed, hc, ?_⟩
  refine ends_bind_ok.mpr ⟨(), [_], _, rfl, ends_update.mpr ⟨name, body, own_changed, hb, rfl⟩, ?_⟩
  exact ends_bind_ok.mpr ⟨(), [_], _, rfl, ends_request.mpr ⟨_, rfl, rfl⟩,
    ends_request.mpr ⟨_, rfl, rfl⟩⟩

theorem exists_promotes {v w : Value} {name : ObjectName} (hv : v.toManifest = .ok target)
    (hw : w.toManifest = .ok primary) (own : ownName primary = .ok name)
    (hc : promoted primary target = .ok changed) : ∃ body, Promotes target primary body := by
  obtain ⟨body, -, -, ends⟩ := exists_ends_promote ⟨[], ""⟩ sampleCanary hv hw own hc
  have asks := @Ends.asks _ _ [_, _] _ _ _ ends
  exact ⟨body, _, _, v, w, name, ⟨asks, rfl⟩, hv, hw⟩

theorem run_promote (c : ServiceController) (calm : Calm S store refs redirect)
    (h : Stored .service canary (store s) target primary) (hc : promoted primary target = .ok changed) :
    ∃ name body s', writeBody .service changed = .ok body ∧
      (c.promote canary).run S s = (.ok (), s') ∧
      ((c.promote canary).log S s).filter (fun e => e.request.isWrite) =
        [replaceExchange .service name body (.ok ())] := by
  have quiet := calm.undisturbed
  obtain ⟨v, target_stored, hv⟩ := h.target_stored
  obtain ⟨w, primary_stored, hw, version⟩ := h.primary_stored
  obtain ⟨name, own, standard⟩ := h.own
  obtain ⟨body, hb, written, ends⟩ := exists_ends_promote c canary hv hw own hc
  have alike : body.resourceVersion.alike w.resourceVersion = true := by
    rwa [resourceVersion_of_writtenBack hw written (by simp [promotedPlaces])]
  have stored₁ : (store (S (.readObject .service canary.targetObject) s).2).get?
      ⟨Kind.service.name, primaryObject canary⟩ = some w := by
    rw [quiet.store_eq rfl]
    exact primary_stored
  obtain ⟨-, -, s', -, -, -, run, logged, -⟩ :=
    quiet.exists_run_of_replacement [_, _] ends
      ⟨_, quiet.read h.addressable target_stored, quiet.read h.primary_addressable stored₁, rfl⟩
      (by simp [Request.isWrite]) ⟨fun s => ⟨_, rfl, rfl, rfl⟩, by simp [Request.isWrite]⟩
      h.primary_addressable primary_stored standard alike
  refine ⟨name, body, s', hb, run, ?_⟩
  rw [logged]
  rfl

theorem Promotes.objectAt_spec (h : Promotes target primary body) : ObjectAt primary ["spec"] := by
  obtain ⟨_, hc, -⟩ := h.exists_promoted
  obtain ⟨_, fs, spec, _, _, -, rfl, isSpec, -, -, -⟩ := promoted_eq_ok.mp hc
  exact objectAt_of_getOr (getOr_eq_ok.mpr ⟨fs, rfl, isSpec.symm⟩)

/-- After a service was made from one version of a target, another version of the revision can be
promoted, onto a primary whose spec is an object or missing, or onto one that the first version was
promoted onto. -/
theorem SameRevision.exists_run (h : SameRevision target₁ target₂) (c : ServiceController)
    (calm : Calm S store refs redirect) (stored : Stored .service canary (store s) target₂ primary)
    (made : MakesDerived target₁ body₁)
    (fit : ObjectAt primary ["spec"] ∨ ∃ body, Promotes target₁ primary body) :
    ∃ name body₂ s', (c.promote canary).run S s = (.ok (), s') ∧
      ((c.promote canary).log S s).filter (fun e => e.request.isWrite) =
        [replaceExchange .service name body₂ (.ok ())] ∧
      ∀ place ∈ promotedPlaces,
        (body₁.at? place).map canonical = (body₂.at? place).map canonical := by
  obtain ⟨source₁, ports₁, selector₁, hs₁, hp₁, hh₁, placed₁⟩ := made.madeFrom
  obtain ⟨source₂, ports₂, selector₂, hs₂, hp₂, hh₂, -, -⟩ := h.exists_handedOn hs₁ hp₁ hh₁
  obtain ⟨w, -, hw, -⟩ := stored.primary_stored
  obtain ⟨fs, rfl, -⟩ := toManifest_eq_ok hw
  obtain ⟨spec, hspec⟩ := exists_getD_of_objectAt (fit.elim id fun ⟨_, h⟩ => h.objectAt_spec)
  have hc := promoted_eq_ok.mpr
    ⟨source₂, fs, spec, ports₂, selector₂, hs₂, rfl, hspec, hp₂, hh₂, rfl⟩
  obtain ⟨name, body₂, s', hb, run, writes⟩ := run_promote c calm stored hc
  exact ⟨name, body₂, s', run, writes, h.same_of_made made.madeFrom (madeFrom_of_promoted hc hb)⟩

end CanaryRelease.ServiceController
