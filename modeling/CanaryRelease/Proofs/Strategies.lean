import CanaryRelease.Proofs.Pairings
import CanaryRelease.Proofs.Staleness

/-!
# Update strategies

An establishment accepts a target only if its update strategy is fit for a canary release, or not
set; any other target is turned away before anything else is done (`leaves_of_unfit`). A promotion
does not ask: it brings over the strategy of whatever version of the target it reads. So the strategy
of a primary that the controllers alone have written is always that of some version of the target,
and it is fit unless that version came by a promotion (`strategies_follow_targets`). A strategy that
is changed between establishment and promotion does reach the primary (`unfit_strategy_promoted`).
-/

namespace CanaryRelease

open Program Workload Value

/-! ## Fit strategies -/

namespace TemplateKind

variable {kind : TemplateKind} {v w : Value}

/-- The place of a workload's update strategy. -/
def strategyPlace (kind : TemplateKind) : Path := ["spec", .text kind.strategyField]

/-- The type of a workload's update strategy, null if it has none. -/
def strategyType (kind : TemplateKind) (v : Value) : Value :=
  (v.at? ["spec", .text kind.strategyField, "type"]).getD .null

/-- The update strategy of a workload is not set, or one that is fit for a canary release. -/
def Fit (kind : TemplateKind) (v : Value) : Prop :=
  (kind.strategyType v).isUnset = true ∨
    ∃ name ∈ kind.allowedStrategies, kind.strategyType v = .text name

theorem strategyType_congr (h : w.at? kind.strategyPlace = v.at? kind.strategyPlace) :
    kind.strategyType w = kind.strategyType v := by
  have type (x : Value) : kind.strategyType x =
      ((x.at? kind.strategyPlace).bind fun y => y.at? ["type"]).getD .null := by
    rw [← at?_append]
    rfl
  rw [type, type, h]

theorem strategyField_mem (kind : TemplateKind) : kind.strategyField ∈ kind.policyFields := by
  cases kind <;> decide

end TemplateKind

namespace TemplateController

variable {c : TemplateController} {canary : Canary} {target v type : Value} {name : ObjectName}
  {log : List Exchange} {r : Request}

theorem strategyType_of_sections {spec strategy : Value}
    (hs : target.getSection "spec" = .ok spec)
    (hf : spec.getSection (.text c.kind.strategyField) = .ok strategy)
    (ht : strategy.get "type" = .ok type) : c.kind.strategyType target = type := by
  obtain ⟨fs, rfl, rfl⟩ := get_eq_ok.mp ht
  have outer := isSection_of_getSection hs (.text c.kind.strategyField) ["type"]
  have inner := isSection_of_getSection hf "type" []
  rw [at?_object_singleton] at inner
  rw [TemplateKind.strategyType, ← outer, ← inner]

theorem isUnset_orElse_text (x : Value) : (x.orElse (.text "")).isUnset = x.isUnset := by
  unfold orElse
  split
  · rename_i unset
    exact unset.symm
  · rfl

theorem orElse_of_isUnset {x y : Value} (h : x.isUnset = false) : x.orElse y = x := by
  rw [orElse, h]
  rfl

theorem fit_of_checkStrategy (h : c.checkStrategy target = .ok ()) : c.kind.Fit target := by
  unfold checkStrategy at h
  simp only [bind_eq_ok] at h
  obtain ⟨_, -, spec, hs, strategy, hf, type, ht, h⟩ := h
  rw [TemplateKind.Fit, strategyType_of_sections hs hf ht]
  cases unset : type.isUnset with
  | true => exact .inl rfl
  | false =>
    rw [isUnset_orElse_text, unset, orElse_of_isUnset unset] at h
    simp only [Bool.false_eq_true, if_false] at h
    split at h
    · cases h
    · split at h
      · rename_i allowed
        obtain ⟨name, mem, same⟩ := List.any_eq_true.mp allowed
        exact .inr ⟨name, mem, of_decide_eq_true same⟩
      · obtain ⟨_, -, refused⟩ := bind_eq_ok.mp h
        cases refused

theorem checkStrategy_of_unfit (own : ownName target = .ok name)
    (stands : target.at? ["spec", .text c.kind.strategyField, "type"] = some type)
    (scalar : type.isScalar = true) (unfit : ¬ c.kind.Fit target) :
    c.checkStrategy target =
      .error (.workload (.configuration (.strategy c.kind name type))) := by
  have found : c.kind.strategyType target = type := by rw [TemplateKind.strategyType, stands]; rfl
  rw [TemplateKind.Fit, found] at unfit
  obtain ⟨set, other⟩ := not_or.mp unfit
  have unset : type.isUnset = false := by simpa using set
  obtain ⟨fs, _, rfl, hspec, inSpec⟩ := at?_text_eq_some.mp stands
  obtain ⟨ss, _, rfl, hstrategy, inStrategy⟩ := at?_text_eq_some.mp inSpec
  obtain ⟨ts, _, rfl, htype, ⟨⟩⟩ := at?_text_eq_some.mp inStrategy
  obtain ⟨hname, hspace⟩ := ownName_eq_ok.mp own
  obtain ⟨_, _, ⟨⟩, hmetadata, inMetadata⟩ := at?_text_eq_some.mp hname
  obtain ⟨ms, _, rfl, hn, ⟨⟩⟩ := at?_text_eq_some.mp inMetadata
  obtain ⟨_, _, ⟨⟩, hmetadata', inMetadata'⟩ := at?_text_eq_some.mp hspace
  obtain rfl := Option.some.inj (hmetadata.symm.trans hmetadata')
  obtain ⟨_, _, ⟨⟩, hs, ⟨⟩⟩ := at?_text_eq_some.mp inMetadata'
  have get_eq {gs : Fields} {key : String} {x : Value} (h : gs.get? (.text key) = some x) :
      (Value.object gs).get (.text key) = .ok x :=
    get_eq_ok.mpr ⟨gs, rfl, by rw [h, Option.getD_some]⟩
  have claimed : claimedName (.object ms) = .ok name := by
    rw [claimedName, get_eq hn, get_eq hs]
    rfl
  have allowed : (c.kind.allowedStrategies.any fun name => type = .text name) = false := by
    simpa [List.any_eq_false] using fun name mem same => other ⟨name, mem, same⟩
  simp only [checkStrategy, getSection_of_get? hmetadata, getSection_of_get? hspec,
    getSection_of_get? hstrategy, get_eq htype, Bind.bind, Except.bind, unset,
    orElse_of_isUnset unset, scalar, allowed, claimed]
  rfl

theorem leaves_of_unfit (manifest : v.toManifest = .ok target) (own : ownName target = .ok name)
    (stands : target.at? ["spec", .text c.kind.strategyField, "type"] = some type)
    (scalar : type.isScalar = true) (unfit : ¬ c.kind.Fit target) :
    Leaves (Controller.call (.template c) .establish canary)
      [readExchange (.template c.kind) canary.targetObject (.ok v)]
      (.fail (.workload (.configuration (.strategy c.kind name type)))) := by
  have fetched : Ends (fetch (.template c.kind) canary.targetObject)
      [readExchange (.template c.kind) canary.targetObject (.ok v)] (.ok target) :=
    ends_fetch.mpr ⟨v, rfl, manifest⟩
  have creating : Leaves (c.createPrimary canary)
      [readExchange (.template c.kind) canary.targetObject (.ok v)]
      (.fail (.workload (.configuration (.strategy c.kind name type)))) := by
    unfold createPrimary
    convert leaves_bind fetched using 1
    rw [checkStrategy_of_unfit own stands scalar unfit]
    rfl
  exact (creating.bind _).bind _

theorem accepted_of_writes (h : Writes (c.createPrimary canary) log r) :
    ∃ v target rest, log = readExchange (.template c.kind) canary.targetObject (.ok v) :: rest ∧
      v.toManifest = .ok target ∧ c.checkStrategy target = .ok () := by
  unfold createPrimary at h
  obtain ⟨target, _, after, rfl, ht, rest⟩ := (readOnly_fetch _ _).writes_bind.mp h
  obtain ⟨v, rfl, manifest⟩ := ends_fetch.mp ht
  obtain ⟨_, strategy, -⟩ := writes_lift_bind.mp rest
  exact ⟨v, target, after, rfl, manifest, strategy⟩

/-! ## Runs in which the controllers keep the primary -/

variable {programs : Nat → Program Value} {start store : Store} {past moments : List Moment}
  {m : Moment} {w body : Value}

/-- Nobody but the controllers of a canary writes the primary, which is missing at the start. -/
structure Maintained (c : TemplateController) (canary : Canary) (programs : Nat → Program Value)
    (start : Store) (moments : List Moment) : Prop where
  missing : start.get? (c.primaryKey canary) = none
  writers : ∀ m ∈ moments, m.event.Writes (c.primaryKey canary) →
    Maintains c canary programs m.event

theorem Maintained.of_append {future : List Moment}
    (h : Maintained c canary programs start (past ++ future)) :
    Maintained c canary programs start past :=
  ⟨h.missing, fun m hm => h.writers m (List.mem_append_left _ hm)⟩

/-- Some object has the strategy of a version of the target, one that is fit or that a promotion
has read. -/
def HasTargetStrategy (c : TemplateController) (canary : Canary) (programs : Nat → Program Value)
    (moments : List Moment) (w : Value) : Prop :=
  ∃ m ∈ moments, ∃ v, m.before.get? (c.targetKey canary) = some v ∧
    w.wire.at? c.kind.strategyPlace = v.wire.at? c.kind.strategyPlace ∧
    (c.kind.Fit v.wire ∨ ∃ caller, Calls c canary programs caller .promote ∧
      readExchange (.template c.kind) canary.targetObject (.ok v) ∈ exchangesOf caller moments)

theorem HasTargetStrategy.append (h : HasTargetStrategy c canary programs past w)
    (future : List Moment) : HasTargetStrategy c canary programs (past ++ future) w := by
  obtain ⟨m, hm, v, stored, same, fit | ⟨caller, calls, read⟩⟩ := h
  · exact ⟨m, List.mem_append_left _ hm, v, stored, same, .inl fit⟩
  · refine ⟨m, List.mem_append_left _ hm, v, stored, same, .inr ⟨caller, calls, ?_⟩⟩
    rw [exchangesOf_append]
    exact List.mem_append_left _ read

theorem hasTargetStrategy_of_body {kept : Value} (hm : m ∈ past)
    (stored : m.before.get? (c.targetKey canary) = some v) (manifest : v.toManifest = .ok target)
    (policy : body.at? c.kind.strategyPlace = target.at? c.kind.strategyPlace)
    (same : SameApart serverPlaces body kept)
    (fit : c.kind.Fit target ∨ ∃ caller, Calls c canary programs caller .promote ∧
      readExchange (.template c.kind) canary.targetObject (.ok v) ∈ exchangesOf caller past) :
    HasTargetStrategy c canary programs past kept := by
  obtain ⟨fs, -, parts⟩ := toManifest_eq_ok manifest
  have strategy : kept.wire.at? c.kind.strategyPlace = v.wire.at? c.kind.strategyPlace := by
    rw [at?_wire, same _ (by simp [serverPlaces, TemplateKind.strategyPlace]), policy, ← at?_wire,
      wire_of_toManifest manifest]
    exact parts _ _
  refine ⟨m, hm, v, stored, strategy, fit.imp_left fun fit => ?_⟩
  rwa [TemplateKind.Fit, ← TemplateKind.strategyType_congr (w := target) (v := v.wire) (parts _ _)]

theorem strategy_of_maintains {key : ObjectKey} {kept : Value}
    (run : Run programs start past m.before) (follows : m.Follows programs past)
    (maintains : Maintains c canary programs m.event)
    (written : ∃ caller e disturbed, m.event = .exchange caller e disturbed ∧
      e.request.change? = some (key, body)) (same : SameApart serverPlaces body kept) :
    HasTargetStrategy c canary programs past kept := by
  obtain ⟨caller, e, disturbed, event, change⟩ := written
  obtain ⟨asks, -⟩ := follows.asks event
  rw [event] at maintains
  have writes : e.request.isWrite = true := Request.isWrite_of_change? change
  cases maintains with
  | @creates _ space _ _ calls =>
    obtain ⟨c', other, kind_eq, -, target_eq, call⟩ := calls
    rw [call] at asks
    obtain ⟨-, rfl⟩ := Prod.mk.inj (Option.some.inj change)
    -- an establishment scales by replacing, so what it creates is the primary
    obtain creating | ⟨_, _, _, -, -, -, -, scaling⟩ :=
      writes_establish (Controller.writes_silent.mp ⟨asks, rfl⟩)
    · obtain ⟨v, target, rest, hlog, manifest, accepted⟩ := accepted_of_writes creating
      obtain ⟨v', target', _, _, _, _, _, _, _, hlog', manifest', -, hr, -, twin⟩ :=
        writes_createPrimary creating
      obtain ⟨-, -, rfl⟩ := Request.createObject.inj hr
      obtain rfl : v = v' := by
        have head := (List.cons.inj (hlog.symm.trans hlog')).1
        cases head
        rfl
      obtain rfl := Except.ok.inj (manifest.symm.trans manifest')
      have read : readExchange (.template c.kind) canary.targetObject (.ok v) ∈
          exchangesOf caller past := by simp [hlog, ← kind_eq, ← target_eq]
      obtain ⟨r, hr, stored⟩ := run.exists_read read
      have fit := fit_of_checkStrategy accepted
      rw [kind_eq] at fit twin
      exact hasTargetStrategy_of_body hr stored manifest
        (twin.policy _ c.kind.strategyField_mem) same (.inl fit)
    · obtain ⟨_, _, _, _, -, -, -, ⟨⟩, -⟩ := writes_scaleToZero scaling
  | promotes calls =>
    have promotes := calls
    obtain ⟨c', other, kind_eq, -, target_eq, call⟩ := calls
    rw [call] at asks
    obtain ⟨v, target, _, _, _, _, _, _, _, _, body', hlog, manifest, -, -, -, hr, -, twin⟩ :=
      writes_promote (Controller.writes_silent.mp ⟨asks, writes⟩)
    rw [hr] at change
    obtain ⟨-, rfl⟩ := Prod.mk.inj (Option.some.inj change)
    have read : readExchange (.template c.kind) canary.targetObject (.ok v) ∈
        exchangesOf caller past := by simp [hlog, ← kind_eq, ← target_eq]
    obtain ⟨r, hr, stored⟩ := run.exists_read read
    rw [kind_eq] at twin
    exact hasTargetStrategy_of_body hr stored manifest
      (twin.policy _ c.kind.strategyField_mem) same (.inr ⟨caller, promotes, read⟩)

/-- At every moment of a run the primary has the strategy of a version of the target. -/
theorem Maintained.hasTargetStrategy (h : Maintained c canary programs start moments)
    (run : Run programs start moments store) (stored : store.get? (c.primaryKey canary) = some w) :
    HasTargetStrategy c canary programs moments w := by
  induction run generalizing w with
  | start =>
    rw [h.missing] at stored
    cases stored
  | @step past m run follows ih =>
    have writers := h.writers m (List.mem_append_right _ List.mem_cons_self)
    obtain before | ⟨maintains, caller, e, disturbed, key, body, event, change, here⟩ :=
      kept_or_maintained follows writers stored
    · exact (ih h.of_append before).append _
    · exact (strategy_of_maintains run follows maintains
        ⟨caller, e, disturbed, event, change⟩ here).append _

/-- At every moment the primary that the controllers keep has the strategy of a version of the
target, one that is fit or that a promotion has read. An establishment that reads a target whose
strategy is not fit asks for nothing more and fails with an error that no other try will help. -/
theorem strategies_follow_targets (maintained : Maintained c canary programs start moments)
    (run : Run programs start moments store) :
    (∀ w, store.get? (c.primaryKey canary) = some w →
      HasTargetStrategy c canary programs moments w) ∧
    ∀ (other : Canary) (v target type : Value) (name : ObjectName), v.toManifest = .ok target →
      ownName target = .ok name →
      target.at? ["spec", .text c.kind.strategyField, "type"] = some type →
      type.isScalar = true → ¬ c.kind.Fit target →
      let error := WorkloadError.configuration (.strategy c.kind name type)
      let read := readExchange (.template c.kind) other.targetObject (.ok v)
      error.category = .configuration ∧ error.retryable = false ∧
      (∀ more r, ¬ Asks (Controller.call (.template c) .establish other) (read :: more) r) ∧
      ∀ more outcome, Ends (Controller.call (.template c) .establish other) (read :: more) outcome ↔
        more = [] ∧ outcome = .error (.workload error) := by
  refine ⟨fun w stored => maintained.hasTargetStrategy run stored, ?_⟩
  intro other v target type name manifest own stands scalar unfit
  have leaves : Leaves (Controller.call (.template c) .establish other) _ _ :=
    leaves_of_unfit manifest own stands scalar unfit
  refine ⟨rfl, rfl, fun more r asks => ?_, fun more outcome => ?_⟩
  · exact asks_fail (leaves.asks_iff.mp asks)
  · exact leaves.ends_iff.trans ends_fail

/-- The Deployment `web` with an update strategy that is not fit. -/
def sampleUnfit : Value :=
  .object [
    ("metadata", .object [("name", .text "web"), ("namespace", .text "prod"),
      ("resourceVersion", .text "9"), ("generation", .int 4)]),
    ("spec", .object [("strategy", .object [("type", .text "Recreate")]),
      ("selector", .object [("matchLabels", .object [("app", .text "web")])]),
      ("template", .object [("metadata", .object [
        ("labels", .object [("app", .text "web")])])])])]

/-- The site after the canary was established and somebody changed the target's strategy. -/
def sampleUnfitSite : Site :=
  { sampleEstablished with
    server := { sampleEstablished.server with
      store := sampleEstablished.server.store.put (sampleController.targetKey sampleRelease)
        sampleUnfit } }

/-- What happens when a canary is established, its target's strategy is changed, and the target is
promoted. -/
def sampleUnfitMoments : List Moment :=
  (sampleSite [] [("web", "1")]).moments 0 (sampleReleasePrograms 0) ++
    [⟨sampleEstablished.server.store,
      .edit (sampleController.targetKey sampleRelease) (some sampleUnfit),
      sampleUnfitSite.server.store⟩] ++
    sampleUnfitSite.moments 1 (sampleReleasePrograms 1)

theorem run_sampleUnfitMoments :
    Run sampleReleasePrograms (sampleSite [] [("web", "1")]).server.store sampleUnfitMoments
      (sampleUnfitSite.run (sampleReleasePrograms 1)).2.server.store := by
  have established : Run sampleReleasePrograms (sampleSite [] [("web", "1")]).server.store
      ([] ++ (sampleSite [] [("web", "1")]).moments 0 (sampleReleasePrograms 0))
      sampleEstablished.server.store := Site.run_of_call rfl .start rfl
  exact Site.run_of_call rfl (established.step .edit) (by decide +kernel)

theorem maintained_sampleUnfitMoments :
    Maintained sampleController sampleRelease sampleReleasePrograms
      (sampleSite [] [("web", "1")]).server.store sampleUnfitMoments := by
  have written : (sampleUnfitMoments.all fun m => keepsToCallers m.event) = true := by
    decide +kernel
  refine ⟨by decide +kernel, fun m hm writes => ?_⟩
  exact maintains_of_keepsToCallers (List.all_eq_true.mp written m hm) ⟨_, _, rfl, rfl, rfl, rfl⟩
    ⟨_, _, rfl, rfl, rfl, rfl⟩ writes

/-- The primary that was promoted. -/
def sampleUnfitPrimary : Value :=
  (((sampleUnfitSite.run (sampleReleasePrograms 1)).2.server.store.get?
    (sampleController.primaryKey sampleRelease)).getD .null)

theorem stored_sampleUnfitPrimary :
    (sampleUnfitSite.run (sampleReleasePrograms 1)).2.server.store.get?
      (sampleController.primaryKey sampleRelease) = some sampleUnfitPrimary := by
  decide +kernel

/-- The promotion of a target whose strategy is not fit succeeds, and hands the strategy on. -/
theorem unfit_strategy_promoted :
    Maintained sampleController sampleRelease sampleReleasePrograms
      (sampleSite [] [("web", "1")]).server.store sampleUnfitMoments ∧
    Run sampleReleasePrograms (sampleSite [] [("web", "1")]).server.store sampleUnfitMoments
      (sampleUnfitSite.run (sampleReleasePrograms 1)).2.server.store ∧
    (sampleUnfitSite.run (sampleReleasePrograms 1)).1 = .ok .null ∧
    (sampleUnfitSite.run (sampleReleasePrograms 1)).2.server.store.get?
      (sampleController.primaryKey sampleRelease) = some sampleUnfitPrimary ∧
    ¬ TemplateKind.deployment.Fit sampleUnfitPrimary := by
  refine ⟨maintained_sampleUnfitMoments, run_sampleUnfitMoments, by decide +kernel,
    stored_sampleUnfitPrimary, ?_⟩
  have type : TemplateKind.deployment.strategyType sampleUnfitPrimary = .text "Recreate" := by
    decide +kernel
  rw [TemplateKind.Fit, type]
  decide

/-- The strategy of the primary is that of the changed target. -/
theorem sampleUnfit_followed :
    HasTargetStrategy sampleController sampleRelease sampleReleasePrograms sampleUnfitMoments
      sampleUnfitPrimary :=
  (strategies_follow_targets maintained_sampleUnfitMoments run_sampleUnfitMoments).1 _
    stored_sampleUnfitPrimary

end TemplateController

end CanaryRelease
