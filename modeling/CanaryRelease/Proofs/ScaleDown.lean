import CanaryRelease.Proofs.Creation
import CanaryRelease.Proofs.Scalings
import CanaryRelease.Proofs.SiteRuns
import CanaryRelease.Workload.Controller

/-!
# Targets are scaled down safely

Establishing a canary may take its target out of service, so it must not do so before the primary
serves. `establish_scales_down_safely` says that it does not, in any interleaving with others and
whatever calls fail: a target is replaced only in an initial phase, after the primary was seen to
exist or was created, and, unless the analysis is skipped, after a primary that was read later was
found ready with replicas; and nothing but the marker is written to it.

The proof reads the exchanges before a write off the steps of the operation
(`writes_establish`); what the others do between two exchanges does not enter it.
-/

namespace CanaryRelease

open Program Workload PodTemplate Value

/-- Every stored object that names itself is stored under that name. -/
def Store.SelfNamed (s : Store) : Prop :=
  ∀ key v manifest name, s.get? key = some v → v.toManifest = .ok manifest →
    ownName manifest = .ok name → name.standard = key.object.standard

/-- The name that a stored object gives itself. -/
def Value.ownName? (v : Value) : Option ObjectName :=
  v.toManifest.toOption.bind fun manifest => (ownName manifest).toOption

theorem Value.ownName?_eq_some {v : Value} {name : ObjectName} :
    v.ownName? = some name ↔
      ∃ manifest, v.toManifest = .ok manifest ∧ ownName manifest = .ok name := by
  unfold ownName?
  cases v.toManifest with
  | error e => simp [Except.toOption]
  | ok manifest =>
    cases own : ownName manifest with
    | error e => simp [Except.toOption, own]
    | ok name => simp [Except.toOption, own]

theorem Store.selfNamed_iff {s : Store} :
    s.SelfNamed ↔ ∀ entry ∈ s, s.get? entry.1 = some entry.2 →
      ∀ name ∈ entry.2.ownName?, name.standard = entry.1.object.standard := by
  constructor
  · rintro named ⟨key, v⟩ - stored name own
    obtain ⟨manifest, hm, hn⟩ := Value.ownName?_eq_some.mp own
    exact named key v manifest name stored hm hn
  · intro named key v manifest name stored hm hn
    obtain ⟨entry, mem, same, rfl⟩ := Store.exists_entry stored
    have here := (Store.get?_congr s same).trans stored
    have own := named entry mem here name (Value.ownName?_eq_some.mpr ⟨manifest, hm, hn⟩)
    exact own.trans same.2

instance (s : Store) : Decidable s.SelfNamed :=
  decidable_of_iff' _ Store.selfNamed_iff

theorem Site.bodyName_of_ownName {body : Value} {name : ObjectName}
    (h : ownName body = .ok name) : Site.bodyName body = name.name := by
  obtain ⟨fs, metadata, rfl, hm, hn⟩ := at?_text_eq_some.mp (ownName_eq_ok.mp h).1
  obtain ⟨gs, x, rfl, hx, hxn⟩ := at?_text_eq_some.mp hn
  obtain rfl := Option.some.inj hxn
  simp only [Site.bodyName, Value.part, hm, hx, Option.getD_some]

theorem ownName_of_kept {body kept m : Value} {name : ObjectName}
    (same : SameApart serverPlaces body kept) (hm : kept.toManifest = .ok m)
    (own : ownName m = .ok name) :
    body.wire.at? ["metadata", "name"] = some name.name ∧ ownName body.wire = .ok name := by
  obtain ⟨fs, rfl, parts⟩ := toManifest_eq_ok hm
  obtain ⟨hn, hs⟩ := ownName_eq_ok.mp own
  rw [parts, same.wire _ (by simp [serverPlaces])] at hn hs
  exact ⟨hn, ownName_eq_ok.mpr ⟨hn, hs⟩⟩

theorem ownName_of_writtenBack {kind : Kind} {places : List Path} {v manifest body kept m : Value}
    {name name' : ObjectName} (hv : v.toManifest = .ok manifest) (own : ownName manifest = .ok name)
    (written : WrittenBack kind places manifest body)
    (apart : ∀ path, ∀ place ∈ places, Path.Apart (.text "metadata" :: path) place)
    (same : SameApart serverPlaces body kept) (hm : kept.toManifest = .ok m)
    (own' : ownName m = .ok name') : name' = name := by
  obtain ⟨-, own_of_body⟩ := ownName_of_kept same hm own'
  have own_of_old := ownName_of_sameApart own_of_body written.same.wire fun place hp => by
    simp only [List.mem_cons] at hp
    rcases hp with rfl | rfl | hp
    · simp
    · simp
    · exact ⟨apart _ place hp, apart _ place hp⟩
  rw [wire_of_toManifest hv, own] at own_of_old
  exact (Except.ok.inj own_of_old).symm

theorem Controller.writes_silent {p : Program Unit} {log : List Exchange} {r : Request} :
    Writes (Controller.silent p) log r ↔ Writes p log r := by
  unfold Controller.silent
  rw [writes_bind]
  constructor
  · rintro (h | ⟨_, _, after, rfl, -, h⟩)
    · exact h
    · exact absurd h (readOnly_pure _ _ _)
  · exact .inl

namespace TemplateController

variable {c : TemplateController} {canary : Canary} {log : List Exchange} {r : Request}

/-- The key of a canary's target. -/
def targetKey (c : TemplateController) (canary : Canary) : ObjectKey :=
  ⟨c.kind.name, canary.targetObject⟩

/-- The key of a canary's primary. -/
def primaryKey (c : TemplateController) (canary : Canary) : ObjectKey :=
  ⟨c.kind.name, primaryObject canary⟩

theorem standard_ne_of_name {name : ObjectName} (h : name.name = (primaryObject canary).name) :
    name.standard ≠ canary.targetObject.standard := by
  intro same
  have name_eq : name.name.toKey?.map Key.standard =
      canary.target.name.toKey?.map Key.standard := congrArg Prod.snd same
  replace h : name.name = .text (primaryName canary.target.name) := h
  rw [h] at name_eq
  cases hn : canary.target.name with
  | text s =>
    rw [hn] at name_eq
    simp [toKey?, Key.standard, primaryName, display] at name_eq
  | float x =>
    rw [hn] at name_eq
    have key_eq : Key.Same (.text _) (.float x) := Option.some.inj name_eq
    exact absurd (Key.text_same.mp key_eq) (by simp)
  | _ =>
    rw [hn] at name_eq
    simp [toKey?, Key.standard] at name_eq

theorem not_same_primaryKey : ¬ (c.primaryKey canary).Same (c.targetKey canary) :=
  fun h => standard_ne_of_name rfl h.2

/-! ## Before a target is scaled down -/

/-- Among some exchanges a primary was read and found ready and with replicas. -/
def FindsPrimaryReady (c : TemplateController) (canary : Canary) (log : List Exchange) : Prop :=
  ∃ v primary status now readiness replicas,
    readExchange (.template c.kind) (primaryObject canary) (.ok v) ∈ log ∧
    v.toManifest = .ok primary ∧ RolloutStatus.ofObject c.kind primary = .ok status ∧
    ⟨.readClock, now⟩ ∈ log ∧
    status.readiness canary.progressDeadline now = .ok readiness ∧ readiness.verdict = .ready ∧
    RolloutStatus.declaredReplicas c.kind primary = .ok replicas ∧
    replicas.alike (.int 0) = false

theorem FindsPrimaryReady.mono {more : List Exchange} (h : FindsPrimaryReady c canary log)
    (sub : ∀ e ∈ log, e ∈ more) : FindsPrimaryReady c canary more := by
  obtain ⟨v, primary, status, now, readiness, replicas, read, hv, hs, clock, rest⟩ := h
  exact ⟨v, primary, status, now, readiness, replicas, sub _ read, hv, hs, sub _ clock, rest⟩

theorem readOnly_checkPrimary : ReadOnly (c.checkPrimary canary) := by
  refine (readOnly_fetch _ _).bind fun _ => ReadOnly.bind ?_ fun _ => ?_
  · refine (readOnly_lift _).bind fun _ => (readOnly_request rfl).bind fun _ => ?_
    refine (readOnly_lift _).bind fun _ => (readOnly_request rfl).bind fun _ => ?_
    exact readOnly_ite (readOnly_pure _) (readOnly_fail _)
  · exact (readOnly_lift _).bind fun _ => readOnly_ite (readOnly_fail _) (readOnly_pure _)

theorem ends_checkPrimary (h : Ends (c.checkPrimary canary) log (.ok ())) :
    FindsPrimaryReady c canary log := by
  unfold checkPrimary checkRollout ensureReady at h
  obtain ⟨primary, _, after, rfl, hp, rest⟩ := ends_bind_ok.mp h
  obtain ⟨v, rfl, hv⟩ := ends_fetch.mp hp
  obtain ⟨_, _, after, rfl, checked, counting⟩ := ends_bind_ok.mp rest
  obtain ⟨status, hs, reading⟩ := ends_lift_bind.mp checked
  obtain ⟨now, _, _, rfl, hn, judging⟩ := ends_bind_ok.mp reading
  obtain ⟨_, rfl, ⟨⟩⟩ := ends_request.mp hn
  obtain ⟨readiness, hr, judged⟩ := ends_lift_bind.mp judging
  obtain ⟨_, _, _, rfl, -, deciding⟩ := ends_bind_ok.mp judged
  obtain ⟨replicas, hd, declared⟩ := ends_lift_bind.mp counting
  split at deciding
  · rename_i ready
    split at declared
    · cases declared
    · rename_i some_declared
      exact ⟨v, primary, status, now, readiness, replicas, by simp, hv, hs, by simp, hr, ready, hd,
        by simpa using some_declared⟩
  · cases deciding

/-- What has to have happened before a target is written, and what is written to it. -/
structure SafeScaleDown (c : TemplateController) (canary : Canary) (log : List Exchange)
    (body : Value) : Prop where
  initial : canary.phase.isInitial = true
  steps : ∃ seen checked v target,
    log = seen ++ checked ++ [readExchange (.template c.kind) canary.targetObject (.ok v)] ∧
    (∃ e ∈ seen, ShowsPrimary c canary e) ∧
    (canary.skipAnalysis = false → FindsPrimaryReady c canary checked) ∧
    v.toManifest = .ok target ∧ ScaledDown c.kind target body

/-- Establishing a canary writes when it creates the primary, and then, if ever, when it scales the
target down. -/
theorem writes_establish (h : Writes (c.establish canary) log r) :
    Writes (c.createPrimary canary) log r ∨
      ∃ seen checked last, log = seen ++ checked ++ last ∧ canary.phase.isInitial = true ∧
        (∃ e ∈ seen, ShowsPrimary c canary e) ∧
        (canary.skipAnalysis = false → FindsPrimaryReady c canary checked) ∧
        Writes (c.scaleToZero canary) last r := by
  unfold establish at h
  obtain creating | ⟨_, seen, after, rfl, created, rest⟩ := writes_bind.mp h
  · exact .inl creating
  have shown := ends_createPrimary created
  cases initial : canary.phase.isInitial with
  | false =>
    rw [initial] at rest
    exact absurd rest (readOnly_pure _ _ _)
  | true =>
    rw [initial] at rest
    cases skip : canary.skipAnalysis with
    | true =>
      rw [skip] at rest
      obtain ⟨_, noted, last, rfl, -, scaling⟩ := (readOnly_request rfl).writes_bind.mp rest
      exact .inr ⟨seen, noted, last, by simp, rfl, shown, nofun, scaling⟩
    | false =>
      rw [skip] at rest
      obtain ⟨_, checked, later, rfl, ready, noting⟩ := readOnly_checkPrimary.writes_bind.mp rest
      obtain ⟨_, noted, last, rfl, -, scaling⟩ := (readOnly_request rfl).writes_bind.mp noting
      refine .inr ⟨seen, checked ++ noted, last, by simp, rfl, shown, fun _ => ?_, scaling⟩
      exact (ends_checkPrimary ready).mono fun _ he => List.mem_append_left _ he

/-! ## In every run -/

variable {programs : Nat → Program Value} {start store : Store} {past future : List Moment}
  {m : Moment} {caller : Nat} {e : Exchange} {disturbed : Bool}

/-- Whatever others do and whatever calls fail, a canary's establishment replaces nothing but the
target, and that only when it is safe; by everything else that it does the target stays as it is. -/
theorem establish_scales_down_safely
    (run : Run programs start (past ++ m :: future) store)
    (named : ∀ moment ∈ past ++ m :: future, moment.before.SelfNamed)
    (own : programs caller = Controller.call (.template c) .establish canary)
    (hm : m.event = .exchange caller e disturbed) :
    (∀ kind name body, e = replaceExchange kind name body (.ok ()) →
      kind = .template c.kind ∧ name.standard = canary.targetObject.standard ∧
        SafeScaleDown c canary (exchangesOf caller past) body) ∧
    ((∀ kind name body, e ≠ replaceExchange kind name body (.ok ())) →
      m.after.get? (c.targetKey canary) = m.before.get? (c.targetKey canary)) := by
  obtain ⟨asks, served⟩ := run.asks hm
  rw [own] at asks
  have writes (hw : e.request.isWrite = true) :
      Writes (c.establish canary) (exchangesOf caller past) e.request :=
    Controller.writes_silent.mp ⟨asks, hw⟩
  constructor
  · rintro kind name body rfl
    obtain creating | ⟨seen, checked, last, hlog, initial, shown, ready, scaling⟩ :=
      writes_establish (writes rfl)
    · obtain ⟨_, _, _, _, _, _, _, _, body, -, -, -, hr, -⟩ := writes_createPrimary creating
      cases hr
    · obtain ⟨v, target, _, _, rfl, hv, hn, ⟨⟩, scaled⟩ := writes_scaleToZero scaling
      refine ⟨rfl, ?_, initial, seen, checked, v, target, hlog, shown, ready, hv, scaled⟩
      -- the name is that of the manifest, and whatever is stored is named like its key
      obtain ⟨before, after, m', rfl, -, stored, -⟩ := run.at_moment.1.get?_of_read hlog
      exact named m' (by simp) _ v target _ stored hv hn
  -- what is created stands in the primary's place, and what is replaced is excluded here
  · intro none_replaced
    cases hw : e.request.isWrite with
    | false => rw [served.store_eq_of_not_isWrite hw]
    | true =>
      obtain ⟨request, reply⟩ := e
      obtain creating | ⟨seen, checked, last, -, -, -, -, scaling⟩ := writes_establish (writes hw)
      · obtain ⟨_, _, _, _, _, _, _, _, body, -, -, -, rfl, own_name, -⟩ :=
          writes_createPrimary creating
        cases reply with
        | error failure => rw [served.store_eq_of_not_created]
        | ok u =>
          obtain ⟨kept, -, -, hafter⟩ := served.of_created
          rw [Site.bodyName_of_ownName own_name] at hafter
          rw [hafter, Store.get?_put, if_neg]
          exact not_same_primaryKey
      · obtain ⟨v, target, name, body, -, -, -, rfl, -⟩ := writes_scaleToZero scaling
        cases reply with
        | error failure => rw [served.store_eq_of_not_replaced]
        | ok u => exact absurd rfl (none_replaced _ name body)

/-- What happens when a canary is established whose primary is there. -/
def sampleEstablishment : List Moment :=
  (sampleSite [] [("web", "1"), ("web-primary", "2")]).moments 0
    (Controller.call (.template sampleController) .establish sampleCanary)

/-- What the target is written back with. -/
def sampleScaledDown : Value :=
  let marked := sampleDeployment "web" "1" [("disk", .text "ssd"), (.text markerKey, markerValue)]
  .object ((marked.set "apiVersion" (.text "apps/v1")).set "kind" (.text "Deployment"))

/-- A target is scaled down whose primary was found ready before. -/
theorem sampleEstablishment_scales_down_safely :
    SafeScaleDown sampleController sampleCanary (exchangesOf 0 (sampleEstablishment.take 7))
      sampleScaledDown := by
  have found : sampleEstablishment[7]?.map Moment.event =
      some (.exchange 0 (replaceExchange (.template .deployment) ⟨.text "web", .text "prod"⟩
        sampleScaledDown (.ok ())) false) := by
    decide +kernel
  obtain ⟨m, split, event⟩ := exists_split_of_getElem? found
  have run : Run (fun _ => Controller.call (.template sampleController) .establish sampleCanary) _
      ([] ++ sampleEstablishment) _ := Site.run_of_call rfl .start rfl
  have named : ∀ moment ∈ sampleEstablishment, moment.before.SelfNamed := by decide +kernel
  rw [List.nil_append, split] at run
  rw [split] at named
  exact ((establish_scales_down_safely run named rfl event).1 _ _ _ rfl).2.2

end TemplateController

end CanaryRelease
