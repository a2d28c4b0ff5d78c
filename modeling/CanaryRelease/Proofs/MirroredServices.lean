import CanaryRelease.Proofs.ServiceSpecs

/-!
# Services that mirror their targets

A primary that the controllers create and keep always mirrors the target that was read for it
(`services_mirror_targets`), whatever calls run side by side.

The invariant of a run is that every primary that was ever stored was derived and is stored under
the name that it gives itself (`Standing`): a promotion may write back a primary that was read long
before. A primary that gives itself its target's name is promoted over the target
(`misnamed_promoted_over_target`).
-/

namespace CanaryRelease.ServiceController

open Program Workload Value

variable {c : ServiceController} {canary : Canary} {target body : Value}

/-! ## Runs in which the controllers keep the primary -/

variable {programs : Nat → Program Value} {start store : Store} {past moments : List Moment}
  {m : Moment} {caller : Nat} {operation : Operation}

/-- A caller makes a call of a Service's controller on the target of a canary. -/
def Calls (canary : Canary) (programs : Nat → Program Value) (caller : Nat)
    (operation : Operation) : Prop :=
  ∃ (c : ServiceController) (other : Canary), other.targetObject = canary.targetObject ∧
    programs caller = Controller.call (.service c) operation other

/-- A primary is written by the controllers of its canary: it is created when the canary is
established, and then promoted. -/
inductive Maintains (canary : Canary) (programs : Nat → Program Value) : Event → Prop where
  | creates {caller : Nat} {space body : Value} {disturbed : Bool}
      (calls : Calls canary programs caller .establish) :
      Maintains canary programs
        (.exchange caller (createExchange .service space body (.ok ())) disturbed)
  | promotes {caller : Nat} {name : ObjectName} {body : Value} {disturbed : Bool}
      (calls : Calls canary programs caller .promote) :
      Maintains canary programs
        (.exchange caller (replaceExchange .service name body (.ok ())) disturbed)

/-- Nobody but the controllers of a canary, whose namespace is the same in the form of the wire,
writes the primary, which is missing at the start. -/
structure Maintained (canary : Canary) (programs : Nat → Program Value) (start : Store)
    (moments : List Moment) : Prop where
  space : canary.space.wire = canary.space
  missing : start.get? (primaryKey canary) = none
  writers : ∀ m ∈ moments, m.event.Writes (primaryKey canary) → Maintains canary programs m.event

theorem Maintained.of_append {future : List Moment}
    (h : Maintained canary programs start (past ++ future)) :
    Maintained canary programs start past :=
  ⟨h.space, h.missing, fun m hm => h.writers m (List.mem_append_left _ hm)⟩

/-- The primary of a store, if there is one, is derived and stored under the name that it gives
itself. -/
def Standing (canary : Canary) (s : Store) : Prop :=
  ∀ w, s.get? (primaryKey canary) = some w →
    IsDerived w ∧ ∀ name ∈ w.ownName?, name.standard = (primaryObject canary).standard

/-- At a moment a call writes a primary that reflects the target that it has read. -/
structure Renews (canary : Canary) (programs : Nat → Program Value) (past : List Moment)
    (m : Moment) (caller : Nat) (last : Value) : Prop where
  calls : Calls canary programs caller .establish ∨ Calls canary programs caller .promote
  event : ∃ e disturbed, m.event = .exchange caller e disturbed ∧
    m.event.Writes (primaryKey canary)
  left : m.after.get? (primaryKey canary) = some last
  reflects : ∃ v target rest,
    exchangesOf caller past = readExchange .service canary.targetObject (.ok v) :: rest ∧
    v.toManifest = .ok target ∧ Reflects target last
  own : ∀ name ∈ last.ownName?, name.standard = (primaryObject canary).standard

theorem Renews.standing {last : Value} (h : Renews canary programs past m caller last) :
    Standing canary m.after := by
  intro w stored
  obtain rfl := Option.some.inj (h.left.symm.trans stored)
  obtain ⟨_, _, _, -, -, reflects⟩ := h.reflects
  exact ⟨reflects.mirrors.isDerived, h.own⟩

theorem primaryObject_congr {other : Canary} (h : other.targetObject = canary.targetObject) :
    primaryObject other = primaryObject canary :=
  TemplateController.primaryObject_congr h

theorem own_of_derivedBody {object name : ObjectName} {kept : Value}
    (space : object.space.wire = object.space) (text : object.name.wire = object.name)
    (derived : c.derivedBody canary object target = .ok body)
    (same : SameApart serverPlaces body kept) (own : name ∈ kept.ownName?) : name = object := by
  obtain ⟨_, _, _, -, -, -, own_body, -⟩ := exists_spec_of_derivedBody derived
  obtain ⟨manifest, hm, own⟩ := Value.ownName?_eq_some.mp own
  obtain ⟨-, own_wire⟩ := ownName_of_kept same hm own
  have wired : ownName body.wire = .ok object := by
    obtain ⟨hn, hs⟩ := ownName_eq_ok.mp own_body
    rw [ownName_eq_ok, at?_wire, at?_wire, hn, hs, Option.map_some, Option.map_some, space, text]
    exact ⟨rfl, rfl⟩
  exact Except.ok.inj (own_wire.symm.trans wired)

section Steps

variable {before after : Store} {space : Value} {name : ObjectName} {disturbed : Bool}

theorem exists_renews_of_creates (wired : canary.space.wire = canary.space)
    (calls : Calls canary programs caller .establish)
    (asks : (programs caller).Asks (exchangesOf caller past) (.createObject .service space body))
    (served : (createExchange .service space body (.ok ())).Served disturbed before after)
    (writes : (Event.exchange caller (createExchange .service space body (.ok ()))
      disturbed).Writes (primaryKey canary)) :
    ∃ last, Renews canary programs past
      ⟨before, .exchange caller (createExchange .service space body (.ok ())) disturbed, after⟩
      caller last := by
  obtain ⟨c, other, target_eq, call⟩ := calls
  have asked := asks
  rw [call] at asked
  obtain ⟨v, target, object, made, rest, hlog, manifest, derived, hb, asked⟩ :=
    exists_body_of_writes (Controller.writes_silent.mp ⟨asked, rfl⟩)
  obtain ⟨-, rfl, rfl⟩ := Request.createObject.inj asked
  obtain ⟨kept, -, same, put⟩ := served.of_created
  obtain ⟨_, _, _, -, -, -, own, -⟩ := exists_spec_of_derivedBody hb
  have name_eq : (⟨Site.bodyName body, object.space⟩ : ObjectName) = object := by
    rw [Site.bodyName_of_ownName own]
  rw [name_eq] at put
  have here : ObjectKey.Same ⟨Kind.service.name, object⟩ (primaryKey canary) := by
    obtain ⟨_, ⟨⟩, here⟩ := writes
    rwa [name_eq] at here
  have space_eq : object.space = canary.space := by
    have spaces : other.targetObject.space = canary.targetObject.space := by rw [target_eq]
    rcases derived with rfl | rfl
    · exact spaces
    · exact spaces
  refine ⟨kept, .inl ⟨c, other, target_eq, call⟩, ⟨_, _, rfl, writes⟩, ?_, ?_, fun name mem => ?_⟩
  · rw [put, Store.get?_put, if_pos here]
  · rw [target_eq] at hlog
    exact ⟨v, target, rest, hlog, manifest, ((mirrors_of_derivedBody hb).congr same).reflects⟩
  · have text : object.name.wire = object.name := by
      rcases derived with rfl | rfl
      · rfl
      · rfl
    rw [own_of_derivedBody (space_eq ▸ wired) text hb same mem]
    exact here.2

theorem exists_renews_of_promotes (run : Run programs start past before)
    (calls : Calls canary programs caller .promote)
    (asks : (programs caller).Asks (exchangesOf caller past) (.replaceObject .service name body))
    (served : (replaceExchange .service name body (.ok ())).Served disturbed before after)
    (earlier : ∀ r ∈ past, Standing canary r.before) :
    ∃ last, Renews canary programs past
      ⟨before, .exchange caller (replaceExchange .service name body (.ok ())) disturbed, after⟩
      caller last := by
  obtain ⟨c, other, target_eq, call⟩ := calls
  have asked := asks
  rw [call] at asked
  obtain ⟨v, target, w, primary, changed, name', body', hlog, hv, hw, hc, own_changed, hb, asked⟩ :=
    exists_promoted_of_writes (Controller.writes_silent.mp ⟨asked, rfl⟩)
  obtain ⟨-, rfl, rfl⟩ := Request.replaceObject.inj asked
  rw [target_eq, primaryObject_congr target_eq] at hlog
  have read : readExchange .service (primaryObject canary) (.ok w) ∈ exchangesOf caller past := by
    simp [hlog]
  -- what is written back was stored when it was read, which may be long ago
  obtain ⟨r, hr, stored⟩ := run.exists_read read
  obtain ⟨derived, own⟩ := earlier r hr w stored
  have same_primary := sameApart_promoted hc
  have own_primary : ownName primary = .ok name :=
    ownName_of_sameApart own_changed same_primary (by simp [promotedPlaces])
  have here : ObjectKey.Same ⟨Kind.service.name, name⟩ (primaryKey canary) :=
    ⟨rfl, own name (Value.ownName?_eq_some.mpr ⟨primary, hw, own_primary⟩)⟩
  have written : WrittenBack .service promotedPlaces primary body :=
    writtenBack_of_writeBody hb same_primary (by simp [promotedPlaces])
  obtain ⟨_, kept, -, -, same, put⟩ := served.of_replaced
  have mirrors := mirrors_of_promoted (derived.manifest hw) hc hb
  refine ⟨kept, .inr ⟨c, other, target_eq, call⟩, ⟨_, _, rfl, _, rfl, here⟩, ?_,
    ⟨v, target, _, hlog, hv, (mirrors.congr same).reflects⟩, fun name' mem => ?_⟩
  · rw [put, Store.get?_put, if_pos here]
  · obtain ⟨manifest, hm, own'⟩ := Value.ownName?_eq_some.mp mem
    rw [ownName_of_writtenBack hw own_primary written (by simp [promotedPlaces]) same hm own']
    exact here.2

end Steps

theorem Maintained.exists_renews (h : Maintained canary programs start (past ++ [m]))
    (run : Run programs start past m.before) (follows : m.Follows programs past)
    (earlier : ∀ r ∈ past, Standing canary r.before)
    (writes : m.event.Writes (primaryKey canary)) :
    ∃ caller last, Renews canary programs past m caller last := by
  have maintains := h.writers m (List.mem_append_right _ List.mem_cons_self) writes
  obtain ⟨before, event, after⟩ := m
  cases maintains with
  | creates calls =>
    cases follows with
    | exchange asks served =>
      exact ⟨_, exists_renews_of_creates h.space calls asks served writes⟩
  | promotes calls =>
    cases follows with
    | exchange asks served =>
      exact ⟨_, exists_renews_of_promotes run calls asks served earlier⟩

/-- The primary is standing at every moment of a run. -/
theorem Maintained.standing (h : Maintained canary programs start moments)
    (run : Run programs start moments store) :
    Standing canary store ∧ ∀ r ∈ moments, Standing canary r.before := by
  induction run with
  | start =>
    refine ⟨fun w stored => ?_, fun _ hr => absurd hr List.not_mem_nil⟩
    rw [h.missing] at stored
    cases stored
  | @step past m run follows ih =>
    obtain ⟨now, earlier⟩ := ih h.of_append
    refine ⟨?_, fun r hr => ?_⟩
    · by_cases writes : m.event.Writes (primaryKey canary)
      · obtain ⟨_, _, renews⟩ := h.exists_renews run follows earlier writes
        exact renews.standing
      · intro w stored
        rcases follows.get?_of_not_writes writes with same | gone
        · exact now w (same ▸ stored)
        · rw [gone] at stored
          cases stored
    · rcases List.mem_append.mp hr with hr | hr
      · exact earlier r hr
      · rw [List.mem_singleton.mp hr]
        exact now

/-- In a run the primary is always what the last call that wrote it has left, and that reflects the
target that the call has read. Every promotion that ends well is such a call. -/
structure Mirrored (canary : Canary) (programs : Nat → Program Value) (moments : List Moment)
    (store : Store) : Prop where
  renewed : ∀ past m future, moments = past ++ m :: future →
    m.event.Writes (primaryKey canary) →
      ∃ caller last, Renews canary programs past m caller last
  promoted : ∀ caller answer, Calls canary programs caller .promote →
    Ends (programs caller) (exchangesOf caller moments) (.ok answer) →
      ∃ past m future last, moments = past ++ m :: future ∧
        Renews canary programs past m caller last
  stands : ∀ last, store.get? (primaryKey canary) = some last →
    ∃ past m future caller, moments = past ++ m :: future ∧
      (∀ r ∈ future, ¬ r.event.Writes (primaryKey canary)) ∧
      Renews canary programs past m caller last

theorem Maintained.renewed {future : List Moment}
    (h : Maintained canary programs start (past ++ m :: future))
    (run : Run programs start (past ++ m :: future) store)
    (writes : m.event.Writes (primaryKey canary)) :
    ∃ caller last, Renews canary programs past m caller last := by
  obtain ⟨before, follows⟩ := run.at_moment
  rw [List.append_cons] at h
  exact h.of_append.exists_renews before follows (h.of_append.of_append.standing before).2 writes

theorem Maintained.promoted {answer : Value} (h : Maintained canary programs start moments)
    (run : Run programs start moments store) (calls : Calls canary programs caller .promote)
    (ended : Ends (programs caller) (exchangesOf caller moments) (.ok answer)) :
    ∃ past m future last, moments = past ++ m :: future ∧
      Renews canary programs past m caller last := by
  have promotes := calls
  obtain ⟨c, other, -, call⟩ := calls
  rw [call] at ended
  obtain ⟨_, _, _, _, _, name, body, _, split, -⟩ :=
    exists_of_ends_promote (Controller.ends_silent_ok ended)
  obtain ⟨past, future, ⟨before, event, after⟩, disturbed, rfl, hm, -, -⟩ :=
    exists_moment_of_exchangesOf split
  obtain ⟨asks, served⟩ := run.asks hm
  obtain rfl : event = _ := hm
  obtain ⟨last, renews⟩ := exists_renews_of_promotes run.at_moment.1 promotes asks served
    (h.of_append.standing run.at_moment.1).2
  exact ⟨past, _, future, last, rfl, renews⟩

/-- The primary is what the last moment that wrote it has left. -/
theorem Maintained.stands {last : Value} (h : Maintained canary programs start moments)
    (run : Run programs start moments store)
    (stored : store.get? (primaryKey canary) = some last) :
    ∃ past m future caller, moments = past ++ m :: future ∧
      (∀ r ∈ future, ¬ r.event.Writes (primaryKey canary)) ∧
      Renews canary programs past m caller last := by
  induction run with
  | start =>
    rw [h.missing] at stored
    cases stored
  | @step past m run follows ih =>
    by_cases writes : m.event.Writes (primaryKey canary)
    · obtain ⟨caller, last', renews⟩ :=
        h.exists_renews run follows (h.of_append.standing run).2 writes
      obtain rfl := Option.some.inj (renews.left.symm.trans stored)
      exact ⟨past, m, [], caller, rfl, fun _ hr => absurd hr List.not_mem_nil, renews⟩
    · rcases follows.get?_of_not_writes writes with same | gone
      · obtain ⟨before, r, future, caller, rfl, silent, renews⟩ := ih h.of_append (same ▸ stored)
        refine ⟨before, r, future ++ [m], caller, by simp, fun r' hr => ?_, renews⟩
        rcases List.mem_append.mp hr with hr | hr
        · exact silent r' hr
        · rwa [List.mem_singleton.mp hr]
      · rw [gone] at stored
        cases stored

theorem Maintained.mirrored (h : Maintained canary programs start moments)
    (run : Run programs start moments store) : Mirrored canary programs moments store where
  renewed := by
    rintro past m future rfl writes
    exact h.renewed run writes
  promoted := fun _ _ calls ended => h.promoted run calls ended
  stands := fun _ stored => h.stands run stored

/-! ## Services mirror their targets -/

theorem not_same_targetKey (canary : Canary) :
    ¬ (primaryKey canary).Same (targetKey canary) := by
  have mem : primaryObject canary ∈ (Controller.service ⟨[], ""⟩).derivedObjects canary := by
    simp [Controller.derivedObjects]
  exact CanaryRelease.not_same_targetKey mem

/-- Every service that is created has the type, the ports and the selector that mirror its target,
and nothing else. Every promotion that ends well gives its primary these parts, and leaves what else
is in it, the target and everything else as they were, if the primary is stored under the name that
it gives itself. In a run in which the controllers create and keep the primary it always mirrors the
target that was read for it, and two targets with one spec are mirrored alike. -/
theorem services_mirror_targets :
    (∀ {σ : Type} (S : Surroundings σ) (stored : σ → Store), Unshared S stored →
      ∀ (c : ServiceController) (canary : Canary) (s : σ),
        (∀ key last, (stored s).get? key = none →
          (stored ((c.establish canary).run S s).2).get? key = some last →
            ∃ v target, (stored s).get? (targetKey canary) = some v ∧
              v.toManifest = .ok target ∧ Reflects target last) ∧
        ∀ w s', (stored s).get? (primaryKey canary) = some w →
          (∀ name ∈ w.ownName?, name.standard = (primaryObject canary).standard) →
          (c.promote canary).run S s = (.ok (), s') →
            ∃ v target primary last, (stored s).get? (targetKey canary) = some v ∧
              (stored s').get? (targetKey canary) = some v ∧ v.toManifest = .ok target ∧
              w.toManifest = .ok primary ∧ (stored s').get? (primaryKey canary) = some last ∧
              PromotedFrom target primary last ∧
              ∀ key, ¬ (primaryKey canary).Same key →
                (stored s').get? key = (stored s).get? key) ∧
    (∀ canary programs start moments store, Maintained canary programs start moments →
      Run programs start moments store → Mirrored canary programs moments store) ∧
    ∀ target target' body body' : Value, Reflects target body → Reflects target' body' →
      target.getSection "spec" = target'.getSection "spec" →
        body.at? ["spec"] = body'.at? ["spec"] := by
  refine ⟨fun {σ} S stored unshared c canary s => ⟨fun key last missing here =>
    reflects_of_establish unshared c canary s missing here, fun w s' w_stored own run => ?_⟩,
    fun canary programs start moments store maintained run => maintained.mirrored run,
    fun _ _ _ _ first second same => first.mirrors.spec_eq second.mirrors same⟩
  obtain ⟨v, target, primary, last, v_stored, hv, hw, left, made, others⟩ :=
    promotedFrom_of_promote unshared c canary w_stored own run
  have untouched := (others (targetKey canary) (not_same_targetKey canary)).trans v_stored
  exact ⟨v, target, primary, last, v_stored, untouched, hv, hw, left, made, others⟩

/-- A Service whose port is open at every node, with a selector or without. -/
def sampleExposed (name : String) (selector : Value) : Value :=
  .object [
    ("metadata", .object [("name", .text name), ("namespace", .text "prod"),
      ("resourceVersion", .text "1"), ("generation", .int 1)]),
    ("spec", .object [("type", .text "NodePort"), ("clusterIP", .text "10.0.0.7"),
      ("ports", .list [.object [("port", .int 80), ("nodePort", .int 30080)]]),
      ("selector", selector)])]

/-- What selects the pods of the Service `web`. -/
def sampleSelector : Fields := [("app", .text "web")]

/-- The Service `web`, and what is stored in the place of its primary. -/
def sampleServicePair (primary : Option Value) : Store :=
  (⟨"Service", ⟨.text "web", .text "prod"⟩⟩, sampleExposed "web" (.object sampleSelector)) ::
    primary.toList.map fun w => (⟨"Service", ⟨.text "web-primary", .text "prod"⟩⟩, w)

/-- A controller of Services. -/
def sampleMirror : ServiceController := ⟨[], "canary"⟩

/-- Surroundings in which nothing goes wrong. -/
def sampleCalmServer : Surroundings (Store × Nat) :=
  calmSurroundings [] Tracker.off.redirect (sampleSite [] []).clock

theorem unshared_sampleCalmServer : Unshared sampleCalmServer Prod.fst := by
  have calm : Calm sampleCalmServer Prod.fst [] Tracker.off.redirect := calm_calmSurroundings _
  exact fun request s => ⟨false, calm.undisturbed request s⟩

theorem shows_sampleExposed (selector : Fields) :
    Shows (sampleExposed "web" (.object selector)) [[("port", .int 80), ("nodePort", .int 30080)]]
      selector where
  isObject := ⟨_, rfl⟩
  spec := by
    rintro x ⟨⟩
    exact .inr ⟨_, rfl⟩
  ports := .inl rfl
  selector := .inl rfl

/-- The canary of a Service is established, its target loses its selector, and it is promoted. -/
def sampleMirrorPrograms : Nat → Program Value
  | 0 => Controller.call (.service sampleMirror) .establish sampleCanary
  | _ => Controller.call (.service sampleMirror) .promote sampleCanary

/-- The site before the canary is established. -/
def sampleServiceSite : Site :=
  { sampleSite [] [] with server := ⟨sampleServicePair none, [], []⟩ }

/-- The site after the canary was established. -/
def sampleMirrored : Site := (sampleServiceSite.run (sampleMirrorPrograms 0)).2

/-- The site after the target has lost its selector. -/
def sampleUnselected : Site :=
  { sampleMirrored with
    server := { sampleMirrored.server with
      store := sampleMirrored.server.store.put (targetKey sampleCanary)
        (sampleExposed "web" (.object [])) } }

/-- What happens until the primary was promoted. -/
def sampleMirrorMoments : List Moment :=
  sampleServiceSite.moments 0 (sampleMirrorPrograms 0) ++
    [⟨sampleMirrored.server.store,
      .edit (targetKey sampleCanary) (some (sampleExposed "web" (.object []))),
      sampleUnselected.server.store⟩] ++
    sampleUnselected.moments 1 (sampleMirrorPrograms 1)

theorem run_sampleMirrorMoments :
    Run sampleMirrorPrograms (sampleServicePair none) sampleMirrorMoments
      (sampleUnselected.run (sampleMirrorPrograms 1)).2.server.store := by
  have established : Run sampleMirrorPrograms (sampleServicePair none)
      ([] ++ sampleServiceSite.moments 0 (sampleMirrorPrograms 0)) sampleMirrored.server.store :=
    Site.run_of_call rfl .start rfl
  exact Site.run_of_call rfl (established.step .edit) (by decide +kernel)

/-- Caller 0 creates services and caller 1 replaces them, and nobody else writes the primary. -/
def keepsToMirroring (event : Event) : Bool :=
  let elsewhere := (event.written?.map fun key =>
    decide (¬ key.Same (primaryKey sampleCanary))).getD true
  match event with
  | .exchange 0 ⟨.createObject kind _ _, reply⟩ _ => decide (kind = .service) && Except.toBool reply
  | .exchange 1 ⟨.replaceObject kind _ _, reply⟩ _ =>
    decide (kind = .service) && Except.toBool reply
  | .exchange .. | .edit .. => elsewhere

theorem maintains_of_keepsToMirroring {event : Event} (h : keepsToMirroring event = true)
    (writes : event.Writes (primaryKey sampleCanary)) :
    Maintains sampleCanary sampleMirrorPrograms event := by
  have elsewhere (h : (event.written?.map fun key =>
      decide (¬ key.Same (primaryKey sampleCanary))).getD true = true) :
      Maintains sampleCanary sampleMirrorPrograms event := by
    obtain ⟨key, hk, same⟩ := writes
    rw [hk] at h
    exact absurd same (of_decide_eq_true h)
  unfold keepsToMirroring at h
  dsimp only at h
  split at h
  · rename_i kind space body reply disturbed
    obtain ⟨isService, created⟩ := Bool.and_eq_true_iff.mp h
    obtain rfl := of_decide_eq_true isService
    cases reply with
    | error failure => cases created
    | ok u => exact .creates ⟨_, _, rfl, rfl⟩
  · rename_i kind name body reply disturbed
    obtain ⟨isService, replaced⟩ := Bool.and_eq_true_iff.mp h
    obtain rfl := of_decide_eq_true isService
    cases reply with
    | error failure => cases replaced
    | ok u => exact .promotes ⟨_, _, rfl, rfl⟩
  · exact elsewhere h
  · exact elsewhere h

theorem maintained_sampleMirrorMoments :
    Maintained sampleCanary sampleMirrorPrograms (sampleServicePair none) sampleMirrorMoments where
  space := rfl
  missing := by decide +kernel
  writers := by
    have kept : (sampleMirrorMoments.all fun m => keepsToMirroring m.event) = true := by
      decide +kernel
    exact fun m hm writes => maintains_of_keepsToMirroring (List.all_eq_true.mp kept m hm) writes

theorem ends_sampleMirrorMoments :
    Ends (sampleMirrorPrograms 1) (exchangesOf 1 sampleMirrorMoments) (.ok .null) := by
  have log_eq : exchangesOf 1 sampleMirrorMoments =
      (sampleMirrorPrograms 1).log Site.surroundings sampleUnselected := by
    decide +kernel
  have answer : ((sampleMirrorPrograms 1).run Site.surroundings sampleUnselected).1 =
      .ok .null := by
    decide +kernel
  rw [log_eq, ← answer]
  exact ends_log _ _ _

/-- A derived service has the port without the node port, and the selector. A primary keeps its
address when it is promoted, and a target that has lost its selector takes the primary's away. -/
theorem sampleExposed_mirrored :
    let mirrored (selector : Option Value) : Fields :=
      specOf (.list [.object [("port", .int 80)]]) selector
    (∃ last, (((sampleMirror.establish sampleCanary).run sampleCalmServer
        (sampleServicePair none, 0)).2.1).get? (primaryKey sampleCanary) = some last ∧
      last.at? ["spec"] = some (.object (mirrored (some (.object sampleSelector))))) ∧
    (∃ last, (((sampleMirror.promote sampleCanary).run sampleCalmServer
        (sampleServicePair (some (sampleExposed "web-primary" (.object []))), 0)).2.1).get?
          (primaryKey sampleCanary) = some last ∧
      last.at? ["spec", "selector"] = some (.object sampleSelector) ∧
      last.at? ["spec", "clusterIP"] = some (.text "10.0.0.7")) ∧
    ∃ past m future last, sampleMirrorMoments = past ++ m :: future ∧
      m.after.get? (primaryKey sampleCanary) = some last ∧
      last.at? ["spec"] = some (.object (mirrored none)) := by
  intro mirrored
  obtain ⟨alone, runs, -⟩ := services_mirror_targets
  refine ⟨?_, ?_, ?_⟩
  · obtain ⟨last, here⟩ : ∃ last, (((sampleMirror.establish sampleCanary).run sampleCalmServer
        (sampleServicePair none, 0)).2.1).get? (primaryKey sampleCanary) = some last :=
      Option.isSome_iff_exists.mp (by decide +kernel)
    obtain ⟨v, target, stored, manifest, reflects⟩ :=
      (alone sampleCalmServer Prod.fst unshared_sampleCalmServer sampleMirror sampleCanary
        (sampleServicePair none, 0)).1 (primaryKey sampleCanary) last (by decide +kernel) here
    obtain rfl : sampleExposed "web" (.object sampleSelector) = v := Option.some.inj stored
    obtain rfl := Except.ok.inj manifest
    exact ⟨last, here, reflects.spec _ _ (shows_sampleExposed _)⟩
  · have run : (sampleMirror.promote sampleCanary).run sampleCalmServer
        (sampleServicePair (some (sampleExposed "web-primary" (.object []))), 0) = (.ok (), _) :=
      Prod.ext (by decide +kernel) rfl
    obtain ⟨v, target, primary, last, stored, -, hv, hw, here, made, -⟩ :=
      (alone sampleCalmServer Prod.fst unshared_sampleCalmServer sampleMirror sampleCanary _).2
        (sampleExposed "web-primary" (.object [])) _ (by decide +kernel) (by decide +kernel) run
    obtain rfl : sampleExposed "web" (.object sampleSelector) = v := Option.some.inj stored
    obtain rfl := Except.ok.inj hv
    obtain rfl := Except.ok.inj hw
    refine ⟨last, here, (made.mirrored _ _ (shows_sampleExposed _)).2, ?_⟩
    rw [made.frame.same _ (by simp [promotedPlaces, serverPlaces])]
    rfl
  · have mirrors := runs sampleCanary sampleMirrorPrograms _ _ _ maintained_sampleMirrorMoments
      run_sampleMirrorMoments
    obtain ⟨past, m, future, last, split, renews⟩ :=
      mirrors.promoted 1 .null ⟨sampleMirror, sampleCanary, rfl, rfl⟩ ends_sampleMirrorMoments
    obtain ⟨v, target, rest, read, manifest, reflects⟩ := renews.reflects
    have first : (exchangesOf 1 sampleMirrorMoments).head? =
        some (readExchange .service sampleCanary.targetObject
          (.ok (sampleExposed "web" (.object [])))) := by
      decide +kernel
    rw [split, exchangesOf_append, read] at first
    obtain ⟨⟩ := Option.some.inj first
    obtain rfl := Except.ok.inj manifest
    exact ⟨past, m, future, last, split, renews.left, reflects.spec _ _ (shows_sampleExposed _)⟩

/-- A primary that gives itself its target's name is promoted over the target, and keeps the spec
that it had. -/
theorem misnamed_promoted_over_target :
    let before := sampleServicePair (some (sampleExposed "web" (.object [])))
    let ran := (sampleMirror.promote sampleCanary).run sampleCalmServer (before, 0)
    ran.1 = .ok () ∧
      (∃ ports selector, Shows (sampleExposed "web" (.object sampleSelector)) ports selector ∧
        before.get? (targetKey sampleCanary) = some (sampleExposed "web" (.object selector)) ∧
        ran.2.1.get? (primaryKey sampleCanary) = before.get? (primaryKey sampleCanary) ∧
        (ran.2.1.get? (primaryKey sampleCanary)).bind (fun last => last.at? ["spec", "ports"]) ≠
          some (mirroredPorts ports)) ∧
      ran.2.1.get? (targetKey sampleCanary) ≠ before.get? (targetKey sampleCanary) := by
  refine ⟨by decide +kernel, ⟨_, _, shows_sampleExposed _, ?_, ?_, ?_⟩, ?_⟩
  all_goals decide +kernel

end CanaryRelease.ServiceController
