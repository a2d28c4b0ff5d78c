import CanaryRelease.Proofs.Outcomes

/-!
# Establishing may be retried

Establishing a canary is retried until it succeeds, with calls failing anywhere in between and
others updating the primary's status (`Retries`). Every attempt is progress, and one that succeeds
leaves nothing to be found out (`Progress.call`). So nothing is done twice, and what a success
leaves is what a single run would have made of the store, however often it was tried
(`establish_retries`).
-/

namespace CanaryRelease

open Program Workload PodTemplate Value

variable {σ : Type} {S : Surroundings σ} {store : σ → Store} {canary : Canary}
  {controller : Controller} {refs : List ConfigRef}
  {redirect : Value → List ConfigRef → Except Failure Value} {zoned : Bool} {start : Store}
  {s s' : σ} {log more : List Exchange}

theorem forall_mem_of_replays {P : Exchange → Prop}
    (all : ∀ request s, P ⟨request, (S request s).1⟩) (replays : Replays S s log s') :
    ∀ e ∈ log, P e := by
  induction log generalizing s with
  | nil => exact List.forall_mem_nil _
  | cons e log ih =>
    obtain ⟨reply, rest⟩ := replays
    refine List.forall_mem_cons.mpr ⟨?_, ih rest⟩
    have here := all e.request s
    rwa [reply] at here

/-- A tracker that is a function, and a clock whose times all have zones or all do not. -/
structure Tracked (S : Surroundings σ) (refs : List ConfigRef)
    (redirect : Value → List ConfigRef → Except Failure Value) (zoned : Bool) : Prop where
  tracker : ∀ request s, Exchange.FromTracker refs redirect ⟨request, (S request s).1⟩
  clock : ∀ s, (S .readClock s).1.offset.isSome = zoned

/-- Attempts to establish a canary, one after the other, any of which may fail, and updates of the
primary's status by others in between: what was exchanged and where it has led. -/
inductive Retries (S : Surroundings σ) (store : σ → Store) (controller : Controller)
    (canary : Canary) (start : σ) : List Exchange → σ → Prop where
  | start : Retries S store controller canary start [] start
  | call {log : List Exchange} {s : σ} (before : Retries S store controller canary start log s) :
      Retries S store controller canary start
        (log ++ (controller.call .establish canary).log S s)
        ((controller.call .establish canary).run S s).2
  | status {log : List Exchange} {s s' : σ} {old new : Value}
      (before : Retries S store controller canary start log s)
      (stored : (store s).get? (controller.primaryKey canary) = some old)
      (update : StatusUpdate old new)
      (put : store s' = (store s).put (controller.primaryKey canary) new) :
      Retries S store controller canary start log s'

/-! ## One attempt -/

namespace Unshared

variable {object : ObjectName} {kind : Kind} {v : Value}

theorem read_first (unshared : Unshared S store)
    (replays : Replays S s (readExchange kind object (.ok v) :: more) s') :
    (store s).get? ⟨kind.name, object⟩ = some v ∧ object.isAddressable = true := by
  obtain ⟨disturbed, served⟩ := unshared (.readObject kind object) s
  rw [show (S (.readObject kind object) s).1 = .ok v from replays.1] at served
  exact ⟨Server.Serves.get?_of_read served, Server.Serves.isAddressable_of_ok served⟩

theorem stored_of_read (unshared : Unshared S store) (replays : Replays S s log s')
    (unwritten : Unwritten log) (read : readExchange kind object (.ok v) ∈ log) :
    (store s').get? ⟨kind.name, object⟩ = some v ∧ object.isAddressable = true := by
  obtain ⟨before, after, rfl⟩ := List.append_of_mem read
  obtain ⟨s₁, early, late⟩ := replays_append.mp replays
  obtain ⟨stored, addressable⟩ := unshared.read_first late
  rw [unshared.store_eq_of_replays late (unwritten_append.mp unwritten).2]
  exact ⟨stored, addressable⟩

theorem progress_idle (unshared : Unshared S store)
    (before : Progress controller canary refs redirect start log (store s))
    (replays : Replays S s more s') (unwritten : Unwritten more) :
    Progress controller canary refs redirect start (log ++ more) (store s') := by
  rw [unshared.store_eq_of_replays replays unwritten]
  exact before.idle unwritten

theorem progress_creation (unshared : Unshared S store)
    (before : Progress controller canary refs redirect start log (store s))
    {target body : Value} {told rest : List Exchange}
    (replays : Replays S s (createExchange controller.kind canary.space body (.ok ()) :: rest) s')
    (unwritten : Unwritten rest) (stored : (store s).get? (controller.targetKey canary) = some v)
    (manifest : v.toManifest = .ok target)
    (derived : Derived canary target told controller object body)
    (from_tracker : ∀ e ∈ told, e.FromTracker refs redirect) :
    Progress controller canary refs redirect start
        (log ++ createExchange controller.kind canary.space body (.ok ()) :: rest) (store s') ∧
      ((store s').get? ⟨controller.kind.name, object⟩).isSome = true ∧
      (store s').get? (controller.targetKey canary) = some v ∧ object.isAddressable = true := by
  obtain ⟨reply, late⟩ := replays
  obtain ⟨disturbed, served⟩ := unshared (.createObject controller.kind canary.space body) s
  rw [reply] at served
  obtain ⟨own, space⟩ := derived.own
  have name : (⟨Site.bodyName body, canary.space⟩ : ObjectName) = object := by
    rw [Site.bodyName_of_ownName own, ← space]
  have addressable := served.isAddressable_of_created
  obtain ⟨kept, missing, same, put⟩ := served.of_created
  rw [name] at missing put addressable
  have after : store s' = (store s).put ⟨controller.kind.name, object⟩ kept :=
    (unshared.store_eq_of_replays late unwritten).trans put
  obtain ⟨id, builds⟩ := derived.exists_builds from_tracker
  have created :=
    (before.creates derived.mem_derivedObjects stored manifest builds missing same).idle unwritten
  rw [after]
  refine ⟨by simpa using created, ?_, ?_, addressable⟩
  · rw [Store.get?_put, if_pos (ObjectKey.same_self _)]
    rfl
  · rw [Store.get?_put, if_neg (not_same_targetKey derived.mem_derivedObjects)]
    exact stored

theorem progress_createsOne (unshared : Unshared S store) (tracked : Tracked S refs redirect zoned)
    (before : Progress controller canary refs redirect start log (store s))
    (replays : Replays S s more s') (one : CreatesOne controller canary object more) :
    Progress controller canary refs redirect start (log ++ more) (store s') ∧
      ((store s').get? ⟨controller.kind.name, object⟩).isSome = true ∧
      (store s').get? (controller.targetKey canary) =
        (store s).get? (controller.targetKey canary) ∧ object.isAddressable = true := by
  obtain ⟨early, late, v, target, body, rfl, none_early, none_late, read, hv, derived⟩ := one
  obtain ⟨s₁, first, rest⟩ := replays_append.mp replays
  obtain ⟨stored, -⟩ := unshared.stored_of_read first none_early read
  obtain ⟨progress, there, target_there, addressable⟩ :=
    unshared.progress_creation (unshared.progress_idle before first none_early) rest none_late
      stored hv derived (forall_mem_of_replays tracked.tracker first)
  refine ⟨by simpa using progress, there, ?_, addressable⟩
  rw [target_there, ← unshared.store_eq_of_replays first none_early]
  exact stored.symm

theorem progress_marks {c : TemplateController} {name : ObjectName} {target body w : Value}
    {told : Exchange} (unshared : Unshared S store) (named : TargetNamed (.template c) canary start)
    (before : Progress (.template c) canary refs redirect start log (store s))
    (initial : canary.phase.isInitial = true)
    (there : (store s).get? (c.primaryKey canary) = some w)
    (replays : Replays S s [readExchange (.template c.kind) canary.targetObject (.ok v),
      replaceExchange (.template c.kind) name body (.ok ()), told] s')
    (none_told : told.wrote = false) (marks : c.Marks canary v target name body) :
    Progress (.template c) canary refs redirect start
        (log ++ [readExchange (.template c.kind) canary.targetObject (.ok v),
          replaceExchange (.template c.kind) name body (.ok ()), told]) (store s') ∧
      ∃ kept, SameApart serverPlaces body kept ∧
        ObjectKey.Same ⟨c.kind.name, name⟩ (c.targetKey canary) ∧
        store s' = (store s).put ⟨c.kind.name, name⟩ kept := by
  obtain ⟨stored, -⟩ := unshared.read_first replays
  obtain ⟨reply, reply', late⟩ := replays
  have none_read : Unwritten [readExchange (.template c.kind) canary.targetObject (.ok v)] := by
    simp [Exchange.wrote]
  have none_last : Unwritten [told] := by simpa using none_told
  have reading : Replays S s [readExchange (.template c.kind) canary.targetObject (.ok v)]
      (S (.readObject (.template c.kind) canary.targetObject) s).2 := ⟨reply, rfl⟩
  obtain ⟨disturbed, served⟩ := unshared (.replaceObject (.template c.kind) name body)
    (S (.readObject (.template c.kind) canary.targetObject) s).2
  rw [reply', unshared.store_eq_of_replays reading none_read] at served
  obtain ⟨-, kept, -, -, same, put⟩ := served.of_replaced
  obtain ⟨-, here⟩ := marks.stored_start named (before.target named) stored
  have after : store s' = (store s).put ⟨c.kind.name, name⟩ kept :=
    (unshared.store_eq_of_replays late none_last).trans put
  have scaled := ((before.idle none_read).scales rfl initial (Option.isSome_of_eq_some there)
    stored marks same).idle none_last
  rw [List.append_assoc, List.append_assoc] at scaled
  exact ⟨after ▸ scaled, kept, same, here, after⟩

end Unshared

/-! ## Attempts that succeed -/

section Template

variable {c : TemplateController}

theorem Progress.createPrimary (unshared : Unshared S store)
    (tracked : Tracked S refs redirect zoned)
    (before : Progress (.template c) canary refs redirect start log (store s))
    (replays : Replays S s more s') (ends : Ends (c.createPrimary canary) more (.ok ())) :
    Progress (.template c) canary refs redirect start (log ++ more) (store s') ∧
      canary.targetObject.isAddressable = true ∧
      (TemplateController.primaryObject canary).isAddressable = true ∧
      (∃ v target, (store s').get? (c.targetKey canary) = some v ∧ v.toManifest = .ok target ∧
        c.Accepts target) ∧
      ((store s').get? (c.primaryKey canary)).isSome = true := by
  obtain ⟨v, target, rest, rfl, hv, accepts⟩ := TemplateController.accepts_of_createPrimary ends
  obtain ⟨stored, targetName⟩ := unshared.read_first replays
  obtain unwritten | one := TemplateController.creates_of_createPrimary ends
  · have same := unshared.store_eq_of_replays replays unwritten
    obtain ⟨e, mem, ⟨w, rfl⟩ | ⟨body, -, rfl⟩⟩ := TemplateController.ends_createPrimary ends
    · obtain ⟨there, primaryName⟩ := unshared.stored_of_read replays unwritten mem
      refine ⟨unshared.progress_idle before replays unwritten, targetName, primaryName,
        ⟨v, target, ?_, hv, accepts⟩, Option.isSome_of_eq_some there⟩
      rw [same]
      exact stored
    · cases unwritten _ mem
  · obtain ⟨progress, there, target_there, primaryName⟩ :=
      unshared.progress_createsOne tracked before replays one
    exact ⟨progress, targetName, primaryName, ⟨v, target, target_there.trans stored, hv, accepts⟩,
      there⟩

theorem Progress.scaleToZero {v target w : Value} (unshared : Unshared S store)
    (named : TargetNamed (.template c) canary start)
    (before : Progress (.template c) canary refs redirect start log (store s))
    (initial : canary.phase.isInitial = true)
    (stored : (store s).get? (c.targetKey canary) = some v) (manifest : v.toManifest = .ok target)
    (accepts : c.Accepts target) (there : (store s).get? (c.primaryKey canary) = some w)
    (replays : Replays S s more s') (ends : Ends (c.scaleToZero canary) more (.ok ())) :
    Progress (.template c) canary refs redirect start (log ++ more) (store s') ∧
      (∃ v target, (store s').get? (c.targetKey canary) = some v ∧ v.toManifest = .ok target ∧
        c.Accepts target ∧ ∃ podSpec, PodTemplate.podSpec target = .ok podSpec ∧
          hasMarker podSpec = .ok true) ∧
      (store s').get? (c.primaryKey canary) = some w := by
  rcases TemplateController.ends_scaleToZero ends with
    ⟨v', target', podSpec, told, rfl, none_told, hv, hp, hm⟩ |
    ⟨v', target', name, body, told, rfl, none_told, marks⟩
  · have unwritten :
        Unwritten [readExchange (.template c.kind) canary.targetObject (.ok v'), told] := by
      simpa [Exchange.wrote] using none_told
    obtain ⟨read, -⟩ := unshared.read_first replays
    obtain rfl := Option.some.inj (stored.symm.trans read)
    obtain rfl := Except.ok.inj (manifest.symm.trans hv)
    have same := unshared.store_eq_of_replays replays unwritten
    refine ⟨unshared.progress_idle before replays unwritten, ⟨v, target, ?_, hv, accepts, podSpec,
      hp, hm⟩, ?_⟩
    · rw [same, stored]
    · rw [same, there]
  · obtain ⟨read, -⟩ := unshared.read_first replays
    obtain rfl := Option.some.inj (stored.symm.trans read)
    obtain rfl := Except.ok.inj (manifest.symm.trans marks.manifest)
    obtain ⟨progress, kept, same, here, after⟩ :=
      unshared.progress_marks named before initial there replays none_told marks
    obtain ⟨accepts_kept, podSpec, hp, hm⟩ := marks.accepts_kept same accepts
    obtain ⟨manifest_kept, -⟩ := marks.marker_kept same
    refine ⟨progress, ⟨kept, kept.wire, ?_, manifest_kept, accepts_kept, podSpec, hp, hm⟩, ?_⟩
    · rw [after, Store.get?_put]
      exact if_pos here
    · rw [after, Store.get?_put, if_neg]
      · exact there
      · exact fun same' => TemplateController.not_same_primaryKey (same'.symm.trans here)

theorem Progress.establishTemplate (unshared : Unshared S store)
    (tracked : Tracked S refs redirect zoned) (named : TargetNamed (.template c) canary start)
    (before : Progress (.template c) canary refs redirect start log (store s))
    (replays : Replays S s more s') (ends : Ends (c.establish canary) more (.ok ())) :
    Progress (.template c) canary refs redirect start (log ++ more) (store s') ∧
      c.Concluded canary zoned (store s') := by
  obtain ⟨creating, rest, rfl, created, later⟩ := TemplateController.ends_establish_ok ends
  obtain ⟨s₁, first, last⟩ := replays_append.mp replays
  obtain ⟨progress, targetName, primaryName, ⟨v, target, stored, hv, accepts⟩, there⟩ :=
    before.createPrimary unshared tracked first created
  obtain ⟨w, there⟩ := Option.isSome_iff_exists.mp there
  rw [← List.append_assoc]
  rcases later with ⟨not_initial, rfl⟩ |
    ⟨initial, checking, told, scaling, rfl, none_checked, none_told, ready, scaled⟩
  · obtain rfl : s' = s₁ := last
    rw [List.append_nil]
    refine ⟨progress, targetName, primaryName, ⟨v, target, stored, hv, accepts, ?_⟩, w, there, ?_⟩
    · rw [not_initial]
      exact nofun
    · rw [not_initial]
      exact nofun
  · obtain ⟨s₂, checks, after⟩ := replays_append.mp last
    obtain ⟨noting, scales⟩ := after
    have silent : Unwritten (checking ++ [told]) := by simpa using ⟨none_checked, none_told⟩
    have so_far : Replays S s₁ (checking ++ [told]) (S told.request s₂).2 :=
      replays_append.mpr ⟨s₂, checks, noting, rfl⟩
    have same := unshared.store_eq_of_replays so_far silent
    have rolled_out (skip : canary.skipAnalysis = false) : c.RolledOut canary zoned w := by
      obtain ⟨w', primary, status, clock, readiness, replicas, read, hw, hs, asked, rest⟩ :=
        ready skip
      obtain ⟨there', -⟩ := unshared.stored_of_read checks none_checked read
      rw [unshared.store_eq_of_replays checks none_checked] at there'
      obtain rfl := Option.some.inj (there.symm.trans there')
      have zone : ∀ e ∈ checking, ∀ clock, e = ⟨.readClock, clock⟩ →
          clock.offset.isSome = zoned := by
        refine forall_mem_of_replays ?_ checks
        rintro request s₀ clock ⟨⟩
        exact tracked.clock s₀
      exact ⟨primary, status, clock, readiness, replicas, hw, hs, zone _ asked _ rfl, rest⟩
    rw [← same] at stored there
    obtain ⟨progress', found, there'⟩ := (unshared.progress_idle progress so_far silent).scaleToZero
      unshared named initial stored hv accepts there scales scaled
    refine ⟨by simpa using progress', targetName, primaryName, ?_, w, there', fun _ => rolled_out⟩
    obtain ⟨v', target', stored', hv', accepts', marked⟩ := found
    exact ⟨v', target', stored', hv', accepts', fun _ => marked⟩

end Template

section Service

variable {c : ServiceController} {object : ObjectName} {v target : Value}

theorem Progress.ensureDerived {created : Bool} (unshared : Unshared S store)
    (before : Progress (.service c) canary refs redirect start log (store s))
    (derived : object = ServiceController.primaryObject canary ∨
      object = ServiceController.canaryObject canary)
    (stored : (store s).get? (Controller.targetKey (.service c) canary) = some v)
    (manifest : v.toManifest = .ok target) (replays : Replays S s more s')
    (ends : Ends (c.ensureDerived canary object target) more (.ok created)) :
    Progress (.service c) canary refs redirect start (log ++ more) (store s') ∧
      ((store s').get? ⟨Kind.service.name, object⟩).isSome = true ∧
      (store s').get? (Controller.targetKey (.service c) canary) = some v ∧
      object.isAddressable = true := by
  rcases ServiceController.ends_ensureDerived ends with
    ⟨w, rfl⟩ | ⟨failure, body, told, rfl, none_told, made⟩
  · have unwritten : Unwritten [readExchange .service object (.ok w)] := by simp [Exchange.wrote]
    obtain ⟨there, addressable⟩ := unshared.read_first replays
    have progress := unshared.progress_idle before replays unwritten
    rw [unshared.store_eq_of_replays replays unwritten] at progress ⊢
    exact ⟨progress, Option.isSome_of_eq_some there, stored, addressable⟩
  · obtain ⟨reply, rest⟩ := replays
    have unwritten : Unwritten [readExchange .service object (.error failure)] := by
      simp [Exchange.wrote]
    have reading : Replays S s [readExchange .service object (.error failure)]
        (S (.readObject .service object) s).2 := ⟨reply, rfl⟩
    have so_far := unshared.progress_idle before reading unwritten
    have space : object.space = canary.space := by
      rcases derived with rfl | rfl <;> rfl
    rw [space] at rest ⊢
    rw [← unshared.store_eq_of_replays reading unwritten] at stored
    have derives : Derived canary target [] (.service c) object body := .service derived made
    obtain ⟨progress, there, target_there, addressable⟩ := unshared.progress_creation so_far rest
      (by simpa using none_told) stored manifest derives (List.forall_mem_nil _)
    rw [List.append_assoc] at progress
    exact ⟨progress, there, target_there, addressable⟩

theorem Progress.establishService (unshared : Unshared S store)
    (before : Progress (.service c) canary refs redirect start log (store s))
    (replays : Replays S s more s') (ends : Ends (c.establish canary) more (.ok ())) :
    Progress (.service c) canary refs redirect start (log ++ more) (store s') ∧
      ServiceController.Concluded canary (store s') := by
  obtain ⟨v, target, first, second, told, created, created', rfl, hv, none_told, ends_first,
    ends_second⟩ := ServiceController.ends_establish_ok ends
  obtain ⟨stored, targetName⟩ := unshared.read_first replays
  obtain ⟨reply, rest⟩ := replays
  have unwritten : Unwritten [readExchange .service canary.targetObject (.ok v)] := by
    simp [Exchange.wrote]
  have reading : Replays S s [readExchange .service canary.targetObject (.ok v)]
      (S (.readObject .service canary.targetObject) s).2 := ⟨reply, rfl⟩
  obtain ⟨s₁, run_first, rest⟩ := replays_append.mp rest
  obtain ⟨s₂, run_second, run_told⟩ := replays_append.mp rest
  have read := unshared.progress_idle before reading unwritten
  have same := unshared.store_eq_of_replays reading unwritten
  have stored₀ : (store (S (.readObject .service canary.targetObject) s).2).get?
      (Controller.targetKey (.service c) canary) = some v := by
    rw [same]
    exact stored
  obtain ⟨progress₁, canary_there, stored₁, canaryName⟩ :=
    read.ensureDerived unshared (.inr rfl) stored₀ hv run_first ends_first
  obtain ⟨progress₂, primary_there, stored₂, primaryName⟩ :=
    progress₁.ensureDerived unshared (.inl rfl) stored₁ hv run_second ends_second
  -- the first service is still there after the second one was ensured
  have since : Progress (.service c) canary refs redirect (store s₁) ([] ++ second) (store s₂) :=
    (Progress.ensureDerived unshared .start (.inl rfl) stored₁ hv run_second ends_second).1
  have progress₃ := unshared.progress_idle progress₂ run_told none_told
  have last := unshared.store_eq_of_replays run_told none_told
  refine ⟨by simpa using progress₃, targetName, ⟨v, target, ?_, hv⟩, fun object mem => ?_⟩
  · rw [last]
    exact stored₂
  · rw [last]
    rcases List.mem_cons.mp mem with rfl | mem
    · exact ⟨primaryName, Option.isSome_iff_exists.mp primary_there⟩
    · obtain rfl := List.mem_singleton.mp mem
      exact ⟨canaryName, Option.isSome_iff_exists.mp (since.isSome canary_there)⟩

end Service

/-- An attempt is progress, and if it succeeds it leaves nothing to be found out. -/
theorem Progress.call (unshared : Unshared S store) (tracked : Tracked S refs redirect zoned)
    (named : TargetNamed controller canary start)
    (before : Progress controller canary refs redirect start log (store s)) :
    let establishing := controller.call .establish canary
    Progress controller canary refs redirect start (log ++ establishing.log S s)
        (store (establishing.run S s).2) ∧
      ∀ a, (establishing.run S s).1 = .ok a →
        controller.Concluded canary zoned (store (establishing.run S s).2) := by
  intro establishing
  have replays : Replays S s (establishing.log S s) _ := replays_log S establishing s
  have ends := ends_log S establishing s
  cases outcome : (establishing.run S s).1 with
  | error failure =>
    rw [outcome] at ends
    refine ⟨?_, nofun⟩
    obtain unwritten | one := Controller.ends_establish_error ends
    · exact unshared.progress_idle before replays unwritten
    · exact (unshared.progress_createsOne tracked before replays one).1
  | ok a =>
    rw [outcome] at ends
    cases controller with
    | template c =>
      obtain ⟨progress, concluded⟩ := before.establishTemplate unshared tracked named replays
        (Controller.ends_silent_ok ends)
      exact ⟨progress, fun _ _ => concluded⟩
    | service c =>
      obtain ⟨progress, concluded⟩ := before.establishService unshared replays
        (Controller.ends_silent_ok ends)
      exact ⟨progress, fun _ _ => concluded⟩

theorem Retries.progress (unshared : Unshared S store) (tracked : Tracked S refs redirect zoned)
    {first : σ} (named : TargetNamed controller canary (store first))
    (retries : Retries S store controller canary first log s) :
    Progress controller canary refs redirect (store first) log (store s) := by
  induction retries with
  | start => exact .start
  | call _ ih => exact (ih.call unshared tracked named).1
  | status _ stored update put ih =>
    rw [put]
    exact ih.status stored update

/-! ## After a success -/

theorem Controller.Concluded.congr {now later : Store} (h : controller.Concluded canary zoned now)
    (same : ∀ key, later.get? key = now.get? key) : controller.Concluded canary zoned later := by
  cases controller with
  | template c =>
    obtain ⟨targetName, primaryName, target, primary⟩ := h
    rw [← same] at target primary
    exact ⟨targetName, primaryName, target, primary⟩
  | service c =>
    obtain ⟨targetName, target, derived⟩ := h
    rw [← same] at target
    refine ⟨targetName, target, fun object mem => ?_⟩
    rw [same]
    exact derived object mem

/-- What is stored is what every single establishment that succeeds makes of the store at the start,
up to the primary's id and status and to what the server fills in. -/
def AsInOneRun (controller : Controller) (canary : Canary) (refs : List ConfigRef)
    (redirect : Value → List ConfigRef → Except Failure Value) (zoned : Bool)
    (start now : Store) : Prop :=
  ∀ {τ : Type} (T : Surroundings τ) (storeT : τ → Store) (t : τ) (a : Value),
    Unshared T storeT → Tracked T refs redirect zoned → storeT t = start →
    ((controller.call .establish canary).run T t).1 = .ok a →
    ∀ key, now.get? key = (storeT ((controller.call .establish canary).run T t).2).get? key ∨
      ∃ w w', (storeT ((controller.call .establish canary).run T t).2).get? key = some w ∧
        now.get? key = some w' ∧ SameApart (renewedPlaces controller canary key) w w'

/-- Wherever no call fails, establishing once more ends well and asks for no change. -/
def RepeatsQuietly (controller : Controller) (canary : Canary) (zoned : Bool) (now : Store) :
    Prop :=
  ∀ {τ : Type} (T : Surroundings τ) (storeT : τ → Store), Undisturbed T storeT →
    (∀ t, (T .readClock t).1.offset.isSome = zoned) →
    Passes T storeT now (controller.call .establish canary) (· = .null)

/-- Establishing may be retried. Whatever calls fail in some attempts, each derived object is
created at most once and never written again. Once an attempt has succeeded, whatever follows, the
stored objects are what a single run makes of those at the start, and nothing is written any more;
and while the primary stays as the success has left it, every call in which nothing fails ends well
and asks for no change. -/
theorem establish_retries (unshared : Unshared S store) (tracked : Tracked S refs redirect zoned)
    {first : σ} (named : TargetNamed controller canary (store first))
    (retries : Retries S store controller canary first log s) :
    let establishing := controller.call .establish canary
    Attempted controller canary refs redirect (store first) log (store s) ∧
      ∀ a, (establishing.run S s).1 = .ok a → ∀ log' s',
        Retries S store controller canary (establishing.run S s).2 log' s' →
          Established controller canary refs redirect (store first)
              (log ++ establishing.log S s ++ log') (store s') ∧
            Unwritten log' ∧
            AsInOneRun controller canary refs redirect zoned (store first) (store s') ∧
            ((store s').get? (controller.primaryKey canary) =
                (store (establishing.run S s).2).get? (controller.primaryKey canary) →
              RepeatsQuietly controller canary zoned (store s')) := by
  intro establishing
  have progress := retries.progress unshared tracked named
  refine ⟨progress.attempted named, fun a success log' s' later => ?_⟩
  obtain ⟨progress₁, conclude⟩ := progress.call unshared tracked named
  have concluded := conclude a success
  have since := later.progress unshared tracked (progress₁.targetNamed named)
  obtain ⟨unwritten, sealed, same⟩ := since.sealed concluded.sealed
  -- the attempts before, the one that succeeded and those after it are one sequence of attempts
  have whole :
      Retries S store controller canary first (log ++ establishing.log S s ++ log') s' := by
    clear unwritten sealed same since
    induction later with
    | start => simpa using Retries.call retries
    | call _ ih =>
      rw [← List.append_assoc]
      exact ih.call
    | status _ stored update put ih => exact ih.status stored update put
  have established : Established controller canary refs redirect (store first)
      (log ++ establishing.log S s ++ log') (store s') :=
    ⟨(whole.progress unshared tracked named).attempted named, sealed⟩
  refine ⟨established, unwritten, ?_, fun unchanged τ T storeT undisturbed clock => ?_⟩
  -- a single run is a sequence of attempts too, and sequences from one store agree
  · intro τ T storeT t b unshared' tracked' start success' key
    have one : Progress controller canary refs redirect (store first) [] (storeT t) := by
      rw [start]
      exact .start
    obtain ⟨progress', conclude'⟩ := one.call unshared' tracked' named
    have established' : Established controller canary refs redirect (store first) _ _ :=
      ⟨progress'.attempted named, (conclude' b success').sealed⟩
    exact established'.agree established key
  · refine (concluded.congr fun key => ?_).passes undisturbed clock
    by_cases primary : key.Same (controller.primaryKey canary)
    · rw [Store.get?_congr _ primary, Store.get?_congr _ primary, unchanged]
    · exact same key primary

theorem Store.SelfNamed.targetNamed {now : Store} (named : now.SelfNamed) :
    TargetNamed controller canary now :=
  fun v stored manifest name hm own => named _ v manifest name stored hm own

/-- Surroundings in which nothing goes wrong but that some replacements are refused, as many as the
state says. -/
def sampleFlaky : Surroundings ((Store × Nat) × Nat)
  | .replaceObject _ _ _, (s, refusals + 1) => (.error (.refused Server.conflict), s, refusals)
  | request, (s, refusals) =>
    let (reply, s) :=
      calmSurroundings [] (fun podSpec _ => .ok podSpec) (sampleSite [] []).clock request s
    (reply, s, refusals)

theorem unshared_sampleFlaky : Unshared sampleFlaky fun s => s.1.1 := by
  have calm : Calm (calmSurroundings [] (fun podSpec _ => .ok podSpec) (sampleSite [] []).clock)
    Prod.fst [] fun podSpec _ => .ok podSpec := calm_calmSurroundings _
  rintro request ⟨s, refusals⟩
  cases request with
  | replaceObject kind object body =>
    cases refusals with
    | zero => exact ⟨false, calm.served (.replaceObject kind object body) s⟩
    | succ refusals => exact ⟨true, .error (.refused Server.conflict), rfl, .disturbed _⟩
  | _ => exact ⟨false, calm.served _ s⟩

theorem tracked_sampleFlaky : Tracked sampleFlaky [] (fun podSpec _ => .ok podSpec) true where
  tracker request s := by
    obtain ⟨s, refusals⟩ := s
    cases request with
    | targetConfigs | redirectConfigs => exact fun _ h => by cases h; rfl
    | _ => trivial
  clock s := rfl

/-- An establishment that creates the primary and is refused to scale the target down is tried once
more, and succeeds. -/
theorem sampleHasty_retried :
    let first := (((sampleSite [] [("web", "1")]).server.store, 0), 1)
    let failed := sampleHasty.run sampleFlaky first
    let succeeded := sampleHasty.run sampleFlaky failed.2
    Established (.template sampleController) { sampleCanary with skipAnalysis := true } []
        (fun podSpec _ => .ok podSpec) first.1.1
        (sampleHasty.log sampleFlaky first ++ sampleHasty.log sampleFlaky failed.2)
        succeeded.2.1.1 ∧
      RepeatsQuietly (.template sampleController) { sampleCanary with skipAnalysis := true } true
        succeeded.2.1.1 := by
  intro first failed succeeded
  have named : Store.SelfNamed first.1.1 := by decide +kernel
  have retries : Retries sampleFlaky (fun s => s.1.1) (.template sampleController)
      { sampleCanary with skipAnalysis := true } first
      ([] ++ sampleHasty.log sampleFlaky first) failed.2 := .call .start
  have success : succeeded.1 = .ok .null := by decide +kernel
  obtain ⟨established, -, -, quiet⟩ := (establish_retries unshared_sampleFlaky tracked_sampleFlaky
    named.targetNamed retries).2 _ success [] _ .start
  rw [List.append_nil] at established
  exact ⟨established, quiet rfl⟩

end CanaryRelease
