import CanaryRelease.Proofs.PrimaryAgreement
import CanaryRelease.Proofs.Repeated

/-!
# Attempts to establish a canary

What attempts to establish a canary make of a store, wherever they are interrupted: each derived
object is created at most once and never written again, from the target as it was at the start, and
the target is scaled down at most once, after the primary is there (`Attempted`).

What an attempt may add to a store is said once (`Progress`), and the invariant is kept by each such
step (`Progress.attempted`). Once everything is done no step is left (`Progress.sealed`).
-/

namespace CanaryRelease

open Program Workload PodTemplate Value

theorem Store.isSome_get?_put {s : Store} {key other : ObjectKey} {v : Value}
    (h : (s.get? key).isSome = true) : ((s.put other v).get? key).isSome = true := by
  rw [Store.get?_put]
  split
  · rfl
  · exact h

/-- An object was created or replaced at a key. -/
def Exchange.wroteAt (key : ObjectKey) (e : Exchange) : Bool :=
  e.wrote && e.request.change?.any fun change => decide (change.1.Same key)

theorem Unwritten.filter_wroteAt {log : List Exchange} (h : Unwritten log) (key : ObjectKey) :
    log.filter (Exchange.wroteAt key) = [] := by
  rw [List.filter_eq_nil_iff]
  intro e he wrote
  rw [Exchange.wroteAt, h e he] at wrote
  cases wrote

variable {canary : Canary} {controller : Controller} {refs : List ConfigRef}
  {redirect : Value → List ConfigRef → Except Failure Value} {start now : Store}
  {log more : List Exchange} {object : ObjectName}

theorem mem_derivedObjects_primary :
    TemplateController.primaryObject canary ∈ controller.derivedObjects canary := by
  cases controller with
  | template c => exact List.mem_singleton_self _
  | service c => exact List.mem_cons_self

/-! ## What calls add -/

/-- What establishments, and updates of the primary's status by others, may have made of a store,
and what was exchanged. -/
inductive Progress (controller : Controller) (canary : Canary) (refs : List ConfigRef)
    (redirect : Value → List ConfigRef → Except Failure Value) (start : Store) :
    List Exchange → Store → Prop where
  | start : Progress controller canary refs redirect start [] start
  | idle {log more : List Exchange} {now : Store}
      (before : Progress controller canary refs redirect start log now)
      (unwritten : Unwritten more) :
      Progress controller canary refs redirect start (log ++ more) now
  | status {log : List Exchange} {now : Store} {old new : Value}
      (before : Progress controller canary refs redirect start log now)
      (stored : now.get? (controller.primaryKey canary) = some old)
      (update : StatusUpdate old new) :
      Progress controller canary refs redirect start log
        (now.put (controller.primaryKey canary) new)
  | creates {log : List Exchange} {now : Store} {object : ObjectName} {v target body kept : Value}
      {id : String} (before : Progress controller canary refs redirect start log now)
      (derived : object ∈ controller.derivedObjects canary)
      (stored : now.get? (controller.targetKey canary) = some v)
      (manifest : v.toManifest = .ok target)
      (builds : Builds canary refs redirect target controller object id body)
      (missing : now.get? ⟨controller.kind.name, object⟩ = none)
      (same : SameApart serverPlaces body kept) :
      Progress controller canary refs redirect start
        (log ++ [createExchange controller.kind canary.space body (.ok ())])
        (now.put ⟨controller.kind.name, object⟩ kept)
  | scales {log : List Exchange} {now : Store} {c : TemplateController} {name : ObjectName}
      {v target body kept : Value} (template : controller = .template c)
      (before : Progress controller canary refs redirect start log now)
      (initial : canary.phase.isInitial = true)
      (primary : (now.get? (controller.primaryKey canary)).isSome = true)
      (stored : now.get? (controller.targetKey canary) = some v)
      (marks : c.Marks canary v target name body) (same : SameApart serverPlaces body kept) :
      Progress controller canary refs redirect start
        (log ++ [replaceExchange controller.kind name body (.ok ())])
        (now.put ⟨controller.kind.name, name⟩ kept)

theorem Progress.isSome (h : Progress controller canary refs redirect start log now)
    {key : ObjectKey} (there : (start.get? key).isSome = true) : (now.get? key).isSome = true := by
  induction h with
  | start => exact there
  | idle _ _ ih => exact ih
  | status _ _ _ ih => exact Store.isSome_get?_put ih
  | creates _ _ _ _ _ _ _ ih => exact Store.isSome_get?_put ih
  | scales _ _ _ _ _ _ _ ih => exact Store.isSome_get?_put ih

/-! ## The target -/

/-- A target was scaled down, once, from what it was at the start; the primary is there. -/
structure ScaledSince (controller : Controller) (canary : Canary) (start now : Store) : Prop where
  initial : canary.phase.isInitial = true
  primary : (now.get? (controller.primaryKey canary)).isSome = true
  steps : ∃ c v target name body kept, controller = .template c ∧
    start.get? (controller.targetKey canary) = some v ∧ c.Marks canary v target name body ∧
    SameApart serverPlaces body kept ∧ now.get? (controller.targetKey canary) = some kept

/-- A target that is stored is stored under the name that it gives itself. -/
def TargetNamed (controller : Controller) (canary : Canary) (s : Store) : Prop :=
  ∀ v, s.get? (controller.targetKey canary) = some v →
    NamedLike (controller.targetKey canary) v

theorem TemplateController.Marks.stored_start {c : TemplateController} {v target body : Value}
    {name : ObjectName} (marks : c.Marks canary v target name body)
    (named : TargetNamed (.template c) canary start)
    (so_far : now.get? (Controller.targetKey (.template c) canary) =
        start.get? (Controller.targetKey (.template c) canary) ∨
      ScaledSince (.template c) canary start now)
    (stored : now.get? (Controller.targetKey (.template c) canary) = some v) :
    start.get? (Controller.targetKey (.template c) canary) = some v ∧
      ObjectKey.Same ⟨(Controller.template c).kind.name, name⟩
        (Controller.targetKey (.template c) canary) := by
  rcases so_far with unchanged | ⟨-, -, _, _, _, _, _, kept, ⟨⟩, -, marks', same, there⟩
  · rw [unchanged] at stored
    exact ⟨stored, rfl, named v stored target name marks.manifest marks.own⟩
  · obtain rfl := Option.some.inj (stored.symm.trans there)
    obtain ⟨manifest, marker⟩ := marks'.marker_kept same
    obtain rfl := Except.ok.inj (manifest.symm.trans marks.manifest)
    exact absurd marker marks.unmarked

/-- The target is as it was at the start, or was scaled down. -/
theorem Progress.target (h : Progress controller canary refs redirect start log now)
    (named : TargetNamed controller canary start) :
    now.get? (controller.targetKey canary) = start.get? (controller.targetKey canary) ∨
      ScaledSince controller canary start now := by
  -- what is put elsewhere takes neither target nor primary away
  have elsewhere {now : Store} {object : ObjectName} {w : Value}
      (derived : object ∈ controller.derivedObjects canary)
      (h : now.get? (controller.targetKey canary) = start.get? (controller.targetKey canary) ∨
        ScaledSince controller canary start now) :
      (now.put ⟨controller.kind.name, object⟩ w).get? (controller.targetKey canary) =
          start.get? (controller.targetKey canary) ∨
        ScaledSince controller canary start (now.put ⟨controller.kind.name, object⟩ w) := by
    have same : (now.put ⟨controller.kind.name, object⟩ w).get? (controller.targetKey canary) =
        now.get? (controller.targetKey canary) := by
      rw [Store.get?_put, if_neg (not_same_targetKey derived)]
    rcases h with unchanged | ⟨initial, primary, steps⟩
    · exact .inl (same.trans unchanged)
    · rw [← same] at steps
      exact .inr ⟨initial, Store.isSome_get?_put primary, steps⟩
  induction h with
  | start => exact .inl rfl
  | idle _ _ ih => exact ih
  | status _ _ _ ih => exact elsewhere mem_derivedObjects_primary ih
  | creates _ derived _ _ _ _ _ ih => exact elsewhere derived ih
  | @scales log now c name v target body kept template before initial primary stored marks same
      ih =>
    subst template
    obtain ⟨stored₀, here⟩ := marks.stored_start named ih stored
    refine .inr ⟨initial, Store.isSome_get?_put primary, c, v, target, name, body, kept, rfl,
      stored₀, marks, same, ?_⟩
    rw [Store.get?_put, if_pos here]

theorem Progress.targetNamed (h : Progress controller canary refs redirect start log now)
    (named : TargetNamed controller canary start) : TargetNamed controller canary now := by
  rcases h.target named with unchanged | ⟨-, -, c, v, target, name, body, kept, rfl, stored, marks,
    same, there⟩
  · intro v stored
    exact named v (unchanged ▸ stored)
  · intro w stored' manifest name' hm own
    obtain rfl := Option.some.inj (there.symm.trans stored')
    obtain rfl := ownName_of_writtenBack marks.manifest marks.own marks.down.written
      (by simp [markerPlace, podSpecPlace]) same hm own
    exact named v stored target name' marks.manifest marks.own

/-! ## The derived objects -/

/-- Where a derived object may change after it was created: what its server fills in, and the
primary's status. -/
def freePlaces (canary : Canary) (object : ObjectName) : List Path :=
  if object = TemplateController.primaryObject canary then ["status"] :: serverPlaces
  else serverPlaces

/-- What has become of a derived object since the start: it was there, and nobody has written it but
for the primary's status; or it is still missing; or it was created, once, from the target as it was
at the start. -/
inductive Derivation (controller : Controller) (canary : Canary) (refs : List ConfigRef)
    (redirect : Value → List ConfigRef → Except Failure Value) (object : ObjectName)
    (start : Store) (log : List Exchange) (now : Store) : Prop where
  | found {w₀ w : Value} (stored : start.get? ⟨controller.kind.name, object⟩ = some w₀)
      (there : now.get? ⟨controller.kind.name, object⟩ = some w)
      (same : w = w₀ ∨ object = TemplateController.primaryObject canary ∧ StatusUpdate w₀ w)
      (unwritten : log.filter (Exchange.wroteAt ⟨controller.kind.name, object⟩) = [])
  | missing (before : start.get? ⟨controller.kind.name, object⟩ = none)
      (after : now.get? ⟨controller.kind.name, object⟩ = none)
      (unwritten : log.filter (Exchange.wroteAt ⟨controller.kind.name, object⟩) = [])
  | made {v target body w : Value} {id : String}
      (before : start.get? ⟨controller.kind.name, object⟩ = none)
      (stored : start.get? (controller.targetKey canary) = some v)
      (manifest : v.toManifest = .ok target)
      (builds : Builds canary refs redirect target controller object id body)
      (there : now.get? ⟨controller.kind.name, object⟩ = some w)
      (same : SameApart (freePlaces canary object) body w)
      (once : log.filter (Exchange.wroteAt ⟨controller.kind.name, object⟩) =
        [createExchange controller.kind canary.space body (.ok ())])

theorem Builds.own {target body : Value} {id : String}
    (h : Builds canary refs redirect target controller object id body) :
    ownName body = .ok object := by
  cases h with
  | primary _ _ made =>
    obtain ⟨-, _, _, -, own, -⟩ := TemplateController.ends_primaryBody made
    exact own
  | service made =>
    obtain ⟨_, _, _, -, -, -, own, -⟩ := ServiceController.exists_spec_of_derivedBody made
    exact own

theorem space_of_derivedObjects (h : object ∈ controller.derivedObjects canary) :
    object.space = canary.space := by
  cases controller with
  | template c => rw [List.mem_singleton.mp h]; rfl
  | service c =>
    rcases List.mem_cons.mp h with rfl | h
    · rfl
    · rw [List.mem_singleton.mp h]; rfl

theorem Builds.wroteAt {target body : Value} {id : String} {key : ObjectKey}
    (h : Builds canary refs redirect target controller object id body)
    (derived : object ∈ controller.derivedObjects canary) :
    (createExchange controller.kind canary.space body (.ok ())).wroteAt key =
      decide (ObjectKey.Same ⟨controller.kind.name, object⟩ key) := by
  show decide (ObjectKey.Same ⟨_, ⟨Site.bodyName body, canary.space⟩⟩ key) = _
  rw [Site.bodyName_of_ownName h.own, ← space_of_derivedObjects derived]

theorem StatusUpdate.trans {u v w : Value} (h : StatusUpdate u v) (h' : StatusUpdate v w) :
    StatusUpdate u w := ⟨h.old_object, h'.new_object, h.same.trans h'.same⟩

section Derivation

variable {other : ObjectName}

theorem Derivation.elsewhere {later : Store}
    (h : Derivation controller canary refs redirect object start log now)
    (same : later.get? ⟨controller.kind.name, object⟩ = now.get? ⟨controller.kind.name, object⟩)
    (unwritten : more.filter (Exchange.wroteAt ⟨controller.kind.name, object⟩) = []) :
    Derivation controller canary refs redirect object start (log ++ more) later := by
  have filtered : (log ++ more).filter (Exchange.wroteAt ⟨controller.kind.name, object⟩) =
      log.filter (Exchange.wroteAt ⟨controller.kind.name, object⟩) := by
    rw [List.filter_append, unwritten, List.append_nil]
  cases h with
  | found stored there alike none_written =>
    exact .found stored (same.trans there) alike (filtered.trans none_written)
  | missing before after none_written =>
    exact .missing before (same.trans after) (filtered.trans none_written)
  | made before stored manifest builds there alike once =>
    exact .made before stored manifest builds (same.trans there) alike (filtered.trans once)

theorem Derivation.status {old new : Value}
    (h : Derivation controller canary refs redirect object start log now)
    (derived : object ∈ controller.derivedObjects canary)
    (stored : now.get? (controller.primaryKey canary) = some old) (update : StatusUpdate old new) :
    Derivation controller canary refs redirect object start log
      (now.put (controller.primaryKey canary) new) := by
  by_cases own : object = TemplateController.primaryObject canary
  · subst own
    have put : (now.put (controller.primaryKey canary) new).get?
        ⟨controller.kind.name, TemplateController.primaryObject canary⟩ = some new := by
      rw [Store.get?_put]
      exact if_pos (ObjectKey.same_self _)
    cases h with
    | found stored₀ there alike unwritten =>
      obtain rfl := Option.some.inj (stored.symm.trans there)
      refine .found stored₀ put (.inr ⟨rfl, ?_⟩) unwritten
      rcases alike with rfl | ⟨-, earlier⟩
      · exact update
      · exact earlier.trans update
    | missing before after unwritten => cases stored.symm.trans after
    | made before stored₀ manifest builds there alike once =>
      obtain rfl := Option.some.inj (stored.symm.trans there)
      rw [freePlaces, if_pos rfl] at alike
      refine .made before stored₀ manifest builds put ?_ once
      rw [freePlaces, if_pos rfl]
      exact alike.trans update.same
  · have apart : ¬ (controller.primaryKey canary).Same ⟨controller.kind.name, object⟩ :=
      fun same => own (eq_of_derivedObjects derived mem_derivedObjects_primary same.2.symm)
    have same : (now.put (controller.primaryKey canary) new).get?
        ⟨controller.kind.name, object⟩ = now.get? ⟨controller.kind.name, object⟩ := by
      rw [Store.get?_put, if_neg apart]
    have kept := h.elsewhere same (List.filter_nil (p := Exchange.wroteAt _))
    rwa [List.append_nil] at kept

/-- A derived object that is found missing is made from the target as it was at the start: while the
primary is missing, the target is not scaled down. -/
theorem Derivation.created {v target body kept : Value} {id : String}
    (h : Derivation controller canary refs redirect object start log now)
    (derived : object ∈ controller.derivedObjects canary)
    (so_far : now.get? (controller.targetKey canary) = start.get? (controller.targetKey canary) ∨
      ScaledSince controller canary start now)
    (stored : now.get? (controller.targetKey canary) = some v) (manifest : v.toManifest = .ok target)
    (builds : Builds canary refs redirect target controller object id body)
    (missing : now.get? ⟨controller.kind.name, object⟩ = none)
    (same : SameApart serverPlaces body kept) :
    Derivation controller canary refs redirect object start
      (log ++ [createExchange controller.kind canary.space body (.ok ())])
      (now.put ⟨controller.kind.name, object⟩ kept) := by
  have put : (now.put ⟨controller.kind.name, object⟩ kept).get?
      ⟨controller.kind.name, object⟩ = some kept := by
    rw [Store.get?_put, if_pos (ObjectKey.same_self _)]
  have written : [createExchange controller.kind canary.space body (.ok ())].filter
      (Exchange.wroteAt ⟨controller.kind.name, object⟩) =
        [createExchange controller.kind canary.space body (.ok ())] := by
    rw [List.filter_singleton, builds.wroteAt derived, decide_eq_true (ObjectKey.same_self _)]
    rfl
  have alike : SameApart (freePlaces canary object) body kept := by
    refine same.mono fun place hp => ?_
    unfold freePlaces
    split
    · exact List.mem_cons_of_mem _ hp
    · exact hp
  cases h with
  | found _ there => cases missing.symm.trans there
  | made _ _ _ _ there => cases missing.symm.trans there
  | missing before_none _ unwritten =>
    have stored₀ : start.get? (controller.targetKey canary) = some v := by
      rcases so_far with unchanged | ⟨-, primary, c, _, _, _, _, _, rfl, -⟩
      · rw [← unchanged, stored]
      · obtain rfl := List.mem_singleton.mp derived
        rw [Controller.primaryKey, missing] at primary
        cases primary
    refine .made before_none stored₀ manifest builds put alike ?_
    rw [List.filter_append, unwritten, written]
    rfl

end Derivation

/-- A derived object is there from the start, or is created at most once, from the target as it was
at the start. -/
theorem Progress.derivation (h : Progress controller canary refs redirect start log now)
    (named : TargetNamed controller canary start)
    (derived : object ∈ controller.derivedObjects canary) :
    Derivation controller canary refs redirect object start log now := by
  -- each step either creates this object or writes in another place
  induction h with
  | start =>
    cases found : start.get? ⟨controller.kind.name, object⟩ with
    | none => exact .missing found found rfl
    | some w => exact .found found found (.inl rfl) rfl
  | idle _ unwritten ih => exact ih.elsewhere rfl (unwritten.filter_wroteAt _)
  | status _ stored update ih => exact ih.status derived stored update
  | @creates log now other v target body kept id before derived' stored manifest builds missing same
      ih =>
    by_cases own : other = object
    · subst own
      exact ih.created derived (before.target named) stored manifest builds missing same
    · have apart : ¬ ObjectKey.Same ⟨controller.kind.name, other⟩
          ⟨controller.kind.name, object⟩ :=
        fun same => own (eq_of_derivedObjects derived' derived same.2)
      refine ih.elsewhere ?_ ?_
      · rw [Store.get?_put, if_neg apart]
      · rw [List.filter_singleton, builds.wroteAt derived', decide_eq_false apart]
        rfl
  | @scales log now c name v target body kept template before initial primary stored marks same
      ih =>
    subst template
    obtain ⟨-, here⟩ := marks.stored_start named (before.target named) stored
    have apart : ¬ ObjectKey.Same ⟨(Controller.template c).kind.name, name⟩
        ⟨(Controller.template c).kind.name, object⟩ :=
      fun same => not_same_targetKey derived (same.symm.trans here)
    refine ih.elsewhere ?_ ?_
    · rw [Store.get?_put, if_neg apart]
    · have elsewhere : (replaceExchange (Controller.template c).kind name body (.ok ())).wroteAt
          ⟨(Controller.template c).kind.name, object⟩ = false := decide_eq_false apart
      rw [List.filter_singleton, elsewhere]
      rfl

/-! ## What attempts leave -/

/-- What attempts to establish a canary, and updates of the primary's status by others, have made of
a store. -/
structure Attempted (controller : Controller) (canary : Canary) (refs : List ConfigRef)
    (redirect : Value → List ConfigRef → Except Failure Value) (start : Store)
    (log : List Exchange) (now : Store) : Prop where
  derived : ∀ object ∈ controller.derivedObjects canary,
    Derivation controller canary refs redirect object start log now
  target : now.get? (controller.targetKey canary) = start.get? (controller.targetKey canary) ∨
    ScaledSince controller canary start now
  others : ∀ key : ObjectKey, ¬ key.Same (controller.targetKey canary) →
    (∀ object ∈ controller.derivedObjects canary, ¬ key.Same ⟨controller.kind.name, object⟩) →
      now.get? key = start.get? key

theorem Progress.attempted (h : Progress controller canary refs redirect start log now)
    (named : TargetNamed controller canary start) :
    Attempted controller canary refs redirect start log now where
  derived _ derived := h.derivation named derived
  target := h.target named
  others key not_target not_derived := by
    induction h with
    | start => rfl
    | idle _ _ ih => exact ih
    | status _ _ _ ih =>
      rw [Store.get?_put, if_neg fun same => not_derived _ mem_derivedObjects_primary same.symm]
      exact ih
    | creates _ derived _ _ _ _ _ ih =>
      rw [Store.get?_put, if_neg fun same => not_derived _ derived same.symm]
      exact ih
    | scales template before _ _ stored marks _ ih =>
      subst template
      obtain ⟨-, here⟩ := marks.stored_start named (before.target named) stored
      rw [Store.get?_put, if_neg fun same => not_target (same.symm.trans here)]
      exact ih

/-! ## Nothing is left to do -/

/-- A store in which nothing is left to be done for a canary. -/
structure Sealed (controller : Controller) (canary : Canary) (now : Store) : Prop where
  present : ∀ object ∈ controller.derivedObjects canary,
    (now.get? ⟨controller.kind.name, object⟩).isSome = true
  marked : ∀ c, controller = .template c → canary.phase.isInitial = true →
    ∃ v target, now.get? (controller.targetKey canary) = some v ∧ v.toManifest = .ok target ∧
      target.at? markerPlace = some markerValue

/-- Where nothing is left to be done nothing is written, and nothing changes but the primary's
status. -/
theorem Progress.sealed (h : Progress controller canary refs redirect start log now)
    (done : Sealed controller canary start) :
    Unwritten log ∧ Sealed controller canary now ∧ ∀ key : ObjectKey,
      ¬ key.Same (controller.primaryKey canary) → now.get? key = start.get? key := by
  induction h with
  | start => exact ⟨unwritten_nil, done, fun _ _ => rfl⟩
  | idle _ unwritten ih => exact ⟨unwritten_append.mpr ⟨ih.1, unwritten⟩, ih.2⟩
  | @status log now old new _ _ _ ih =>
    obtain ⟨unwritten, sealed, same⟩ := ih
    have elsewhere {key : ObjectKey} (apart : ¬ key.Same (controller.primaryKey canary)) :
        (now.put (controller.primaryKey canary) new).get? key = now.get? key := by
      rw [Store.get?_put, if_neg fun here => apart here.symm]
    have not_target : ¬ (controller.targetKey canary).Same (controller.primaryKey canary) :=
      fun here => not_same_targetKey mem_derivedObjects_primary here.symm
    refine ⟨unwritten, ⟨fun object derived => Store.isSome_get?_put (sealed.present object derived),
      fun c template initial => ?_⟩, fun key apart => (elsewhere apart).trans (same key apart)⟩
    rw [elsewhere not_target]
    exact sealed.marked c template initial
  | creates _ derived _ _ _ missing _ ih =>
    have there := ih.2.1.present _ derived
    rw [missing] at there
    cases there
  | scales template _ initial _ stored marks _ ih =>
    obtain ⟨v, target, stored', manifest, marker⟩ := ih.2.1.marked _ template initial
    obtain rfl := Option.some.inj (stored.symm.trans stored')
    obtain rfl := Except.ok.inj (manifest.symm.trans marks.manifest)
    exact absurd marker marks.unmarked

theorem Controller.Concluded.sealed {zoned : Bool} (h : controller.Concluded canary zoned now) :
    Sealed controller canary now := by
  cases controller with
  | template c =>
    obtain ⟨-, -, ⟨v, target, stored, manifest, -, marked⟩, w, there, -⟩ := h
    refine ⟨fun object derived => ?_, fun _ _ initial => ?_⟩
    · rw [List.mem_singleton.mp derived]
      exact Option.isSome_of_eq_some there
    · obtain ⟨podSpec, hp, hm⟩ := marked initial
      exact ⟨v, target, stored, manifest, (TemplateController.hasMarker_iff hp hm).mp rfl⟩
  | service c =>
    refine ⟨fun object derived => ?_, nofun⟩
    obtain ⟨-, w, there⟩ := ServiceController.Concluded.derived h object derived
    exact Option.isSome_of_eq_some there

/-- What attempts to establish a canary have made of a store since one of them succeeded: all
derived objects are there, and in an initial phase the target has the marker. -/
structure Established (controller : Controller) (canary : Canary) (refs : List ConfigRef)
    (redirect : Value → List ConfigRef → Except Failure Value) (start : Store)
    (log : List Exchange) (now : Store) : Prop extends
    Attempted controller canary refs redirect start log now, Sealed controller canary now

end CanaryRelease
