import CanaryRelease.Proofs.PromotionEffect
import CanaryRelease.Proofs.ScalingRuns

/-!
# Scaling is no drift

Whatever calls are made for a canary, none of them to establish it, its target is where the last
call that had an effect took it: untouched, down, or up again (`scaling_is_no_drift`). The target is
replaced by the calls that move it and by no others, and its pod template never has another
fingerprint than the one it was found with. A primary that gives itself the target's name is
promoted over the target (`named_like_target_overwrites`), so it must not.

One call is followed by the cases of its operation (`Managed.step`), any number of them by induction
(`Managed.foldl`).
-/

namespace CanaryRelease

open Program Workload PodTemplate Value

/-- A stored value gives itself the name of an object. -/
def GivesName (v : Value) (object : ObjectName) : Prop :=
  ∃ manifest name, v.toManifest = .ok manifest ∧ ownName manifest = .ok name ∧
    name.standard = object.standard

/-- The operations that scale a target. -/
def Operation.scales : Operation → Bool
  | scaleToZero | scaleFromZero | finalize => true
  | _ => false

/-- A call is one of a canary with a target of a controller's kind, and not to establish it. -/
structure Call.Manages (call : Call) (c : TemplateController) (canary : Canary) : Prop where
  controller : call.controller = .template c
  target : call.canary.targetObject = canary.targetObject
  operation : call.operation ≠ .establish

/-- A target is stored as its scaling stands. Its primary, if there is one, does not give itself the
target's name. -/
structure Managed (floats : Binary64 → Bool) (c : TemplateController) (canary : Canary)
    (found : Value) (scale : Scale) (store : Store) : Prop where
  target : ∃ v now, store.get? (c.targetKey canary) = some v ∧
    StoredTarget floats canary.targetObject found scale v now
  primary : ∀ w, store.get? (c.primaryKey canary) = some w → ¬ GivesName w canary.targetObject

variable {σ : Type} {S : Surroundings σ} {store : σ → Store} {s : σ} {floats : Binary64 → Bool}
  {c : TemplateController} {canary : Canary} {found : Value} {scale : Scale} {call : Call}

/-- What a call does to a target whose scaling stands somewhere: it replaces the target once if it
moves the target, and leaves it as it is otherwise. A call that scales never fails, and writes
nothing if it does not move the target. -/
structure Moves (S : Surroundings σ) (store : σ → Store) (c : TemplateController) (canary : Canary)
    (scale : Scale) (call : Call) (s : σ) : Prop where
  moved : scale.after call.operation ≠ scale → ∃ name body,
    name.standard = canary.targetObject.standard ∧
    (call.program.log S s).filter (fun e => e.request.isWrite) =
      [replaceExchange (.template c.kind) name body (.ok ())]
  kept : scale.after call.operation = scale →
    (∀ e ∈ call.program.log S s, ¬ e.request.Changes (c.targetKey canary)) ∧
      (store (call.program.run S s).2).get? (c.targetKey canary) =
        (store s).get? (c.targetKey canary)
  scaled : call.operation.scales = true → (call.program.run S s).1 = .ok .null ∧
    (scale.after call.operation = scale →
      (call.program.log S s).filter (fun e => e.request.isWrite) = [])

namespace Call.Manages

theorem targetKey (h : call.Manages c canary) :
    c.targetKey call.canary = c.targetKey canary := by
  rw [TemplateController.targetKey, TemplateController.targetKey, h.target]

theorem primaryKey (h : call.Manages c canary) :
    c.primaryKey call.canary = c.primaryKey canary := by
  obtain ⟨name, space⟩ := ObjectName.mk.inj h.target
  rw [TemplateController.primaryKey, TemplateController.primaryKey,
    TemplateController.primaryObject, TemplateController.primaryObject, name, space]

end Call.Manages

/-! ## One call -/

theorem moves_of_readOnly (c : TemplateController) (canary : Canary) (quiet : Undisturbed S store)
    (same : scale.after call.operation = scale) (other : call.operation.scales = false)
    (readOnly : ReadOnly call.program) :
    Moves S store c canary scale call s ∧ store (call.program.run S s).2 = store s := by
  have unwritten : ∀ e ∈ call.program.log S s, e.request.isWrite = false := by
    intro e mem
    obtain ⟨log, -, -, asks⟩ := exists_asks_of_mem_log mem
    by_contra writes
    exact readOnly log e.request ⟨asks, by simpa using writes⟩
  have unchanged := quiet.store_eq_of_replays (replays_log S call.program s) unwritten
  refine ⟨⟨fun moved => absurd same moved, fun _ => ⟨?_, by rw [unchanged]⟩, ?_⟩, unchanged⟩
  · intro e mem changes
    obtain ⟨key, body, change, -⟩ := changes
    have write := Request.isWrite_of_change? change
    rw [unwritten e mem] at write
    cases write
  · intro scales
    rw [other] at scales
    cases scales

theorem exists_primary_of_promotion (quiet : Undisturbed S store) {e : Exchange}
    {other : ObjectKey} {body : Value}
    (mem : e ∈ (Controller.silent (c.promote canary)).log S s)
    (change : e.request.change? = some (other, body)) :
    ∃ w primary name, (store s).get? (c.primaryKey canary) = some w ∧
      w.toManifest = .ok primary ∧ ownName primary = .ok name ∧ other = ⟨c.kind.name, name⟩ ∧
      WrittenBack (.template c.kind) (TemplateController.twinPlaces c.kind) primary body := by
  obtain ⟨log, s', replays, asks⟩ := exists_asks_of_mem_log mem
  have writes : Writes (c.promote canary) log e.request :=
    Controller.writes_silent.mp ⟨asks, Request.isWrite_of_change? change⟩
  obtain ⟨v, target, label, value, w, primary, refs, redirected, id, name, body', rfl, -, -, hw,
    own, hr, written, -⟩ := TemplateController.writes_promote writes
  rw [hr] at change
  cases change
  refine ⟨w, primary, name, ?_, hw, own, rfl, written⟩
  obtain ⟨-, read, -⟩ := replays
  have served := quiet (.readObject (.template c.kind) (TemplateController.primaryObject canary))
    (S (.readObject (.template c.kind) canary.targetObject) s).2
  rw [read] at served
  have stored := Server.Serves.get?_of_read served
  rwa [quiet.store_eq rfl] at stored

theorem Managed.of_promotion (h : Managed floats c canary found scale (store s))
    (quiet : Undisturbed S store) (manages : call.Manages c canary)
    (promotes : call.operation = .promote) :
    Moves S store c canary scale call s ∧
      Managed floats c canary found scale (store (call.program.run S s).2) := by
  obtain ⟨controller, operation, watcher⟩ := call
  obtain rfl : controller = .template c := manages.controller
  obtain rfl : operation = .promote := promotes
  have changed {e : Exchange} {other : ObjectKey} {body : Value}
      (mem : e ∈ (Controller.silent (c.promote watcher)).log S s)
      (change : e.request.change? = some (other, body)) :
      ∃ w primary name, (store s).get? (c.primaryKey canary) = some w ∧
        w.toManifest = .ok primary ∧ ownName primary = .ok name ∧ other = ⟨c.kind.name, name⟩ ∧
        WrittenBack (.template c.kind) (TemplateController.twinPlaces c.kind) primary body := by
    rw [← manages.primaryKey]
    exact exists_primary_of_promotion quiet mem change
  have others : ∀ e ∈ (Controller.silent (c.promote watcher)).log S s,
      ¬ e.request.Changes (c.targetKey canary) := by
    intro e mem changes
    obtain ⟨other, body, change, here⟩ := changes
    obtain ⟨w, primary, name, stored, hw, own, rfl, -⟩ := changed mem change
    exact h.primary w stored ⟨primary, name, hw, own, here.2⟩
  have replays := replays_log S (Controller.silent (c.promote watcher)) s
  have unchanged := quiet.get?_of_replays replays others
  refine ⟨⟨fun moved => absurd ?_ moved, fun _ => ⟨others, unchanged⟩, nofun⟩, ?_, ?_⟩
  · cases scale <;> rfl
  · obtain ⟨v, now, stored, target⟩ := h.target
    exact ⟨v, now, unchanged.trans stored, target⟩
  · apply quiet.forall_of_replays replays h.primary
    intro e mem other body kept change here same names
    obtain ⟨w, primary, name, stored, hw, own, rfl, written⟩ := changed mem change
    obtain ⟨manifest, name', hm, own', standard⟩ := names
    obtain rfl := ownName_of_writtenBack hw own written
      (fun _ => TemplateController.apart_twinPlaces (by decide)) same hm own'
    exact h.primary w stored ⟨primary, name', hw, own, standard⟩

theorem Managed.primary_put (h : Managed floats c canary found scale (store s)) {name : ObjectName}
    (standard : name.standard = canary.targetObject.standard) (kept : Value) :
    ∀ w, ((store s).put ⟨c.kind.name, name⟩ kept).get? (c.primaryKey canary) = some w →
      ¬ GivesName w canary.targetObject := by
  intro w stored
  rw [Store.get?_put, if_neg] at stored
  · exact h.primary w stored
  · intro same
    exact TemplateController.not_same_primaryKey (same.symm.trans ⟨rfl, standard⟩)

theorem Managed.of_replacement (h : Managed floats c canary found scale (store s)) {next : Scale}
    {name : ObjectName} {body kept : Value} {s' : σ} (moved : scale.after call.operation = next)
    (other : next ≠ scale) (standard : name.standard = canary.targetObject.standard)
    (run : call.program.run S s = (.ok .null, s'))
    (writes : (call.program.log S s).filter (fun e => e.request.isWrite) =
      [replaceExchange (.template c.kind) name body (.ok ())])
    (after : store s' = (store s).put ⟨c.kind.name, name⟩ kept)
    (scaled : StoredTarget floats canary.targetObject found next kept kept.wire) :
    Moves S store c canary scale call s ∧
      Managed floats c canary found next (store (call.program.run S s).2) := by
  have here : ObjectKey.Same ⟨c.kind.name, name⟩ (c.targetKey canary) := ⟨rfl, standard⟩
  rw [run]
  refine ⟨⟨fun _ => ⟨name, body, standard, writes⟩, ?_, ?_⟩, ⟨kept, _, ?_, scaled⟩, ?_⟩
  · intro same
    exact absurd (moved.symm.trans same) other
  · intro _
    rw [run]
    exact ⟨rfl, fun same => absurd (moved.symm.trans same) other⟩
  · rw [after, Store.get?_put, if_pos here]
  · rw [after]
    exact h.primary_put standard kept

theorem Managed.of_silence (h : Managed floats c canary found scale (store s)) {s' : σ}
    (same : scale.after call.operation = scale) (run : call.program.run S s = (.ok .null, s'))
    (unwritten : (call.program.log S s).filter (fun e => e.request.isWrite) = [])
    (unchanged : store s' = store s) :
    Moves S store c canary scale call s ∧
      Managed floats c canary found scale (store (call.program.run S s).2) := by
  rw [run, unchanged]
  refine ⟨⟨fun moved => absurd same moved, fun _ => ⟨?_, ?_⟩, fun _ => ?_⟩, h⟩
  · intro e mem changes
    obtain ⟨other, body, change, -⟩ := changes
    have write := Request.isWrite_of_change? change
    exact absurd write (List.filter_eq_nil_iff.mp unwritten e mem)
  · rw [run, unchanged]
  · rw [run]
    exact ⟨rfl, fun _ => unwritten⟩

theorem Managed.of_scaleToZero (h : Managed floats c canary found scale (store s))
    (quiet : Undisturbed S store) (versions : KeepsVersions S store)
    (addressable : canary.targetObject.isAddressable = true) (unscaled : Unscaled found)
    (manages : call.Manages c canary) (scales : call.operation = .scaleToZero) :
    Moves S store c canary scale call s ∧
      Managed floats c canary found .down (store (call.program.run S s).2) := by
  obtain ⟨controller, operation, watcher⟩ := call
  obtain rfl : controller = .template c := manages.controller
  obtain rfl : operation = .scaleToZero := scales
  obtain ⟨v, now, stored, target⟩ := h.target
  have same_target : watcher.targetObject = canary.targetObject := manages.target
  rw [← manages.targetKey] at stored
  rw [← same_target] at target addressable
  by_cases already : scale = .down
  · subst already
    obtain ⟨s', run, unwritten, unchanged⟩ :=
      target.exists_run_of_down quiet addressable stored unscaled
    exact h.of_silence rfl run unwritten unchanged
  · obtain ⟨name, body, kept, s', run, writes, standard, after, scaled⟩ :=
      target.exists_run_scaleToZero quiet versions addressable stored unscaled already
    rw [same_target] at standard scaled
    exact h.of_replacement rfl (Ne.symm already) standard run writes after scaled

theorem Managed.of_scaleFromZero (h : Managed floats c canary found scale (store s))
    (quiet : Undisturbed S store) (versions : KeepsVersions S store)
    (addressable : canary.targetObject.isAddressable = true) (unscaled : Unscaled found)
    (manages : call.Manages c canary)
    (scales : call.operation = .scaleFromZero ∨ call.operation = .finalize) :
    Moves S store c canary scale call s ∧
      Managed floats c canary found (scale.after call.operation)
        (store (call.program.run S s).2) := by
  obtain ⟨controller, operation, watcher⟩ := call
  obtain rfl : controller = .template c := manages.controller
  have program : (Call.mk (.template c) operation watcher).program =
      Controller.silent (c.scaleFromZero watcher) := by
    rcases scales with rfl | rfl
    · rfl
    · rfl
  obtain ⟨v, now, stored, target⟩ := h.target
  have same_target : watcher.targetObject = canary.targetObject := manages.target
  rw [← manages.targetKey] at stored
  rw [← same_target] at target addressable
  by_cases down : scale = .down
  · subst down
    have moved : Scale.down.after operation = .up := by
      rcases scales with rfl | rfl
      · rfl
      · rfl
    obtain ⟨name, body, kept, s', run, writes, standard, after, scaled⟩ :=
      target.exists_run_scaleFromZero quiet versions addressable stored unscaled
    rw [same_target] at standard scaled
    rw [← program] at run writes
    show _ ∧ Managed floats c canary found (Scale.down.after operation) _
    rw [moved]
    exact h.of_replacement moved nofun standard run writes after scaled
  · have same : scale.after operation = scale := by
      cases scale with
      | down => exact absurd rfl down
      | untouched | up =>
        rcases scales with rfl | rfl
        · rfl
        · rfl
    obtain ⟨s', run, unwritten, unchanged⟩ :=
      target.exists_run_of_up quiet addressable stored unscaled down
    rw [← program] at run unwritten
    show _ ∧ Managed floats c canary found (scale.after operation) _
    rw [same]
    exact h.of_silence same run unwritten unchanged

theorem Managed.of_check (h : Managed floats c canary found scale (store s))
    (quiet : Undisturbed S store) (check : call.operation.isCheck = true) :
    Moves S store c canary scale call s ∧
      Managed floats c canary found (scale.after call.operation)
        (store (call.program.run S s).2) := by
  obtain ⟨controller, operation, watcher⟩ := call
  have readOnly : ReadOnly (Call.mk controller operation watcher).program :=
    Controller.readOnly_call check
  have same : scale.after operation = scale := by
    cases operation with
    | establish | promote | scaleToZero | scaleFromZero | finalize => cases check
    | _ => cases scale <;> rfl
  have other : operation.scales = false := by
    cases operation with
    | scaleToZero | scaleFromZero | finalize => cases check
    | _ => rfl
  obtain ⟨moves, unchanged⟩ : Moves S store c canary scale ⟨controller, operation, watcher⟩ s ∧ _ :=
    moves_of_readOnly c canary quiet same other readOnly
  refine ⟨moves, ?_⟩
  show Managed floats c canary found (scale.after operation) _
  rw [same, unchanged]
  exact h

/-- Every call moves the target as it should. -/
theorem Managed.step (h : Managed floats c canary found scale (store s))
    (quiet : Undisturbed S store) (versions : KeepsVersions S store)
    (addressable : canary.targetObject.isAddressable = true) (unscaled : Unscaled found)
    (manages : call.Manages c canary) :
    Moves S store c canary scale call s ∧
      Managed floats c canary found (scale.after call.operation)
        (store (call.program.run S s).2) := by
  cases operation : call.operation with
  | establish => exact absurd operation manages.operation
  | promote =>
    have same : scale.after .promote = scale := by
      cases scale <;> rfl
    rw [same]
    exact h.of_promotion quiet manages operation
  | scaleToZero =>
    exact h.of_scaleToZero quiet versions addressable unscaled manages operation
  | scaleFromZero =>
    rw [← operation]
    exact h.of_scaleFromZero quiet versions addressable unscaled manages (.inl operation)
  | finalize =>
    rw [← operation]
    exact h.of_scaleFromZero quiet versions addressable unscaled manages (.inr operation)
  | _ =>
    rw [← operation]
    apply h.of_check quiet
    rw [operation]
    rfl

/-! ## Any number of calls -/

/-- What calls leave that are made one after the other. -/
def Call.runAll (S : Surroundings σ) (calls : List Call) (s : σ) : σ :=
  calls.foldl (fun s call => (call.program.run S s).2) s

/-- Where the scaling of a target stands after calls. -/
def Scale.afterCalls (calls : List Call) : Scale :=
  calls.foldl (fun scale call => scale.after call.operation) .untouched

theorem Managed.foldl {calls : List Call} (quiet : Undisturbed S store)
    (versions : KeepsVersions S store) (addressable : canary.targetObject.isAddressable = true)
    (unscaled : Unscaled found) (manages : ∀ call ∈ calls, call.Manages c canary) :
    ∀ (scale : Scale) (s : σ), Managed floats c canary found scale (store s) →
      Managed floats c canary found
        (calls.foldl (fun scale call => scale.after call.operation) scale)
        (store (Call.runAll S calls s)) := by
  induction calls with
  | nil =>
    intro scale s h
    exact h
  | cons call calls ih =>
    intro scale s h
    have next := (h.step quiet versions addressable unscaled
      (manages call List.mem_cons_self)).2
    exact ih (fun call mem => manages call (List.mem_cons_of_mem _ mem)) _ _ next

/-- A target that can be scaled is stored under its own name, and its primary, if there is one, does
not give itself that name. -/
structure Scalable (floats : Binary64 → Bool) (c : TemplateController) (canary : Canary)
    (store : Store) (found : Value) : Prop extends Unscaled found where
  addressable : canary.targetObject.isAddressable = true
  stored : ∃ v, store.get? (c.targetKey canary) = some v ∧ v.toManifest = .ok found ∧
    v.resourceVersion.Resendable
  own : ∃ name, ownName found = .ok name ∧ name.standard = canary.targetObject.standard
  json : found.isJson floats = true
  primary : ∀ w, store.get? (c.primaryKey canary) = some w → ¬ GivesName w canary.targetObject

theorem Scalable.managed (h : Scalable floats c canary (store s) found) :
    Managed floats c canary found .untouched (store s) where
  target := by
    obtain ⟨v, stored, manifest, version⟩ := h.stored
    exact ⟨v, found, stored, manifest, h.toUnscaled.stands_untouched, h.own, version,
      fun x hx => isJson_at? h.json hx⟩
  primary := h.primary

theorem run_hasTargetChanged {v target template : Value} {digest : String}
    (quiet : Undisturbed S store) (addressable : canary.targetObject.isAddressable = true)
    (stored : (store s).get? (c.targetKey canary) = some v) (manifest : v.toManifest = .ok target)
    (ht : templateOf target = .ok template) (hf : PodTemplate.fingerprint template = .ok digest) :
    ((c.hasTargetChanged canary).run S s).1 = .ok (canary.isNewRevision (.text digest)) := by
  have ends : Ends (c.hasTargetChanged canary) _ _ :=
    TemplateController.ends_hasTargetChanged.mpr
      ⟨v, target, template, digest, rfl, manifest, ht, hf, rfl⟩
  obtain ⟨run, -⟩ := run_of_ends _ ends ⟨quiet.read addressable stored, rfl⟩
  rw [run]

/-- However calls for a canary are made, its target is what the scaling that stands says; its
pod template has the fingerprint that it was found with, by which no canary of the target takes it
for changed any more or any less; and the next call moves the target as it should. -/
theorem scaling_is_no_drift (quiet : Undisturbed S store) (versions : KeepsVersions S store)
    (h : Scalable floats c canary (store s) found) (calls : List Call)
    (manages : ∀ call ∈ calls, call.Manages c canary) :
    (∃ v now expected, (store (Call.runAll S calls s)).get? (c.targetKey canary) = some v ∧
      v.toManifest = .ok now ∧ (Scale.afterCalls calls).target found = .ok expected ∧
      Agree filledPlaces expected now ∧
      ∃ template template' digest, templateOf found = .ok template ∧
        PodTemplate.fingerprint template = .ok digest ∧ templateOf now = .ok template' ∧
        PodTemplate.fingerprint template' = .ok digest) ∧
    (∀ watcher : Canary, watcher.targetObject = canary.targetObject → ∃ changed,
      ((c.hasTargetChanged watcher).run S s).1 = .ok changed ∧
      ((c.hasTargetChanged watcher).run S (Call.runAll S calls s)).1 = .ok changed) ∧
    ∀ call : Call, call.Manages c canary →
      Moves S store c canary (Scale.afterCalls calls) call (Call.runAll S calls s) := by
  have unscaled := h.toUnscaled
  -- by induction on the calls, each of which moves the target as it should
  have managed := Managed.foldl quiet versions h.addressable unscaled manages _ s h.managed
  obtain ⟨v, now, stored, target⟩ := managed.target
  obtain ⟨expected, he, stands⟩ := unscaled.exists_target (Scale.afterCalls calls)
  obtain ⟨template, template', digest, ht, hf, ht', hf'⟩ :=
    target.stands.exists_fingerprint unscaled h.json target.json
  obtain ⟨name, own, -⟩ := h.own
  refine ⟨⟨v, now, expected, stored, target.manifest, he,
    stands.agree target.stands (ownName_eq_ok.mp own).1, template, template', digest, ht, hf, ht',
    hf'⟩, ?_, ?_⟩
  · intro watcher same
    obtain ⟨v₀, stored₀, manifest₀, -⟩ := h.stored
    have key : c.targetKey watcher = c.targetKey canary := by
      rw [TemplateController.targetKey, TemplateController.targetKey, same]
    have addressable : watcher.targetObject.isAddressable = true := by
      rw [same]
      exact h.addressable
    rw [← key] at stored stored₀
    exact ⟨_, run_hasTargetChanged quiet addressable stored₀ manifest₀ ht hf,
      run_hasTargetChanged quiet addressable stored target.manifest ht' hf'⟩
  · intro call mine
    exact (managed.step quiet versions h.addressable unscaled mine).1

/-- A call for the Deployment `web`. -/
def sampleScalingCall (operation : Operation) : Call :=
  ⟨.template sampleController, operation, sampleCanary⟩

/-- The Deployment `web` and what is stored as its primary, under a name that it gives itself and
with a version. -/
def samplePrimaryNamed (name version : String) : Store :=
  [(⟨"Deployment", ⟨.text "web", .text "prod"⟩⟩, sampleUnscaled),
    (⟨"Deployment", ⟨.text "web-primary", .text "prod"⟩⟩,
      .object (sampleDeployment name version [("disk", .text "hdd")]))]

/-- Calm surroundings of the Deployment `web`. -/
def sampleQuiet : Surroundings (Store × Nat) :=
  calmSurroundings [] (fun podSpec _ => .ok podSpec) (sampleSite [] []).clock

theorem unscaled_sampleUnscaled : Unscaled sampleUnscaled where
  sections := by
    intro path hp
    simp only [containers, podSpecPlace, List.mem_cons, List.not_mem_nil, or_false] at hp
    rcases hp with rfl | rfl | rfl | rfl
    all_goals
      rintro x ⟨⟩
      exact ⟨_, rfl⟩
  selector := by
    rintro x ⟨⟩
    exact .inr ⟨_, rfl, by decide⟩

theorem scalable_sampleUnscaled :
    Scalable noFloats sampleController sampleCanary (samplePrimaryNamed "web-primary" "3")
      sampleUnscaled where
  toUnscaled := unscaled_sampleUnscaled
  addressable := by decide +kernel
  stored := ⟨sampleUnscaled, by decide +kernel, rfl, resendable_text "7"⟩
  own := ⟨⟨.text "web", .text "prod"⟩, by decide +kernel, by decide +kernel⟩
  json := by decide
  primary := by
    rintro w stored ⟨manifest, name, hm, own, same⟩
    obtain rfl : .object (sampleDeployment "web-primary" "3" [("disk", .text "hdd")]) = w :=
      Option.some.inj stored
    obtain rfl := Except.ok.inj hm
    obtain rfl : (⟨.text "web-primary", .text "prod"⟩ : ObjectName) = name := Except.ok.inj own
    exact absurd same (by decide +kernel)

/-- A Deployment that was scaled down, promoted and scaled up again is what it was; to finish the
release then writes nothing, and to scale the Deployment down again replaces it once. -/
theorem sampleScaling_is_no_drift :
    let after := Call.runAll sampleQuiet
      [sampleScalingCall .scaleToZero, sampleScalingCall .promote, sampleScalingCall .scaleFromZero]
      (samplePrimaryNamed "web-primary" "3", 0)
    (∃ v now, after.1.get? (sampleController.targetKey sampleCanary) = some v ∧
      v.toManifest = .ok now ∧ Agree filledPlaces sampleUnscaled now) ∧
    ((sampleScalingCall .finalize).program.log sampleQuiet after).filter
      (fun e => e.request.isWrite) = [] ∧
    ∃ name body, ((sampleScalingCall .scaleToZero).program.log sampleQuiet after).filter
      (fun e => e.request.isWrite) = [replaceExchange (.template .deployment) name body (.ok ())] := by
  intro after
  have manages (operation : Operation) (other : operation ≠ .establish) :
      (sampleScalingCall operation).Manages sampleController sampleCanary := ⟨rfl, rfl, other⟩
  have calm : Calm sampleQuiet Prod.fst [] fun podSpec _ => .ok podSpec := calm_calmSurroundings _
  have scalable : Scalable noFloats sampleController sampleCanary
    (Prod.fst (samplePrimaryNamed "web-primary" "3", 0)) sampleUnscaled := scalable_sampleUnscaled
  obtain ⟨⟨v, now, expected, stored, manifest, he, agree, -⟩, -, moves⟩ :=
    scaling_is_no_drift calm.undisturbed (keepsVersions_calmSurroundings _) scalable
      [sampleScalingCall .scaleToZero, sampleScalingCall .promote, sampleScalingCall .scaleFromZero]
      (by
        intro call mem
        simp only [List.mem_cons, List.not_mem_nil, or_false] at mem
        rcases mem with rfl | rfl | rfl
        all_goals exact manages _ nofun)
  obtain rfl : sampleUnscaled = expected := Except.ok.inj he
  refine ⟨⟨v, now, stored, manifest, agree⟩, ?_, ?_⟩
  · exact ((moves (sampleScalingCall .finalize) (manages _ nofun)).scaled rfl).2 rfl
  · obtain ⟨name, body, -, writes⟩ :=
      (moves (sampleScalingCall .scaleToZero) (manages _ nofun)).moved nofun
    exact ⟨name, body, writes⟩

/-- A promotion of a primary that gives itself its target's name replaces the target, which then is
what no scaling makes of it. -/
theorem named_like_target_overwrites :
    Unscaled sampleUnscaled ∧ GivesName sampleUnscaled sampleCanary.targetObject ∧
    ∃ v, (Call.runAll sampleQuiet [sampleScalingCall .promote] (samplePrimaryNamed "web" "7", 0)).1.get?
        (sampleController.targetKey sampleCanary) = some v ∧
      ∀ (scale : Scale) (expected : Value), scale.target sampleUnscaled = .ok expected →
        ¬ Agree filledPlaces expected v := by
  refine ⟨unscaled_sampleUnscaled, ⟨sampleUnscaled, _, rfl, rfl, rfl⟩, ?_⟩
  have overwritten : ((Call.runAll sampleQuiet [sampleScalingCall .promote]
      (samplePrimaryNamed "web" "7", 0)).1.get? (sampleController.targetKey sampleCanary)).bind
        (fun v => v.at? (labelsPlace ++ [.text "app"])) = some (.text "web-primary") := by
    decide +kernel
  obtain ⟨v, stored, label⟩ := Option.bind_eq_some_iff.mp overwritten
  refine ⟨v, stored, ?_⟩
  intro scale expected he agree
  have found : expected.at? (labelsPlace ++ [.text "app"]) = some (.text "web") := by
    cases scale with
    | untouched | down | up =>
      cases he
      rfl
  have same := agree (labelsPlace ++ [.text "app"]) (by decide)
  rw [AgreeAt, found, label] at same
  exact absurd (Value.text.inj (Option.some.inj same)) (by decide)

end CanaryRelease
