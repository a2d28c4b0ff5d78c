import CanaryRelease.Proofs.Establishing

/-!
# Repeated establishments

Establishing a canary once more finds everything done. What a success has found is kept as facts
about the store (`Controller.Concluded`), and they are all that another call needs to end well
without asking for a change (`Controller.Concluded.passes`). None of them lapses with time: a
rollout that was ready is ready by every later clock (`RolloutStatus.ready_at`).
-/

namespace CanaryRelease

open Program Workload PodTemplate Value

/-! ## Programs that pass -/

variable {τ α β : Type} {T : Surroundings τ} {storeT : τ → Store} {now : Store}

theorem Program.log_bind {p : Program α} {f : α → Program β} {t t' : τ} {a : α}
    (h : p.run T t = (.ok a, t')) : (p >>= f).log T t = p.log T t ++ (f a).log T t' := by
  induction p generalizing t with
  | done answer =>
    obtain ⟨⟨⟩, rfl⟩ := Prod.mk.inj h
    rfl
  | fail failure => cases (Prod.mk.inj h).1
  | ask request next ih => exact congrArg (List.cons _) (ih _ h)

/-- With a store, a program ends well, asks for no change and leaves the store as it is. -/
def Program.Passes (T : Surroundings τ) (storeT : τ → Store) (now : Store) (p : Program α)
    (post : α → Prop) : Prop :=
  ∀ t, storeT t = now → ∃ a t', p.run T t = (.ok a, t') ∧ post a ∧ storeT t' = now ∧
    ∀ e ∈ p.log T t, e.request.isWrite = false

namespace Program

variable {p : Program α} {f : α → Program β} {post : α → Prop} {post' : β → Prop}

theorem passes_pure {a : α} (h : post a) : Passes T storeT now (pure a : Program α) post :=
  fun t ht => ⟨a, t, rfl, h, ht, fun _ he => absurd he List.not_mem_nil⟩

theorem passes_lift {x : Except Failure α} {a : α} (hx : x = .ok a) (h : post a) :
    Passes T storeT now (liftM x) post := by
  subst hx
  exact passes_pure h

theorem Passes.bind (hp : Passes T storeT now p post)
    (hf : ∀ a, post a → Passes T storeT now (f a) post') :
    Passes T storeT now (p >>= f) post' := by
  intro t ht
  obtain ⟨a, t₁, run, found, same, reads⟩ := hp t ht
  obtain ⟨b, t₂, run', found', same', reads'⟩ := hf a found t₁ same
  refine ⟨b, t₂, ?_, found', same', ?_⟩
  · change Program.run T (p.bind f) t = _
    rw [run_bind, run]
    exact run'
  · rw [log_bind run]
    exact List.forall_mem_append.mpr ⟨reads, reads'⟩

theorem passes_request (undisturbed : Undisturbed T storeT) {r : Request} (hr : r.isWrite = false)
    {post : r.Reply → Prop} (h : ∀ t, storeT t = now → post (T r t).1) :
    Passes T storeT now (request r) post := by
  intro t ht
  refine ⟨(T r t).1, (T r t).2, rfl, h t ht, (undisturbed.store_eq hr t).trans ht, fun e he => ?_⟩
  obtain rfl := List.mem_singleton.mp he
  exact hr

theorem passes_silently (undisturbed : Undisturbed T storeT) {r : Request}
    (hr : r.isWrite = false) : Passes T storeT now (request r) fun _ => True :=
  passes_request undisturbed hr fun _ _ => trivial

variable {kind : Kind} {object : ObjectName} {v manifest : Value}

theorem passes_read (undisturbed : Undisturbed T storeT)
    (addressable : object.isAddressable = true)
    (stored : now.get? ⟨kind.name, object⟩ = some v) :
    Passes T storeT now (request (.readObject kind object)) (· = .ok v) := by
  refine passes_request undisturbed rfl fun t ht => undisturbed.read addressable ?_
  rw [ht, stored]

theorem passes_fetch (undisturbed : Undisturbed T storeT)
    (addressable : object.isAddressable = true)
    (stored : now.get? ⟨kind.name, object⟩ = some v) (hv : v.toManifest = .ok manifest) :
    Passes T storeT now (fetch kind object) (· = manifest) := by
  refine (passes_read undisturbed addressable stored).bind fun reply found => ?_
  subst found
  dsimp only
  rw [hv]
  exact passes_pure rfl

theorem passes_exists (undisturbed : Undisturbed T storeT)
    (addressable : object.isAddressable = true)
    (stored : now.get? ⟨kind.name, object⟩ = some v) :
    Passes T storeT now («exists» kind object) (· = true) := by
  refine (passes_read undisturbed addressable stored).bind fun reply found => ?_
  subst found
  exact passes_pure rfl

end Program

/-! ## Readiness does not lapse -/

namespace RolloutStatus

variable {status : RolloutStatus} {deadline : Int} {clock later : Timestamp}

theorem exists_isStuck {stuck : Bool} (h : status.isStuck deadline clock = .ok stuck)
    (zone : later.offset.isSome = clock.offset.isSome) :
    ∃ stuck', status.isStuck deadline later = .ok stuck' := by
  unfold isStuck at h ⊢
  rw [zone]
  cases available : status.availability with
  | none => exact ⟨false, rfl⟩
  | some condition =>
    simp only [available] at h ⊢
    split
    · exact ⟨false, rfl⟩
    · rename_i short
      rw [if_neg short] at h
      cases since : condition.since with
      | none => exact ⟨false, rfl⟩
      | some start =>
        simp only [since] at h ⊢
        cases limit : start.instantAfter? deadline with
        | none =>
          rw [limit] at h
          cases h
        | some last =>
          simp only [limit] at h ⊢
          split at h
          · rename_i comparable
            exact ⟨_, if_pos comparable⟩
          · cases h

theorem ready_at {readiness : Readiness} (h : status.readiness deadline clock = .ok readiness)
    (ready : readiness.verdict = .ready) (zone : later.offset.isSome = clock.offset.isSome) :
    ∃ readiness', status.readiness deadline later = .ok readiness' ∧
      readiness'.verdict = .ready := by
  unfold RolloutStatus.readiness at h ⊢
  obtain ⟨behind, hb, h⟩ := bind_eq_ok.mp h
  rw [hb]
  cases behind with
  | true =>
    obtain rfl := Except.ok.inj h
    cases ready
  | false =>
    by_cases exceeded : (status.progressing.map Condition.reason) = some deadlineExceeded
    · simp only [exceeded, if_true] at h
      obtain rfl := Except.ok.inj h
      cases ready
    · simp only [Bool.false_eq_true, if_false, exceeded] at h
      obtain ⟨stuck, hs, h⟩ := bind_eq_ok.mp h
      obtain ⟨pending, hp, h⟩ := bind_eq_ok.mp h
      obtain ⟨stuck', hs'⟩ := exists_isStuck hs zone
      cases pending with
      | some what =>
        obtain rfl := Except.ok.inj h
        dsimp only at ready
        split at ready
        · cases ready
        · cases ready
      | none =>
        refine ⟨⟨.ready, ""⟩, ?_, rfl⟩
        refine bind_eq_ok.mpr ⟨false, rfl, ?_⟩
        simp only [Bool.false_eq_true, if_false, exceeded]
        exact bind_eq_ok.mpr ⟨stuck', hs', bind_eq_ok.mpr ⟨none, hp, rfl⟩⟩

end RolloutStatus

/-! ## What a success has found -/

variable {canary : Canary} {zoned : Bool}

namespace TemplateController

variable {c : TemplateController}

/-- `w` is a primary whose rollout is ready by some clock, and which declares replicas. -/
def RolledOut (c : TemplateController) (canary : Canary) (zoned : Bool) (w : Value) : Prop :=
  ∃ primary status clock readiness replicas,
    w.toManifest = .ok primary ∧ RolloutStatus.ofObject c.kind primary = .ok status ∧
    clock.offset.isSome = zoned ∧
    status.readiness canary.progressDeadline clock = .ok readiness ∧ readiness.verdict = .ready ∧
    RolloutStatus.declaredReplicas c.kind primary = .ok replicas ∧ replicas.alike (.int 0) = false

/-- What an establishment that succeeds has found in a store, and has made sure of: the target is
accepted and the primary is there; in an initial phase the target has the marker, and the primary is
ready unless the analysis is skipped. -/
structure Concluded (c : TemplateController) (canary : Canary) (zoned : Bool) (now : Store) :
    Prop where
  targetName : canary.targetObject.isAddressable = true
  primaryName : (primaryObject canary).isAddressable = true
  target : ∃ v target, now.get? (c.targetKey canary) = some v ∧ v.toManifest = .ok target ∧
    Accepts c target ∧ (canary.phase.isInitial = true → ∃ podSpec,
      PodTemplate.podSpec target = .ok podSpec ∧ hasMarker podSpec = .ok true)
  primary : ∃ w, now.get? (c.primaryKey canary) = some w ∧
    (canary.phase.isInitial = true → canary.skipAnalysis = false → RolledOut c canary zoned w)

theorem passes_checkPrimary {w : Value} (undisturbed : Undisturbed T storeT)
    (clock : ∀ t, (T .readClock t).1.offset.isSome = zoned)
    (addressable : (primaryObject canary).isAddressable = true)
    (stored : now.get? (c.primaryKey canary) = some w) (ready : RolledOut c canary zoned w) :
    Passes T storeT now (c.checkPrimary canary) fun _ => True := by
  obtain ⟨primary, status, earlier, readiness, replicas, hw, hs, zone, hr, verdict, hd,
    some_left⟩ := ready
  unfold checkPrimary checkRollout ensureReady
  refine (passes_fetch undisturbed addressable stored hw).bind fun _ found => ?_
  rw [found]
  have checked : Passes T storeT now (c.checkRollout canary .primary (primaryObject canary) primary)
      fun _ => True := by
    refine (passes_lift hs rfl).bind fun _ found => ?_
    subst found
    have read : Passes T storeT now (Program.request .readClock)
        fun now => now.offset.isSome = zoned := passes_request undisturbed rfl fun t _ => clock t
    refine read.bind fun later later_zone => ?_
    obtain ⟨readiness', hr', verdict'⟩ := RolloutStatus.ready_at hr verdict
      (later_zone.trans zone.symm)
    refine (passes_lift hr' rfl).bind fun _ found => ?_
    subst found
    refine (passes_silently undisturbed rfl).bind fun _ _ => ?_
    rw [if_pos verdict']
    exact passes_pure trivial
  refine checked.bind fun _ _ => (passes_lift hd rfl).bind fun _ found => ?_
  subst found
  rw [some_left]
  exact passes_pure trivial

theorem passes_scaleToZero {v target podSpec : Value} (undisturbed : Undisturbed T storeT)
    (addressable : canary.targetObject.isAddressable = true)
    (stored : now.get? (c.targetKey canary) = some v) (hv : v.toManifest = .ok target)
    (hp : PodTemplate.podSpec target = .ok podSpec) (marked : hasMarker podSpec = .ok true) :
    Passes T storeT now (c.scaleToZero canary) fun _ => True := by
  unfold scaleToZero
  refine (passes_fetch undisturbed addressable stored hv).bind fun _ found => ?_
  subst found
  refine (passes_lift hp rfl).bind fun _ found => ?_
  subst found
  refine (passes_lift marked rfl).bind fun _ found => ?_
  subst found
  exact (passes_silently undisturbed rfl).bind fun _ _ => passes_pure trivial

/-- With what a success has found, establishing changes nothing. -/
theorem Concluded.passes (h : Concluded c canary zoned now) (undisturbed : Undisturbed T storeT)
    (clock : ∀ t, (T .readClock t).1.offset.isSome = zoned) :
    Passes T storeT now (c.establish canary) fun _ => True := by
  obtain ⟨v, target, stored, hv, ⟨strategy, ⟨⟨label, value⟩, paired⟩⟩, marked⟩ := h.target
  obtain ⟨w, there, ready⟩ := h.primary
  have created : Passes T storeT now (c.createPrimary canary) fun _ => True := by
    unfold createPrimary
    refine (passes_fetch undisturbed h.targetName stored hv).bind fun _ found => ?_
    subst found
    refine (passes_lift strategy rfl).bind fun _ _ => ?_
    refine (passes_lift paired rfl).bind fun _ found => ?_
    subst found
    refine (passes_exists undisturbed h.primaryName there).bind fun _ found => ?_
    subst found
    exact passes_pure trivial
  unfold establish
  refine created.bind fun _ _ => ?_
  cases initial : canary.phase.isInitial with
  | false => exact passes_pure trivial
  | true =>
    obtain ⟨podSpec, hp, hm⟩ := marked initial
    have scaled := passes_scaleToZero undisturbed h.targetName stored hv hp hm
    have noted : Passes T storeT now (do
        Program.request (.note c.logger (.scalingDown c.kind.name canary.targetObject canary.key))
        c.scaleToZero canary) fun _ => True :=
      (passes_silently undisturbed rfl).bind fun _ _ => scaled
    cases skip : canary.skipAnalysis with
    | true => exact noted
    | false =>
      exact (passes_checkPrimary undisturbed clock h.primaryName there
        (ready initial skip)).bind fun _ _ => noted

end TemplateController

namespace ServiceController

variable {c : ServiceController} {object : ObjectName} {target : Value}

/-- What an establishment that succeeds has found in a store, and has made sure of: the target and
both derived services are there. -/
structure Concluded (canary : Canary) (now : Store) : Prop where
  targetName : canary.targetObject.isAddressable = true
  target : ∃ v target, now.get? ⟨Kind.service.name, canary.targetObject⟩ = some v ∧
    v.toManifest = .ok target
  derived : ∀ object ∈ [primaryObject canary, canaryObject canary],
    object.isAddressable = true ∧ ∃ w, now.get? ⟨Kind.service.name, object⟩ = some w

theorem passes_ensureDerived {w : Value} (undisturbed : Undisturbed T storeT)
    (addressable : object.isAddressable = true)
    (there : now.get? ⟨Kind.service.name, object⟩ = some w) :
    Passes T storeT now (c.ensureDerived canary object target) (· = false) := by
  unfold ensureDerived
  refine (passes_exists undisturbed addressable there).bind fun _ found => ?_
  subst found
  exact passes_pure rfl

theorem Concluded.passes (h : Concluded canary now) (undisturbed : Undisturbed T storeT) :
    Passes T storeT now (c.establish canary) fun _ => True := by
  obtain ⟨v, target, stored, hv⟩ := h.target
  obtain ⟨primaryName, _, primary⟩ := h.derived _ List.mem_cons_self
  obtain ⟨canaryName, _, there⟩ :=
    h.derived (canaryObject canary) (List.mem_cons_of_mem _ (List.mem_singleton_self _))
  unfold establish
  refine (passes_fetch undisturbed h.targetName stored hv).bind fun _ found => ?_
  subst found
  refine (passes_ensureDerived undisturbed canaryName there).bind fun _ _ => ?_
  refine (passes_ensureDerived undisturbed primaryName primary).bind fun _ found => ?_
  subst found
  exact passes_pure trivial

end ServiceController

namespace Controller

/-- What an establishment that succeeds has found in a store. -/
def Concluded : Controller → Canary → Bool → Store → Prop
  | template c, canary, zoned, now => c.Concluded canary zoned now
  | service _, canary, _, now => ServiceController.Concluded canary now

theorem Concluded.passes {controller : Controller} (h : controller.Concluded canary zoned now)
    (undisturbed : Undisturbed T storeT)
    (clock : ∀ t, (T .readClock t).1.offset.isSome = zoned) :
    Passes T storeT now (controller.call .establish canary) (· = .null) := by
  cases controller with
  | template c =>
    exact (TemplateController.Concluded.passes h undisturbed clock).bind fun _ _ => passes_pure rfl
  | service c =>
    exact (ServiceController.Concluded.passes h undisturbed).bind fun _ _ => passes_pure rfl

end Controller

end CanaryRelease
