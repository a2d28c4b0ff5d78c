import CanaryRelease.Proofs.FailedCalls
import CanaryRelease.Proofs.ScalingRuns
import CanaryRelease.Proofs.Trackers

/-!
# How canaries are established

An establishment goes through stages: the objects derived from the target are created unless they
are there, then the primary is checked, then the target is scaled down. What each stage exchanges
is said here for an establishment that succeeds (`TemplateController.ends_establish_ok`,
`ServiceController.ends_establish_ok`). What is created is a function of the target that was read,
up to the id that was drawn (`Builds`), and so is what the target is scaled down to
(`TemplateController.Marks`).
-/

namespace CanaryRelease

open Program Workload PodTemplate Value

/-! ## The objects of a canary -/

namespace Controller

/-- The key of a canary's target. -/
def targetKey (controller : Controller) (canary : Canary) : ObjectKey :=
  ⟨controller.kind.name, canary.targetObject⟩

/-- The key of a canary's primary. -/
def primaryKey (controller : Controller) (canary : Canary) : ObjectKey :=
  ⟨controller.kind.name, TemplateController.primaryObject canary⟩

/-- The objects that establishing derives from a canary's target. -/
def derivedObjects : Controller → Canary → List ObjectName
  | template _, canary => [TemplateController.primaryObject canary]
  | service _, canary =>
    [ServiceController.primaryObject canary, ServiceController.canaryObject canary]

end Controller

variable {canary : Canary} {controller : Controller} {object : ObjectName}

theorem ServiceController.primaryObject_mem_derivedObjects (c : ServiceController)
    (canary : Canary) :
    primaryObject canary ∈ (Controller.service c).derivedObjects canary := List.mem_cons_self

theorem ServiceController.canaryObject_mem_derivedObjects (c : ServiceController)
    (canary : Canary) :
    canaryObject canary ∈ (Controller.service c).derivedObjects canary :=
  List.mem_cons_of_mem _ (List.mem_singleton_self _)

theorem standard_ne_of_suffix (name : Value) {suffix : String} (h : suffix ≠ "") :
    (Value.text (name.display ++ suffix)).toKey?.map Key.standard ≠
      name.toKey?.map Key.standard := by
  intro same
  cases name with
  | text s =>
    have appended : s ++ suffix = s := by simpa [toKey?, Key.standard, display] using same
    exact h (by simpa using appended)
  | float x =>
    have key_eq : Key.Same (.text _) (.float x) := Option.some.inj same
    exact absurd (Key.text_same.mp key_eq) (by simp)
  | _ => simp [toKey?, Key.standard] at same

theorem not_same_targetKey (derived : object ∈ controller.derivedObjects canary) :
    ¬ ObjectKey.Same ⟨controller.kind.name, object⟩ (controller.targetKey canary) := by
  rintro ⟨-, same⟩
  have names : object.name.toKey?.map Key.standard =
      canary.target.name.toKey?.map Key.standard := congrArg Prod.snd same
  have suffixed : object.name = .text (canary.target.name.display ++ "-primary") ∨
      object.name = .text (canary.target.name.display ++ "-canary") := by
    cases controller with
    | template c => exact .inl (congrArg ObjectName.name (List.mem_singleton.mp derived))
    | service c =>
      rcases List.mem_cons.mp derived with rfl | derived
      · exact .inl rfl
      · exact .inr (congrArg ObjectName.name (List.mem_singleton.mp derived))
  rcases suffixed with suffixed | suffixed
  · rw [suffixed] at names
    exact standard_ne_of_suffix _ (by decide) names
  · rw [suffixed] at names
    exact standard_ne_of_suffix _ (by decide) names

theorem ServiceController.canaryObject_ne :
    (canaryObject canary).standard ≠ (primaryObject canary).standard := by
  intro same
  have names : Key.standard (.text (canary.target.name.display ++ "-canary")) =
      Key.standard (.text (canary.target.name.display ++ "-primary")) :=
    Option.some.inj (congrArg Prod.snd same)
  simp [Key.standard, String.append_right_inj] at names

theorem eq_of_derivedObjects {other : ObjectName}
    (derived : object ∈ controller.derivedObjects canary)
    (derived' : other ∈ controller.derivedObjects canary)
    (same : object.standard = other.standard) : object = other := by
  cases controller with
  | template c =>
    rw [List.mem_singleton.mp derived, List.mem_singleton.mp derived']
  | service c =>
    rcases List.mem_cons.mp derived with rfl | derived
    · rcases List.mem_cons.mp derived' with rfl | derived'
      · rfl
      · obtain rfl := List.mem_singleton.mp derived'
        exact absurd same.symm ServiceController.canaryObject_ne
    · obtain rfl := List.mem_singleton.mp derived
      rcases List.mem_cons.mp derived' with rfl | derived'
      · exact absurd same ServiceController.canaryObject_ne
      · exact (List.mem_singleton.mp derived').symm

/-! ## What is made of a target -/

variable {refs : List ConfigRef} {redirect : Value → List ConfigRef → Except Failure Value}
  {target body : Value} {log : List Exchange}

/-- `body` is what a controller makes of a target for an object that it derives, with an id and a
tracker that is a function. -/
inductive Builds (canary : Canary) (refs : List ConfigRef)
    (redirect : Value → List ConfigRef → Except Failure Value) (target : Value) :
    Controller → ObjectName → String → Value → Prop where
  | primary {c : TemplateController} {label id : String} {value redirected body : Value}
      (paired : c.pairingLabel target = .ok (label, value))
      (redirection : redirect (sourcePodSpec target) refs = .ok redirected)
      (made : Ends (c.primaryBody canary target label (primaryName value) refs)
        [⟨.drawId, id⟩, ⟨.redirectConfigs (sourcePodSpec target) refs, .ok redirected⟩]
        (.ok body)) :
      Builds canary refs redirect target (.template c) (TemplateController.primaryObject canary) id
        body
  | service {c : ServiceController} {object : ObjectName} {id : String} {body : Value}
      (made : c.derivedBody canary object target = .ok body) :
      Builds canary refs redirect target (.service c) object id body

theorem Derived.exists_builds (h : Derived canary target log controller object body)
    (tracker : ∀ e ∈ log, e.FromTracker refs redirect) :
    ∃ id, Builds canary refs redirect target controller object id body := by
  cases h with
  | primary paired told sub made =>
    obtain ⟨-, id, redirected, rfl, -, -⟩ := TemplateController.ends_primaryBody made
    obtain rfl := tracker _ told _ rfl
    have asked : ⟨.redirectConfigs (sourcePodSpec target) _, .ok redirected⟩ ∈ log :=
      sub (List.mem_cons_of_mem _ (List.mem_singleton_self _))
    exact ⟨id, .primary paired (tracker _ asked _ rfl) made⟩
  | service _ made => exact ⟨"", .service made⟩

theorem Derived.mem_derivedObjects (h : Derived canary target log controller object body) :
    object ∈ controller.derivedObjects canary := by
  cases h with
  | primary => exact List.mem_singleton_self _
  | service derived =>
    rcases derived with rfl | rfl
    · exact ServiceController.primaryObject_mem_derivedObjects ..
    · exact ServiceController.canaryObject_mem_derivedObjects ..

namespace TemplateController

variable {c : TemplateController}

/-- `body` is what a target that was read is written back with when it is scaled down. -/
structure Marks (c : TemplateController) (canary : Canary) (v target : Value) (name : ObjectName)
    (body : Value) : Prop where
  manifest : v.toManifest = .ok target
  own : ownName target = .ok name
  writes : Writes (c.scaleToZero canary)
    [readExchange (.template c.kind) canary.targetObject (.ok v)]
    (.replaceObject (.template c.kind) name body)
  unmarked : target.at? markerPlace ≠ some markerValue
  down : ScaledDown c.kind target body
  rescaled : Rescaled c.kind target body

theorem hasMarker_iff {podSpec : Value} {b : Bool} (hp : PodTemplate.podSpec target = .ok podSpec)
    (h : hasMarker podSpec = .ok b) : b = true ↔ target.at? markerPlace = some markerValue := by
  obtain ⟨fs, entries, rfl, hs⟩ := exists_selector h
  have selected := isSection_selectorOf fs markerKey []
  rw [hs, at?_object_singleton] at selected
  rw [hasMarker, getSection_selector, hs] at h
  have decided : decide ((entries.get? (.text markerKey)).getD .null = markerValue) = b :=
    Except.ok.inj h
  rw [← decided, decide_eq_true_iff, markerPlace, markerInPodSpec, ← at?_podSpec hp, ← selected]
  cases entries.get? (.text markerKey) with
  | none =>
    constructor
    · intro unset
      cases unset
    · intro found
      cases found
  | some x => exact ⟨congrArg some, Option.some.inj⟩

theorem marks_of_writes {r : Request} (h : Writes (c.scaleToZero canary) log r) :
    ∃ v target name body,
      log = [readExchange (.template c.kind) canary.targetObject (.ok v)] ∧
      r = .replaceObject (.template c.kind) name body ∧ Marks c canary v target name body := by
  obtain ⟨v, target, name, body, rfl, hv, own, rfl, down⟩ := writes_scaleToZero h
  obtain ⟨v', target', name', body', hlog, hv', -, hr, rescaled, -⟩ := rescaled_of_scaleToZero h
  obtain ⟨target'', podSpec, _, _, rewrites, unmarked, -⟩ := rewrites_of_scaleToZero h
  obtain ⟨v'', hlog', hv''⟩ := rewrites.read
  cases hlog
  cases hlog'
  cases hr
  obtain rfl := Except.ok.inj (hv.symm.trans hv')
  obtain rfl := Except.ok.inj (hv.symm.trans hv'')
  refine ⟨v, target, name, body, rfl, rfl, hv, own, h, fun marked => ?_, down, rescaled⟩
  have decided := (hasMarker_iff rewrites.podSpec unmarked).mpr marked
  cases decided

/-! ## The stages of a success -/

theorem ends_scaleToZero (h : Ends (c.scaleToZero canary) log (.ok ())) :
    (∃ v target podSpec told,
      log = [readExchange (.template c.kind) canary.targetObject (.ok v), told] ∧
      told.wrote = false ∧ v.toManifest = .ok target ∧
      PodTemplate.podSpec target = .ok podSpec ∧ hasMarker podSpec = .ok true) ∨
    ∃ v target name body told,
      log = [readExchange (.template c.kind) canary.targetObject (.ok v),
        replaceExchange (.template c.kind) name body (.ok ()), told] ∧
      told.wrote = false ∧ Marks c canary v target name body := by
  have whole := h
  unfold scaleToZero at h
  obtain ⟨target, _, after, rfl, ht, rest⟩ := ends_bind_ok.mp h
  obtain ⟨v, rfl, hv⟩ := ends_fetch.mp ht
  obtain ⟨podSpec, hp, rest⟩ := ends_lift_bind.mp rest
  obtain ⟨down, hd, rest⟩ := ends_lift_bind.mp rest
  cases down with
  | true =>
    obtain ⟨_, _, after, rfl, noting, ended⟩ := ends_bind_ok.mp rest
    obtain ⟨_, rfl, -⟩ := ends_request.mp noting
    obtain ⟨rfl, -⟩ := ends_pure.mp ended
    exact .inl ⟨v, target, podSpec, _, rfl, rfl, hv, hp, hd⟩
  | false =>
    obtain ⟨marked, -, rest⟩ := ends_lift_bind.mp rest
    obtain ⟨changed, -, rest⟩ := ends_lift_bind.mp rest
    obtain ⟨_, _, after, rfl, writing, counting⟩ := ends_bind_ok.mp rest
    obtain ⟨name, body, -, -, rfl⟩ := ends_update.mp writing
    obtain ⟨_, rfl, -⟩ := ends_request.mp counting
    have asks : Asks (c.scaleToZero canary)
        [readExchange (.template c.kind) canary.targetObject (.ok v)]
        (.replaceObject (.template c.kind) name body) := @Ends.asks _ _ [_] _ _ _ whole
    obtain ⟨v', target', name', body', hlog, hr, marks⟩ := marks_of_writes ⟨asks, rfl⟩
    cases hlog
    cases hr
    exact .inr ⟨v, target', name, body, _, rfl, rfl, marks⟩

/-- An establishment that succeeds has accepted the target and seen or created the primary; in an
initial phase it has found the primary ready, unless the analysis is skipped, and has scaled the
target down. -/
theorem ends_establish_ok (h : Ends (c.establish canary) log (.ok ())) :
    ∃ creating rest, log = creating ++ rest ∧ Ends (c.createPrimary canary) creating (.ok ()) ∧
      (canary.phase.isInitial = false ∧ rest = [] ∨
        canary.phase.isInitial = true ∧ ∃ checking told scaling,
          rest = checking ++ told :: scaling ∧ Unwritten checking ∧ told.wrote = false ∧
          (canary.skipAnalysis = false → FindsPrimaryReady c canary checking) ∧
          Ends (c.scaleToZero canary) scaling (.ok ())) := by
  unfold establish at h
  obtain ⟨_, creating, rest, rfl, created, later⟩ := ends_bind_ok.mp h
  refine ⟨creating, rest, rfl, created, ?_⟩
  cases initial : canary.phase.isInitial with
  | false =>
    rw [initial] at later
    exact .inl ⟨rfl, (ends_pure.mp later).1⟩
  | true =>
    rw [initial] at later
    cases skip : canary.skipAnalysis with
    | true =>
      rw [skip] at later
      obtain ⟨_, _, scaling, rfl, noting, scaled⟩ := ends_bind_ok.mp later
      obtain ⟨_, rfl, -⟩ := ends_request.mp noting
      exact .inr ⟨rfl, [], _, scaling, rfl, unwritten_nil, rfl, nofun, scaled⟩
    | false =>
      rw [skip] at later
      obtain ⟨_, checking, after, rfl, checked, rest⟩ := ends_bind_ok.mp later
      obtain ⟨_, _, scaling, rfl, noting, scaled⟩ := ends_bind_ok.mp rest
      obtain ⟨_, rfl, -⟩ := ends_request.mp noting
      exact .inr ⟨rfl, checking, _, scaling, rfl, readOnly_checkPrimary.unwritten checked, rfl,
        fun _ => ends_checkPrimary checked, scaled⟩

/-- A target that was read is fit for a canary: the first thing that an establishment finds out. -/
structure Accepts (c : TemplateController) (target : Value) : Prop where
  strategy : c.checkStrategy target = .ok ()
  paired : ∃ paired, c.pairingLabel target = .ok paired

section Congr

variable {later metadata : Value} {ss : Fields}

theorem getSection_spec_congr {spec x : Value} {field : String}
    (hlater : later.getSection "spec" = .ok (.object ss))
    (htarget : target.getSection "spec" = .ok spec)
    (same : later.at? ["spec", .text field] = target.at? ["spec", .text field])
    (hx : spec.getSection (.text field) = .ok x) :
    (Value.object ss).getSection (.text field) = .ok x := by
  have here := isSection_of_getSection hlater (.text field) []
  have there := isSection_of_getSection htarget (.text field) []
  obtain ⟨gs, rfl, rfl⟩ := getSection_eq_ok.mp hx
  rw [at?_object_singleton] at here there
  exact getSection_eq_ok.mpr ⟨ss, rfl, by rw [here, same, there]⟩

theorem checkStrategy_congr (accepted : c.checkStrategy target = .ok ())
    (hm : later.getSection "metadata" = .ok metadata)
    (hs : later.getSection "spec" = .ok (.object ss))
    (same : later.at? ["spec", .text c.kind.strategyField] =
      target.at? ["spec", .text c.kind.strategyField]) :
    c.checkStrategy later = .ok () := by
  unfold checkStrategy at accepted ⊢
  obtain ⟨_, -, accepted⟩ := bind_eq_ok.mp accepted
  obtain ⟨spec, hspec, accepted⟩ := bind_eq_ok.mp accepted
  obtain ⟨strategy, hstrategy, accepted⟩ := bind_eq_ok.mp accepted
  obtain ⟨type, ht, accepted⟩ := bind_eq_ok.mp accepted
  have stands := getSection_spec_congr hs hspec same hstrategy
  refine bind_eq_ok.mpr ⟨_, hm, bind_eq_ok.mpr ⟨_, hs, ?_⟩⟩
  refine bind_eq_ok.mpr ⟨strategy, stands, bind_eq_ok.mpr ⟨type, ht, ?_⟩⟩
  -- the metadata only matter to a refusal
  dsimp only at accepted ⊢
  split
  · rfl
  · rename_i set
    rw [if_neg set] at accepted
    split
    · rename_i shape
      rw [if_pos shape] at accepted
      cases accepted
    · rename_i scalar
      rw [if_neg scalar] at accepted
      split
      · rfl
      · rename_i other
        rw [if_neg other] at accepted
        obtain ⟨_, -, refused⟩ := bind_eq_ok.mp accepted
        cases refused

theorem matchLabels_congr {selected : Value} (h : matchLabels target = .ok selected)
    (hs : later.getSection "spec" = .ok (.object ss))
    (same : later.at? ["spec", "selector"] = target.at? ["spec", "selector"]) :
    matchLabels later = .ok selected := by
  unfold matchLabels at h ⊢
  obtain ⟨spec, hspec, h⟩ := bind_eq_ok.mp h
  obtain ⟨selector, hselector, hselected⟩ := bind_eq_ok.mp h
  have stands := getSection_spec_congr hs hspec same hselector
  exact bind_eq_ok.mpr ⟨_, hs, bind_eq_ok.mpr ⟨selector, stands, hselected⟩⟩

theorem pairingLabel_congr {paired : String × Value} (h : c.pairingLabel target = .ok paired)
    (hm : later.getSection "metadata" = .ok metadata)
    (hs : later.getSection "spec" = .ok (.object ss))
    (same : later.at? ["spec", "selector"] = target.at? ["spec", "selector"]) :
    c.pairingLabel later = .ok paired := by
  unfold pairingLabel at h ⊢
  obtain ⟨_, -, h⟩ := bind_eq_ok.mp h
  obtain ⟨selected, hselected, h⟩ := bind_eq_ok.mp h
  obtain ⟨found, hfound, h⟩ := bind_eq_ok.mp h
  refine bind_eq_ok.mpr ⟨_, hm, bind_eq_ok.mpr ⟨selected, matchLabels_congr hselected hs same, ?_⟩⟩
  refine bind_eq_ok.mpr ⟨found, hfound, ?_⟩
  split at h
  · exact h
  · obtain ⟨_, -, refused⟩ := bind_eq_ok.mp h
    cases refused

theorem Accepts.congr (h : Accepts c target)
    (metadata : ∃ fs : Fields, later.at? ["metadata"] = some (.object fs))
    (spec : ∃ fs : Fields, later.at? ["spec"] = some (.object fs))
    (strategy : later.at? ["spec", .text c.kind.strategyField] =
      target.at? ["spec", .text c.kind.strategyField])
    (selector : later.at? ["spec", "selector"] = target.at? ["spec", "selector"]) :
    Accepts c later := by
  obtain ⟨ms, hms⟩ := metadata
  obtain ⟨ss, hss⟩ := spec
  have hm := getSection_of_at? hms
  have hs := getSection_of_at? hss
  obtain ⟨paired, hp⟩ := h.paired
  exact ⟨checkStrategy_congr h.strategy hm hs strategy,
    paired, pairingLabel_congr hp hm hs selector⟩

end Congr

section Kept

variable {v kept : Value} {name : ObjectName}

theorem Marks.marker_kept (h : Marks c canary v target name body)
    (same : SameApart serverPlaces body kept) :
    kept.toManifest = .ok kept.wire ∧ kept.wire.at? markerPlace = some markerValue := by
  have marker : kept.at? markerPlace = some markerValue := by
    rw [same _ (by simp [serverPlaces, markerPlace, podSpecPlace]), h.down.marker]
  obtain ⟨fs, -, rfl, -⟩ := at?_text_eq_some.mp marker
  refine ⟨rfl, ?_⟩
  rw [at?_wire, marker]
  rfl

/-- What is kept of a target that was scaled down is accepted as it was, and scaling it down again
finds the marker. -/
theorem Marks.accepts_kept (h : Marks c canary v target name body)
    (same : SameApart serverPlaces body kept) (accepts : Accepts c target) :
    Accepts c kept.wire ∧ ∃ podSpec, PodTemplate.podSpec kept.wire = .ok podSpec ∧
      hasMarker podSpec = .ok true := by
  have wire := wire_of_toManifest h.manifest
  have named := h.rescaled.named_kept wire h.own same
  have sections := h.rescaled.sections_kept wire h.own same
  obtain ⟨-, marker⟩ := h.marker_kept same
  have elsewhere : SameApart (markerPlace :: filledPlaces) target kept.wire := by
    have both := (h.down.written.same.append same).wire
    rw [wire] at both
    exact both.mono (by simp +contextual [filledPlaces])
  have readable : Readable kept.wire := by
    refine ⟨fun path hp x hx => ?_, fun x hx => .inr ?_⟩
    · obtain ⟨fs, stands⟩ := sections path hp
      exact ⟨fs, Option.some.inj (hx.symm.trans stands)⟩
    · obtain ⟨fs, stands⟩ := exists_object_above (p := selectorPlace) (q := []) marker
      exact ⟨fs, Option.some.inj (hx.symm.trans stands)⟩
  obtain ⟨spec, entries, reads⟩ := readable.exists_reads
  refine ⟨?_, .object spec, reads.podSpec, ?_⟩
  · refine accepts.congr (exists_object_above (p := ["metadata"]) (q := []) named)
      (sections ["spec"] (by simp [containers])) (elsewhere _ ?_) (elsewhere _ ?_)
    · have other : c.kind.strategyField ≠ "template" := by cases c.kind <;> decide
      simp [filledPlaces, serverPlaces, markerPlace, podSpecPlace, other]
    · simp [filledPlaces, serverPlaces, markerPlace, podSpecPlace]
  · rw [hasMarker_eq (selectorOf_eq reads.selector), reads.get?_marker, marker]
    rfl

end Kept

theorem accepts_of_createPrimary (h : Ends (c.createPrimary canary) log (.ok ())) :
    ∃ v target rest, log = readExchange (.template c.kind) canary.targetObject (.ok v) :: rest ∧
      v.toManifest = .ok target ∧ Accepts c target := by
  unfold createPrimary at h
  obtain ⟨target, _, after, rfl, ht, rest⟩ := ends_bind_ok.mp h
  obtain ⟨v, rfl, hv⟩ := ends_fetch.mp ht
  obtain ⟨_, strategy, rest⟩ := ends_lift_bind.mp rest
  obtain ⟨paired, hp, -⟩ := ends_lift_bind.mp rest
  exact ⟨v, target, after, rfl, hv, strategy, paired, hp⟩

end TemplateController

namespace ServiceController

variable {c : ServiceController}

theorem ends_establish_ok (h : Ends (c.establish canary) log (.ok ())) :
    ∃ v target first second told created created',
      log = readExchange .service canary.targetObject (.ok v) :: (first ++ (second ++ told)) ∧
      v.toManifest = .ok target ∧ Unwritten told ∧
      Ends (c.ensureDerived canary (canaryObject canary) target) first (.ok created) ∧
      Ends (c.ensureDerived canary (primaryObject canary) target) second (.ok created') := by
  unfold establish at h
  obtain ⟨target, _, after, rfl, ht, rest⟩ := ends_bind_ok.mp h
  obtain ⟨v, rfl, hv⟩ := ends_fetch.mp ht
  obtain ⟨created, first, after, rfl, ensured, rest⟩ := ends_bind_ok.mp rest
  obtain ⟨created', second, told, rfl, ensured', counting⟩ := ends_bind_ok.mp rest
  refine ⟨v, target, first, second, told, created, created', rfl, hv, ?_, ensured, ensured'⟩
  exact (readOnly_ite (readOnly_request rfl) (readOnly_pure _)).unwritten counting

end ServiceController

theorem Controller.ends_silent_ok {p : Program Unit} {a : Value}
    (h : Ends (Controller.silent p) log (.ok a)) : Ends p log (.ok ()) := by
  obtain ⟨_, before, after, rfl, ended, rest⟩ := ends_bind_ok.mp h
  obtain ⟨rfl, -⟩ := ends_pure.mp rest
  simpa using ended

end CanaryRelease
