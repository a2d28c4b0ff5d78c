import CanaryRelease.Proofs.Retries
import CanaryRelease.Proofs.ServiceVersions

/-!
# Specs of derived services

The services that are derived from a target have its ports, without the node ports, and its
selector, and nothing else in their specs (`Reflects`). A promotion gives a primary the same type,
ports and selector and leaves everything else as it was (`PromotedFrom`); of a primary that was
derived nothing is left that the target does not have any more (`mirrors_of_promoted`).
-/

namespace CanaryRelease

open Program Workload Value

theorem Unshared.get?_or_put {σ : Type} {S : Surroundings σ} {stored : σ → Store} {s s' : σ}
    {log : List Exchange} (unshared : Unshared S stored) (replays : Replays S s log s')
    (key : ObjectKey) :
    (stored s').get? key = (stored s).get? key ∨
      ∃ before e after other body kept, log = before ++ e :: after ∧
        e.request.change? = some (other, body) ∧ SameApart serverPlaces body kept ∧
        (stored s').get? key = some kept := by
  induction log generalizing s with
  | nil =>
    rw [show s' = s from replays]
    exact .inl rfl
  | cons e log ih =>
    obtain ⟨reply, rest⟩ := replays
    obtain ⟨disturbed, served⟩ := unshared e.request s
    rw [reply] at served
    rcases ih rest with same | ⟨before, e', after, other, body, kept, rfl, change, here, there⟩
    · rw [same]
      rcases served.eq_or_put with unchanged | ⟨other, body, kept, change, here, put⟩
      · rw [unchanged]
        exact .inl rfl
      · rw [put, Store.get?_put]
        split
        · exact .inr ⟨[], e, log, other, body, kept, rfl, change, here, rfl⟩
        · exact .inl rfl
    · exact .inr ⟨e :: before, e', after, other, body, kept, rfl, change, here, there⟩

namespace ServiceController

variable {c : ServiceController} {canary : Canary} {target primary v w body : Value}
  {ports : List Fields} {selector : Fields} {log : List Exchange}

/-! ## Mirrored specs -/

/-- A target shows some ports and a selector; what it has not set counts as empty. -/
structure Shows (target : Value) (ports : List Fields) (selector : Fields) : Prop where
  isObject : ∃ fs : Fields, target = .object fs
  spec : SectionAt target ["spec"]
  ports : target.at? ["spec", "ports"] = some (.list (ports.map .object)) ∨
    (∀ x, target.at? ["spec", "ports"] = some x → x.isUnset = true) ∧ ports = []
  selector : target.at? ["spec", "selector"] = some (.object selector) ∨
    (∀ x, target.at? ["spec", "selector"] = some x → x.isUnset = true) ∧ selector = []

/-- Ports without their node ports. -/
def mirroredPorts (ports : List Fields) : Value :=
  .list (ports.map fun port => .object (port.erase "nodePort"))

/-- A selector, if there is anything in it. -/
def mirroredSelector (selector : Fields) : Option Value :=
  if selector.isEmpty then none else some (.object selector)

/-- The spec of a derived service. -/
def specOf (ports : Value) : Option Value → Fields
  | none => [("type", .text "ClusterIP"), ("ports", ports)]
  | some selector => [("type", .text "ClusterIP"), ("ports", ports), ("selector", selector)]

/-- The spec that mirrors some ports and a selector. -/
def mirrorSpec (ports : List Fields) (selector : Fields) : Fields :=
  specOf (mirroredPorts ports) (mirroredSelector selector)

theorem withSelector_eq_specOf (ports : Value) (selector : Option Value) :
    withSelector [("type", .text "ClusterIP"), ("ports", ports)] selector =
      specOf ports selector := by
  cases selector <;> rfl

theorem withSelector_specOf (old ports : Value) (selector' selector : Option Value) :
    withSelector (((specOf old selector').set "type" (.text "ClusterIP")).set "ports" ports)
      selector = specOf ports selector := by
  cases selector' <;> cases selector <;> rfl

theorem clusterPorts_list (ports : List Fields) :
    clusterPorts (.list (ports.map .object)) = .ok (mirroredPorts ports) := by
  have each : (ports.map Value.object).mapM clusterPort =
      .ok (ports.map fun port => .object (port.erase "nodePort")) := by
    rw [List.mapM_map]
    exact List.mapM_pure
  have items : ((Value.list (ports.map .object)).orElse (.list [])).elements =
      .ok (ports.map .object) := by cases ports <;> rfl
  unfold clusterPorts
  exact bind_eq_ok.mpr ⟨_, items, bind_eq_ok.mpr ⟨_, each, rfl⟩⟩

/-- What a target hands on to the services that are derived from it: ports, and a selector if there
is one. -/
def HandsOn (target ports : Value) (selector : Option Value) : Prop :=
  ∃ source : Fields, target.getSection "spec" = .ok (.object source) ∧
    clusterPorts ((source.get? "ports").getD .null) = .ok ports ∧
    handedSelector source = .ok selector

theorem HandsOn.unique {target' ports ports' : Value} {selector selector' : Option Value}
    (h : HandsOn target ports selector) (h' : HandsOn target' ports' selector')
    (same : target.getSection "spec" = target'.getSection "spec") :
    ports = ports' ∧ selector = selector' := by
  obtain ⟨source, hs, hp, hh⟩ := h
  obtain ⟨source', hs', hp', hh'⟩ := h'
  obtain ⟨⟩ := Except.ok.inj (hs.symm.trans (same.trans hs'))
  exact ⟨Except.ok.inj (hp.symm.trans hp'), Except.ok.inj (hh.symm.trans hh')⟩

theorem Shows.handsOn (h : Shows target ports selector) :
    HandsOn target (mirroredPorts ports) (mirroredSelector selector) := by
  obtain ⟨fs, rfl⟩ := h.isObject
  obtain ⟨source, hspec⟩ := h.spec.exists_getSection
  have inSpec (key : String) : source.get? (.text key) =
      (Value.object fs).at? ["spec", .text key] := by
    rw [← isSection_of_getSection hspec, at?_object_singleton]
  refine ⟨source, hspec, ?_, ?_⟩
  · rw [inSpec]
    rcases h.ports with stands | ⟨unset, rfl⟩
    · rw [stands]
      exact clusterPorts_list ports
    · cases stands : (Value.object fs).at? ["spec", "ports"] with
      | none => rfl
      | some x =>
        rw [Option.getD_some, clusterPorts, orElse, if_pos (unset x stands)]
        rfl
  · unfold handedSelector
    dsimp only
    rw [inSpec]
    rcases h.selector with stands | ⟨unset, rfl⟩
    · rw [stands]
      cases selector <;> rfl
    · cases stands : (Value.object fs).at? ["spec", "selector"] with
      | none => rfl
      | some x =>
        rw [Option.getD_some, if_pos (unset x stands)]
        rfl

/-! ## Bodies that mirror a target -/

/-- The spec of a service is made of what a target hands on and of nothing else. -/
def Mirrors (target body : Value) : Prop :=
  ∃ (ports : Value) (selector : Option Value), HandsOn target ports selector ∧
    body.at? ["spec"] = some (.object (specOf ports selector))

theorem Mirrors.spec_eq {target' body' : Value} (h : Mirrors target body)
    (h' : Mirrors target' body') (same : target.getSection "spec" = target'.getSection "spec") :
    body.at? ["spec"] = body'.at? ["spec"] := by
  obtain ⟨ports, selector, handed, stands⟩ := h
  obtain ⟨ports', selector', handed', stands'⟩ := h'
  obtain ⟨rfl, rfl⟩ := handed.unique handed' same
  rw [stands, stands']

/-- No port of a service has a node port. -/
def NoNodePort (body : Value) : Prop :=
  ∀ items, body.at? ["spec", "ports"] = some (.list items) →
    ∀ port ∈ items, port.at? ["nodePort"] = none

/-- What a service has for its spec is what mirrors the target, with no node port in it. -/
structure Reflects (target body : Value) : Prop where
  mirrors : Mirrors target body
  spec : ∀ ports selector, Shows target ports selector →
    body.at? ["spec"] = some (.object (mirrorSpec ports selector))
  noNodePort : NoNodePort body

theorem nodePort_eq_none_of_mapM {given ports : List Value}
    (h : given.mapM clusterPort = .ok ports) : ∀ port ∈ ports, port.at? ["nodePort"] = none := by
  induction given generalizing ports with
  | nil =>
    obtain rfl := Except.ok.inj h
    exact fun _ mem => absurd mem List.not_mem_nil
  | cons port given ih =>
    rw [List.mapM_cons] at h
    obtain ⟨first, erased, h⟩ := bind_eq_ok.mp h
    obtain ⟨rest, hrest, ⟨⟩⟩ := bind_eq_ok.mp h
    obtain ⟨fs, rfl, rfl⟩ := erase_eq_ok.mp erased
    refine List.forall_mem_cons.mpr ⟨?_, ih hrest⟩
    rw [at?_erase, if_pos rfl]

theorem Mirrors.reflects (h : Mirrors target body) : Reflects target body := by
  obtain ⟨ports, selector, handed, stands⟩ := h
  refine ⟨⟨ports, selector, handed, stands⟩, fun ports' selector' shown => ?_, fun items here => ?_⟩
  · obtain ⟨rfl, rfl⟩ := handed.unique shown.handsOn rfl
    exact stands
  · have standing : body.at? ["spec", "ports"] = some ports := by
      have whole := at?_append body [.text "spec"] [.text "ports"]
      rw [stands, Option.bind_some, at?_object_singleton] at whole
      rw [← List.singleton_append, whole]
      cases selector <;> rfl
    obtain rfl := Option.some.inj (standing.symm.trans here)
    obtain ⟨_, -, hp, -⟩ := handed
    unfold clusterPorts at hp
    obtain ⟨given, -, hp⟩ := bind_eq_ok.mp hp
    obtain ⟨_, each, ⟨⟩⟩ := bind_eq_ok.mp hp
    exact nodePort_eq_none_of_mapM each

theorem Mirrors.congr {kept : Value} (h : Mirrors target body)
    (same : SameApart serverPlaces body kept) : Mirrors target kept := by
  obtain ⟨ports, selector, handed, stands⟩ := h
  exact ⟨ports, selector, handed, (same _ (by simp [serverPlaces])).trans stands⟩

theorem mirrors_of_derivedBody {object : ObjectName}
    (h : c.derivedBody canary object target = .ok body) : Mirrors target body := by
  obtain ⟨source, ports, selector, hs, hp, hh, -, stands⟩ := exists_spec_of_derivedBody h
  rw [withSelector_eq_specOf] at stands
  exact ⟨ports, selector, ⟨source, hs, hp, hh⟩, stands⟩

/-- A service has the spec of a derived one, whichever target it was derived from. -/
def IsDerived (v : Value) : Prop :=
  ∃ (ports : Value) (selector : Option Value),
    v.at? ["spec"] = some (.object (specOf ports selector))

theorem Mirrors.isDerived (h : Mirrors target body) : IsDerived body := by
  obtain ⟨ports, selector, -, stands⟩ := h
  exact ⟨ports, selector, stands⟩

theorem IsDerived.manifest (h : IsDerived w) (manifest : w.toManifest = .ok primary) :
    IsDerived primary := by
  obtain ⟨ports, selector, stands⟩ := h
  obtain ⟨fs, -, parts⟩ := toManifest_eq_ok manifest
  refine ⟨ports.wire, selector.map wire, ?_⟩
  rw [parts, at?_wire, stands]
  cases selector <;> rfl

theorem mirrors_of_promoted {changed : Value} (derived : IsDerived primary)
    (h : promoted primary target = .ok changed) (hb : writeBody .service changed = .ok body) :
    Mirrors target body := by
  obtain ⟨source, fs, spec, ports, selector, hs, rfl, isSpec, hp, hh, rfl⟩ := promoted_eq_ok.mp h
  obtain ⟨old, selector', stands⟩ := derived
  rw [at?_object_singleton] at stands
  rw [stands, Option.getD_some] at isSpec
  obtain rfl := Value.object.inj isSpec
  have written := (writtenBack_of_writeBody hb (.refl [] _) (by simp)).same
  refine ⟨ports, selector, ⟨source, hs, hp, hh⟩, ?_⟩
  rw [written _ (by simp), at?_set, if_pos rfl, withSelector_specOf]
  rfl

/-! ## One call -/

/-- What a promotion makes of a primary: it has the type, the ports and the selector that mirror the
target, and is otherwise what it was. -/
structure PromotedFrom (target primary last : Value) : Prop where
  frame : WrittenBack .service (promotedPlaces ++ serverPlaces) primary last
  type : last.at? ["spec", "type"] = some (.text "ClusterIP")
  mirrored : ∀ ports selector, Shows target ports selector →
    last.at? ["spec", "ports"] = some (mirroredPorts ports) ∧
      last.at? ["spec", "selector"] = mirroredSelector selector

theorem promotedFrom_of_promoted {changed kept : Value} (h : promoted primary target = .ok changed)
    (hb : writeBody .service changed = .ok body) (same : SameApart serverPlaces body kept) :
    PromotedFrom target primary kept := by
  obtain ⟨source, ports, selector, hs, hp, hh, type, ports_at, selector_at⟩ :=
    madeFrom_of_promoted h hb
  have written : WrittenBack .service promotedPlaces primary body :=
    writtenBack_of_writeBody hb (sameApart_promoted h) (by simp [promotedPlaces])
  have still {path : Path} (apart : ∀ place ∈ serverPlaces, Path.Apart path place) :
      kept.at? path = body.at? path := same path apart
  refine ⟨written.of_sameApart same (by simp [serverPlaces]), ?_, fun ports' selector' shown => ?_⟩
  · rw [still (by simp [serverPlaces]), type]
  · have handed : HandsOn target ports selector := ⟨source, hs, hp, hh⟩
    obtain ⟨rfl, rfl⟩ := handed.unique shown.handsOn rfl
    exact ⟨by rw [still (by simp [serverPlaces]), ports_at],
      by rw [still (by simp [serverPlaces]), selector_at]⟩

theorem exists_of_ends_promote (h : Ends (c.promote canary) log (.ok ())) :
    ∃ v w target primary changed name body told,
      log = [readExchange .service canary.targetObject (.ok v),
        readExchange .service (primaryObject canary) (.ok w)] ++
        replaceExchange .service name body (.ok ()) :: told ∧ Unwritten told ∧
      v.toManifest = .ok target ∧ w.toManifest = .ok primary ∧
      promoted primary target = .ok changed ∧ ownName changed = .ok name ∧
      writeBody .service changed = .ok body := by
  unfold promote at h
  obtain ⟨target, _, _, rfl, ht, rest⟩ := ends_bind_ok.mp h
  obtain ⟨v, rfl, hv⟩ := ends_fetch.mp ht
  obtain ⟨primary, _, _, rfl, hp, making⟩ := ends_bind_ok.mp rest
  obtain ⟨w, rfl, hw⟩ := ends_fetch.mp hp
  obtain ⟨changed, hc, writing⟩ := ends_lift_bind.mp making
  obtain ⟨_, _, _, rfl, updated, telling⟩ := ends_bind_ok.mp writing
  obtain ⟨name, body, own, hb, rfl⟩ := ends_update.mp updated
  obtain ⟨_, _, _, rfl, counted, noted⟩ := ends_bind_ok.mp telling
  obtain ⟨_, rfl, -⟩ := ends_request.mp counted
  obtain ⟨_, rfl, -⟩ := ends_request.mp noted
  exact ⟨v, w, target, primary, changed, name, body, _, rfl, by simp [Exchange.wrote], hv, hw, hc,
    own, hb⟩

section Alone

variable {σ : Type} {S : Surroundings σ} {stored : σ → Store} {s s' : σ}

/-- The key of a canary's target. -/
def targetKey (canary : Canary) : ObjectKey := ⟨Kind.service.name, canary.targetObject⟩

/-- The key of a canary's primary. -/
def primaryKey (canary : Canary) : ObjectKey := ⟨Kind.service.name, primaryObject canary⟩

/-- Every service that appears while a canary is established mirrors the target that was stored. -/
theorem reflects_of_establish (unshared : Unshared S stored) (c : ServiceController)
    (canary : Canary) (s : σ) {key : ObjectKey} {last : Value}
    (missing : (stored s).get? key = none)
    (here : (stored ((c.establish canary).run S s).2).get? key = some last) :
    ∃ v target, (stored s).get? (targetKey canary) = some v ∧ v.toManifest = .ok target ∧
      Reflects target last := by
  have ends := ends_log S (c.establish canary) s
  have replays := replays_log S (c.establish canary) s
  rcases unshared.get?_or_put replays key with same | ⟨before, e, after, other, body, kept, split,
    change, same, there⟩
  · rw [here, missing] at same
    cases same
  · rw [split] at ends replays
    have writes : Writes (c.establish canary) before e.request :=
      ⟨ends.asks, Request.isWrite_of_change? change⟩
    obtain ⟨v, target, object, made, rest, rfl, manifest, -, derived, asked⟩ :=
      exists_body_of_writes writes
    rw [asked] at change
    obtain ⟨-, rfl⟩ := Prod.mk.inj (Option.some.inj change)
    obtain rfl := Option.some.inj (here.symm.trans there)
    exact ⟨v, target, (unshared.read_first replays).1, manifest,
      ((mirrors_of_derivedBody derived).congr same).reflects⟩

/-- A promotion that ends well changes the primary as it should and nothing else, if the primary is
stored under the name that it gives itself. -/
theorem promotedFrom_of_promote (unshared : Unshared S stored) (c : ServiceController)
    (canary : Canary) {s s' : σ} (w_stored : (stored s).get? (primaryKey canary) = some w)
    (own : ∀ name ∈ w.ownName?, name.standard = (primaryObject canary).standard)
    (run : (c.promote canary).run S s = (.ok (), s')) :
    ∃ v target primary last, (stored s).get? (targetKey canary) = some v ∧
      v.toManifest = .ok target ∧ w.toManifest = .ok primary ∧
      (stored s').get? (primaryKey canary) = some last ∧ PromotedFrom target primary last ∧
      ∀ key, ¬ (primaryKey canary).Same key → (stored s').get? key = (stored s).get? key := by
  have ends := ends_log S (c.promote canary) s
  have replays := replays_log S (c.promote canary) s
  rw [run] at ends replays
  obtain ⟨v, w', target, primary, changed, name, body, told, split, untold, hv, hw, hc, own_changed,
    hb⟩ := exists_of_ends_promote ends
  rw [split] at replays
  obtain ⟨s₁, early, reply, late⟩ := replays_append.mp replays
  have reads : Unwritten [readExchange .service canary.targetObject (.ok v),
      readExchange .service (primaryObject canary) (.ok w')] := by simp [Exchange.wrote]
  have v_stored := unshared.get?_of_read early reads List.mem_cons_self
  have w'_stored := unshared.get?_of_read early reads (List.mem_cons_of_mem _ List.mem_cons_self)
  obtain rfl := Option.some.inj (w'_stored.symm.trans w_stored)
  have own_primary : ownName primary = .ok name :=
    ownName_of_sameApart own_changed (sameApart_promoted hc) (by simp [promotedPlaces])
  have standard := own name (Value.ownName?_eq_some.mpr ⟨primary, hw, own_primary⟩)
  obtain ⟨disturbed, served⟩ := unshared (.replaceObject .service name body) s₁
  rw [reply, unshared.store_eq_of_replays early reads] at served
  obtain ⟨_, kept, -, -, same, put⟩ := served.of_replaced
  have after : stored s' = (stored s).put ⟨Kind.service.name, name⟩ kept :=
    (unshared.store_eq_of_replays late untold).trans put
  have here : ObjectKey.Same ⟨Kind.service.name, name⟩ (primaryKey canary) := ⟨rfl, standard⟩
  refine ⟨v, target, primary, kept, v_stored, hv, hw, ?_, promotedFrom_of_promoted hc hb same,
    fun key other => ?_⟩
  · rw [after, Store.get?_put, if_pos here]
  · rw [after, Store.get?_put, if_neg fun there => other (here.symm.trans there)]

end Alone

end ServiceController

end CanaryRelease
