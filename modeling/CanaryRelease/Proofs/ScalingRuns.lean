import CanaryRelease.Proofs.CalmRuns
import CanaryRelease.Proofs.Ownership
import CanaryRelease.Proofs.ScaleStates

/-!
# Scaling a stored target

In undisturbed surroundings a call that scales a target goes through. If the target is not where the
call takes it, the call makes one replacement, after which the target stands as it should
(`StoredTarget.exists_run_scaleToZero`, `StoredTarget.exists_run_scaleFromZero`); otherwise it makes
none (`StoredTarget.exists_run_of_down`, `StoredTarget.exists_run_of_up`).
-/

namespace CanaryRelease

open Program Workload PodTemplate Value

/-! ## What scaling exchanges -/

theorem isJson_spec_of_withPodSpec {floats : Binary64 → Bool} {workload new changed : Value}
    (h : withPodSpec workload new = .ok changed)
    (json : ∀ x, workload.at? ["spec"] = some x → x.isJson floats = true)
    (hn : new.isJson floats = true) :
    ∀ x, changed.at? ["spec"] = some x → x.isJson floats = true := by
  simp only [withPodSpec, bind_eq_ok, set_eq_ok] at h
  obtain ⟨spec, hs, template, ht, _, ⟨ts, rfl, rfl⟩, _, ⟨ss, rfl, rfl⟩, fs, rfl, rfl⟩ := h
  have specJson : (object ss).isJson floats = true := by
    obtain ⟨_, ⟨⟩, hs⟩ := getOr_eq_ok.mp hs
    rw [hs]
    cases stands : fs.get? "spec" with
    | none => rfl
    | some x => exact json x (by rw [at?_object_singleton, stands])
  have templateJson : (object ts).isJson floats = true := by
    obtain ⟨_, ⟨⟩, ht⟩ := getOr_eq_ok.mp ht
    rw [ht]
    exact isJson_getD specJson isJson_empty
  intro x hx
  rw [at?_object_singleton, Fields.get?_set_self] at hx
  obtain rfl := Option.some.inj hx
  exact isJson_set specJson (isJson_set templateJson hn)

namespace TemplateController

variable {c : TemplateController} {canary : Canary} {v target : Value} {name : ObjectName}
  {spec new entries : Fields}

theorem exists_ends_update (hp : PodTemplate.podSpec target = .ok (.object spec))
    (own : ownName target = .ok name)
    (same : SameApart [markerInPodSpec] (.object spec) (.object new)) (action : String) :
    ∃ changed body, withPodSpec target (.object new) = .ok changed ∧
      writeBody (.template c.kind) changed = .ok body ∧
      Ends (update (.template c.kind) changed action)
        [replaceExchange (.template c.kind) name body (.ok ())] (.ok ()) := by
  obtain ⟨changed, hc, changed_same, -, -⟩ := exists_changed hp same
  have own_changed := ownName_of_sameApart own changed_same.symm (by simp [markerPlace, podSpecPlace])
  obtain ⟨body, hb⟩ : ∃ body, writeBody (.template c.kind) (.object changed) = .ok body := ⟨_, rfl⟩
  exact ⟨_, body, hc, hb, ends_update.mpr ⟨name, body, own_changed, hb, rfl⟩⟩

theorem hasMarker_eq (h : selectorOf (.object spec) = .object entries) :
    hasMarker (.object spec) = .ok (decide ((entries.get? markerKey).getD .null = markerValue)) := by
  unfold hasMarker
  rw [getSection_selector, h]
  rfl

theorem exists_ends_scaleToZero (canary : Canary) (hv : v.toManifest = .ok target)
    (own : ownName target = .ok name) (reads : Reads target spec entries)
    (unmarked : entries.get? markerKey = none) :
    ∃ changed body,
      withPodSpec target (.object (spec.set "nodeSelector"
        (.object (entries.set markerKey markerValue)))) = .ok changed ∧
      writeBody (.template c.kind) changed = .ok body ∧
      Ends (c.scaleToZero canary) [readExchange (.template c.kind) canary.targetObject (.ok v),
        replaceExchange (.template c.kind) name body (.ok ()),
        ⟨.count (.scaled c.kind.name true), ()⟩] (.ok ()) := by
  have selected := selectorOf_eq reads.selector
  have hd : hasMarker (.object spec) = .ok false := by
    rw [hasMarker_eq selected, unmarked]
    rfl
  have hm : addMarker (.object spec) = .ok (.object (spec.set "nodeSelector"
      (.object (entries.set markerKey markerValue)))) := by
    unfold addMarker
    rw [selectorEntries_object, selected]
    rfl
  obtain ⟨changed, body, hc, hb, ends⟩ :=
    exists_ends_update reads.podSpec own (sameApart_addMarker hd hm).1 "scale to zero"
  refine ⟨changed, body, hc, hb, ?_⟩
  unfold scaleToZero
  refine ends_bind_ok.mpr ⟨target, [_], _, rfl, ends_fetch.mpr ⟨v, rfl, hv⟩, ?_⟩
  refine ends_lift_bind.mpr ⟨_, reads.podSpec, ends_lift_bind.mpr ⟨false, hd, ?_⟩⟩
  refine ends_lift_bind.mpr ⟨_, hm, ends_lift_bind.mpr ⟨changed, hc, ?_⟩⟩
  exact ends_bind_ok.mpr ⟨(), [_], _, rfl, ends, ends_request.mpr ⟨(), rfl, rfl⟩⟩

theorem ends_scaleToZero_of_marked (canary : Canary) (hv : v.toManifest = .ok target)
    (reads : Reads target spec entries) (marked : entries.get? markerKey = some markerValue) :
    Ends (c.scaleToZero canary) [readExchange (.template c.kind) canary.targetObject (.ok v),
      ⟨.note c.logger (.alreadyDown c.kind.name canary.targetObject), ()⟩] (.ok ()) := by
  have hd : hasMarker (.object spec) = .ok true := by
    rw [hasMarker_eq (selectorOf_eq reads.selector), marked]
    rfl
  unfold scaleToZero
  refine ends_bind_ok.mpr ⟨target, [_], _, rfl, ends_fetch.mpr ⟨v, rfl, hv⟩, ?_⟩
  refine ends_lift_bind.mpr ⟨_, reads.podSpec, ends_lift_bind.mpr ⟨true, hd, ?_⟩⟩
  exact ends_bind_ok.mpr ⟨(), [_], [], rfl, ends_request.mpr ⟨(), rfl, rfl⟩,
    ends_pure.mpr ⟨rfl, rfl⟩⟩

theorem exists_ends_scaleFromZero (canary : Canary) (hv : v.toManifest = .ok target)
    (own : ownName target = .ok name) (reads : Reads target spec entries)
    (marked : entries.get? markerKey = some markerValue) :
    ∃ unmarked changed body,
      removeMarker (.object spec) = .ok unmarked ∧ withPodSpec target unmarked = .ok changed ∧
      writeBody (.template c.kind) changed = .ok body ∧
      Ends (c.scaleFromZero canary) [readExchange (.template c.kind) canary.targetObject (.ok v),
        replaceExchange (.template c.kind) name body (.ok ()),
        ⟨.count (.scaled c.kind.name false), ()⟩,
        ⟨.note c.logger (.scaledUp c.kind.name canary.targetObject), ()⟩] (.ok ()) := by
  have selected := selectorOf_eq reads.selector
  have hs := getSection_selector spec
  rw [selected] at hs
  have hm : (Value.object entries).mentions markerKey = .ok true := by
    show Except.ok (entries.get? markerKey).isSome = _
    rw [marked]
    rfl
  have base := baseEntries_of_selectorOf selected
  have hu := removeMarker_eq_ok.mpr ⟨spec, _, rfl, base, rfl⟩
  obtain ⟨⟨fs, isObject⟩, -⟩ := child?_of_removeMarker hu
  rw [isObject] at hu
  obtain ⟨changed, body, hc, hb, ends⟩ :=
    exists_ends_update reads.podSpec own (sameApart_removeMarker hs hm hu).1 "scale from zero"
  refine ⟨_, changed, body, hu, hc, hb, ?_⟩
  unfold scaleFromZero
  refine ends_bind_ok.mpr ⟨target, [_], _, rfl, ends_fetch.mpr ⟨v, rfl, hv⟩, ?_⟩
  refine ends_lift_bind.mpr ⟨_, reads.podSpec, ends_lift_bind.mpr ⟨_, hs, ?_⟩⟩
  refine ends_lift_bind.mpr ⟨true, hm, ends_lift_bind.mpr ⟨_, hu, ?_⟩⟩
  refine ends_lift_bind.mpr ⟨changed, hc, ends_bind_ok.mpr ⟨(), [_], _, rfl, ends, ?_⟩⟩
  exact ends_bind_ok.mpr ⟨(), [_], [_], rfl, ends_request.mpr ⟨(), rfl, rfl⟩,
    ends_request.mpr ⟨(), rfl, rfl⟩⟩

theorem ends_scaleFromZero_of_unmarked (canary : Canary) (hv : v.toManifest = .ok target)
    (reads : Reads target spec entries) (unmarked : entries.get? markerKey = none) :
    Ends (c.scaleFromZero canary) [readExchange (.template c.kind) canary.targetObject (.ok v),
      ⟨.note c.logger (.notDown c.kind.name canary.targetObject), ()⟩] (.ok ()) := by
  have hs := getSection_selector spec
  rw [selectorOf_eq reads.selector] at hs
  have hm : (Value.object entries).mentions markerKey = .ok false := by
    show Except.ok (entries.get? markerKey).isSome = _
    rw [unmarked]
    rfl
  unfold scaleFromZero
  refine ends_bind_ok.mpr ⟨target, [_], _, rfl, ends_fetch.mpr ⟨v, rfl, hv⟩, ?_⟩
  refine ends_lift_bind.mpr ⟨_, reads.podSpec, ends_lift_bind.mpr ⟨_, hs, ?_⟩⟩
  refine ends_lift_bind.mpr ⟨false, hm, ?_⟩
  exact ends_bind_ok.mpr ⟨(), [_], [], rfl, ends_request.mpr ⟨(), rfl, rfl⟩,
    ends_pure.mpr ⟨rfl, rfl⟩⟩

end TemplateController

/-! ## Stored targets -/

/-- A version that stays the same when it is sent back, as every text does. -/
def Value.Resendable (version : Value) : Prop :=
  version.wire = version ∧ version.alike version = true

variable {σ : Type} {S : Surroundings σ} {store : σ → Store} {s : σ}

/-- The versions that the server gives stay the same when they are sent back, if they did before. -/
def KeepsVersions (S : Surroundings σ) (store : σ → Store) : Prop :=
  ∀ kind object body s v, body.resourceVersion.Resendable →
    (S (.replaceObject kind object body) s).1 = .ok () →
    (store (S (.replaceObject kind object body) s).2).get? ⟨kind.name, object⟩ = some v →
      v.resourceVersion.Resendable

theorem version_bumped {v w : Value} (h : v.bumped = .ok w) :
    w = v ∨ ∃ version, w.resourceVersion = .text version := by
  obtain same | ⟨fs, metadata, changed, rfl, -, hc, rfl⟩ := changeMetadata_eq_ok h
  · exact .inl same
  · right
    obtain ⟨next, hnext, hc⟩ := bind_eq_ok.mp hc
    obtain rfl := Except.ok.inj hc
    rw [resourceVersion_eq, at?_set, if_pos rfl, at?_object_singleton, Fields.get?_set_self,
      Option.getD_some]
    unfold nextVersion at hnext
    split at hnext
    · exact ⟨_, (Except.ok.inj hnext).symm⟩
    · obtain ⟨n, -, hnext⟩ := bind_eq_ok.mp hnext
      exact ⟨_, (Except.ok.inj hnext).symm⟩

/-- What the server in memory keeps in the place of another object has the version of the body, or a
text for its version. -/
theorem version_asReplacing {old body kept : Value} (h : old.asReplacing body = .ok kept) :
    kept.resourceVersion = body.resourceVersion ∨
      ∃ version, kept.resourceVersion = .text version := by
  obtain ⟨written, hw, h⟩ := bind_eq_ok.mp h
  have same : kept.resourceVersion = written.resourceVersion := by
    split at h
    · rw [Except.ok.inj h]
    · obtain ⟨generation, -, h⟩ := bind_eq_ok.mp h
      have elsewhere : SameApart [["metadata", "generation"]] written kept := by
        refine sameApart_changeMetadata [["generation"]] (by simp) ?_ h
        rintro metadata changed ⟨⟩
        exact sameApart_set metadata "generation" generation
      rw [resourceVersion_eq, resourceVersion_eq, elsewhere _ (by simp)]
  rw [same]
  exact (version_bumped hw).imp_left (congrArg resourceVersion)

theorem resendable_text (version : String) : (Value.text version).Resendable :=
  ⟨rfl, text_alike.mpr rfl⟩

theorem keepsVersions_calmSurroundings {refs : List ConfigRef}
    {redirect : Value → List ConfigRef → Except Failure Value} (clock : Timestamp) :
    KeepsVersions (calmSurroundings refs redirect clock) Prod.fst := by
  rintro kind object body ⟨before, drawn⟩ v steady replied stored
  let key : ObjectKey := ⟨kind.name, object⟩
  change ((Server.serve .replace key body before).1.map fun _ => ()) = .ok () at replied
  change (Server.serve .replace key body before).2.get? key = some v at stored
  have put {kept : Value} (after : (Server.serve .replace key body before).2 = before.put key kept) :
      kept = v := by
    rw [after, Store.get?_put, if_pos (ObjectKey.same_self key)] at stored
    exact Option.some.inj stored
  unfold Server.serve Server.perform at replied put
  by_cases addressable : key.object.isAddressable = true
  · rw [if_pos addressable] at replied put
    cases found : before.get? key with
    | none =>
      simp only [found] at replied
      cases replied
    | some old =>
      simp only [found] at replied put
      by_cases alike : body.resourceVersion.alike old.resourceVersion = true
      · rw [if_pos alike] at put
        cases made : old.asReplacing body with
        | error failure =>
          rw [made] at put
          rw [← put rfl]
          exact steady
        | ok kept =>
          rw [made] at put
          rw [← put rfl]
          rcases version_asReplacing made with same | ⟨version, text⟩
          · rw [same]
            exact steady
          · rw [text]
            exact resendable_text version
      · rw [if_neg alike] at replied
        cases replied
  · rw [if_neg addressable] at replied
    cases replied

/-- A stored value is a target, under its own name, that stands as it was scaled since it was
found. -/
structure StoredTarget (floats : Binary64 → Bool) (object : ObjectName) (found : Value)
    (scale : Scale) (v now : Value) : Prop where
  manifest : v.toManifest = .ok now
  stands : Stands scale found now
  own : ∃ name, ownName now = .ok name ∧ name.standard = object.standard
  version : v.resourceVersion.Resendable
  json : ∀ x, now.at? ["spec"] = some x → x.isJson floats = true

variable {floats : Binary64 → Bool} {object : ObjectName} {found v now body kept : Value}
  {scale : Scale} {name : ObjectName} {kind : TemplateKind} {changed : Value}

theorem StoredTarget.of_rescaled (h : StoredTarget floats object found scale v now)
    (own : ownName now = .ok name) (rescaled : Rescaled kind now body)
    (same : SameApart serverPlaces body kept) {next : Scale} (scaled : next ≠ .untouched)
    (marker : body.at? markerPlace = if next = .down then some markerValue else none)
    (version : kept.resourceVersion.Resendable)
    (json : ∀ x, body.at? ["spec"] = some x → x.isJson floats = true) :
    StoredTarget floats object found next kept kept.wire := by
  have wire := wire_of_toManifest h.manifest
  have named := rescaled.named_kept wire own same
  have changes : SameApart (markerPlace :: filledPlaces) now kept.wire := by
    have both := (rescaled.written.same.append same).wire
    rw [wire] at both
    exact both.mono (by simp +contextual [filledPlaces])
  obtain ⟨fs, rfl⟩ : ∃ fs, kept = .object fs := by
    rw [at?_wire] at named
    obtain ⟨x, hx, -⟩ := Option.map_eq_some_iff.mp named
    obtain ⟨fs, hfs⟩ := exists_object_above (p := []) hx
    exact ⟨fs, Option.some.inj hfs⟩
  refine ⟨rfl, ⟨h.stands.same.trans changes, fun untouched => absurd untouched scaled,
    fun _ => rescaled.sections_kept wire own same, ?_, fun _ => rescaled.selector_kept same⟩, ?_,
    version, ?_⟩
  · rw [at?_wire, same _ (by simp [serverPlaces, markerPlace, podSpecPlace]), marker]
    split
    · rfl
    · rfl
  · obtain ⟨name', own', standard⟩ := h.own
    refine ⟨name', ownName_of_sameApart own' changes.symm ?_, standard⟩
    simp [filledPlaces, serverPlaces, markerPlace, podSpecPlace]
  · intro x hx
    rw [at?_wire, same _ (by simp [serverPlaces])] at hx
    obtain ⟨y, hy, rfl⟩ := Option.map_eq_some_iff.mp hx
    rw [wire_of_isJson y (json y hy)]
    exact json y hy

/-- A program that reads a target, replaces it by a change of its marker and then writes no more
runs to its end. -/
theorem StoredTarget.exists_run_of_ends {α : Type} {p : Program α} {a : α} {rest : List Exchange}
    (h : StoredTarget floats object found scale v now) (quiet : Undisturbed S store)
    (versions : KeepsVersions S store) (addressable : object.isAddressable = true)
    (stored : (store s).get? ⟨(Kind.template kind).name, object⟩ = some v)
    (own : ownName now = .ok name) (rescaled : Rescaled kind now body) (next : Scale)
    (scaled : next ≠ .untouched)
    (marker : body.at? markerPlace = if next = .down then some markerValue else none)
    (json : ∀ x, body.at? ["spec"] = some x → x.isJson floats = true)
    (ends : Ends p (readExchange (.template kind) object (.ok v) ::
      replaceExchange (.template kind) name body (.ok ()) :: rest) (.ok a))
    (silent : Silent S rest) :
    ∃ kept s', p.run S s = (.ok a, s') ∧
      (p.log S s).filter (fun e => e.request.isWrite) =
        [replaceExchange (.template kind) name body (.ok ())] ∧
      store s' = (store s).put ⟨kind.name, name⟩ kept ∧
      StoredTarget floats object found next kept kept.wire := by
  obtain ⟨name', own', standard⟩ := h.own
  obtain rfl := Except.ok.inj (own.symm.trans own')
  have steady : body.resourceVersion = v.resourceVersion := by
    rw [resourceVersion_of_writtenBack h.manifest rescaled.written
      (by simp [markerPlace, podSpecPlace]), h.version.1]
  have alike : body.resourceVersion.alike v.resourceVersion = true := by
    rw [steady]
    exact h.version.2
  obtain ⟨s₁, kept, s', replaced, put, same, run, logged, after⟩ :=
    quiet.exists_run_of_replacement [_] ends ⟨_, quiet.read addressable stored, rfl⟩
      (by simp [Request.isWrite]) silent addressable stored standard alike
  have version : kept.resourceVersion.Resendable := by
    apply versions (.template kind) name body s₁ kept _ replaced
    · rw [put, Store.get?_put, if_pos (ObjectKey.same_self _)]
    · rw [steady]
      exact h.version
  refine ⟨kept, s', run, ?_, after, h.of_rescaled own rescaled same scaled marker version json⟩
  have rest_reads : rest.filter (fun e => e.request.isWrite) = [] := by
    simpa using silent.readOnly
  rw [logged, List.singleton_append, List.filter_cons_of_neg (by simp [Request.isWrite]),
    List.filter_cons_of_pos rfl, rest_reads]

/-! ## Calls that scale -/

namespace Controller

theorem ends_silent {p : Program Unit} {log : List Exchange} (h : Ends p log (.ok ())) :
    Ends (silent p) log (.ok .null) :=
  ends_bind_ok.mpr ⟨(), log, [], (List.append_nil log).symm, h, ends_pure.mpr ⟨rfl, rfl⟩⟩

end Controller

section Calls

variable {c : TemplateController} {canary : Canary}

theorem TemplateController.rescaled_of_ends_scaleToZero {rest : List Exchange}
    (hv : v.toManifest = .ok now)
    (ends : Ends (c.scaleToZero canary)
      (readExchange (.template c.kind) canary.targetObject (.ok v) ::
        replaceExchange (.template c.kind) name body (.ok ()) :: rest) (.ok ())) :
    Rescaled c.kind now body ∧ body.at? markerPlace = some markerValue := by
  have asks : Asks (c.scaleToZero canary)
    [readExchange (.template c.kind) canary.targetObject (.ok v)]
    (.replaceObject (.template c.kind) name body) := @Ends.asks _ _ [_] _ _ _ ends
  obtain ⟨_, target, _, _, hlog, hv', -, hr, rescaled, marker⟩ :=
    TemplateController.rescaled_of_scaleToZero ⟨asks, rfl⟩
  cases hlog
  cases hr
  obtain rfl := Except.ok.inj (hv.symm.trans hv')
  exact ⟨rescaled, marker⟩

theorem TemplateController.rescaled_of_ends_scaleFromZero {rest : List Exchange}
    (hv : v.toManifest = .ok now)
    (ends : Ends (c.scaleFromZero canary)
      (readExchange (.template c.kind) canary.targetObject (.ok v) ::
        replaceExchange (.template c.kind) name body (.ok ()) :: rest) (.ok ())) :
    Rescaled c.kind now body ∧ body.at? markerPlace = none := by
  have asks : Asks (c.scaleFromZero canary)
    [readExchange (.template c.kind) canary.targetObject (.ok v)]
    (.replaceObject (.template c.kind) name body) := @Ends.asks _ _ [_] _ _ _ ends
  obtain ⟨_, target, _, _, hlog, hv', -, hr, rescaled, marker⟩ :=
    TemplateController.rescaled_of_scaleFromZero ⟨asks, rfl⟩
  cases hlog
  cases hr
  obtain rfl := Except.ok.inj (hv.symm.trans hv')
  exact ⟨rescaled, marker⟩

theorem isJson_spec_of_writeBody {kind : Kind} (hb : writeBody kind changed = .ok body)
    (json : ∀ x, changed.at? ["spec"] = some x → x.isJson floats = true) :
    ∀ x, body.at? ["spec"] = some x → x.isJson floats = true := by
  intro x hx
  rw [(writtenBack_of_writeBody hb (.refl [] _) (by simp)).same ["spec"] (by simp)] at hx
  exact json x hx

theorem StoredTarget.isJson_podSpec (h : StoredTarget floats object found scale v now)
    {podSpec : Value} (hp : PodTemplate.podSpec now = .ok podSpec) :
    podSpec.isJson floats = true := by
  rw [podSpec_eq_getD hp]
  cases stands : now.at? podSpecPlace with
  | none => exact isJson_empty
  | some x =>
    rw [podSpecPlace, ← List.singleton_append, at?_append] at stands
    obtain ⟨spec, hs, hx⟩ := Option.bind_eq_some_iff.mp stands
    exact isJson_at? (h.json spec hs) hx

theorem StoredTarget.isJson_entries (h : StoredTarget floats object found scale v now)
    {spec entries : Fields} (reads : Reads now spec entries) :
    (Value.object entries).isJson floats = true := by
  rcases reads.selector with selected | ⟨-, rfl⟩
  · rw [← selected]
    exact isJson_getD (h.isJson_podSpec reads.podSpec) rfl
  · exact isJson_empty

theorem StoredTarget.exists_run_scaleToZero
    (h : StoredTarget floats canary.targetObject found scale v now) (quiet : Undisturbed S store)
    (versions : KeepsVersions S store) (addressable : canary.targetObject.isAddressable = true)
    (stored : (store s).get? (c.targetKey canary) = some v) (unscaled : Unscaled found)
    (up : scale ≠ .down) :
    ∃ name body kept s', (Controller.silent (c.scaleToZero canary)).run S s = (.ok .null, s') ∧
      ((Controller.silent (c.scaleToZero canary)).log S s).filter (fun e => e.request.isWrite) =
        [replaceExchange (.template c.kind) name body (.ok ())] ∧
      name.standard = canary.targetObject.standard ∧
      store s' = (store s).put ⟨c.kind.name, name⟩ kept ∧
      StoredTarget floats canary.targetObject found .down kept kept.wire := by
  obtain ⟨name, own, standard⟩ := h.own
  obtain ⟨spec, entries, reads⟩ := (h.stands.readable unscaled).exists_reads
  have unmarked : entries.get? markerKey = none := by
    rw [reads.get?_marker, h.stands.marker, if_neg up]
  obtain ⟨changed, body, hc, hb, ends⟩ :=
    c.exists_ends_scaleToZero canary h.manifest own reads unmarked
  obtain ⟨rescaled, marker⟩ := TemplateController.rescaled_of_ends_scaleToZero h.manifest ends
  have podSpecJson := h.isJson_podSpec reads.podSpec
  have markedJson : (Value.object (entries.set markerKey markerValue)).isJson floats = true :=
    isJson_set (h.isJson_entries reads) rfl
  have json := isJson_spec_of_writeBody hb
    (isJson_spec_of_withPodSpec hc h.json (isJson_set podSpecJson markedJson))
  obtain ⟨kept, s', run, writes, after, scaled⟩ :=
    h.exists_run_of_ends quiet versions addressable stored own rescaled .down (by simp) marker
      json (Controller.ends_silent ends) ⟨fun s => ⟨_, rfl, rfl⟩, by simp [Request.isWrite]⟩
  exact ⟨name, body, kept, s', run, writes, standard, after, scaled⟩

theorem StoredTarget.exists_run_scaleFromZero
    (h : StoredTarget floats canary.targetObject found .down v now) (quiet : Undisturbed S store)
    (versions : KeepsVersions S store) (addressable : canary.targetObject.isAddressable = true)
    (stored : (store s).get? (c.targetKey canary) = some v) (unscaled : Unscaled found) :
    ∃ name body kept s', (Controller.silent (c.scaleFromZero canary)).run S s = (.ok .null, s') ∧
      ((Controller.silent (c.scaleFromZero canary)).log S s).filter (fun e => e.request.isWrite) =
        [replaceExchange (.template c.kind) name body (.ok ())] ∧
      name.standard = canary.targetObject.standard ∧
      store s' = (store s).put ⟨c.kind.name, name⟩ kept ∧
      StoredTarget floats canary.targetObject found .up kept kept.wire := by
  obtain ⟨name, own, standard⟩ := h.own
  obtain ⟨spec, entries, reads⟩ := (h.stands.readable unscaled).exists_reads
  have marked : entries.get? markerKey = some markerValue := by
    rw [reads.get?_marker, h.stands.marker, if_pos rfl]
  obtain ⟨unmarked, changed, body, hu, hc, hb, ends⟩ :=
    c.exists_ends_scaleFromZero canary h.manifest own reads marked
  obtain ⟨rescaled, marker⟩ := TemplateController.rescaled_of_ends_scaleFromZero h.manifest ends
  have podSpecJson := h.isJson_podSpec reads.podSpec
  have unmarkedJson : unmarked.isJson floats = true := by
    obtain ⟨_, base, ⟨⟩, hbase, rfl⟩ := removeMarker_eq_ok.mp hu
    split
    · exact isJson_erase podSpecJson _
    · obtain rfl := Except.ok.inj
        ((baseEntries_of_selectorOf (selectorOf_eq reads.selector)).symm.trans hbase)
      exact isJson_set podSpecJson (isJson_erase (h.isJson_entries reads) _)
  have json := isJson_spec_of_writeBody hb (isJson_spec_of_withPodSpec hc h.json unmarkedJson)
  obtain ⟨kept, s', run, writes, after, scaled⟩ :=
    h.exists_run_of_ends quiet versions addressable stored own rescaled .up (by simp) marker
      json (Controller.ends_silent ends) ⟨fun s => ⟨_, rfl, rfl, rfl⟩, by simp [Request.isWrite]⟩
  exact ⟨name, body, kept, s', run, writes, standard, after, scaled⟩

theorem Undisturbed.exists_run_of_target {α : Type} {p : Program α} {a : α} {rest : List Exchange}
    (quiet : Undisturbed S store) (addressable : canary.targetObject.isAddressable = true)
    (stored : (store s).get? (c.targetKey canary) = some v)
    (ends : Ends p (readExchange (.template c.kind) canary.targetObject (.ok v) :: rest) (.ok a))
    (silent : Silent S rest) :
    ∃ s', p.run S s = (.ok a, s') ∧ (p.log S s).filter (fun e => e.request.isWrite) = [] ∧
      store s' = store s := by
  obtain ⟨s', run, logged, after⟩ :=
    quiet.exists_run_of_reads [_] ends ⟨_, quiet.read addressable stored, rfl⟩
      (by simp [Request.isWrite]) silent
  refine ⟨s', run, ?_, after⟩
  rw [logged, List.singleton_append, List.filter_cons_of_neg (by simp [Request.isWrite])]
  simpa using silent.readOnly

theorem StoredTarget.exists_run_of_down
    (h : StoredTarget floats canary.targetObject found .down v now) (quiet : Undisturbed S store)
    (addressable : canary.targetObject.isAddressable = true)
    (stored : (store s).get? (c.targetKey canary) = some v) (unscaled : Unscaled found) :
    ∃ s', (Controller.silent (c.scaleToZero canary)).run S s = (.ok .null, s') ∧
      ((Controller.silent (c.scaleToZero canary)).log S s).filter
        (fun e => e.request.isWrite) = [] ∧ store s' = store s := by
  obtain ⟨spec, entries, reads⟩ := (h.stands.readable unscaled).exists_reads
  have marked : entries.get? markerKey = some markerValue := by
    rw [reads.get?_marker, h.stands.marker, if_pos rfl]
  have ends := c.ends_scaleToZero_of_marked canary h.manifest reads marked
  exact quiet.exists_run_of_target addressable stored (Controller.ends_silent ends)
    ⟨fun s => ⟨_, rfl, rfl⟩, by simp [Request.isWrite]⟩

theorem StoredTarget.exists_run_of_up
    (h : StoredTarget floats canary.targetObject found scale v now) (quiet : Undisturbed S store)
    (addressable : canary.targetObject.isAddressable = true)
    (stored : (store s).get? (c.targetKey canary) = some v) (unscaled : Unscaled found)
    (up : scale ≠ .down) :
    ∃ s', (Controller.silent (c.scaleFromZero canary)).run S s = (.ok .null, s') ∧
      ((Controller.silent (c.scaleFromZero canary)).log S s).filter
        (fun e => e.request.isWrite) = [] ∧ store s' = store s := by
  obtain ⟨spec, entries, reads⟩ := (h.stands.readable unscaled).exists_reads
  have unmarked : entries.get? markerKey = none := by
    rw [reads.get?_marker, h.stands.marker, if_neg up]
  have ends := c.ends_scaleFromZero_of_unmarked canary h.manifest reads unmarked
  exact quiet.exists_run_of_target addressable stored (Controller.ends_silent ends)
    ⟨fun s => ⟨_, rfl, rfl⟩, by simp [Request.isWrite]⟩

end Calls

end CanaryRelease
