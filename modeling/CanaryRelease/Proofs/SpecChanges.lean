import CanaryRelease.Proofs.Establishing
import CanaryRelease.Proofs.Generations

/-!
# Every write changes a spec

No operation writes what is there already. A promotion gives the primary's pod template an id that
no object had when it was drawn, and since the primary is replaced as it was read, it had another
one until then; a target is scaled down only if it has not the marker, and up only if it has. So
with each write of an operation the server counts the object's generation on
(`TemplateController.Counting.advances`), and the status that was written back with the object is
about an earlier one.
-/

namespace CanaryRelease

open Program Workload PodTemplate Value

variable {programs : Nat → Program Value} {start store : Store} {past since future : List Moment}
  {m read : Moment} {key : ObjectKey} {v w : Value} {caller : Nat} {disturbed : Bool}

theorem FreshVersions.stored_between
    (run : Run programs start (past ++ read :: (since ++ m :: future)) store)
    (h : FreshVersions start (past ++ read :: (since ++ m :: future)))
    (hv : read.before.get? key = some v) (last : store.get? key = some v) :
    m.before.get? key = some v := by
  rw [← List.cons_append, ← List.append_assoc] at run h
  obtain ⟨run_until, -⟩ := run.at_moment
  by_contra other
  refine run.keeps (P := fun _ s => ∀ x, s.get? key = some x →
    x.resourceVersion ≠ v.resourceVersion) ?_ ?_ v last rfl
  · intro s before x hx same
    rw [before.store_eq run_until] at hx
    obtain ⟨-, rfl⟩ := h.of_append.eq_of_version run_until hv hx same
    exact other hx
  · rintro more l ⟨rest, split⟩ - follows ih x hx
    rw [← split, List.append_assoc more, List.singleton_append, ← List.append_assoc] at h
    rcases h.get?_or_version_ne follows (by simp) hv hx with old | differs
    · exact ih x old
    · exact differs

/-- At a moment the object at a key gets another spec and the next generation, and keeps its
status. -/
def Moment.ChangesSpec (m : Moment) (key : ObjectKey) : Prop :=
  ∃ old new g, m.before.get? key = some old ∧ m.after.get? key = some new ∧
    old.specOf.alike new.specOf = false ∧ old.generation = .int g ∧
    new.generation = .int (g + 1) ∧ m.KeepsStatus key

/-- At a moment the object at a key is created in its first generation, with none observed. -/
def Moment.CreatesUnobserved (m : Moment) (key : ObjectKey) : Prop :=
  m.before.get? key = none ∧ ∃ new, m.after.get? key = some new ∧ new.generation = .int 1 ∧
    new.observedGeneration = .int 0

namespace TemplateController

variable {c : TemplateController} {canary : Canary} {operation : Operation} {kind : Kind}
  {body target : Value} {log : List Exchange}

/-- A run on a server that counts the generations of a canary's target and primary, gives each write
a version of its own, and draws ids that no object has yet. -/
structure Counting (c : TemplateController) (canary : Canary) (start : Store)
    (moments : List Moment) : Prop where
  versions : FreshVersions start moments
  ids : ∀ m ∈ moments, ∀ caller id disturbed, m.event = .exchange caller ⟨.drawId, id⟩ disturbed →
    ∀ key v, m.before.get? key = some v → v.at? idPlace ≠ some (.text id)
  start : ∀ key ∈ [c.targetKey canary, c.primaryKey canary], ∀ v, start.get? key = some v →
    v.Counted
  counts : ∀ m ∈ moments, ∀ key ∈ [c.targetKey canary, c.primaryKey canary], m.Counts key

namespace Counting

theorem of_append (h : Counting c canary start (past ++ future)) :
    Counting c canary start past where
  versions := h.versions.of_append
  ids m hm := h.ids m (List.mem_append_left _ hm)
  start := h.start
  counts m hm := h.counts m (List.mem_append_left _ hm)

theorem counted (h : Counting c canary start past) (run : Run programs start past store)
    (mem : key ∈ [c.targetKey canary, c.primaryKey canary]) (stored : store.get? key = some v) :
    v.Counted := by
  cases run with
  | start => exact h.start key mem v stored
  | step => exact (h.counts _ (by simp) key mem).counted v stored

/-- An object that is written back as it was read, with a spec that differs, gets the next
generation. -/
theorem changesSpec {source name : ObjectName} {places : List Path}
    (h : Counting c canary start (past ++ read :: since ++ m :: future))
    (run : Run programs start (past ++ read :: since ++ m :: future) store)
    (mem : ⟨kind.name, source⟩ ∈ [c.targetKey canary, c.primaryKey canary])
    (hm : m.event = .exchange caller (replaceExchange kind name body (.ok ())) disturbed)
    (stored : read.before.get? ⟨kind.name, source⟩ = some v) (manifest : v.toManifest = .ok target)
    (written : WrittenBack kind places target body)
    (apart : ∀ place ∈ places, Path.Apart ["metadata", "resourceVersion"] place ∧
      Path.Apart ["status"] place)
    (differs : v.Keyed → m.before.get? ⟨kind.name, source⟩ = some v → ∀ kept,
      SameApart serverPlaces body kept → v.specOf.alike kept.specOf = false) :
    m.ChangesSpec ⟨kind.name, source⟩ := by
  obtain ⟨runUntil, -⟩ := run.at_moment
  obtain ⟨-, served⟩ := run.asks hm
  have version := resourceVersion_of_writtenBack manifest written fun place hp => (apart place hp).1
  obtain ⟨x, kept, hx, alike, same, after⟩ := served.of_replaced
  obtain ⟨place, rfl⟩ := h.of_append.versions.eq_of_alike runUntil stored version hx alike
  have here : m.before.get? ⟨kind.name, source⟩ = some x :=
    (Store.get?_congr _ place).symm.trans hx
  have now : m.after.get? ⟨kind.name, source⟩ = some kept := by
    rw [after, Store.get?_put, if_pos place]
  have writes : m.event.Writes ⟨kind.name, source⟩ := ⟨⟨kind.name, name⟩, by rw [hm]; rfl, place⟩
  have counted := h.of_append.counted runUntil mem here
  have changed := differs counted.keyed here kept same
  obtain ⟨g, -, hg, -⟩ := counted.observed
  have next := (h.counts m (by simp) _ mem).next writes x kept g here now hg
  rw [changed] at next
  refine ⟨x, kept, g, here, now, changed, hg, next, fun new hnew => ⟨x, here, ?_⟩⟩
  obtain rfl := Option.some.inj (now.symm.trans hnew)
  have status : kept.at? ["status"] = x.wire.at? ["status"] := by
    obtain ⟨_, -, parts⟩ := toManifest_eq_ok manifest
    rw [same _ (by simp [serverPlaces]), written.same _ ?_, parts]
    simp only [List.mem_cons]
    rintro place (rfl | rfl | hp)
    · simp
    · simp
    · exact (apart place hp).2
  rw [at?_wire, status, ← at?_wire, wire_wire]

end Counting

/-! ## Promotions -/

theorem Counting.promote_changesSpec {name : ObjectName}
    (h : Counting c canary start (past ++ m :: future))
    (run : Run programs start (past ++ m :: future) store)
    (own : programs caller = Controller.call (.template c) .promote canary)
    (hm : m.event = .exchange caller (replaceExchange kind name body (.ok ())) disturbed) :
    m.ChangesSpec (c.primaryKey canary) := by
  obtain ⟨asks, -⟩ := run.asks hm
  rw [own] at asks
  obtain ⟨v, target, label, value, w, primary, refs, redirected, id, _, _, hlog, -, -, manifest, -,
    ⟨⟩, written, twin⟩ := writes_promote (Controller.writes_silent.mp ⟨asks, rfl⟩)
  -- the id was drawn after the primary was read, so the primary was there, as it was read
  have first : exchangesOf caller past =
      [readExchange (.template c.kind) canary.targetObject (.ok v)] ++
        readExchange (.template c.kind) (primaryObject canary) (.ok w) :: _ := hlog
  obtain ⟨before, since, read, _, rfl, hread, -, hsince⟩ := exists_moment_of_exchangesOf first
  have second : exchangesOf caller since = [⟨.targetConfigs canary, .ok refs⟩,
      ⟨.copyConfigs canary refs c.labelPrefixes, .ok ()⟩,
      ⟨.redirectConfigs (sourcePodSpec target) refs, .ok redirected⟩] ++ [⟨.drawId, id⟩] :=
    hsince
  obtain ⟨early, late, drawing, _, rfl, hdraw, -, -⟩ := exists_moment_of_exchangesOf second
  obtain ⟨runUntil, -⟩ := run.at_moment
  have stored : read.before.get? (c.primaryKey canary) = some w :=
    Server.Serves.get?_of_read (runUntil.asks hread).2
  refine h.changesSpec run (List.mem_cons_of_mem _ (List.mem_singleton_self _)) hm stored manifest
    written
    (fun place hp => ⟨apart_twinPlaces (by decide) place hp, apart_twinPlaces (by decide) place hp⟩)
    fun keyed here kept same => ?_
  have drawn := h.of_append.versions.stored_between runUntil stored here
  have fresh := h.ids drawing (by simp) _ id _ hdraw _ w drawn
  have stamped : kept.at? idPlace = some (.text id) := by
    obtain ⟨annotations, stands, only⟩ := twin.annotations
    rw [same _ (by simp [serverPlaces, idPlace, annotationsPlace]), idPlace, at?_append, stands,
      Option.bind_some, at?_object_singleton, only, if_pos rfl]
  exact keyed.spec_changed "template" ["metadata", "annotations", idKey] stamped fresh

/-! ## Scalings -/

theorem unmarks_of_writes {r : Request} (h : Writes (c.scaleFromZero canary) log r) :
    ∃ v target name body x,
      log = [readExchange (.template c.kind) canary.targetObject (.ok v)] ∧
      v.toManifest = .ok target ∧ r = .replaceObject (.template c.kind) name body ∧
      WrittenBack (.template c.kind) [markerPlace] target body ∧
      target.at? markerPlace = some x ∧ body.at? markerPlace = none := by
  obtain ⟨v, target, name, body, rfl, hv, -, rfl, written, gone⟩ := writes_scaleFromZero h
  obtain ⟨target', podSpec, unmarked, _, selector, rewrites, hs, mentioned, hu⟩ :=
    rewrites_of_scaleFromZero h
  obtain ⟨_, ⟨⟩, hv'⟩ := rewrites.read
  obtain rfl := Except.ok.inj (hv.symm.trans hv')
  obtain ⟨fs, base, rfl, hbase, -⟩ := removeMarker_eq_ok.mp hu
  obtain rfl := Except.ok.inj (hs.symm.trans (getSection_selector fs))
  obtain ⟨fields, hf, -⟩ := bind_eq_ok.mp hbase
  obtain ⟨entries, he⟩ := exists_entries_of_mentions mentioned hf
  rw [he] at mentioned
  obtain ⟨x, hx⟩ := Option.isSome_iff_exists.mp (Except.ok.inj mentioned)
  refine ⟨v, target, name, body, x, rfl, hv, rfl, written, ?_, gone⟩
  have selected := isSection_selectorOf fs markerKey []
  rw [he, at?_object_singleton, hx] at selected
  rw [markerPlace, markerInPodSpec, ← at?_podSpec rewrites.podSpec, ← selected]

/-- `body` is what a target is scaled with: the marker is set where it was not, or removed where it
was. -/
structure Toggles (c : TemplateController) (canary : Canary) (log : List Exchange) (body : Value) :
    Prop where
  steps : ∃ v target, readExchange (.template c.kind) canary.targetObject (.ok v) ∈ log ∧
    v.toManifest = .ok target ∧ WrittenBack (.template c.kind) [markerPlace] target body ∧
    (target.at? markerPlace ≠ some markerValue ∧ body.at? markerPlace = some markerValue ∨
      (∃ x, target.at? markerPlace = some x) ∧ body.at? markerPlace = none)

theorem toggles_of_writes {name : ObjectName} (other : operation ≠ .promote)
    (h : Writes (Controller.call (.template c) operation canary) log
      (.replaceObject kind name body)) :
    kind = .template c.kind ∧ Toggles c canary log body := by
  have down {before last : List Exchange} (hlog : log = before ++ last)
      (scaling : Writes (c.scaleToZero canary) last (.replaceObject kind name body)) :
      kind = .template c.kind ∧ Toggles c canary log body := by
    obtain ⟨v, target, _, _, rfl, ⟨⟩, marks⟩ := marks_of_writes scaling
    exact ⟨rfl, v, target, by simp [hlog], marks.manifest, marks.down.written,
      .inl ⟨marks.unmarked, marks.down.marker⟩⟩
  have up (scaling : Writes (c.scaleFromZero canary) log (.replaceObject kind name body)) :
      kind = .template c.kind ∧ Toggles c canary log body := by
    obtain ⟨v, target, _, _, x, rfl, hv, ⟨⟩, written, marked, gone⟩ := unmarks_of_writes scaling
    exact ⟨rfl, v, target, by simp, hv, written, .inr ⟨⟨x, marked⟩, gone⟩⟩
  cases operation with
  | promote => exact absurd rfl other
  | establish =>
    obtain creating | ⟨seen, checked, last, hlog, -, -, -, scaling⟩ :=
      writes_establish (Controller.writes_silent.mp h)
    · obtain ⟨_, _, _, _, _, _, _, _, _, -, -, -, hr, -⟩ := writes_createPrimary creating
      cases hr
    · exact down hlog scaling
  | scaleToZero => exact down (List.nil_append _).symm (Controller.writes_silent.mp h)
  | scaleFromZero | finalize => exact up (Controller.writes_silent.mp h)
  | hasTargetChanged | haveConfigsChanged | pairing | checkPrimary | checkTarget =>
    exact absurd h (Controller.readOnly_call rfl _ _)

theorem Counting.scale_changesSpec {name : ObjectName}
    (h : Counting c canary start (past ++ m :: future))
    (run : Run programs start (past ++ m :: future) store)
    (own : programs caller = Controller.call (.template c) operation canary)
    (other : operation ≠ .promote)
    (hm : m.event = .exchange caller (replaceExchange kind name body (.ok ())) disturbed) :
    m.ChangesSpec (c.targetKey canary) := by
  obtain ⟨asks, -⟩ := run.asks hm
  rw [own] at asks
  obtain ⟨rfl, v, target, mem, manifest, written, toggled⟩ := toggles_of_writes other ⟨asks, rfl⟩
  obtain ⟨log, log', hlog⟩ := List.append_of_mem mem
  obtain ⟨before, since, read, _, rfl, hread, -, -⟩ := exists_moment_of_exchangesOf hlog
  have stored : read.before.get? (c.targetKey canary) = some v :=
    Server.Serves.get?_of_read (run.at_moment.1.asks hread).2
  refine h.changesSpec run List.mem_cons_self hm stored manifest written
    (by simp [markerPlace, podSpecPlace]) fun keyed _ kept same => ?_
  have kept_marker : kept.at? markerPlace = body.at? markerPlace :=
    same _ (by simp [serverPlaces, markerPlace, podSpecPlace])
  have read_marker : target.at? markerPlace = (v.at? markerPlace).map wire := by
    obtain ⟨_, -, parts⟩ := toManifest_eq_ok manifest
    rw [← at?_wire]
    exact parts _ _
  rcases toggled with ⟨unmarked, marked⟩ | ⟨⟨x, marked⟩, unmarked⟩
  · refine keyed.spec_changed "template" ["spec", "nodeSelector", markerKey]
      (kept_marker.trans marked) fun there => unmarked ?_
    rw [read_marker]
    exact congrArg (Option.map wire) there
  · obtain ⟨y, hy, -⟩ := Option.map_eq_some_iff.mp (read_marker.symm.trans marked)
    exact spec_changed_of_removed "template" ["spec", "nodeSelector", markerKey] hy
      (kept_marker.trans unmarked)

/-! ## Creations -/

theorem at?_status_of_primaryBody {label value : String} {refs : List ConfigRef}
    (h : Ends (c.primaryBody canary target label value refs) log (.ok body)) :
    body.at? ["status", "observedGeneration"] = none := by
  obtain ⟨_, _, _, -, -, -, rfl⟩ := exists_parts_of_primaryBody h
  rfl

theorem Counting.creates {space : Value}
    (h : Counting c canary start (past ++ m :: future))
    (run : Run programs start (past ++ m :: future) store)
    (own : programs caller = Controller.call (.template c) operation canary)
    (hm : m.event = .exchange caller (createExchange kind space body (.ok ())) disturbed) :
    operation = .establish ∧ m.CreatesUnobserved (c.primaryKey canary) := by
  obtain ⟨asks, served⟩ := run.asks hm
  rw [own] at asks
  have writes : Writes (Controller.call (.template c) operation canary) (exchangesOf caller past)
      (.createObject kind space body) := ⟨asks, rfl⟩
  obtain rfl : operation = .establish := by
    cases Controller.writes_call writes with
    | creates establishing => exact establishing
  refine ⟨rfl, ?_⟩
  obtain creating | ⟨_, _, _, -, -, -, -, scaling⟩ :=
    writes_establish (Controller.writes_silent.mp writes)
  · obtain ⟨_, _, _, _, _, _, made, _, -, -, -, hb, ⟨⟩⟩ := exists_body_of_writes creating
    obtain ⟨-, _, _, -, name, -⟩ := ends_primaryBody hb
    obtain ⟨kept, missing, same, after⟩ := served.of_created
    rw [Site.bodyName_of_ownName name] at missing after
    have now : m.after.get? (c.primaryKey canary) = some kept := by
      rw [after]
      exact (Store.get?_put ..).trans (if_pos (ObjectKey.same_self _))
    have writes_key : m.event.Writes (c.primaryKey canary) := by
      refine ⟨_, by rw [hm]; rfl, ?_⟩
      rw [Site.bodyName_of_ownName name]
      exact ObjectKey.same_self _
    have mem : c.primaryKey canary ∈ [c.targetKey canary, c.primaryKey canary] :=
      List.mem_cons_of_mem _ (List.mem_singleton_self _)
    refine ⟨missing, kept, now, (h.counts m (by simp) _ mem).first writes_key missing kept now, ?_⟩
    rw [Value.observedGeneration, same _ (by simp [serverPlaces]), at?_status_of_primaryBody hb]
    rfl
  · obtain ⟨_, _, _, _, _, hr, -⟩ := marks_of_writes scaling
    cases hr

/-! ## All writes -/

/-- At a moment an operation creates the primary, promotes it, or scales the target, and the object
at a key gets a generation that nobody has observed. -/
inductive Advances (c : TemplateController) (canary : Canary) (operation : Operation) (m : Moment) :
    ObjectKey → Prop where
  | creates (establishing : operation = .establish)
      (created : m.CreatesUnobserved (c.primaryKey canary)) :
      Advances c canary operation m (c.primaryKey canary)
  | promotes (promoting : operation = .promote) (changes : m.ChangesSpec (c.primaryKey canary)) :
      Advances c canary operation m (c.primaryKey canary)
  | scales (scaling : operation ∈ [.establish, .scaleToZero, .scaleFromZero, .finalize])
      (changes : m.ChangesSpec (c.targetKey canary)) :
      Advances c canary operation m (c.targetKey canary)

theorem Advances.mem (h : Advances c canary operation m key) :
    key ∈ [c.targetKey canary, c.primaryKey canary] := by
  cases h with
  | creates | promotes => exact List.mem_cons_of_mem _ (List.mem_singleton_self _)
  | scales => exact List.mem_cons_self

/-- Whatever an operation writes advances a generation. -/
theorem Counting.advances {e : Exchange} (h : Counting c canary start (past ++ m :: future))
    (run : Run programs start (past ++ m :: future) store)
    (own : programs caller = Controller.call (.template c) operation canary)
    (hm : m.event = .exchange caller e disturbed) (wrote : e.wrote = true) :
    ∃ key, Advances c canary operation m key := by
  obtain ⟨request, reply⟩ := e
  cases request with
  | createObject kind space body =>
    cases reply with
    | error failure => cases wrote
    | ok u =>
      obtain ⟨establishing, created⟩ := h.creates run own hm
      exact ⟨_, .creates establishing created⟩
  | replaceObject kind name body =>
    cases reply with
    | error failure => cases wrote
    | ok u =>
      obtain ⟨asks, -⟩ := run.asks hm
      rw [own] at asks
      have writes : Writes (Controller.call (.template c) operation canary)
          (exchangesOf caller past) (.replaceObject kind name body) := ⟨asks, rfl⟩
      cases Controller.writes_call writes with
      | promotes promoting =>
        subst promoting
        exact ⟨_, .promotes rfl (h.promote_changesSpec run own hm)⟩
      | scales _ _ _ _ _ direction =>
        refine ⟨_, .scales ?_ (h.scale_changesSpec run own ?_ hm)⟩
        all_goals
          rcases direction with ⟨rfl | rfl, -⟩ | ⟨rfl | rfl, -⟩
          all_goals simp
  | _ => cases wrote

theorem Counting.stale (h : Counting c canary start (past ++ m :: future))
    (run : Run programs start (past ++ m :: future) store)
    (advances : Advances c canary operation m key) :
    ∀ v, m.after.get? key = some v → v.IsStale := by
  have mem := advances.mem
  obtain ⟨runUntil, -⟩ := run.at_moment
  have of_changes (changes : m.ChangesSpec key) : ∀ v, m.after.get? key = some v → v.IsStale := by
    intro v stored
    obtain ⟨old, new, g, before, after, -, hg, next, kept⟩ := changes
    obtain rfl := Option.some.inj (after.symm.trans stored)
    obtain ⟨_, before', status⟩ := kept new after
    obtain rfl := Option.some.inj (before.symm.trans before')
    obtain ⟨g', n, hg', hn, bound⟩ := (h.of_append.counted runUntil mem before).observed
    obtain ⟨_, l, -, hl, -⟩ := ((h.counts m (by simp) key mem).counted new stored).observed
    obtain rfl := Value.int.inj (hg.symm.trans hg')
    obtain rfl := Value.observed_unique status hn hl
    exact ⟨g + 1, l, next, hl, by omega⟩
  cases advances with
  | creates _ created =>
    intro v stored
    obtain ⟨-, new, after, first, unobserved⟩ := created
    obtain rfl := Option.some.inj (after.symm.trans stored)
    exact ⟨1, 0, first, unobserved, by decide⟩
  | promotes _ changes => exact of_changes changes
  | scales _ changes => exact of_changes changes

theorem wrote_of_promote {a : Value}
    (h : Ends (Controller.call (.template c) .promote canary) log (.ok a)) :
    ∃ e ∈ log, e.wrote = true := by
  have ended : Ends (c.promote canary) log (.ok ()) := Controller.ends_silent_ok h
  unfold promote at ended
  obtain ⟨_, _, _, rfl, -, rest⟩ := ends_bind_ok.mp ended
  obtain ⟨_, -, rest⟩ := ends_lift_bind.mp rest
  obtain ⟨_, _, _, rfl, -, rest⟩ := ends_bind_ok.mp rest
  obtain ⟨_, _, _, rfl, -, rest⟩ := ends_bind_ok.mp rest
  obtain ⟨_, _, _, rfl, -, rest⟩ := ends_bind_ok.mp rest
  obtain ⟨_, _, _, rfl, update, -⟩ := ends_bind_ok.mp rest
  obtain ⟨name, body, -, -, rfl⟩ := ends_update.mp update
  exact ⟨replaceExchange (.template c.kind) name body (.ok ()), by simp, rfl⟩

end TemplateController

end CanaryRelease
