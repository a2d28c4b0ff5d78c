import CanaryRelease.Proofs.Promotion
import CanaryRelease.Proofs.ScaleDown
import CanaryRelease.Proofs.TwinAgreement

/-!
# Promotions keep the primary that was created

The two operations that write a primary agree. In a run in which only a controller's establishments
and promotions write a target and its primary, status updates apart (`Steady`), a primary that was
created stays what it was created as, but for the annotation that tells revisions apart
(`promotions_keep_primary`).

What a moment may do to target and primary is said once (`Steady.touches`). From it follow the
invariants: the target is kept, whatever happens, and the primary is a twin of it.
-/

namespace CanaryRelease

open Program Workload PodTemplate Value

/-- An object is written with another status, and with what its server fills in. -/
structure StatusUpdate (old new : Value) : Prop where
  old_object : ∃ fs, old = .object fs
  new_object : ∃ fs, new = .object fs
  same : SameApart (["status"] :: serverPlaces) old new

namespace TemplateController

variable {c : TemplateController} {canary other : Canary} {refs : List ConfigRef}
  {redirect : Value → List ConfigRef → Except Failure Value} {programs : Nat → Program Value}
  {start store : Store} {past future : List Moment} {m : Moment}

/-- Target and primary of a canary are written by nobody but by establishments and promotions of one
controller, status updates apart. -/
structure Steady (c : TemplateController) (canary : Canary) (refs : List ConfigRef)
    (redirect : Value → List ConfigRef → Except Failure Value) (programs : Nat → Program Value)
    (start : Store) (moments : List Moment) : Prop where
  named : start.SelfNamed
  programs : ∀ caller, ∃ other operation, (operation = .establish ∨ operation = .promote) ∧
    other.targetObject = canary.targetObject ∧
    programs caller = Controller.call (.template c) operation other
  edits : ∀ m ∈ moments, ∀ key value, m.event = .edit key value →
    key.Same (c.targetKey canary) ∨ key.Same (c.primaryKey canary) →
      ∃ old new, m.before.get? key = some old ∧ value = some new ∧ StatusUpdate old new
  tracker : ∀ m ∈ moments, ∀ caller e disturbed, m.event = .exchange caller e disturbed →
    e.FromTracker refs redirect

theorem Steady.of_append (h : Steady c canary refs redirect programs start (past ++ future)) :
    Steady c canary refs redirect programs start past :=
  ⟨h.named, h.programs, fun m hm => h.edits m (List.mem_append_left _ hm),
    fun m hm => h.tracker m (List.mem_append_left _ hm)⟩

theorem primaryObject_congr (h : other.targetObject = canary.targetObject) :
    primaryObject other = primaryObject canary := by
  unfold Canary.targetObject at h
  obtain ⟨name, space⟩ := ObjectName.mk.inj h
  rw [primaryObject, primaryObject, name, space]

/-! ## What a moment may do -/

/-- At a moment the primary is created as the twin of a target that was read. -/
structure Creates (c : TemplateController) (canary : Canary) (refs : List ConfigRef)
    (redirect : Value → List ConfigRef → Except Failure Value) (past : List Moment) (m : Moment)
    (target : Value) (label : String) (value : Value) (kept : Value) : Prop where
  read : ∃ read ∈ past, ∃ v, read.before.get? (c.targetKey canary) = some v ∧
    v.toManifest = .ok target
  paired : c.pairingLabel target = .ok (label, value)
  twin : ∃ redirected id body, redirect (sourcePodSpec target) refs = .ok redirected ∧
    Twin c.kind target label (primaryName value) redirected id body ∧
    ownName body = .ok (primaryObject canary) ∧ SameApart serverPlaces body kept
  missing : m.before.get? (c.primaryKey canary) = none
  after : m.after = m.before.put (c.primaryKey canary) kept

/-- What a moment may do to target and primary after others. -/
inductive Touches (c : TemplateController) (canary : Canary) (refs : List ConfigRef)
    (redirect : Value → List ConfigRef → Except Failure Value) (past : List Moment) (m : Moment) :
    Prop where
  | nothing (target : m.after.get? (c.targetKey canary) = m.before.get? (c.targetKey canary))
      (primary : m.after.get? (c.primaryKey canary) = m.before.get? (c.primaryKey canary))
  | status {key : ObjectKey} {old new : Value} (before : m.before.get? key = some old)
      (update : StatusUpdate old new) (after : m.after = m.before.put key new)
  | created {target kept value : Value} {label : String}
      (creates : Creates c canary refs redirect past m target label value kept)
  | scaled {read : Moment} {v target body kept : Value} {name : ObjectName} (mem : read ∈ past)
      (stored : read.before.get? (c.targetKey canary) = some v)
      (manifest : v.toManifest = .ok target) (own : ownName target = .ok name)
      (down : ScaledDown c.kind target body) (same : SameApart serverPlaces body kept)
      (after : m.after = m.before.put ⟨c.kind.name, name⟩ kept)
  | promoted {read read' : Moment} {v target w primary redirected body kept : Value}
      {label id : String} {value : Value} {name : ObjectName} (mem : read ∈ past)
      (stored : read.before.get? (c.targetKey canary) = some v)
      (manifest : v.toManifest = .ok target) (paired : c.pairingLabel target = .ok (label, value))
      (redirection : redirect (sourcePodSpec target) refs = .ok redirected)
      (mem' : read' ∈ past) (stored' : read'.before.get? (c.primaryKey canary) = some w)
      (manifest' : w.toManifest = .ok primary) (own : ownName primary = .ok name)
      (written : WrittenBack (.template c.kind) (twinPlaces c.kind) primary body)
      (twin : Twin c.kind target label (primaryName value) redirected id body)
      (same : SameApart serverPlaces body kept)
      (after : m.after = m.before.put ⟨c.kind.name, name⟩ kept)

theorem Steady.refs_eq {caller : Nat} {found : List ConfigRef}
    (h : Steady c canary refs redirect programs start past)
    (mem : ⟨.targetConfigs other, .ok found⟩ ∈ exchangesOf caller past) : found = refs := by
  obtain ⟨m, hm, disturbed, event⟩ := exists_moment_of_mem mem
  exact h.tracker m hm caller _ disturbed event found rfl

theorem Steady.redirect_eq {caller : Nat} {podSpec redirected : Value} {found : List ConfigRef}
    (h : Steady c canary refs redirect programs start past)
    (mem : ⟨.redirectConfigs podSpec found, .ok redirected⟩ ∈ exchangesOf caller past) :
    redirect podSpec found = .ok redirected := by
  obtain ⟨m, hm, disturbed, event⟩ := exists_moment_of_mem mem
  exact h.tracker m hm caller _ disturbed event redirected rfl

theorem Steady.exists_read {caller : Nat} {object : ObjectName} {v : Value}
    (run : Run programs start past store)
    (mem : readExchange (.template c.kind) object (.ok v) ∈ exchangesOf caller past) :
    ∃ read ∈ past, read.before.get? ⟨c.kind.name, object⟩ = some v := run.exists_read mem

theorem Steady.creates {caller : Nat} {before after : Store} {kind : Kind} {space body : Value}
    {disturbed : Bool} (h : Steady c canary refs redirect programs start past)
    (run : Run programs start past before)
    (asks : (programs caller).Asks (exchangesOf caller past) (.createObject kind space body))
    (served : (createExchange kind space body (.ok ())).Served disturbed before after) :
    ∃ target label value kept, Creates c canary refs redirect past
      ⟨before, .exchange caller (createExchange kind space body (.ok ())) disturbed, after⟩
      target label value kept := by
  obtain ⟨other, operation, op, target_eq, call⟩ := h.programs caller
  have primary := primaryObject_congr target_eq
  rw [call] at asks
  rcases op with rfl | rfl
  · obtain creating | ⟨_, _, last, -, -, -, -, scaling⟩ :=
      writes_establish (Controller.writes_silent.mp ⟨asks, rfl⟩)
    · obtain ⟨v, target, label, value, failure, found, id, redirected, _, hlog, hv, paired, ⟨⟩, own,
        twin⟩ := writes_createPrimary creating
      obtain ⟨kept, missing, same, rfl⟩ := served.of_created
      have mem : readExchange (.template c.kind) other.targetObject (.ok v) ∈
          exchangesOf caller past := by simp [hlog]
      have told : ⟨.targetConfigs other, .ok found⟩ ∈ exchangesOf caller past := by simp [hlog]
      have redirection : ⟨.redirectConfigs (sourcePodSpec target) found, .ok redirected⟩ ∈
          exchangesOf caller past := by simp [hlog]
      obtain ⟨read, hread, stored⟩ := Steady.exists_read run mem
      obtain rfl := h.refs_eq told
      have key : (⟨(Kind.template c.kind).name, ⟨Site.bodyName body, other.space⟩⟩ : ObjectKey) =
          c.primaryKey canary := by
        rw [Site.bodyName_of_ownName own, primaryKey, ← primary]
        rfl
      rw [target_eq] at stored
      rw [key] at missing
      rw [primary] at own
      exact ⟨target, label, value, kept, ⟨read, hread, v, stored, hv⟩, paired,
        ⟨redirected, id, body, h.redirect_eq redirection, twin, own, same⟩, missing,
        congrArg (Store.put before · kept) key⟩
    · obtain ⟨_, _, _, _, -, -, -, ⟨⟩, -⟩ := writes_scaleToZero scaling
  · obtain ⟨_, _, _, _, _, _, _, _, _, _, _, -, -, -, -, -, ⟨⟩, -⟩ :=
      writes_promote (Controller.writes_silent.mp ⟨asks, rfl⟩)

theorem Steady.touches_of_scaleToZero {caller : Nat} {before after : Store} {kind : Kind}
    {name : ObjectName} {body : Value} {disturbed : Bool} {last : List Exchange}
    (run : Run programs start past before) (target : other.targetObject = canary.targetObject)
    (scaling : Writes (c.scaleToZero other) last (.replaceObject kind name body))
    (sub : ∀ e ∈ last, e ∈ exchangesOf caller past)
    (served : (replaceExchange kind name body (.ok ())).Served disturbed before after) :
    Touches c canary refs redirect past
      ⟨before, .exchange caller (replaceExchange kind name body (.ok ())) disturbed, after⟩ := by
  obtain ⟨v, t, _, _, rfl, hv, own, ⟨⟩, down⟩ := writes_scaleToZero scaling
  obtain ⟨-, kept, -, -, same, rfl⟩ := served.of_replaced
  have mem : readExchange (.template c.kind) other.targetObject (.ok v) ∈
      exchangesOf caller past := sub _ (List.mem_singleton_self _)
  obtain ⟨read, hread, stored⟩ := Steady.exists_read run mem
  rw [target] at stored
  exact .scaled hread stored hv own down same rfl

theorem Steady.touches_of_promote {caller : Nat} {before after : Store} {kind : Kind}
    {name : ObjectName} {body : Value} {disturbed : Bool}
    (h : Steady c canary refs redirect programs start past) (run : Run programs start past before)
    (target : other.targetObject = canary.targetObject)
    (promoting : Writes (c.promote other) (exchangesOf caller past)
      (.replaceObject kind name body))
    (served : (replaceExchange kind name body (.ok ())).Served disturbed before after) :
    Touches c canary refs redirect past
      ⟨before, .exchange caller (replaceExchange kind name body (.ok ())) disturbed, after⟩ := by
  obtain ⟨v, t, label, value, w, p, found, redirected, id, _, _, hlog, hv, paired, hw, own, ⟨⟩,
    written, twin⟩ := writes_promote promoting
  obtain ⟨-, kept, -, -, same, rfl⟩ := served.of_replaced
  have mem : readExchange (.template c.kind) other.targetObject (.ok v) ∈
      exchangesOf caller past := by simp [hlog]
  have mem' : readExchange (.template c.kind) (primaryObject other) (.ok w) ∈
      exchangesOf caller past := by simp [hlog]
  have told : ⟨.targetConfigs other, .ok found⟩ ∈ exchangesOf caller past := by simp [hlog]
  have redirection : ⟨.redirectConfigs (sourcePodSpec t) found, .ok redirected⟩ ∈
      exchangesOf caller past := by simp [hlog]
  obtain ⟨read, hread, stored⟩ := Steady.exists_read run mem
  obtain ⟨read', hread', stored'⟩ := Steady.exists_read run mem'
  obtain rfl := h.refs_eq told
  have redirects := h.redirect_eq redirection
  rw [target] at stored
  rw [primaryObject_congr target] at stored'
  exact .promoted hread stored hv paired redirects hread' stored' hw own written twin same rfl

theorem Steady.touches_of_writes {caller : Nat} {before after : Store} {e : Exchange}
    {disturbed : Bool} (h : Steady c canary refs redirect programs start past)
    (run : Run programs start past before)
    (writes : Writes (programs caller) (exchangesOf caller past) e.request)
    (served : e.Served disturbed before after) :
    Touches c canary refs redirect past ⟨before, .exchange caller e disturbed, after⟩ := by
  have asks := writes.1
  obtain ⟨other, operation, op, target, call⟩ := h.programs caller
  have unchanged (same : after = before) :
      Touches c canary refs redirect past ⟨before, .exchange caller e disturbed, after⟩ :=
    .nothing (by rw [same]) (by rw [same])
  obtain ⟨request, reply⟩ := e
  rw [call] at writes
  rcases op with rfl | rfl
  · have establishing := Controller.writes_silent.mp writes
    obtain creating | ⟨_, _, last, hlog, -, -, -, scaling⟩ := writes_establish establishing
    · obtain ⟨_, _, _, _, _, _, _, _, body, -, -, -, rfl, -⟩ := writes_createPrimary creating
      cases reply with
      | error failure => exact unchanged served.store_eq_of_not_created
      | ok u =>
        obtain ⟨_, _, _, _, creates⟩ := h.creates run asks served
        exact .created creates
    · obtain ⟨-, -, name, body, -, -, -, rfl, -⟩ := writes_scaleToZero scaling
      cases reply with
      | error failure => exact unchanged served.store_eq_of_not_replaced
      | ok u =>
        have sub : ∀ e ∈ last, e ∈ exchangesOf caller past := by simp +contextual [hlog]
        exact Steady.touches_of_scaleToZero run target scaling sub served
  · have promoting := Controller.writes_silent.mp writes
    obtain ⟨-, -, -, -, -, -, -, -, -, name, body, -, -, -, -, -, rfl, -⟩ :=
      writes_promote promoting
    cases reply with
    | error failure => exact unchanged served.store_eq_of_not_replaced
    | ok u => exact h.touches_of_promote run target promoting served

/-- What a moment of a steady run may do. -/
theorem Steady.touches (h : Steady c canary refs redirect programs start (past ++ [m]))
    (run : Run programs start past m.before) (follows : m.Follows programs past) :
    Touches c canary refs redirect past m := by
  cases follows with
  | @exchange before after caller e disturbed asks served =>
    cases hw : e.request.isWrite with
    | true => exact h.of_append.touches_of_writes run ⟨asks, hw⟩ served
    | false =>
      have same := served.store_eq_of_not_isWrite hw
      exact .nothing (by rw [same]) (by rw [same])
  | @edit before key value =>
    by_cases own : key.Same (c.targetKey canary) ∨ key.Same (c.primaryKey canary)
    · obtain ⟨old, new, stored, rfl, update⟩ :=
        h.edits _ (List.mem_append_right past List.mem_cons_self) key value rfl own
      exact .status stored update rfl
    · have other {k : ObjectKey} (hk : ¬ key.Same k) :
          (before.edited key value).get? k = before.get? k := by
        cases value with
        | some v => exact (Store.get?_put ..).trans (if_neg hk)
        | none => exact (Store.get?_delete ..).trans (if_neg hk)
      exact .nothing (other fun hk => own (.inl hk)) (other fun hk => own (.inr hk))

/-! ## The target is kept -/

theorem sameApart_of_statusUpdate {old new : Value} (h : StatusUpdate old new) :
    SameApart idlePlaces old.wire new.wire :=
  h.same.wire.mono fun _ hp => List.mem_cons_of_mem _ (List.mem_cons_of_mem _ hp)

theorem manifest_of_statusUpdate {old new manifest : Value} (h : StatusUpdate old new)
    (hm : new.toManifest = .ok manifest) :
    manifest = new.wire ∧ old.toManifest = .ok old.wire := by
  obtain ⟨⟨fs, rfl⟩, ⟨gs, rfl⟩, -⟩ := h
  exact ⟨(Except.ok.inj hm).symm, rfl⟩

/-- What stands in the target's place is the target of the start, kept, and what stands in the
primary's place is not named like the target. -/
structure Settled (c : TemplateController) (canary : Canary) (start store : Store) : Prop where
  target : ∀ v target, store.get? (c.targetKey canary) = some v → v.toManifest = .ok target →
    ∃ v₀ target₀, start.get? (c.targetKey canary) = some v₀ ∧ v₀.toManifest = .ok target₀ ∧
      KeptTarget target₀ target
  primary : ∀ v primary name, store.get? (c.primaryKey canary) = some v →
    v.toManifest = .ok primary → ownName primary = .ok name →
      name.standard ≠ canary.targetObject.standard

theorem settled_start (named : start.SelfNamed) : Settled c canary start start where
  target v target stored manifest := ⟨v, target, stored, manifest, .refl target⟩
  primary v primary name stored manifest own same := by
    have standard := named _ v primary name stored manifest own
    exact not_same_primaryKey ⟨rfl, standard.symm.trans same⟩

theorem Settled.same_targetKey {v target : Value} {name : ObjectName}
    (h : Settled c canary start store) (named : start.SelfNamed)
    (stored : store.get? (c.targetKey canary) = some v) (manifest : v.toManifest = .ok target)
    (own : ownName target = .ok name) :
    ObjectKey.Same ⟨c.kind.name, name⟩ (c.targetKey canary) := by
  obtain ⟨v₀, target₀, stored₀, manifest₀, kept⟩ := h.target v target stored manifest
  have own₀ := ownName_of_sameApart own kept.same (by
    simp [idlePlaces, serverPlaces, markerPlace, podSpecPlace])
  exact ⟨rfl, named _ v₀ target₀ name stored₀ manifest₀ own₀⟩

theorem Settled.target_of_touches (now : Settled c canary start m.before)
    (earlier : ∀ r ∈ past, Settled c canary start r.before) (named : start.SelfNamed)
    (touches : Touches c canary refs redirect past m) {v target : Value}
    (stored : m.after.get? (c.targetKey canary) = some v) (manifest : v.toManifest = .ok target) :
    ∃ v₀ target₀, start.get? (c.targetKey canary) = some v₀ ∧ v₀.toManifest = .ok target₀ ∧
      KeptTarget target₀ target := by
  cases touches with
  | nothing unchanged =>
    rw [unchanged] at stored
    exact now.target v target stored manifest
  | status before update after =>
    rw [after, Store.get?_put] at stored
    split at stored
    · rename_i here
      obtain rfl := Option.some.inj stored
      rw [Store.get?_congr _ here] at before
      obtain ⟨rfl, old_manifest⟩ := manifest_of_statusUpdate update manifest
      have same := sameApart_of_statusUpdate update
      obtain ⟨v₀, target₀, stored₀, manifest₀, kept⟩ := now.target _ _ before old_manifest
      exact ⟨v₀, target₀, stored₀, manifest₀, kept.trans (keptTarget_of_sameApart same)⟩
    · exact now.target v target stored manifest
  | created creates =>
    rw [creates.after, Store.get?_put, if_neg not_same_primaryKey] at stored
    exact now.target v target stored manifest
  | @scaled read v' target' body kept name mem stored' manifest' own down same after =>
    have here := (earlier read mem).same_targetKey named stored' manifest' own
    rw [after, Store.get?_put, if_pos here] at stored
    obtain rfl := Option.some.inj stored
    have marker : kept.at? markerPlace = some markerValue := by
      rw [same _ (by simp [serverPlaces, markerPlace, podSpecPlace]), down.marker]
    obtain rfl := eq_wire_of_toManifest manifest marker
    obtain ⟨v₀, target₀, stored₀, manifest₀, kept₀⟩ :=
      (earlier read mem).target v' target' stored' manifest'
    exact ⟨v₀, target₀, stored₀, manifest₀,
      kept₀.trans (keptTarget_of_scaledDown manifest' down same)⟩
  | promoted _ _ _ _ _ mem' stored' manifest' own _ _ _ after =>
    have other := (earlier _ mem').primary _ _ _ stored' manifest' own
    rw [after, Store.get?_put, if_neg fun here => other here.2] at stored
    exact now.target v target stored manifest

theorem Settled.primary_of_touches (now : Settled c canary start m.before)
    (earlier : ∀ r ∈ past, Settled c canary start r.before) (named : start.SelfNamed)
    (touches : Touches c canary refs redirect past m) {v primary : Value} {name : ObjectName}
    (stored : m.after.get? (c.primaryKey canary) = some v)
    (manifest : v.toManifest = .ok primary) (own : ownName primary = .ok name) :
    name.standard ≠ canary.targetObject.standard := by
  cases touches with
  | nothing _ unchanged =>
    rw [unchanged] at stored
    exact now.primary v primary name stored manifest own
  | status before update after =>
    rw [after, Store.get?_put] at stored
    split at stored
    · rename_i here
      obtain rfl := Option.some.inj stored
      rw [Store.get?_congr _ here] at before
      obtain ⟨rfl, old_manifest⟩ := manifest_of_statusUpdate update manifest
      have same := sameApart_of_statusUpdate update
      refine now.primary _ _ name before old_manifest (ownName_of_sameApart own same ?_)
      simp [idlePlaces, serverPlaces]
    · exact now.primary v primary name stored manifest own
  | created creates =>
    obtain ⟨_, _, body, -, -, own', same⟩ := creates.twin
    rw [creates.after, Store.get?_put, if_pos (ObjectKey.same_self _)] at stored
    obtain rfl := Option.some.inj stored
    refine standard_ne_of_name ?_
    obtain ⟨name_of_body, -⟩ := ownName_of_kept same manifest own
    rw [at?_wire, (ownName_eq_ok.mp own').1] at name_of_body
    exact (Option.some.inj name_of_body).symm
  | scaled mem stored' manifest' own' _ _ after =>
    have here := (earlier _ mem).same_targetKey named stored' manifest' own'
    rw [after, Store.get?_put, if_neg] at stored
    · exact now.primary v primary name stored manifest own
    · exact fun there => not_same_primaryKey (there.symm.trans here)
  | promoted _ _ _ _ _ mem' stored' manifest' own' written _ same after =>
    rw [after, Store.get?_put] at stored
    split at stored
    · obtain rfl := Option.some.inj stored
      obtain rfl := ownName_of_writtenBack manifest' own' written
        (fun _ => apart_twinPlaces (by decide)) same manifest own
      exact (earlier _ mem').primary _ _ _ stored' manifest' own'
    · exact now.primary v primary name stored manifest own

theorem Steady.settled (h : Steady c canary refs redirect programs start past)
    (run : Run programs start past store) :
    Settled c canary start store ∧ ∀ r ∈ past, Settled c canary start r.before := by
  induction run with
  | start => exact ⟨settled_start h.named, fun _ hr => absurd hr List.not_mem_nil⟩
  | step run follows ih =>
    obtain ⟨now, earlier⟩ := ih h.of_append
    have touches := h.touches run follows
    constructor
    · exact ⟨fun _ _ => now.target_of_touches earlier h.named touches,
        fun _ _ _ => now.primary_of_touches earlier h.named touches⟩
    · intro r hr
      obtain hr | hr := List.mem_append.mp hr
      · exact earlier r hr
      · obtain rfl := List.mem_singleton.mp hr
        exact now

/-! ## The primary is kept -/

theorem Touches.keeps_primary (touches : Touches c canary refs redirect past m) {v : Value}
    (stored : m.before.get? (c.primaryKey canary) = some v) :
    ∃ w, m.after.get? (c.primaryKey canary) = some w := by
  have put {key : ObjectKey} {kept : Value} (after : m.after = m.before.put key kept) :
      ∃ w, m.after.get? (c.primaryKey canary) = some w := by
    rw [after, Store.get?_put]
    split
    · exact ⟨kept, rfl⟩
    · exact ⟨v, stored⟩
  cases touches with
  | nothing _ unchanged => exact ⟨v, unchanged.trans stored⟩
  | status _ _ after => exact put after
  | created creates => exact put creates.after
  | scaled _ _ _ _ _ _ after => exact put after
  | promoted _ _ _ _ _ _ _ _ _ _ _ _ after => exact put after

theorem Steady.never_stored (h : Steady c canary refs redirect programs start past)
    (run : Run programs start past store) (missing : store.get? (c.primaryKey canary) = none) :
    ∀ r ∈ past, r.before.get? (c.primaryKey canary) = none := by
  induction run with
  | start => exact fun _ hr => absurd hr List.not_mem_nil
  | @step past m run follows ih =>
    have before : m.before.get? (c.primaryKey canary) = none := by
      cases stored : m.before.get? (c.primaryKey canary) with
      | none => rfl
      | some v =>
        obtain ⟨w, after⟩ := (h.touches run follows).keeps_primary stored
        simp [missing] at after
    intro r hr
    obtain hr | hr := List.mem_append.mp hr
    · exact ih h.of_append before r hr
    · obtain rfl := List.mem_singleton.mp hr
      exact before

/-- A primary is what was created from a target, but for what promotions renew, and that it has from
the target as it was kept. -/
structure Renewed (c : TemplateController) (refs : List ConfigRef)
    (redirect : Value → List ConfigRef → Except Failure Value) (target : Value)
    (label value : String) (born primary : Value) : Prop where
  frame : SameApart (twinPlaces c.kind ++ idlePlaces) born.wire primary.wire
  twin : ∃ target' redirected id, KeptTarget target target' ∧
    redirect (sourcePodSpec target') refs = .ok redirected ∧
    Twin c.kind target' label value redirected id primary

variable {target target' born old new body kept redirected : Value} {label value id : String}

theorem apart_twinPlaces_of_mem_idlePlaces {other : Path} (h : other ∈ idlePlaces) :
    ∀ place ∈ twinPlaces c.kind, Path.Apart other place := by
  simp only [idlePlaces, serverPlaces, List.mem_cons, List.not_mem_nil, or_false] at h
  rcases h with rfl | rfl | rfl | rfl | rfl
  all_goals exact apart_twinPlaces (by decide)

theorem Renewed.of_statusUpdate (h : Renewed c refs redirect target label value born old)
    (update : StatusUpdate old new) : Renewed c refs redirect target label value born new := by
  obtain ⟨target', redirected, id, kept, redirection, twin⟩ := h.twin
  constructor
  · refine (h.frame.append (sameApart_of_statusUpdate update)).mono fun place hp => ?_
    simpa using hp
  · refine ⟨target', redirected, id, kept, redirection, twin.congr update.same fun other ho => ?_⟩
    exact apart_twinPlaces_of_mem_idlePlaces (List.mem_cons_of_mem _ (List.mem_cons_of_mem _ ho))

theorem Renewed.of_promotion {primary : Value}
    (h : Renewed c refs redirect target label value born old)
    (manifest : old.toManifest = .ok primary)
    (written : WrittenBack (.template c.kind) (twinPlaces c.kind) primary body)
    (same : SameApart serverPlaces body kept) (target_kept : KeptTarget target target')
    (redirection : redirect (sourcePodSpec target') refs = .ok redirected)
    (twin : Twin c.kind target' label value redirected id body) :
    Renewed c refs redirect target label value born kept := by
  obtain ⟨_, _, _, -, -, old_twin⟩ := h.twin
  obtain ⟨labels, stands, -⟩ := old_twin.labels
  obtain rfl := eq_wire_of_toManifest manifest stands
  constructor
  · have written_wire := (written.same.append same).wire
    rw [wire_wire] at written_wire
    refine (h.frame.append written_wire).mono fun place hp => ?_
    simp only [idlePlaces, List.mem_append, List.mem_cons] at hp ⊢
    grind
  · refine ⟨target', redirected, id, target_kept, redirection, twin.congr same fun other ho => ?_⟩
    exact apart_twinPlaces_of_mem_idlePlaces (List.mem_cons_of_mem _ (List.mem_cons_of_mem _
      (List.mem_cons_of_mem _ ho)))

theorem Renewed.of_touches {value : Value} (touches : Touches c canary refs redirect past m)
    (named : start.SelfNamed) (settled : ∀ r ∈ past, Settled c canary start r.before)
    (origin : ∀ v₀ target₀, start.get? (c.targetKey canary) = some v₀ →
      v₀.toManifest = .ok target₀ → KeptTarget target₀ target)
    (paired : c.pairingLabel target = .ok (label, value))
    (earlier : ∀ r ∈ past, ∀ w, r.before.get? (c.primaryKey canary) = some w →
      Renewed c refs redirect target label (primaryName value) born w)
    (stored : m.before.get? (c.primaryKey canary) = some old)
    (now : Renewed c refs redirect target label (primaryName value) born old) :
    ∃ w, m.after.get? (c.primaryKey canary) = some w ∧
      Renewed c refs redirect target label (primaryName value) born w := by
  cases touches with
  | nothing _ unchanged => exact ⟨old, unchanged.trans stored, now⟩
  | @status key _ new before update after =>
    rw [after, Store.get?_put]
    split
    · rename_i here
      rw [Store.get?_congr _ here, stored] at before
      obtain rfl := Option.some.inj before
      exact ⟨new, rfl, now.of_statusUpdate update⟩
    · exact ⟨old, stored, now⟩
  | created creates => exact absurd creates.missing (by simp [stored])
  | scaled mem stored' manifest own _ _ after =>
    have here := (settled _ mem).same_targetKey named stored' manifest own
    refine ⟨old, ?_, now⟩
    rw [after, Store.get?_put, if_neg, stored]
    exact fun there => not_same_primaryKey (there.symm.trans here)
  | @promoted read read' v t w p redirected body kept label' id value' name mem stored' manifest
      paired' redirection mem' stored'' manifest' own written twin same after =>
    rw [after, Store.get?_put]
    split
    · obtain ⟨v₀, target₀, stored₀, manifest₀, kept₀⟩ :=
        (settled read mem).target v t stored' manifest
      have target_kept := (origin v₀ target₀ stored₀ manifest₀).symm.trans kept₀
      obtain ⟨rfl, rfl⟩ := Prod.mk.inj (target_kept.pairingLabel paired paired')
      have renewed := earlier read' mem' w stored''
      exact ⟨kept, rfl, renewed.of_promotion manifest' written same target_kept redirection twin⟩
    · exact ⟨old, stored, now⟩

theorem Creates.renewed {value : Value}
    (h : Creates c canary refs redirect past m target label value born) :
    Renewed c refs redirect target label (primaryName value) born born := by
  obtain ⟨redirected, id, body, redirection, twin, -, same⟩ := h.twin
  refine ⟨.refl _ _, target, redirected, id, .refl target, redirection, twin.congr same ?_⟩
  intro other ho
  exact apart_twinPlaces_of_mem_idlePlaces (by simp [idlePlaces, ho])

/-- What stands in the primary's place after its birth, and what was read there before, is the
primary that was born, renewed. -/
structure RenewedSince (c : TemplateController) (canary : Canary) (refs : List ConfigRef)
    (redirect : Value → List ConfigRef → Except Failure Value) (target : Value)
    (label value : String) (born : Value) (moments : List Moment) (store : Store) : Prop where
  now : ∃ last, store.get? (c.primaryKey canary) = some last ∧
    Renewed c refs redirect target label value born last
  earlier : ∀ r ∈ moments, ∀ w, r.before.get? (c.primaryKey canary) = some w →
    Renewed c refs redirect target label value born w

theorem Creates.renewedSince {value : Value}
    (h : Creates c canary refs redirect past m target label value born)
    (never : ∀ r ∈ past, r.before.get? (c.primaryKey canary) = none) :
    RenewedSince c canary refs redirect target label (primaryName value) born (past ++ [m])
      m.after where
  now := by
    refine ⟨born, ?_, h.renewed⟩
    rw [h.after, Store.get?_put, if_pos (ObjectKey.same_self _)]
  earlier r hr w stored := by
    obtain hr | hr := List.mem_append.mp hr
    · simp [never r hr] at stored
    · obtain rfl := List.mem_singleton.mp hr
      simp [h.missing] at stored

theorem Creates.origin {value v₀ target₀ : Value}
    (h : Creates c canary refs redirect past m target label value born)
    (settled : ∀ r ∈ past, Settled c canary start r.before)
    (stored₀ : start.get? (c.targetKey canary) = some v₀) (manifest₀ : v₀.toManifest = .ok target₀) :
    KeptTarget target₀ target := by
  obtain ⟨read, hread, v, stored, manifest⟩ := h.read
  obtain ⟨v₁, target₁, stored₁, manifest₁, kept⟩ :=
    (settled read hread).target v target stored manifest
  obtain rfl := Option.some.inj (stored₀.symm.trans stored₁)
  obtain rfl := Except.ok.inj (manifest₀.symm.trans manifest₁)
  exact kept

/-- After its creation a primary is renewed and nothing else. -/
theorem Steady.renewed {birth : Moment} {value : Value}
    (steady : Steady c canary refs redirect programs start (past ++ birth :: future))
    (run : Run programs start (past ++ birth :: future) store)
    (creates : Creates c canary refs redirect past birth target label value born) :
    ∃ last, store.get? (c.primaryKey canary) = some last ∧
      Renewed c refs redirect target label (primaryName value) born last := by
  have steady_past := steady.of_append
  obtain ⟨run_past, -⟩ := run.at_moment
  obtain ⟨-, settled_past⟩ := steady_past.settled run_past
  have never := steady_past.never_stored run_past creates.missing
  -- by induction on the moments after the birth: the primary is renewed, and so was every version
  rw [List.append_cons past birth future] at run steady
  refine (run.keeps (P := RenewedSince c canary refs redirect target label (primaryName value) born)
    ?_ ?_).now
  · intro s run_birth
    obtain ⟨-, -, rfl⟩ := run_snoc.mp run_birth
    exact creates.renewedSince never
  · rintro more m ⟨rest, rfl⟩ run_more follows ⟨⟨last, stored, now⟩, earlier⟩
    rw [← List.append_assoc, ← List.append_assoc] at steady
    have steady_more := steady.of_append
    have touches := steady_more.touches run_more follows
    obtain ⟨-, settled⟩ := steady_more.of_append.settled run_more
    constructor
    · exact now.of_touches touches steady_past.named settled (fun _ _ => creates.origin settled_past)
        creates.paired earlier stored
    · intro r hr w stored'
      obtain hr | hr := List.mem_append.mp hr
      · exact earlier r hr w stored'
      · obtain rfl := List.mem_singleton.mp hr
        obtain rfl := Option.some.inj (stored.symm.trans stored')
        exact now

/-- A primary that was created stays what it was created as, however often it is promoted: after its
creation it changes in nothing but the annotation that tells revisions apart, its status, and what
its server fills in. -/
theorem promotions_keep_primary {birth : Moment} {caller : Nat} {space : Value} {disturbed : Bool}
    (blind : SelectorBlind redirect)
    (steady : Steady c canary refs redirect programs start (past ++ birth :: future))
    (run : Run programs start (past ++ birth :: future) store)
    (creation : birth.event =
      .exchange caller (createExchange (.template c.kind) space body (.ok ())) disturbed) :
    ∃ born last, birth.after.get? (c.primaryKey canary) = some born ∧
      store.get? (c.primaryKey canary) = some last ∧
      Agree (idPlace :: idlePlaces) born.wire last.wire := by
  obtain ⟨run_past, -⟩ := run.at_moment
  obtain ⟨asks, served⟩ := run.asks creation
  obtain ⟨target, label, value, born, creates⟩ := steady.of_append.creates run_past asks served
  obtain ⟨before, event, after⟩ := birth
  obtain rfl := creation
  obtain ⟨last, stored, renewed⟩ := steady.renewed run creates
  obtain ⟨redirected, id, body, redirection, twin, own, same⟩ := creates.twin
  obtain ⟨target', redirected', id', kept, redirection', twin'⟩ := renewed.twin
  refine ⟨born, last, ?_, stored, ?_⟩
  · rw [creates.after, Store.get?_put, if_pos (ObjectKey.same_self _)]
  · obtain ⟨podSpec, entries⟩ := redirected_congr blind kept redirection redirection'
    refine agree_of_twins kept (twin.congr same ?_) twin' podSpec entries renewed.frame ?_
    · intro other ho
      exact apart_twinPlaces_of_mem_idlePlaces (by simp [idlePlaces, ho])
    · refine ⟨(primaryObject canary).name, ?_⟩
      rw [at?_wire, same _ (by simp [serverPlaces]), (ownName_eq_ok.mp own).1]
      rfl

/-- The canary of a release that skips the analysis. -/
def sampleRelease : Canary := { sampleCanary with skipAnalysis := true }

/-- One caller establishes the canary, others promote it. -/
def sampleReleasePrograms : Nat → Program Value
  | 0 => Controller.call (.template sampleController) .establish sampleRelease
  | _ => Controller.call (.template sampleController) .promote sampleRelease

/-- The site after the canary was established. -/
def sampleEstablished : Site :=
  ((sampleSite [] [("web", "1")]).run (sampleReleasePrograms 0)).2

/-- What happens when a primary is created and then promoted. -/
def sampleReleaseMoments : List Moment :=
  (sampleSite [] [("web", "1")]).moments 0 (sampleReleasePrograms 0) ++
    sampleEstablished.moments 1 (sampleReleasePrograms 1)

/-- What the primary is created as. -/
def samplePrimary : Value :=
  .object [
    ("apiVersion", .text "apps/v1"), ("kind", .text "Deployment"),
    ("metadata", .object [("name", .text "web-primary"), ("namespace", .text "prod"),
      ("labels", .object [("app", .text "web-primary")]), ("annotations", .object []),
      ("ownerReferences", .list [sampleRelease.ownerReference])]),
    ("spec", .object [("minReadySeconds", .int 5), ("replicas", .int 2),
      ("selector", .object [("matchLabels", .object [("app", .text "web-primary")])]),
      ("template", .object [
        ("metadata", .object [("labels", .object [("app", .text "web-primary")]),
          ("annotations", .object [(.text idKey, .text (Site.id 1))])]),
        ("spec", .object [("nodeSelector", .object [("disk", .text "ssd")])])])])]

theorem steady_sampleReleaseMoments :
    Steady sampleController sampleRelease Tracker.off.refs Tracker.off.redirect
      sampleReleasePrograms (sampleSite [] [("web", "1")]).server.store sampleReleaseMoments := by
  have exchanges : (sampleReleaseMoments.all fun m => m.event.isExchange) = true := by
    decide +kernel
  constructor
  · decide +kernel
  · intro caller
    cases caller with
    | zero => exact ⟨sampleRelease, .establish, .inl rfl, rfl, rfl⟩
    | succ n => exact ⟨sampleRelease, .promote, .inr rfl, rfl, rfl⟩
  · intro m hm key value event
    have exchange := List.all_eq_true.mp exchanges m hm
    rw [event] at exchange
    cases exchange
  · intro m hm caller e disturbed event
    rcases List.mem_append.mp hm with first | second
    · exact Site.fromTracker_of_mem_moments first event
    · have same : sampleEstablished.tracker = .off := by decide +kernel
      rw [← same]
      exact Site.fromTracker_of_mem_moments second event

/-- A primary is promoted, with an id of its own, and stays what it was created as. -/
theorem sampleRelease_keeps_primary :
    ∃ birth ∈ sampleReleaseMoments, ∃ born last,
      birth.after.get? (primaryKey sampleController sampleRelease) = some born ∧
      (sampleEstablished.run (sampleReleasePrograms 1)).2.server.store.get?
        (primaryKey sampleController sampleRelease) = some last ∧
      Agree (idPlace :: idlePlaces) born.wire last.wire := by
  have found : sampleReleaseMoments[6]?.map Moment.event = some (.exchange 0 (createExchange
      (.template .deployment) (.text "prod") samplePrimary (.ok ())) false) := by
    decide +kernel
  obtain ⟨birth, split, event⟩ := exists_split_of_getElem? found
  have first : Run sampleReleasePrograms (sampleSite [] [("web", "1")]).server.store
      ([] ++ (sampleSite [] [("web", "1")]).moments 0 (sampleReleasePrograms 0))
      sampleEstablished.server.store := Site.run_of_call rfl .start rfl
  have run : Run sampleReleasePrograms _ sampleReleaseMoments _ :=
    Site.run_of_call rfl first (by decide +kernel)
  have steady := steady_sampleReleaseMoments
  rw [split] at run steady
  have mem : birth ∈ sampleReleaseMoments := by
    rw [split]
    simp
  exact ⟨birth, mem, promotions_keep_primary (Tracker.selectorBlind .off) steady run event⟩

end TemplateController

end CanaryRelease
