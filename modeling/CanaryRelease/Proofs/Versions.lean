import CanaryRelease.Proofs.Interleaving
import CanaryRelease.Proofs.ObjectCalls

/-!
# Resource versions

A server gives every write a resource version that no object has had before (`FreshVersions`). Then
a version stands for one state of one object: an object that has the version of one that was read is
that object, as it was read (`FreshVersions.eq_of_version`), and an object that was written since
has another version (`FreshVersions.version_ne_of_written`). Both are invariants of a run from the
moment of the read on.
-/

namespace CanaryRelease

theorem Value.resourceVersion_eq (v : Value) :
    v.resourceVersion = (v.at? ["metadata", "resourceVersion"]).getD .null := by
  unfold resourceVersion part
  cases v with
  | object fs =>
    rw [at?_object]
    cases hm : Fields.get? fs (.text "metadata") with
    | none => simp only [hm, Option.bind_none, Fields.get?_nil]
    | some metadata =>
      cases metadata with
      | object gs => simp only [hm, Option.bind_some, at?_object_singleton]
      | _ =>
        simp only [hm]
        rfl
  | _ => rfl

theorem resourceVersion_of_writtenBack {kind : Kind} {places : List Path} {v manifest body : Value}
    (hm : v.toManifest = .ok manifest) (written : Workload.WrittenBack kind places manifest body)
    (apart : ∀ place ∈ places, Path.Apart ["metadata", "resourceVersion"] place) :
    body.resourceVersion = v.resourceVersion.wire := by
  have same : body.at? ["metadata", "resourceVersion"] =
      manifest.at? ["metadata", "resourceVersion"] := by
    refine written.same _ ?_
    simp only [List.mem_cons]
    rintro place (rfl | rfl | hp)
    · simp
    · simp
    · exact apart place hp
  obtain ⟨fs, rfl, parts⟩ := Value.toManifest_eq_ok hm
  rw [Value.resourceVersion_eq, Value.resourceVersion_eq, same, parts, Value.at?_wire]
  cases v.at? ["metadata", "resourceVersion"] with
  | none => rfl
  | some x => rfl

theorem Value.text_alike {s t : String} : (text s).alike (text t) = true ↔ s = t := by
  simp [alike]

/-- All versions are texts, and every write has one that no object had before. -/
structure FreshVersions (start : Store) (moments : List Moment) : Prop where
  text : ∀ key v, start.get? key = some v → ∃ version, v.resourceVersion = .text version
  apart : ∀ key other v w, start.get? key = some v → start.get? other = some w →
    v.resourceVersion = w.resourceVersion → key.Same other
  fresh : ∀ past m future key v, moments = past ++ m :: future → m.event.Writes key →
    m.after.get? key = some v →
      (∃ version, v.resourceVersion = .text version) ∧
        ∀ earlier ∈ past ++ [m], ∀ other w, earlier.before.get? other = some w →
          w.resourceVersion ≠ v.resourceVersion

instance (v : Value) : Decidable (∃ s, v = .text s) :=
  match v with
  | .text s => .isTrue ⟨s, rfl⟩
  | .null | .bool _ | .int _ | .float _ | .time _ | .list _ | .object _ => .isFalse nofun

namespace FreshVersions

/-- Versions are fresh if they are for all entries of all stores; this can be decided. -/
theorem of_entries {start : Store} {moments : List Moment}
    (text : ∀ entry ∈ start, ∃ version, entry.2.resourceVersion = .text version)
    (apart : ∀ entry ∈ start, ∀ other ∈ start,
      entry.2.resourceVersion = other.2.resourceVersion → entry.1.Same other.1)
    (fresh : ∀ n < moments.length, ∀ m ∈ moments[n]?, ∀ key ∈ m.event.written?,
      ∀ v ∈ m.after.get? key, (∃ version, v.resourceVersion = .text version) ∧
        ∀ earlier ∈ moments.take (n + 1), ∀ entry ∈ earlier.before,
          entry.2.resourceVersion ≠ v.resourceVersion) : FreshVersions start moments := by
  constructor
  · intro key v stored
    obtain ⟨entry, mem, -, rfl⟩ := Store.exists_entry stored
    exact text entry mem
  · intro key other v w stored stored' same
    obtain ⟨entry, mem, here, rfl⟩ := Store.exists_entry stored
    obtain ⟨entry', mem', here', rfl⟩ := Store.exists_entry stored'
    exact here.symm.trans ((apart entry mem entry' mem' same).trans here')
  · rintro past m future key v rfl ⟨written, hw, same⟩ stored
    rw [← Store.get?_congr _ same] at stored
    obtain ⟨version, others⟩ := fresh past.length (by simp) m (by simp) written hw v stored
    refine ⟨version, fun earlier mem other w found => ?_⟩
    obtain ⟨entry, hentry, -, rfl⟩ := Store.exists_entry found
    refine others earlier ?_ entry hentry
    rwa [List.append_cons, List.take_left' (by simp)]

variable {programs : Nat → Program Value} {start store : Store} {past future since : List Moment}
  {m read : Moment} {key : ObjectKey} {v x body : Value}

theorem of_append (h : FreshVersions start (past ++ future)) : FreshVersions start past := by
  refine ⟨h.text, h.apart, ?_⟩
  rintro before m after key v rfl
  exact h.fresh before m (after ++ future) key v (by simp)

theorem get?_or_fresh (h : FreshVersions start (past ++ m :: future))
    (follows : m.Follows programs past) (hv : m.after.get? key = some v) :
    m.before.get? key = some v ∨
      m.event.Writes key ∧ (∃ version, v.resourceVersion = .text version) ∧
        ∀ earlier ∈ past ++ [m], ∀ other w, earlier.before.get? other = some w →
          w.resourceVersion ≠ v.resourceVersion := by
  by_cases written : m.event.Writes key
  · exact .inr ⟨written, h.fresh past m future key v rfl written hv⟩
  · rcases follows.get?_of_not_writes written with same | gone
    · exact .inl (same ▸ hv)
    · rw [gone] at hv
      cases hv

theorem text_and_apart (run : Run programs start past store) (h : FreshVersions start past) :
    (∀ key v, store.get? key = some v → ∃ version, v.resourceVersion = .text version) ∧
      ∀ key other v w, store.get? key = some v → store.get? other = some w →
        v.resourceVersion = w.resourceVersion → key.Same other := by
  induction run with
  | start => exact ⟨h.text, h.apart⟩
  | @step past m run follows ih =>
    obtain ⟨text, apart⟩ := ih h.of_append
    have here : m ∈ past ++ [m] := by simp
    constructor
    · intro key v hv
      rcases h.get?_or_fresh follows hv with old | ⟨-, version, -⟩
      · exact text key v old
      · exact version
    · intro key other v w hv hw same
      rcases h.get?_or_fresh follows hv with oldv | ⟨writesv, -, freshv⟩
      · rcases h.get?_or_fresh follows hw with oldw | ⟨-, -, freshw⟩
        · exact apart key other v w oldv oldw same
        · exact absurd same (freshw m here key v oldv)
      · rcases h.get?_or_fresh follows hw with oldw | ⟨writesw, -, -⟩
        · exact absurd same.symm (freshv m here other w oldw)
        · obtain ⟨k, hk, hkey⟩ := writesv
          obtain ⟨l, hl, hother⟩ := writesw
          obtain rfl := Option.some.inj (hk.symm.trans hl)
          exact hkey.symm.trans hother

theorem get?_or_version_ne (h : FreshVersions start (past ++ m :: future))
    (follows : m.Follows programs past) (mem : read ∈ past ++ [m])
    (hv : read.before.get? key = some v) {other : ObjectKey} (hx : m.after.get? other = some x) :
    m.before.get? other = some x ∨ x.resourceVersion ≠ v.resourceVersion := by
  rcases h.get?_or_fresh follows hx with old | ⟨-, -, fresh⟩
  · exact .inl old
  · exact .inr (fresh read mem key v hv).symm

theorem eq_of_version (run : Run programs start (past ++ read :: since) store)
    (h : FreshVersions start (past ++ read :: since)) (hv : read.before.get? key = some v)
    {other : ObjectKey} (hx : store.get? other = some x)
    (same : x.resourceVersion = v.resourceVersion) : other.Same key ∧ x = v := by
  refine run.keeps (P := fun _ s => ∀ other x, s.get? other = some x →
    x.resourceVersion = v.resourceVersion → other.Same key ∧ x = v) ?_ ?_ other x hx same
  · intro s before other x hx same
    obtain rfl := before.store_eq run.at_moment.1
    have place := (text_and_apart before h.of_append).2 other key x v hx hv same
    rw [Store.get?_congr _ place, hv] at hx
    exact ⟨place, (Option.some.inj hx).symm⟩
  · rintro more m ⟨rest, split⟩ - follows ih other x hx same
    rw [← split, List.append_assoc, List.singleton_append, ← List.append_assoc] at h
    have mem : read ∈ past ++ more ++ [m] := by
      rw [List.append_assoc]
      cases more with
      | nil => simp_all
      | cons first more => simp_all
    rcases h.get?_or_version_ne follows mem hv hx with old | differs
    · exact ih other x old same
    · exact absurd same differs

theorem version_ne_of_written {write : Moment} {other : ObjectKey}
    (run : Run programs start (past ++ write :: since) store)
    (h : FreshVersions start (past ++ write :: since)) (mem : read ∈ past)
    (hv : read.before.get? key = some v) (written : write.event.Writes other)
    (hx : store.get? other = some x) : x.resourceVersion ≠ v.resourceVersion := by
  rw [← List.singleton_append, ← List.append_assoc] at run h
  refine run.keeps (P := fun _ s => ∀ x, s.get? other = some x →
    x.resourceVersion ≠ v.resourceVersion) ?_ ?_ x hx
  · intro s before x hx
    obtain ⟨-, -, rfl⟩ := run_snoc.mp before
    have fresh := h.of_append.fresh past write [] other x rfl written hx
    exact (fresh.2 read (List.mem_append_left _ mem) key v hv).symm
  · rintro more m ⟨rest, rfl⟩ - follows ih x hx
    rw [List.append_assoc _ _ rest |>.symm, ← List.append_assoc] at h
    rw [List.append_assoc, List.singleton_append] at h
    rcases h.get?_or_version_ne follows (by simp [mem]) hv hx with old | differs
    · exact ih x old
    · exact differs

/-! ## Bodies -/

/-- A body is accepted for an object only if that is the object that was read, unchanged. -/
theorem eq_of_alike {other : ObjectKey} (run : Run programs start (past ++ read :: since) store)
    (h : FreshVersions start (past ++ read :: since)) (hv : read.before.get? key = some v)
    (hb : body.resourceVersion = v.resourceVersion.wire) (hx : store.get? other = some x)
    (alike : body.resourceVersion.alike x.resourceVersion = true) : other.Same key ∧ x = v := by
  obtain ⟨run_past, -⟩ := run.at_moment
  obtain ⟨text, -⟩ := text_and_apart run_past h.of_append
  obtain ⟨text', -⟩ := text_and_apart run h
  obtain ⟨version, hversion⟩ := text key v hv
  obtain ⟨version', hversion'⟩ := text' other x hx
  have bodyVersion : body.resourceVersion = .text version := by
    rw [hb, hversion]
    rfl
  have same : x.resourceVersion = v.resourceVersion := by
    rw [bodyVersion, hversion', Value.text_alike] at alike
    rw [hversion, hversion', alike]
  exact h.eq_of_version run hv hx same

theorem outdated_of_written {other : ObjectKey}
    (run : Run programs start (past ++ read :: since) store)
    (h : FreshVersions start (past ++ read :: since)) (hv : read.before.get? key = some v)
    (hb : body.resourceVersion = v.resourceVersion.wire) (hx : store.get? other = some x)
    (written : ∃ write ∈ since, write.event.Writes key ∨ write.event.Writes other) :
    body.resourceVersion.alike x.resourceVersion = false := by
  refine Bool.eq_false_iff.mpr fun alike => ?_
  obtain ⟨place, rfl⟩ := h.eq_of_alike run hv hb hx alike
  obtain ⟨write, hwrite, writes⟩ := written
  have writesObject : write.event.Writes other := by
    rcases writes with ⟨k, hk, here⟩ | writes
    · exact ⟨k, hk, here.trans place.symm⟩
    · exact writes
  obtain ⟨earlier, later, rfl⟩ := List.append_of_mem hwrite
  rw [← List.cons_append, ← List.append_assoc] at run h
  exact h.version_ne_of_written run (by simp) hv writesObject hx rfl

end FreshVersions

end CanaryRelease
