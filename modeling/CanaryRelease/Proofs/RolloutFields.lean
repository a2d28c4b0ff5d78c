import CanaryRelease.Proofs.Verdicts

/-!
# The fields of rollouts

What a rollout's status is in terms of the fields of the manifest. Each kind keeps its counts under
names of its own, a count that is missing or null is zero, and the kinds differ in what a count that
is not declared means (`TemplateKind.Declares`). Conditions are looked for by type, and the first of
a type counts; since no two are of one type, it does not matter which comes first
(`Condition.exists_find`). A DaemonSet is judged by no condition at all.
-/

namespace CanaryRelease

open Value

/-! ## Counts -/

/-- The count that stands at a place, zero if there is none. -/
def Value.CountAt (workload : Value) (path : Path) (n : Int) : Prop :=
  workload.at? path = some (.int n) ∨ (workload.at? path).getD .null = .null ∧ n = 0

namespace TemplateKind

/-- The field of the status that counts the replicas of the latest revision. -/
def updatedField : TemplateKind → String
  | deployment | cloneSet => "updatedReplicas"
  | daemonSet => "updatedNumberScheduled"

/-- The field of the status that counts the replicas of all revisions. -/
def totalField : TemplateKind → String
  | deployment | cloneSet => "replicas"
  | daemonSet => "currentNumberScheduled"

/-- The field of the status that counts the replicas that serve. -/
def availableField : TemplateKind → String
  | deployment | cloneSet => "availableReplicas"
  | daemonSet => "numberAvailable"

/-- The replicas that a workload is to have: one for a Deployment that does not say, no number for
such a CloneSet, and as many as nodes ask for with a DaemonSet. -/
def Declares (kind : TemplateKind) (workload : Value) (declared : Option Int) : Prop :=
  match kind with
  | deployment => ∃ given : Option Int,
      workload.at? ["spec", "replicas"] = given.map Value.int ∧ declared = some (given.getD 1)
  | cloneSet => workload.at? ["spec", "replicas"] = declared.map Value.int
  | daemonSet => ∃ n, workload.CountAt ["status", "desiredNumberScheduled"] n ∧ declared = some n

/-- The counts that the fields of a workload give. -/
structure HasCounts (kind : TemplateKind) (workload : Value) (n : RolloutCounts) : Prop where
  generation : workload.CountAt ["metadata", "generation"] n.generation
  observed : workload.CountAt ["status", "observedGeneration"] n.observed
  desired : kind.Declares workload n.desired
  updated : workload.CountAt ["status", kind.updatedField] n.updated
  total : workload.CountAt ["status", kind.totalField] n.total
  available : workload.CountAt ["status", kind.availableField] n.available

/-- The conditions that a workload is judged by: those in its status, none for a DaemonSet. -/
def Consults (kind : TemplateKind) (workload : Value) (entries : List Value) : Prop :=
  match kind with
  | deployment | cloneSet => workload.at? ["status", "conditions"] = some (.list entries) ∨
      (workload.at? ["status", "conditions"]).getD .null = .null ∧ entries = []
  | daemonSet => entries = []

end TemplateKind

/-- The sections of a workload are objects, or they are not set. -/
def Value.HasSections (workload : Value) : Prop :=
  ∀ s ∈ ["metadata", "spec", "status"], ∃ fs : Fields,
    workload.getSection (.text s) = .ok (.object fs)

/-! ## Conditions -/

theorem Value.zoned_of_toTimestamp? {v : Value} {t : Timestamp}
    (h : v.toTimestamp? = .ok (some t)) : t.offset.isSome = true := by
  unfold toTimestamp? at h
  split at h
  · cases h
  · cases h
  · cases h
    rfl
  · split at h
    · cases h
      rfl
    · cases h

namespace Condition

/-- The time at which the condition of an entry last changed. -/
def ChangedAt (entry : Value) (since : Option Timestamp) : Prop :=
  ((entry.at? ["lastTransitionTime"]).getD .null).toTimestamp? = .ok since

theorem ChangedAt.unique {entry : Value} {a b : Option Timestamp} (ha : ChangedAt entry a)
    (hb : ChangedAt entry b) : a = b := Except.ok.inj (ha.symm.trans hb)

/-- The entries of a list are conditions whose times can be read, and no two are of one type. -/
structure WellFormed (entries : List Value) : Prop where
  entry : ∀ entry ∈ entries, ∃ (fs : Fields) (type : String) (since : Option Timestamp),
    entry = .object fs ∧ entry.at? ["type"] = some (.text type) ∧ ChangedAt entry since
  distinct : ∀ a ∈ entries, ∀ b ∈ entries, a.at? ["type"] = b.at? ["type"] → a = b

variable {entries : List Value} {entry conditions : Value} {type : String}

theorem findEntry_eq (formed : ∀ entry ∈ entries, ∃ (fs : Fields) (s : String),
    entry = .object fs ∧ entry.at? ["type"] = some (.text s)) :
    findEntry (.text type) entries =
      .ok (entries.find? fun entry => entry.at? ["type"] = some (.text type)) := by
  induction entries with
  | nil => rfl
  | cons entry entries ih =>
    obtain ⟨fs, s, rfl, named⟩ := formed entry List.mem_cons_self
    have rest := ih fun entry mem => formed entry (List.mem_cons_of_mem _ mem)
    rw [at?_object_singleton] at named
    have got : (Value.object fs).get "type" = .ok (.text s) :=
      get_eq_ok.mpr ⟨fs, rfl, by rw [named]; rfl⟩
    rw [findEntry, got, rest]
    by_cases same : s = type
    · simp [same, named, alike, bind, Except.bind, pure, Except.pure]
    · simp [same, named, alike, bind, Except.bind]

theorem find?_type (formed : WellFormed entries) (mem : entry ∈ entries)
    (named : entry.at? ["type"] = some (.text type)) :
    (entries.find? fun entry => entry.at? ["type"] = some (.text type)) = some entry := by
  cases found : entries.find? fun entry => entry.at? ["type"] = some (.text type) with
  | none => exact absurd named (by simpa using List.find?_eq_none.mp found entry mem)
  | some other =>
    have same : other.at? ["type"] = some (.text type) := by simpa using List.find?_some found
    have within := List.mem_of_find?_eq_some found
    rw [formed.distinct other within entry mem (same.trans named.symm)]

theorem elements_orElse (h : conditions = .list entries ∨ conditions = .null ∧ entries = []) :
    (conditions.orElse (.list [])).elements = .ok entries := by
  obtain rfl | ⟨rfl, rfl⟩ := h
  · cases entries <;> rfl
  · rfl

theorem ofEntry_object {fs : Fields} {since : Option Timestamp}
    (changed : ChangedAt (.object fs) since) :
    ofEntry (.text type) (.object fs) = .ok ⟨.text type,
      ((fs.get? "status").getD (.text "")).display,
      ((fs.get? "reason").getD .null).orElse (.text ""), since⟩ := by
  rw [ChangedAt, at?_object_singleton] at changed
  change (Value.toTimestamp? ((fs.get? "lastTransitionTime").getD .null)).map
    (Condition.mk (.text type) _ _) = _
  rw [changed]
  rfl

/-- The condition that is found is that of the entry of its type. -/
theorem exists_find (formed : WellFormed entries)
    (h : conditions = .list entries ∨ conditions = .null ∧ entries = []) (type : String) :
    ∃ found, Condition.find conditions (.text type) = .ok found ∧ ∀ condition,
      found = some condition ↔ ∃ entry ∈ entries, entry.at? ["type"] = some (.text type) ∧
        ofEntry (.text type) entry = .ok condition := by
  have first : findEntry (.text type) entries = .ok _ := findEntry_eq fun entry mem =>
    let ⟨fs, s, _, shape, named, _⟩ := formed.entry entry mem
    ⟨fs, s, shape, named⟩
  rw [Condition.find, elements_orElse h]
  cases search : entries.find? fun entry => entry.at? ["type"] = some (.text type) with
  | none =>
    rw [search] at first
    refine ⟨none, by simp only [bind, Except.bind, first]; rfl, fun condition => ?_⟩
    refine iff_of_false nofun ?_
    rintro ⟨entry, mem, named, -⟩
    cases search.symm.trans (find?_type formed mem named)
  | some entry =>
    rw [search] at first
    have mem := List.mem_of_find?_eq_some search
    obtain ⟨fs, -, since, rfl, -, changed⟩ := formed.entry entry mem
    have read : ofEntry (.text type) (.object fs) = .ok _ := ofEntry_object changed
    refine ⟨some _, by simp only [bind, Except.bind, first, Option.mapM_some, read]; rfl,
      fun condition => ?_⟩
    constructor
    · rintro ⟨⟩
      exact ⟨_, mem, by simpa using List.find?_some search, read⟩
    · rintro ⟨other, mem', named, read'⟩
      obtain rfl := Option.some.inj (search.symm.trans (find?_type formed mem' named))
      exact congrArg some (Except.ok.inj (read.symm.trans read'))

section Read

variable {condition : Condition} (formed : WellFormed entries) (mem : entry ∈ entries)
  (read : ofEntry (.text type) entry = .ok condition)

include formed mem read

theorem changedAt_of_ofEntry : ChangedAt entry condition.since := by
  obtain ⟨fs, -, since, rfl, -, changed⟩ := formed.entry entry mem
  obtain rfl := Except.ok.inj ((ofEntry_object changed).symm.trans read)
  exact changed

theorem reason_eq_text {s : String} (nonempty : s ≠ "") :
    condition.reason = .text s ↔ entry.at? ["reason"] = some (.text s) := by
  obtain ⟨fs, -, since, rfl, -, changed⟩ := formed.entry entry mem
  obtain rfl := Except.ok.inj ((ofEntry_object changed).symm.trans read)
  rw [at?_object_singleton]
  dsimp only
  cases fs.get? "reason" with
  | none => simp [orElse, isUnset, nonempty.symm]
  | some x =>
    rw [Option.getD_some, Option.some_inj, orElse]
    split
    · rename_i unset
      refine iff_of_false (fun same => nonempty (Value.text.inj same).symm) ?_
      rintro rfl
      exact nonempty (by simpa [isUnset] using unset)
    · exact .rfl

end Read

theorem zoned_of_find {kind : Value} {condition : Condition} {t : Timestamp}
    (h : Condition.find conditions kind = .ok (some condition)) (since : condition.since = some t) :
    t.offset.isSome = true := by
  unfold Condition.find at h
  obtain ⟨_, -, h⟩ := bind_eq_ok.mp h
  obtain ⟨entry, -, h⟩ := bind_eq_ok.mp h
  cases entry with
  | none => cases h
  | some entry =>
    rw [Option.mapM_some] at h
    obtain ⟨read, h, same⟩ := bind_eq_ok.mp h
    cases same
    unfold ofEntry at h
    simp only [bind_eq_ok] at h
    obtain ⟨_, -, _, -, changed, -, time, read, same⟩ := h
    cases same
    subst since
    exact Value.zoned_of_toTimestamp? read

end Condition

/-! ## Statuses -/

namespace RolloutStatus

variable {workload : Value} {kind : TemplateKind} {n : RolloutCounts} {entries : List Value}

theorem count_eq {s key : String} {fs : Fields} {n : Int}
    (h : workload.getSection (.text s) = .ok (.object fs)) (stands : workload.CountAt [s, key] n) :
    count (.object fs) key = .ok (.int n) := by
  have here := isSection_of_getSection h (.text key) []
  rw [at?_object_singleton] at here
  rw [Value.CountAt, ← here] at stands
  change Except.ok (((fs.get? key).getD .null).orElse (.int 0)) = _
  obtain found | ⟨missing, rfl⟩ := stands
  · rw [found, Option.getD_some, orElse]
    split
    · rename_i unset
      rw [show n = 0 by simpa [isUnset] using unset]
    · rfl
  · rw [missing]
    rfl

/-- A status says what counts and conditions do. -/
structure Reflects (status : RolloutStatus) (n : RolloutCounts) (entries : List Value) : Prop where
  counts : status.HasCounts n
  exceeded : status.Exceeded ↔ ∃ entry ∈ entries, entry.at? ["type"] = some (.text "Progressing") ∧
    entry.at? ["reason"] = some (.text "ProgressDeadlineExceeded")
  since : ∀ since, status.ShortSince since → ∃ entry ∈ entries,
    entry.at? ["type"] = some (.text "Available") ∧ Condition.ChangedAt entry (some since)

theorem exists_ofReplicas {metadata status : Fields} {desired : Value}
    (hm : workload.getSection "metadata" = .ok (.object metadata))
    (hs : workload.getSection "status" = .ok (.object status))
    (generation : workload.CountAt ["metadata", "generation"] n.generation)
    (observed : workload.CountAt ["status", "observedGeneration"] n.observed)
    (declared : desired = (n.desired.map Value.int).getD .null)
    (updated : workload.CountAt ["status", "updatedReplicas"] n.updated)
    (total : workload.CountAt ["status", "replicas"] n.total)
    (available : workload.CountAt ["status", "availableReplicas"] n.available)
    (listed : workload.at? ["status", "conditions"] = some (.list entries) ∨
      (workload.at? ["status", "conditions"]).getD .null = .null ∧ entries = [])
    (formed : Condition.WellFormed entries) :
    ∃ r, ofReplicas desired (.object metadata) (.object status) = .ok r ∧ r.Reflects n entries := by
  have here := isSection_of_getSection hs (.text "conditions") []
  rw [at?_object_singleton] at here
  rw [← here] at listed
  have conditions : (status.get? "conditions").getD .null = .list entries ∨
      (status.get? "conditions").getD .null = .null ∧ entries = [] :=
    listed.imp_left fun found => by rw [found]; rfl
  obtain ⟨progressing, hp, progresses⟩ := Condition.exists_find formed conditions "Progressing"
  obtain ⟨availability, ha, avails⟩ := Condition.exists_find formed conditions "Available"
  refine ⟨⟨(metadata.get? "name").getD (.text ""), .int n.generation, .int n.observed, desired,
    .int n.updated, .int n.total, .int n.available, progressing, availability⟩, ?_, ?_⟩
  · rw [ofReplicas, get_eq_ok.mpr ⟨status, rfl, rfl⟩, getOr_eq_ok.mpr ⟨metadata, rfl, rfl⟩,
      count_eq hm generation, count_eq hs observed, count_eq hs updated, count_eq hs total,
      count_eq hs available]
    simp only [bind, Except.bind, hp, ha]
    rfl
  refine ⟨⟨rfl, rfl, declared, rfl, rfl, rfl⟩, ?_, ?_⟩
  · constructor
    · rintro ⟨condition, found, exceeded⟩
      obtain ⟨entry, mem, named, read⟩ := (progresses condition).mp found
      exact ⟨entry, mem, named, (Condition.reason_eq_text formed mem read (by decide)).mp exceeded⟩
    · rintro ⟨entry, mem, named, exceeded⟩
      obtain ⟨fs, -, since, rfl, -, changed⟩ := formed.entry entry mem
      have read : Condition.ofEntry (.text "Progressing") (.object fs) = .ok _ :=
        Condition.ofEntry_object changed
      refine ⟨_, (progresses _).mpr ⟨_, mem, named, read⟩, ?_⟩
      exact (Condition.reason_eq_text formed mem read (by decide)).mpr exceeded
  · rintro since ⟨condition, found, -, -, time⟩
    obtain ⟨entry, mem, named, read⟩ := (avails condition).mp found
    exact ⟨entry, mem, named, time ▸ Condition.changedAt_of_ofEntry formed mem read⟩

theorem exists_ofObject (sections : workload.HasSections) (counts : kind.HasCounts workload n)
    (consults : kind.Consults workload entries) (formed : Condition.WellFormed entries) :
    ∃ status, ofObject kind workload = .ok status ∧ status.Reflects n entries := by
  obtain ⟨metadata, hm⟩ := sections "metadata" (by decide)
  obtain ⟨spec, hp⟩ := sections "spec" (by decide)
  obtain ⟨status, hs⟩ := sections "status" (by decide)
  have replicas := isSection_of_getSection hp (.text "replicas") []
  rw [at?_object_singleton] at replicas
  obtain ⟨generation, observed, desired, updated, total, available⟩ := counts
  cases kind with
  | deployment =>
    obtain ⟨given, given_at, hd⟩ := desired
    have declared : (spec.get? "replicas").getD (.int 1) =
        (n.desired.map Value.int).getD .null := by
      rw [replicas, given_at, hd]
      cases given <;> rfl
    obtain ⟨r, ok, reflects⟩ := exists_ofReplicas hm hs generation observed declared updated total
      available consults formed
    refine ⟨r, ?_, reflects⟩
    rw [ofObject, hm, hp, hs]
    exact ok
  | cloneSet =>
    have declared : (spec.get? "replicas").getD .null = (n.desired.map Value.int).getD .null := by
      rw [replicas, show workload.at? _ = _ from desired]
    obtain ⟨r, ok, reflects⟩ := exists_ofReplicas hm hs generation observed declared updated total
      available consults formed
    refine ⟨r, ?_, reflects⟩
    rw [ofObject, hm, hp, hs]
    exact ok
  | daemonSet =>
    obtain ⟨declared, scheduled, hd⟩ := desired
    obtain rfl : entries = [] := consults
    refine ⟨⟨(metadata.get? "name").getD (.text ""), .int n.generation, .int n.observed,
      .int declared, .int n.updated, .int n.total, .int n.available, none, none⟩, ?_, ?_⟩
    · simp only [TemplateKind.updatedField, TemplateKind.totalField,
        TemplateKind.availableField] at updated total available
      simp only [ofObject, hm, hs, getOr_eq_ok.mpr ⟨metadata, rfl, rfl⟩, count_eq hm generation,
        count_eq hs observed, count_eq hs scheduled, count_eq hs updated, count_eq hs total,
        count_eq hs available, bind, Except.bind]
      rfl
    · refine ⟨⟨rfl, rfl, by rw [hd]; rfl, rfl, rfl, rfl⟩, ?_, ?_⟩
      · refine iff_of_false (fun ⟨_, found, _⟩ => by cases found) (by simp)
      · rintro since ⟨_, ⟨⟩, -⟩

theorem zoned_of_ofReplicas {status : RolloutStatus} {desired metadata fields : Value}
    {t : Timestamp} (h : ofReplicas desired metadata fields = .ok status)
    (short : status.ShortSince t) : t.offset.isSome = true := by
  unfold ofReplicas at h
  simp only [bind_eq_ok] at h
  obtain ⟨_, -, _, -, _, -, _, -, _, -, _, -, _, -, _, -, availability, found, same⟩ := h
  cases same
  obtain ⟨condition, here, -, -, since⟩ := short
  cases here
  exact Condition.zoned_of_find found since

/-- The times of a status that was read have zones, so a clock with a zone compares with them. -/
theorem comparesWith_of_ofObject {status : RolloutStatus} {now : Timestamp}
    (h : ofObject kind workload = .ok status) (zoned : now.offset.isSome = true) :
    status.ComparesWith now := by
  suffices timed : ∀ t, status.ShortSince t → t.offset.isSome = true by
    exact fun t short => (timed t short).trans zoned.symm
  intro t short
  unfold ofObject at h
  obtain ⟨metadata, -, h⟩ := bind_eq_ok.mp h
  cases kind with
  | deployment | cloneSet =>
    simp only [bind_eq_ok] at h
    obtain ⟨_, -, _, -, _, -, h⟩ := h
    exact zoned_of_ofReplicas h short
  | daemonSet =>
    simp only [bind_eq_ok] at h
    obtain ⟨_, -, _, -, _, -, _, -, _, -, _, -, _, -, _, -, same⟩ := h
    cases same
    obtain ⟨_, ⟨⟩, -⟩ := short

end RolloutStatus

end CanaryRelease
