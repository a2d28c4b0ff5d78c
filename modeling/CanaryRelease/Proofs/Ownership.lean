import CanaryRelease.Proofs.CallWrites

/-!
# Every object has its owner

Calls on any number of canaries leave each other's objects alone. The objects of a canary are its
target, the primary and, for a Service, the service that the canary is reached through; their names
are told apart by suffixes, so no target may be named like an object derived for another canary
(`Release.Apart`). Then every moment of a run does what its operation is for and nothing else
(`Respects`), and whatever a run has done, no object is gone and no target has changed but in its
marker (`Kept`).

What a single exchange does is said once (`Call.Acts`); both parts of `calls_respect_ownership` are
read off it, the second one by induction on the run. The target that scaling writes back may have
been read long before, so the invariant is about all stores of the run and not only the last one.
-/

namespace CanaryRelease

open Program Workload PodTemplate Value

/-! ## Releases and their objects -/

/-- What a canary releases: a target, by kind, namespace and name. -/
structure Release where
  kind : Kind
  space : String
  name : String
  deriving DecidableEq

namespace Release

variable {r s : Release} {releases : List Release}

/-- The key of an object of the release's kind in its namespace. -/
def key (r : Release) (name : String) : ObjectKey := ⟨r.kind.name, ⟨.text name, .text r.space⟩⟩

/-- The key of the target. -/
def target (r : Release) : ObjectKey := r.key r.name

/-- The key of the primary. -/
def primary (r : Release) : ObjectKey := r.key (r.name ++ "-primary")

/-- The key of the service that the canary of a Service is reached through. -/
def canaryService (r : Release) : ObjectKey := r.key (r.name ++ "-canary")

/-- No target is named like an object that is derived for another one of its kind and namespace. -/
structure Apart (releases : List Release) : Prop where
  primary : ∀ r ∈ releases, ∀ s ∈ releases, r.kind = s.kind → r.space = s.space →
    r.name ≠ s.name ++ "-primary"
  canary : ∀ r ∈ releases, ∀ s ∈ releases, r.kind = .service → r.kind = s.kind →
    r.space = s.space → r.name ≠ s.name ++ "-canary"

theorem kind_eq_of_name_eq {k l : Kind} (h : k.name = l.name) : k = l := by
  cases k with
  | template k =>
    cases l with
    | template l =>
      revert h
      cases k <;> cases l <;> decide
    | service =>
      revert h
      cases k <;> decide
  | service =>
    cases l with
    | template l =>
      revert h
      cases l <;> decide
    | service => rfl

theorem same_key {a b : String} :
    (r.key a).Same (s.key b) ↔ r.kind = s.kind ∧ r.space = s.space ∧ a = b := by
  constructor
  · rintro ⟨kind, standard⟩
    have parts : r.space = s.space ∧ a = b := by
      simpa [key, ObjectName.standard, toKey?, Key.standard] using standard
    exact ⟨kind_eq_of_name_eq kind, parts⟩
  · rintro ⟨kind, space, rfl⟩
    rw [key, key, kind, space]
    exact ObjectKey.same_self _

theorem same_target : r.target.Same s.target ↔ r = s := by
  rw [target, target, same_key]
  constructor
  · rintro ⟨kind, space, name⟩
    cases r
    cases s
    obtain rfl : _ = _ := kind
    obtain rfl : _ = _ := space
    obtain rfl : _ = _ := name
    rfl
  · rintro rfl
    exact ⟨rfl, rfl, rfl⟩

theorem same_primary : r.primary.Same s.primary ↔ r = s := by
  rw [← same_target, primary, primary, target, target, same_key, same_key]
  have names : r.name ++ "-primary" = s.name ++ "-primary" ↔ r.name = s.name := by
    rw [← String.toList_inj, String.toList_append, String.toList_append, List.append_cancel_right_eq,
      String.toList_inj]
  rw [names]

theorem not_same_canaryService_primary : ¬ r.canaryService.Same s.primary := by
  rw [canaryService, primary, same_key]
  rintro ⟨-, -, names⟩
  have reversed := congrArg (fun name : String => name.toList.reverse) names
  simp at reversed

theorem Apart.not_same_primary (apart : Apart releases) (hr : r ∈ releases) (hs : s ∈ releases) :
    ¬ s.primary.Same r.target := by
  rw [Release.primary, target, same_key]
  rintro ⟨kind, space, name⟩
  exact apart.primary r hr s hs kind.symm space.symm name.symm

theorem Apart.not_same_canaryService (apart : Apart releases) (hr : r ∈ releases)
    (hs : s ∈ releases) (service : s.kind = .service) : ¬ s.canaryService.Same r.target := by
  rw [canaryService, target, same_key]
  rintro ⟨kind, space, name⟩
  exact apart.canary r hr s hs (kind.symm.trans service) kind.symm space.symm name.symm

end Release

/-! ## Targets that are conserved -/

/-- `new` is what a target was, whatever its marker. Version and kind may have been added, and
sections where there were none; there may be no node selector any more if nothing is left in it. -/
structure Conserved (kind : Kind) (old new : Value) : Prop where
  same : SameApart (["apiVersion"] :: ["kind"] :: markerPlace :: serverPlaces) old new
  apiVersion : new.at? ["apiVersion"] = old.at? ["apiVersion"] ∨
    old.at? ["apiVersion"] = none ∧ new.at? ["apiVersion"] = some (.text kind.apiVersion)
  kind : new.at? ["kind"] = old.at? ["kind"] ∨
    old.at? ["kind"] = none ∧ new.at? ["kind"] = some (.text kind.name)
  sections : ∀ path ∈ [.text "metadata"] :: containers, new.at? path = old.at? path ∨
    ObjectAt old path ∧ ∃ fs : Fields, new.at? path = some (.object fs)
  selector : new.at? selectorPlace = old.at? selectorPlace ∨ new.at? selectorPlace = none ∨
    ∃ entries : Fields, entries ≠ [] ∧ new.at? selectorPlace = some (.object entries)

namespace Conserved

variable {kind : Kind} {old new last : Value}

theorem refl (kind : Kind) (v : Value) : Conserved kind v v where
  same := .refl _ _
  apiVersion := .inl rfl
  kind := .inl rfl
  sections _ _ := .inl rfl
  selector := .inl rfl

theorem added_trans {a b c : Option Value} {x : Value} (h : b = a ∨ a = none ∧ b = some x)
    (h' : c = b ∨ b = none ∧ c = some x) : c = a ∨ a = none ∧ c = some x := by
  rcases h' with rfl | ⟨rfl, rfl⟩
  · exact h
  · rcases h with h | ⟨-, h⟩
    · exact .inr ⟨h.symm, rfl⟩
    · cases h

theorem trans (h : Conserved kind old new) (h' : Conserved kind new last) :
    Conserved kind old last where
  same := h.same.trans h'.same
  apiVersion := added_trans h.apiVersion h'.apiVersion
  kind := added_trans h.kind h'.kind
  sections path hp := by
    rcases h.sections path hp with first | ⟨before, fs, middle⟩
    · rcases h'.sections path hp with second | ⟨before, made⟩
      · exact .inl (second.trans first)
      · refine .inr ⟨fun x hx => before x ?_, made⟩
        rw [first, hx]
    · rcases h'.sections path hp with second | ⟨-, made⟩
      · exact .inr ⟨before, fs, second.trans middle⟩
      · exact .inr ⟨before, made⟩
  selector := by
    rcases h'.selector with second | later
    · rw [second]
      exact h.selector
    · exact .inr later

end Conserved

theorem eq_wire_of_ownName {v manifest : Value} {name : ObjectName}
    (h : v.toManifest = .ok manifest) (own : ownName manifest = .ok name) : manifest = v.wire := by
  obtain ⟨fs, -, parts⟩ := toManifest_eq_ok h
  have named := (ownName_eq_ok.mp own).1
  rw [parts, at?_wire] at named
  obtain ⟨x, hx, -⟩ := Option.map_eq_some_iff.mp named
  exact eq_wire_of_toManifest h hx

section Rescaled

variable {kind : TemplateKind} {target body kept : Value} {name : ObjectName}

theorem Rescaled.named_kept (h : Rescaled kind target body) (wire : target.wire = target)
    (own : ownName target = .ok name) (same : SameApart serverPlaces body kept) :
    kept.wire.at? ["metadata", "name"] = some name.name := by
  rw [at?_wire, same _ (by simp [serverPlaces]),
    h.written.same _ (by simp [markerPlace, podSpecPlace]), ← at?_wire, wire,
    (ownName_eq_ok.mp own).1]

theorem Rescaled.sections_kept (h : Rescaled kind target body) (wire : target.wire = target)
    (own : ownName target = .ok name) (same : SameApart serverPlaces body kept) :
    ∀ path ∈ containers, ∃ fs : Fields, kept.wire.at? path = some (.object fs) := by
  intro path hp
  obtain ⟨fs, after⟩ := h.after path hp
  rcases List.mem_cons.mp hp with rfl | inner
  · exact exists_object_above (p := []) (h.named_kept wire own same)
  · have apart : ∀ place ∈ serverPlaces, Path.Apart path place := by
      simp only [List.mem_cons, List.not_mem_nil, or_false] at inner
      rcases inner with rfl | rfl | rfl
      all_goals simp [serverPlaces, podSpecPlace]
    refine ⟨wireFields fs, ?_⟩
    rw [at?_wire, same path apart, after]
    rfl

theorem Rescaled.selector_kept (h : Rescaled kind target body)
    (same : SameApart serverPlaces body kept) :
    kept.wire.at? selectorPlace = none ∨
      ∃ entries : Fields, entries ≠ [] ∧ kept.wire.at? selectorPlace = some (.object entries) := by
  have place : kept.wire.at? selectorPlace = (body.at? selectorPlace).map Value.wire := by
    rw [at?_wire, same _ (by simp [serverPlaces, selectorPlace, podSpecPlace])]
  rw [place]
  rcases h.selector with none_left | ⟨entries, some_left, there⟩
  · rw [none_left]
    exact .inl rfl
  · rw [there]
    refine .inr ⟨wireFields entries, ?_, rfl⟩
    cases entries with
    | nil => exact absurd rfl some_left
    | cons entry entries => exact List.cons_ne_nil _ _

end Rescaled

theorem conserved_of_rescaled {kind : TemplateKind} {v target body kept : Value} {name : ObjectName}
    (hv : v.toManifest = .ok target) (own : ownName target = .ok name)
    (h : Rescaled kind target body) (same : SameApart serverPlaces body kept) :
    Conserved (.template kind) v.wire kept.wire := by
  have wire := wire_of_toManifest hv
  obtain rfl := eq_wire_of_ownName hv own
  have field {key : String} (apart : ∀ place ∈ serverPlaces, Path.Apart [.text key] place) :
      kept.wire.at? [.text key] = (body.at? [.text key]).map Value.wire := by
    rw [at?_wire, same _ apart]
  have added {key default : String}
      (hb : body.at? [.text key] = some ((v.wire.at? [.text key]).getD (.text default)))
      (apart : ∀ place ∈ serverPlaces, Path.Apart [.text key] place) :
      kept.wire.at? [.text key] = v.wire.at? [.text key] ∨
        v.wire.at? [.text key] = none ∧ kept.wire.at? [.text key] = some (.text default) := by
    rw [field apart, hb]
    cases found : v.wire.at? [.text key] with
    | none => exact .inr ⟨rfl, rfl⟩
    | some x => exact .inl (congrArg some (wire_at? wire found))
  constructor
  · have both := (h.written.same.append same).wire
    rw [wire] at both
    exact both.mono (by simp)
  · exact added h.written.apiVersion (by simp [serverPlaces])
  · exact added h.written.kind (by simp [serverPlaces])
  · intro path hp
    rcases List.mem_cons.mp hp with rfl | hp
    · have named := (ownName_eq_ok.mp own).1
      obtain ⟨fs, before⟩ := exists_object_above (p := ["metadata"]) named
      have kept_named := h.named_kept wire own same
      refine .inr ⟨fun x hx => ⟨fs, ?_⟩, exists_object_above (p := ["metadata"]) kept_named⟩
      rw [before] at hx
      exact (Option.some.inj hx).symm
    · exact .inr ⟨h.before path hp, h.sections_kept wire own same path hp⟩
  · exact .inr (h.selector_kept same)

/-! ## Calls -/

/-- A call of an operation. -/
structure Call where
  controller : Controller
  operation : Operation
  canary : Canary
  deriving DecidableEq

namespace Call

/-- The program of a call. -/
def program (call : Call) : Program Value := call.controller.call call.operation call.canary

/-- A call is made for a release. -/
structure For (call : Call) (r : Release) : Prop where
  kind : call.controller.kind = r.kind
  target : call.canary.targetObject = ⟨.text r.name, .text r.space⟩

variable {call : Call} {r : Release}

theorem For.space (h : call.For r) : call.canary.space = .text r.space :=
  congrArg ObjectName.space h.target

theorem For.primaryObject (h : call.For r) :
    TemplateController.primaryObject call.canary =
      ⟨.text (r.name ++ "-primary"), .text r.space⟩ := by
  have name : call.canary.target.name = .text r.name := congrArg ObjectName.name h.target
  rw [TemplateController.primaryObject, name, h.space]
  rfl

theorem For.canaryObject (h : call.For r) :
    ServiceController.canaryObject call.canary =
      ⟨.text (r.name ++ "-canary"), .text r.space⟩ := by
  have name : call.canary.target.name = .text r.name := congrArg ObjectName.name h.target
  rw [ServiceController.canaryObject, name, h.space]
  rfl

end Call

/-! ## What an exchange does -/

/-- An object names itself as its key does, if it names itself at all. -/
def NamedLike (key : ObjectKey) (v : Value) : Prop :=
  ∀ manifest name, v.toManifest = .ok manifest → ownName manifest = .ok name →
    name.standard = key.object.standard

theorem Store.SelfNamed.put {s : Store} {key : ObjectKey} {v : Value} (h : s.SelfNamed)
    (hv : NamedLike key v) : (s.put key v).SelfNamed := by
  intro other w manifest name stored hm own
  rw [Store.get?_put] at stored
  split at stored
  · rename_i same
    obtain rfl := Option.some.inj stored
    exact (hv manifest name hm own).trans same.2
  · exact h other w manifest name stored hm own

/-- What a call for a release may do to the store after other moments. -/
inductive Call.Acts (call : Call) (r : Release) (past : List Moment) (m : Moment) : Prop where
  | nothing (unwritten : m.event.written? = none) (after : m.after = m.before)
  | creates {key : ObjectKey} {kept : Value} (establishing : call.operation = .establish)
      (derived : key = r.primary ∨ r.kind = .service ∧ key = r.canaryService)
      (missing : m.before.get? key = none) (named : NamedLike key kept)
      (written : m.event.written? = some key) (after : m.after = m.before.put key kept)
  | promotes {key : ObjectKey} {old kept : Value} (promoting : call.operation = .promote)
      (here : key.Same r.primary) (stored : m.before.get? key = some old)
      (named : NamedLike key kept) (written : m.event.written? = some key)
      (after : m.after = m.before.put key kept)
  | scales {key : ObjectKey} {kind : TemplateKind} {read : Moment} {v old kept : Value}
      (kind_eq : r.kind = .template kind) (mem : read ∈ past)
      (stored : read.before.get? r.target = some v) (conserved : Conserved r.kind v.wire kept.wire)
      (direction :
        (call.operation = .scaleToZero ∨ call.operation = .establish) ∧
          kept.at? markerPlace = some markerValue ∨
        (call.operation = .scaleFromZero ∨ call.operation = .finalize) ∧
          kept.at? markerPlace = none)
      (here : key.Same r.target) (there : m.before.get? key = some old)
      (named : NamedLike key kept) (written : m.event.written? = some key)
      (after : m.after = m.before.put key kept)

section Acts

variable {calls : Nat → Call} {caller : Nat} {r : Release} {start : Store} {past : List Moment}
  {before after : Store} {disturbed : Bool}

theorem namedLike_of_created {kind : String} {name space : String} {body kept : Value}
    (own : ownName body = .ok ⟨.text name, .text space⟩) (same : SameApart serverPlaces body kept) :
    NamedLike ⟨kind, ⟨.text name, .text space⟩⟩ kept := by
  intro manifest name' hm own'
  obtain ⟨-, own_of_body⟩ := ownName_of_kept same hm own'
  obtain ⟨hn, hs⟩ := ownName_eq_ok.mp own
  have wired : ownName body.wire = .ok ⟨.text name, .text space⟩ := by
    rw [ownName_eq_ok, at?_wire, at?_wire, hn, hs]
    exact ⟨rfl, rfl⟩
  rw [Except.ok.inj (own_of_body.symm.trans wired)]

theorem namedLike_of_replaced {controller : Controller} {operation : Operation} {canary : Canary}
    {log : List Exchange} {kind : Kind} {name : ObjectName} {body kept : Value}
    (asks : (controller.call operation canary).Asks log (.replaceObject kind name body))
    (same : SameApart serverPlaces body kept) : NamedLike ⟨kind.name, name⟩ kept := by
  obtain ⟨-, _, _, _, v, manifest, -, hv, own, written⟩ :=
    Controller.call_replaces.1 log kind name body asks
  intro m name' hm own'
  rw [ownName_of_writtenBack hv own written
    (fun _ => Controller.apart_ownPlaces (by decide)) same hm own']

theorem Call.acts_of_created {kind : Kind} {space body : Value} {reply : Except CallFailure Unit}
    (own : (calls caller).For r)
    (writes : Controller.CallWrites (calls caller).controller (calls caller).operation
      (calls caller).canary (exchangesOf caller past) (.createObject kind space body))
    (served : (createExchange kind space body reply).Served disturbed before after) :
    Acts (calls caller) r past
      ⟨before, .exchange caller (createExchange kind space body reply) disturbed, after⟩ := by
  obtain ⟨establishing, derived, named⟩ := writes
  cases reply with
  | error failure => exact .nothing rfl served.store_eq_of_not_created
  | ok u =>
    obtain ⟨kept, missing, same, hafter⟩ := served.of_created
    rcases derived with rfl | ⟨service, rfl⟩
    · have key : (⟨(calls caller).controller.kind.name, ⟨Site.bodyName body,
          (calls caller).canary.space⟩⟩ : ObjectKey) = r.primary := by
        rw [Site.bodyName_of_ownName named, own.primaryObject, own.space, own.kind]
        rfl
      rw [own.primaryObject] at named
      rw [key] at missing hafter
      exact .creates establishing (.inl rfl) missing (namedLike_of_created named same)
        (congrArg some key) hafter
    · have key : (⟨(calls caller).controller.kind.name, ⟨Site.bodyName body,
          (calls caller).canary.space⟩⟩ : ObjectKey) = r.canaryService := by
        rw [Site.bodyName_of_ownName named, own.canaryObject, own.space, own.kind]
        rfl
      rw [own.canaryObject] at named
      rw [key] at missing hafter
      exact .creates establishing (.inr ⟨own.kind.symm.trans service, rfl⟩) missing
        (namedLike_of_created named same) (congrArg some key) hafter

theorem Call.acts_of_replaced {kind : Kind} {name : ObjectName} {body : Value}
    {reply : Except CallFailure Unit} (own : (calls caller).For r)
    (run : Run (fun n => (calls n).program) start past before)
    (named : ∀ earlier ∈ past, earlier.before.SelfNamed)
    (asks : (calls caller).program.Asks (exchangesOf caller past) (.replaceObject kind name body))
    (served : (replaceExchange kind name body reply).Served disturbed before after) :
    Acts (calls caller) r past
      ⟨before, .exchange caller (replaceExchange kind name body reply) disturbed, after⟩ := by
  cases reply with
  | error failure => exact .nothing rfl served.store_eq_of_not_replaced
  | ok u =>
    obtain ⟨old, kept, there, -, same, hafter⟩ := served.of_replaced
    have like := namedLike_of_replaced asks same
    have writes := Controller.writes_call ⟨asks, rfl⟩
    have kind_name : (calls caller).controller.kind.name = r.kind.name := congrArg Kind.name own.kind
    cases writes with
    | promotes promoting read manifest own_name =>
      obtain ⟨earlier, mem, stored⟩ := run.exists_read read
      have same_name := named earlier mem _ _ _ _ stored manifest own_name
      rw [own.primaryObject] at same_name
      exact .promotes promoting ⟨kind_name, same_name⟩ there like rfl hafter
    | scales kind_eq read manifest own_name rescaled direction =>
      obtain ⟨earlier, mem, stored⟩ := run.exists_read read
      have same_name := named earlier mem _ _ _ _ stored manifest own_name
      have conserved := conserved_of_rescaled manifest own_name rescaled same
      have marker := same markerPlace (by simp [serverPlaces, markerPlace, podSpecPlace])
      rw [← marker] at direction
      rw [← kind_eq, own.kind] at conserved
      rw [own.target] at same_name stored
      rw [own.kind] at stored
      exact .scales (own.kind.symm.trans kind_eq) mem stored conserved direction
        ⟨kind_name, same_name⟩ there like rfl hafter

/-- What a moment of a call does. -/
theorem Call.acts {m : Moment} {e : Exchange} (own : (calls caller).For r)
    (run : Run (fun n => (calls n).program) start past m.before)
    (named : ∀ earlier ∈ past, earlier.before.SelfNamed)
    (asks : (calls caller).program.Asks (exchangesOf caller past) e.request)
    (served : e.Served disturbed m.before m.after)
    (event : m.event = .exchange caller e disturbed) : Acts (calls caller) r past m := by
  obtain ⟨before, _, after⟩ := m
  obtain rfl := event
  obtain ⟨request, reply⟩ := e
  cases request with
  | createObject kind space body =>
    exact acts_of_created own (Controller.writes_call ⟨asks, rfl⟩) served
  | replaceObject kind name body => exact acts_of_replaced own run named asks served
  | _ => exact .nothing rfl (served.store_eq_of_not_isWrite rfl)

end Acts

/-! ## What each operation is for -/

/-- A release's target carries the marker. -/
def Release.Marked (r : Release) (s : Store) : Prop :=
  ∃ v x, s.get? r.target = some v ∧ v.at? markerPlace = some x

namespace Call.Acts

variable {releases : List Release} {call : Call} {r s : Release} {past : List Moment} {m : Moment}

theorem stays (acts : Acts call r past m) {key : ObjectKey} {v : Value}
    (h : m.before.get? key = some v) : ∃ w, m.after.get? key = some w := by
  have put {other : ObjectKey} {kept : Value} (after : m.after = m.before.put other kept) :
      ∃ w, m.after.get? key = some w := by
    rw [after, Store.get?_put]
    split
    · exact ⟨kept, rfl⟩
    · exact ⟨v, h⟩
  cases acts with
  | nothing _ after => exact ⟨v, by rw [after, h]⟩
  | creates _ _ _ _ _ after => exact put after
  | promotes _ _ _ _ _ after => exact put after
  | scales _ _ _ _ _ _ _ _ _ after => exact put after

theorem selfNamed (acts : Acts call r past m) (h : m.before.SelfNamed) : m.after.SelfNamed := by
  cases acts with
  | nothing _ after => rwa [after]
  | creates _ _ _ named _ after => exact after ▸ h.put named
  | promotes _ _ _ named _ after => exact after ▸ h.put named
  | scales _ _ _ _ _ _ _ named _ after => exact after ▸ h.put named

theorem primary (acts : Acts call r past m) (apart : Release.Apart releases) (hr : r ∈ releases)
    (hs : s ∈ releases) (changed : m.after.get? s.primary ≠ m.before.get? s.primary) :
    s = r ∧ (call.operation = .promote ∧ (m.before.get? s.primary).isSome ∨
      call.operation = .establish ∧ m.before.get? s.primary = none) := by
  have here {key : ObjectKey} {kept : Value} (after : m.after = m.before.put key kept) :
      key.Same s.primary := by
    by_contra elsewhere
    exact changed (by rw [after, Store.get?_put, if_neg elsewhere])
  cases acts with
  | nothing _ after => exact absurd (by rw [after]) changed
  | creates establishing derived missing _ _ after =>
    have same := here after
    rcases derived with rfl | ⟨-, rfl⟩
    · obtain rfl := Release.same_primary.mp same
      exact ⟨rfl, .inr ⟨establishing, missing⟩⟩
    · exact absurd same Release.not_same_canaryService_primary
  | promotes promoting own stored _ _ after =>
    have same := here after
    obtain rfl := Release.same_primary.mp (own.symm.trans same)
    rw [Store.get?_congr _ own] at stored
    exact ⟨rfl, .inl ⟨promoting, by rw [stored]; rfl⟩⟩
  | scales _ _ _ _ _ own _ _ _ after =>
    exact absurd ((here after).symm.trans own) (apart.not_same_primary hr hs)

theorem target (acts : Acts call r past m) (apart : Release.Apart releases) (hr : r ∈ releases)
    (hs : s ∈ releases) :
    (¬ m.event.Writes s.target ∧ m.after.get? s.target = m.before.get? s.target) ∨
      ∃ (kind : TemplateKind) (read : Moment) (v kept : Value), s = r ∧ r.kind = .template kind ∧
        read ∈ past ∧ read.before.get? r.target = some v ∧ Conserved r.kind v.wire kept.wire ∧
        ((call.operation = .scaleToZero ∨ call.operation = .establish) ∧
            kept.at? markerPlace = some markerValue ∨
          (call.operation = .scaleFromZero ∨ call.operation = .finalize) ∧
            kept.at? markerPlace = none) ∧
        m.after.get? r.target = some kept := by
  have elsewhere {key : ObjectKey} {kept : Value} (other : ¬ key.Same s.target)
      (written : m.event.written? = some key) (after : m.after = m.before.put key kept) :
      ¬ m.event.Writes s.target ∧ m.after.get? s.target = m.before.get? s.target := by
    refine ⟨?_, by rw [after, Store.get?_put, if_neg other]⟩
    rintro ⟨key', written', same⟩
    obtain rfl := Option.some.inj (written.symm.trans written')
    exact other same
  cases acts with
  | nothing unwritten after =>
    refine .inl ⟨?_, by rw [after]⟩
    rintro ⟨key, written, -⟩
    rw [unwritten] at written
    cases written
  | creates _ derived _ _ written after =>
    refine .inl (elsewhere ?_ written after)
    rcases derived with rfl | ⟨service, rfl⟩
    · exact apart.not_same_primary hs hr
    · exact apart.not_same_canaryService hs hr service
  | promotes _ own _ _ written after =>
    exact .inl (elsewhere (fun same => apart.not_same_primary hs hr (own.symm.trans same)) written
      after)
  | @scales key kind read v old kept kind_eq mem stored conserved direction own _ _ written after =>
    by_cases same : key.Same s.target
    · obtain rfl := Release.same_target.mp (own.symm.trans same)
      refine .inr ⟨kind, read, v, kept, rfl, kind_eq, mem, stored, conserved, direction, ?_⟩
      rw [after, Store.get?_put, if_pos own]
    · exact .inl (elsewhere same written after)

end Call.Acts

/-- What an exchange of a call does: the checks ask for no change, no object is removed, a primary
is changed by its own promotion and created by its own establishment, a target is given the marker
when it is scaled down and loses it when it is scaled up, and a Service is no target to be
written. -/
structure Respects (releases : List Release) (call : Call) (e : Exchange) (m : Moment) : Prop where
  checks : call.operation.isCheck = true → e.request.isWrite = false ∧ m.after = m.before
  stays : ∀ key v, m.before.get? key = some v → ∃ w, m.after.get? key = some w
  primary : ∀ r ∈ releases, m.after.get? r.primary ≠ m.before.get? r.primary → call.For r ∧
    (call.operation = .promote ∧ (m.before.get? r.primary).isSome ∨
      call.operation = .establish ∧ m.before.get? r.primary = none)
  marked : ∀ r ∈ releases, ¬ r.Marked m.before → r.Marked m.after → call.For r ∧
    (call.operation = .scaleToZero ∨ call.operation = .establish)
  unmarked : ∀ r ∈ releases, r.Marked m.before → ¬ r.Marked m.after → call.For r ∧
    (call.operation = .scaleFromZero ∨ call.operation = .finalize)
  service : ∀ r ∈ releases, r.kind = .service → ¬ m.event.Writes r.target

/-- What becomes of a store: no object is gone, and every target that is there was there before and
is conserved; if it is a Service it is what it was. -/
structure Kept (releases : List Release) (start store : Store) : Prop where
  stays : ∀ key v, start.get? key = some v → ∃ w, store.get? key = some w
  target : ∀ r ∈ releases, ∀ w, store.get? r.target = some w →
    ∃ v, start.get? r.target = some v ∧ Conserved r.kind v.wire w.wire
  service : ∀ r ∈ releases, r.kind = .service → store.get? r.target = start.get? r.target

theorem Kept.refl (releases : List Release) (s : Store) : Kept releases s s where
  stays _ v h := ⟨v, h⟩
  target r _ w h := ⟨w, h, .refl r.kind w.wire⟩
  service _ _ _ := rfl

section Runs

variable {releases : List Release} {calls : Nat → Call} {start store : Store}
  {past moments : List Moment} {m : Moment}

/-- A moment of a call respects what others own. -/
theorem Call.Acts.respects {caller : Nat} {r : Release} {e : Exchange} {disturbed : Bool}
    (acts : Acts (calls caller) r past m) (apart : Release.Apart releases) (hr : r ∈ releases)
    (own : (calls caller).For r)
    (asks : (calls caller).program.Asks (exchangesOf caller past) e.request)
    (served : e.Served disturbed m.before m.after) : Respects releases (calls caller) e m where
  checks check := by
    have none_asked : e.request.isWrite = false := by
      by_contra write
      exact Controller.readOnly_call check _ _ ⟨asks, by simpa using write⟩
    exact ⟨none_asked, served.store_eq_of_not_isWrite none_asked⟩
  stays _ _ h := acts.stays h
  primary s hs changed := by
    obtain ⟨rfl, how⟩ := acts.primary apart hr hs changed
    exact ⟨own, how⟩
  marked s hs before after := by
    obtain ⟨-, same⟩ | ⟨kind, read, v, kept, rfl, -, -, -, -, direction, there⟩ :=
      acts.target apart hr hs
    · unfold Release.Marked at before after
      rw [same] at after
      exact absurd after before
    · rcases direction with ⟨down, -⟩ | ⟨-, gone⟩
      · exact ⟨own, down⟩
      · obtain ⟨w, x, stored, marker⟩ := after
        obtain rfl := Option.some.inj (there.symm.trans stored)
        rw [gone] at marker
        cases marker
  unmarked s hs before after := by
    obtain ⟨-, same⟩ | ⟨kind, read, v, kept, rfl, -, -, -, -, direction, there⟩ :=
      acts.target apart hr hs
    · unfold Release.Marked at before after
      rw [same] at after
      exact absurd before after
    · rcases direction with ⟨-, marker⟩ | ⟨up, -⟩
      · exact absurd ⟨kept, markerValue, there, marker⟩ after
      · exact ⟨own, up⟩
  service s hs service := by
    obtain ⟨unwritten, -⟩ | ⟨kind, _, _, _, rfl, kind_eq, -⟩ := acts.target apart hr hs
    · exact unwritten
    · rw [service] at kind_eq
      cases kind_eq

/-- What was kept until a moment of a call is kept after it. -/
theorem Kept.of_acts {call : Call} {r : Release} (now : Kept releases start m.before)
    (earlier : ∀ read ∈ past, Kept releases start read.before) (acts : Call.Acts call r past m)
    (apart : Release.Apart releases) (hr : r ∈ releases) : Kept releases start m.after where
  stays key v h := by
    obtain ⟨w, hw⟩ := now.stays key v h
    exact acts.stays hw
  target s hs w stored := by
    obtain ⟨-, same⟩ | ⟨kind, read, v, kept, rfl, -, mem, read_stored, conserved, -, there⟩ :=
      acts.target apart hr hs
    · rw [same] at stored
      exact now.target s hs w stored
    · obtain rfl := Option.some.inj (there.symm.trans stored)
      -- what was read may be long gone, but it too came from the start
      obtain ⟨v₀, stored₀, before⟩ := (earlier read mem).target s hs v read_stored
      exact ⟨v₀, stored₀, before.trans conserved⟩
  service s hs service := by
    obtain ⟨-, same⟩ | ⟨kind, _, _, _, rfl, kind_eq, -⟩ := acts.target apart hr hs
    · rw [same]
      exact now.service s hs service
    · rw [service] at kind_eq
      cases kind_eq

/-- Calls of any number of canaries, one after the other or interleaved, with any calls to the
server failing, do what they are for and leave everything else alone. -/
theorem calls_respect_ownership (apart : Release.Apart releases) (named : start.SelfNamed)
    (own : ∀ caller, ∃ r ∈ releases, (calls caller).For r)
    (run : Run (fun caller => (calls caller).program) start moments store)
    (alone : ∀ m ∈ moments, ∃ caller e disturbed, m.event = .exchange caller e disturbed) :
    Kept releases start store ∧
      ∀ m ∈ moments, ∀ caller e disturbed, m.event = .exchange caller e disturbed →
        Respects releases (calls caller) e m := by
  -- that objects are named like their keys is carried along: calls write where names lead
  have invariant : (store.SelfNamed ∧ Kept releases start store) ∧
      ∀ m ∈ moments, (m.before.SelfNamed ∧ Kept releases start m.before) ∧
        ∀ caller e disturbed, m.event = .exchange caller e disturbed →
          Respects releases (calls caller) e m := by
    induction run with
    | start => exact ⟨⟨named, .refl releases start⟩, fun _ hm => absurd hm List.not_mem_nil⟩
    | @step past m run follows ih =>
      obtain ⟨⟨named_now, now⟩, earlier⟩ := ih fun m' hm' => alone m' (List.mem_append_left _ hm')
      cases follows with
      | @exchange before after caller e disturbed asks served =>
        obtain ⟨r, hr, own_r⟩ := own caller
        have acts := Call.acts own_r run (fun m' hm' => (earlier m' hm').1.1) asks served rfl
        have kept := now.of_acts (fun m' hm' => (earlier m' hm').1.2) acts apart hr
        refine ⟨⟨acts.selfNamed named_now, kept⟩, fun m' hm' => ?_⟩
        rcases List.mem_append.mp hm' with hm' | hm'
        · exact earlier m' hm'
        · obtain rfl := List.mem_singleton.mp hm'
          refine ⟨⟨named_now, now⟩, ?_⟩
          rintro _ _ _ ⟨⟩
          exact acts.respects apart hr own_r asks served
      | @edit before key value =>
        obtain ⟨_, _, _, event⟩ := alone _ (List.mem_append_right _ List.mem_cons_self)
        cases event
  exact ⟨invariant.1.2, fun m hm => (invariant.2 m hm).2⟩

end Runs

/-- The releases of two Deployments in the namespace `prod`. -/
def sampleReleases : List Release :=
  [⟨.template .deployment, "prod", "web"⟩, ⟨.template .deployment, "prod", "api"⟩]

/-- A call for one of them. -/
def sampleCall (name : String) (operation : Operation) : Call where
  controller := .template sampleController
  operation := operation
  canary := { sampleCanary with
    target := { sampleCanary.target with name := .text name }
    skipAnalysis := true }

/-- The first canary is established, promoted and finalized, the second one established. -/
def sampleCalls : Nat → Call
  | 0 => sampleCall "web" .establish
  | 1 => sampleCall "api" .establish
  | 2 => sampleCall "web" .promote
  | _ => sampleCall "web" .finalize

/-- A site at which the primary of the second Deployment cannot be created. -/
def sampleRefusing : Site :=
  let site := sampleSite [] [("web", "1"), ("api", "2")]
  { site with server := { site.server with faults :=
    [⟨.create, "Deployment", .text "api-primary", ⟨.int 500, .text "Internal Server Error"⟩, 1, 0⟩] } }

/-- The site after the first `n` calls. -/
def sampleSiteAfter : Nat → Site
  | 0 => sampleRefusing
  | n + 1 => ((sampleSiteAfter n).run (sampleCalls n).program).2

/-- What happens in the first `n` calls. -/
def sampleMomentsUntil : Nat → List Moment
  | 0 => []
  | n + 1 => sampleMomentsUntil n ++ (sampleSiteAfter n).moments n (sampleCalls n).program

theorem run_sampleMomentsUntil {n : Nat} (hn : n ≤ 4) :
    Run (fun caller => (sampleCalls caller).program) sampleRefusing.server.store
      (sampleMomentsUntil n) (sampleSiteAfter n).server.store := by
  induction n with
  | zero => exact .start
  | succ n ih =>
    have none_before : ∀ n < 4, exchangesOf n (sampleMomentsUntil n) = [] := by decide +kernel
    exact Site.run_of_call rfl (ih (by omega)) (none_before n (by omega))

/-- Neither the calls for one Deployment nor the failing one for the other do any harm. -/
theorem sampleCalls_respect_ownership :
    Kept sampleReleases sampleRefusing.server.store (sampleSiteAfter 4).server.store ∧
      ∀ m ∈ sampleMomentsUntil 4, ∀ caller e disturbed,
        m.event = .exchange caller e disturbed →
          Respects sampleReleases (sampleCalls caller) e m := by
  have own : ∀ caller, ∃ r ∈ sampleReleases, (sampleCalls caller).For r := by
    intro caller
    match caller with
    | 0 | 2 | _ + 3 => exact ⟨_, List.mem_cons_self, rfl, rfl⟩
    | 1 => exact ⟨_, List.mem_cons_of_mem _ List.mem_cons_self, rfl, rfl⟩
  have exchanges : ((sampleMomentsUntil 4).all fun m => m.event.isExchange) = true := by
    decide +kernel
  refine calls_respect_ownership ⟨by decide, by decide⟩ (by decide +kernel) own
    (run_sampleMomentsUntil (Nat.le_refl 4)) ?_
  intro m hm
  have exchange := List.all_eq_true.mp exchanges m hm
  cases event : m.event with
  | exchange caller e disturbed => exact ⟨caller, e, disturbed, rfl⟩
  | edit key value =>
    rw [event] at exchange
    cases exchange

end CanaryRelease
