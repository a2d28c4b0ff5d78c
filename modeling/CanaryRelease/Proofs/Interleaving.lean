import CanaryRelease.Cluster.Site
import CanaryRelease.Proofs.Exchange
import CanaryRelease.Proofs.Places
import Mathlib.Data.List.Induction

/-!
# Interleaved runs

Any number of programs run against one store. `Run programs start moments store` says that they may
take the store from `start` to `store` through `moments`: one at a time, a caller's program asks its
next request and gets a reply, or somebody else writes or deletes an object. Nothing is said of who
is next, what outsiders do, which calls are disturbed, or what trackers and clocks reply.

The server keeps to its rules unless a call is disturbed (`Server.Rule`): it answers reads from the
store, refuses to create what exists, and replaces an object only if the resource version in the
body is the stored one. Versions and generations of what it writes are its own choice. The server in
memory is one such server: `Site.run_moments` turns each of its runs into a `Run`.
-/

namespace CanaryRelease

/-! ## What servers do -/

/-- The places of an object that its server fills. -/
def serverPlaces : List Path := [["metadata", "resourceVersion"], ["metadata", "generation"]]

namespace Server

/-- What a server does with a call that nothing disturbs. -/
inductive Rule (store : Store) (key : ObjectKey) :
    Verb → Value → Except CallFailure Value → Store → Prop where
  | found {body v : Value} (h : store.get? key = some v) : Rule store key .read body (.ok v) store
  | missing {verb : Verb} {body : Value} (hv : verb ≠ .create) (h : store.get? key = none) :
      Rule store key verb body (.error (.refused notFound)) store
  | taken {body v : Value} (h : store.get? key = some v) :
      Rule store key .create body (.error (.refused alreadyExists)) store
  | created {body kept : Value} (h : store.get? key = none)
      (hk : Value.SameApart serverPlaces body kept) :
      Rule store key .create body (.ok kept) (store.put key kept)
  | outdated {body old : Value} (h : store.get? key = some old)
      (hv : body.resourceVersion.alike old.resourceVersion = false) :
      Rule store key .replace body (.error (.refused conflict)) store
  | replaced {body old kept : Value} (h : store.get? key = some old)
      (hv : body.resourceVersion.alike old.resourceVersion = true)
      (hk : Value.SameApart serverPlaces body kept) :
      Rule store key .replace body (.ok kept) (store.put key kept)

/-- What becomes of a call: a disturbed one fails in any way and leaves the store as it was, one
about a name that cannot be one breaks off, and all others are served by the rules. -/
inductive Serves (store : Store) (key : ObjectKey) (verb : Verb) (body : Value) :
    Bool → Except CallFailure Value → Store → Prop where
  | disturbed (failure : CallFailure) : Serves store key verb body true (.error failure) store
  | unnamed (h : key.object.isAddressable = false) :
      Serves store key verb body false (.error (.broken .malformed)) store
  | ruled {reply : Except CallFailure Value} {after : Store}
      (h : key.object.isAddressable = true) (rule : Rule store key verb body reply after) :
      Serves store key verb body false reply after

variable {store after : Store} {key : ObjectKey} {verb : Verb} {body : Value} {disturbed : Bool}

theorem Serves.store_eq_of_error {failure : CallFailure}
    (h : Serves store key verb body disturbed (.error failure) after) : after = store := by
  cases h with
  | disturbed => rfl
  | unnamed => rfl
  | ruled _ rule => cases rule <;> rfl

theorem Serves.store_eq_of_read {reply : Except CallFailure Value}
    (h : Serves store key .read body disturbed reply after) : after = store := by
  cases h with
  | disturbed => rfl
  | unnamed => rfl
  | ruled _ rule => cases rule <;> rfl

theorem Serves.get?_of_read {v : Value}
    (h : Serves store key .read body disturbed (.ok v) after) : store.get? key = some v := by
  cases h with
  | ruled _ rule =>
    cases rule with
    | found h => exact h

theorem Serves.isAddressable_of_ok {v : Value}
    (h : Serves store key verb body disturbed (.ok v) after) :
    key.object.isAddressable = true := by
  cases h with
  | ruled addressable => exact addressable

theorem Serves.of_created {kept : Value}
    (h : Serves store key .create body disturbed (.ok kept) after) :
    store.get? key = none ∧ Value.SameApart serverPlaces body kept ∧
      after = store.put key kept := by
  cases h with
  | ruled _ rule =>
    cases rule with
    | created h hk => exact ⟨h, hk, rfl⟩

theorem Serves.of_replaced {kept : Value}
    (h : Serves store key .replace body disturbed (.ok kept) after) :
    ∃ old, store.get? key = some old ∧
      body.resourceVersion.alike old.resourceVersion = true ∧
      Value.SameApart serverPlaces body kept ∧ after = store.put key kept := by
  cases h with
  | ruled _ rule =>
    cases rule with
    | replaced h hv hk => exact ⟨_, h, hv, hk, rfl⟩

end Server

/-- How an exchange changes the store. -/
def Exchange.Served (e : Exchange) (disturbed : Bool) (store after : Store) : Prop :=
  match e with
  | ⟨.readObject kind object, reply⟩ =>
    Server.Serves store ⟨kind.name, object⟩ .read .null disturbed reply after
  | ⟨.createObject kind space body, reply⟩ =>
    ∃ answer : Except CallFailure Value, reply = answer.map (fun _ => ()) ∧
      Server.Serves store ⟨kind.name, ⟨Site.bodyName body, space⟩⟩ .create body disturbed answer
        after
  | ⟨.replaceObject kind object body, reply⟩ =>
    ∃ answer : Except CallFailure Value, reply = answer.map (fun _ => ()) ∧
      Server.Serves store ⟨kind.name, object⟩ .replace body disturbed answer after
  | _ => after = store

namespace Exchange.Served

variable {e : Exchange} {disturbed : Bool} {store after : Store} {kind : Kind}
  {object : ObjectName} {space body : Value}

theorem store_eq_of_not_isWrite (h : e.Served disturbed store after)
    (hr : e.request.isWrite = false) : after = store := by
  obtain ⟨request, reply⟩ := e
  cases request with
  | readObject => exact Server.Serves.store_eq_of_read h
  | createObject => cases hr
  | replaceObject => cases hr
  | _ => exact h

theorem of_created (h : Served ⟨.createObject kind space body, .ok ()⟩ disturbed store after) :
    ∃ kept, store.get? ⟨kind.name, ⟨Site.bodyName body, space⟩⟩ = none ∧
      Value.SameApart serverPlaces body kept ∧
      after = store.put ⟨kind.name, ⟨Site.bodyName body, space⟩⟩ kept := by
  obtain ⟨answer, ha, h⟩ := h
  cases answer with
  | error failure => cases ha
  | ok kept => exact ⟨kept, h.of_created⟩

theorem isAddressable_of_created
    (h : Served ⟨.createObject kind space body, .ok ()⟩ disturbed store after) :
    ObjectName.isAddressable ⟨Site.bodyName body, space⟩ = true := by
  obtain ⟨answer, ha, h⟩ := h
  cases answer with
  | error failure => cases ha
  | ok kept => exact h.isAddressable_of_ok

theorem store_eq_of_not_created {failure : CallFailure}
    (h : Served ⟨.createObject kind space body, .error failure⟩ disturbed store after) :
    after = store := by
  obtain ⟨answer, ha, h⟩ := h
  cases answer with
  | error failure => exact h.store_eq_of_error
  | ok kept => cases ha

theorem of_replaced (h : Served ⟨.replaceObject kind object body, .ok ()⟩ disturbed store after) :
    ∃ old kept, store.get? ⟨kind.name, object⟩ = some old ∧
      body.resourceVersion.alike old.resourceVersion = true ∧
      Value.SameApart serverPlaces body kept ∧ after = store.put ⟨kind.name, object⟩ kept := by
  obtain ⟨answer, ha, h⟩ := h
  cases answer with
  | error failure => cases ha
  | ok kept =>
    obtain ⟨old, ho, hv, hk, rfl⟩ := h.of_replaced
    exact ⟨old, kept, ho, hv, hk, rfl⟩

theorem store_eq_of_not_replaced {failure : CallFailure}
    (h : Served ⟨.replaceObject kind object body, .error failure⟩ disturbed store after) :
    after = store := by
  obtain ⟨answer, ha, h⟩ := h
  cases answer with
  | error failure => exact h.store_eq_of_error
  | ok kept => cases ha

theorem conflict_of_outdated {reply : Except CallFailure Unit} {old : Value}
    (h : Served ⟨.replaceObject kind object body, reply⟩ false store after)
    (addressable : object.isAddressable = true)
    (ho : store.get? ⟨kind.name, object⟩ = some old)
    (hv : body.resourceVersion.alike old.resourceVersion = false) :
    reply = .error (.refused Server.conflict) := by
  obtain ⟨answer, rfl, h⟩ := h
  cases h with
  | unnamed unnamed => exact absurd addressable (by simp [unnamed])
  | ruled _ rule =>
    cases rule with
    | missing _ missing => simp [ho] at missing
    | outdated => rfl
    | replaced found alike =>
      obtain rfl := Option.some.inj (ho.symm.trans found)
      simp [hv] at alike

theorem read_of_stored {reply : Except CallFailure Value} {v : Value}
    (h : Served ⟨.readObject kind object, reply⟩ false store after)
    (addressable : object.isAddressable = true)
    (stored : store.get? ⟨kind.name, object⟩ = some v) : reply = .ok v := by
  change Server.Serves store ⟨kind.name, object⟩ .read .null false reply after at h
  cases h with
  | unnamed unnamed => exact absurd addressable (by simp [unnamed])
  | ruled _ rule =>
    cases rule with
    | found found =>
      obtain rfl := Option.some.inj (stored.symm.trans found)
      rfl
    | missing _ missing => simp [stored] at missing

theorem replaced_of_alike {reply : Except CallFailure Unit} {old : Value}
    (h : Served ⟨.replaceObject kind object body, reply⟩ false store after)
    (addressable : object.isAddressable = true)
    (stored : store.get? ⟨kind.name, object⟩ = some old)
    (alike : body.resourceVersion.alike old.resourceVersion = true) : reply = .ok () := by
  obtain ⟨answer, rfl, h⟩ := h
  cases h with
  | unnamed unnamed => exact absurd addressable (by simp [unnamed])
  | ruled _ rule =>
    cases rule with
    | missing _ missing => simp [stored] at missing
    | outdated found outdated =>
      obtain rfl := Option.some.inj (stored.symm.trans found)
      simp [alike] at outdated
    | replaced => rfl

end Exchange.Served

/-! ## Runs -/

instance Request.Reply.decEq : (request : Request) → DecidableEq request.Reply
  | .readObject .. => inferInstanceAs (DecidableEq (Except CallFailure Value))
  | .createObject .. | .replaceObject .. => inferInstanceAs (DecidableEq (Except CallFailure Unit))
  | .targetConfigs _ => inferInstanceAs (DecidableEq (Except Failure (List ConfigRef)))
  | .copyConfigs .. => inferInstanceAs (DecidableEq (Except Failure Unit))
  | .redirectConfigs .. => inferInstanceAs (DecidableEq (Except Failure Value))
  | .configsChanged _ => inferInstanceAs (DecidableEq (Except Failure Bool))
  | .drawId => inferInstanceAs (DecidableEq String)
  | .readClock => inferInstanceAs (DecidableEq Timestamp)
  | .count _ | .note .. => inferInstanceAs (DecidableEq Unit)

deriving instance DecidableEq for Exchange

/-- Something that happens in a run. -/
inductive Event where
  /-- The program of a caller asks a request, and the reply comes, disturbed or not. -/
  | exchange (caller : Nat) (exchange : Exchange) (disturbed : Bool)
  /-- Somebody else writes an object or deletes it. -/
  | edit (key : ObjectKey) (value : Option Value)
  deriving DecidableEq

/-- Whether an event is a program's. -/
def Event.isExchange : Event → Bool
  | .exchange .. => true
  | .edit .. => false

/-- The key of the object that an event writes. -/
def Event.written? : Event → Option ObjectKey
  | .edit key (some _) => some key
  | .exchange _ ⟨.createObject kind space body, reply⟩ _ =>
    if reply.toBool then some ⟨kind.name, ⟨Site.bodyName body, space⟩⟩ else none
  | .exchange _ ⟨.replaceObject kind object _, reply⟩ _ =>
    if reply.toBool then some ⟨kind.name, object⟩ else none
  | _ => none

/-- An event writes the object at a key. -/
def Event.Writes (event : Event) (key : ObjectKey) : Prop :=
  ∃ other, event.written? = some other ∧ other.Same key

/-- An event with the stores before and after it. -/
structure Moment where
  before : Store
  event : Event
  after : Store

/-- The exchanges of one caller. -/
def exchangesOf (caller : Nat) (moments : List Moment) : List Exchange :=
  moments.filterMap fun m =>
    match m.event with
    | .exchange c e _ => if c = caller then some e else none
    | .edit .. => none

/-- A store in which an object was written or deleted. -/
def Store.edited (s : Store) (key : ObjectKey) : Option Value → Store
  | some v => s.put key v
  | none => s.delete key

/-- What can happen after other moments. -/
inductive Moment.Follows (programs : Nat → Program Value) (past : List Moment) : Moment → Prop where
  | exchange {before after : Store} {caller : Nat} {e : Exchange} {disturbed : Bool}
      (asks : (programs caller).Asks (exchangesOf caller past) e.request)
      (served : e.Served disturbed before after) :
      Follows programs past ⟨before, .exchange caller e disturbed, after⟩
  | edit {before : Store} {key : ObjectKey} {value : Option Value} :
      Follows programs past ⟨before, .edit key value, before.edited key value⟩

/-- Programs may take a store through some moments to another store. -/
inductive Run (programs : Nat → Program Value) (start : Store) : List Moment → Store → Prop where
  | start : Run programs start [] start
  | step {past : List Moment} {m : Moment} (run : Run programs start past m.before)
      (follows : m.Follows programs past) : Run programs start (past ++ [m]) m.after

variable {programs : Nat → Program Value} {start store : Store} {past future : List Moment}
  {m : Moment} {caller : Nat}

theorem exchangesOf_append (caller : Nat) (past future : List Moment) :
    exchangesOf caller (past ++ future) = exchangesOf caller past ++ exchangesOf caller future :=
  List.filterMap_append

theorem exchangesOf_snoc {e : Exchange} {disturbed : Bool}
    (hm : m.event = .exchange caller e disturbed) :
    exchangesOf caller (past ++ [m]) = exchangesOf caller past ++ [e] := by
  rw [exchangesOf_append]
  simp [exchangesOf, hm]

theorem run_snoc :
    Run programs start (past ++ [m]) store ↔
      Run programs start past m.before ∧ m.Follows programs past ∧ store = m.after := by
  constructor
  · intro h
    generalize hl : past ++ [m] = moments at h
    cases h with
    | start => simp at hl
    | step run follows =>
      obtain ⟨rfl, rfl⟩ := List.append_singleton_inj.mp hl
      exact ⟨run, follows, rfl⟩
  · rintro ⟨run, follows, rfl⟩
    exact .step run follows

theorem Run.store_eq {other : Store} (run : Run programs start past store)
    (run' : Run programs start past other) : store = other := by
  cases run with
  | start =>
    generalize hl : ([] : List Moment) = moments at run'
    cases run' with
    | start => rfl
    | step => simp at hl
  | step run follows =>
    obtain ⟨-, -, rfl⟩ := run_snoc.mp run'
    rfl

theorem Moment.Follows.asks {e : Exchange} {disturbed : Bool} (h : m.Follows programs past)
    (hm : m.event = .exchange caller e disturbed) :
    (programs caller).Asks (exchangesOf caller past) e.request ∧
      e.Served disturbed m.before m.after := by
  obtain ⟨before, event, after⟩ := m
  cases hm
  cases h with
  | exchange asks served => exact ⟨asks, served⟩

theorem Moment.Follows.get?_of_not_writes {key : ObjectKey} (h : m.Follows programs past)
    (other : ¬ m.event.Writes key) :
    m.after.get? key = m.before.get? key ∨ m.after.get? key = none := by
  cases h with
  | @exchange before after c e disturbed asks served =>
    left
    obtain ⟨request, reply⟩ := e
    cases request with
    | createObject kind space body =>
      cases reply with
      | error failure => rw [served.store_eq_of_not_created]
      | ok u =>
        obtain ⟨kept, -, -, rfl⟩ := served.of_created
        exact (Store.get?_put ..).trans (if_neg fun same => other ⟨_, rfl, same⟩)
    | replaceObject kind object body =>
      cases reply with
      | error failure => rw [served.store_eq_of_not_replaced]
      | ok u =>
        obtain ⟨old, kept, -, -, -, rfl⟩ := served.of_replaced
        exact (Store.get?_put ..).trans (if_neg fun same => other ⟨_, rfl, same⟩)
    | _ => rw [served.store_eq_of_not_isWrite rfl]
  | @edit before k value =>
    cases value with
    | some v =>
      exact .inl ((Store.get?_put ..).trans (if_neg fun same => other ⟨_, rfl, same⟩))
    | none =>
      change (before.delete k).get? key = before.get? key ∨ (before.delete k).get? key = none
      rw [Store.get?_delete]
      split
      · exact .inr rfl
      · exact .inl rfl

theorem exists_split_of_getElem? {moments : List Moment} {n : Nat} {event : Event}
    (h : moments[n]?.map Moment.event = some event) :
    ∃ m, moments = moments.take n ++ m :: moments.drop (n + 1) ∧ m.event = event := by
  obtain ⟨m, found, hm⟩ := Option.map_eq_some_iff.mp h
  obtain ⟨inside, rfl⟩ := List.getElem?_eq_some_iff.mp found
  exact ⟨moments[n], by simp, hm⟩

theorem Run.at_moment (run : Run programs start (past ++ m :: future) store) :
    Run programs start past m.before ∧ m.Follows programs past := by
  induction future using List.reverseRecOn generalizing store with
  | nil =>
    obtain ⟨before, follows, -⟩ := run_snoc.mp run
    exact ⟨before, follows⟩
  | append_singleton future last ih =>
    rw [← List.cons_append, ← List.append_assoc] at run
    exact ih (run_snoc.mp run).1

/-- What holds at some point of a run and is kept by every moment after it holds at its end. -/
theorem Run.keeps {P : List Moment → Store → Prop} (run : Run programs start (past ++ future) store)
    (base : ∀ s, Run programs start past s → P past s)
    (step : ∀ more m, more ++ [m] <+: future → Run programs start (past ++ more) m.before →
      m.Follows programs (past ++ more) → P (past ++ more) m.before →
        P (past ++ more ++ [m]) m.after) :
    P (past ++ future) store := by
  induction future using List.reverseRecOn generalizing store with
  | nil =>
    rw [List.append_nil] at run ⊢
    exact base store run
  | append_singleton future m ih =>
    rw [← List.append_assoc] at run ⊢
    obtain ⟨before, follows, rfl⟩ := run_snoc.mp run
    refine step future m (List.prefix_refl _) before follows (ih before fun more m' hm => ?_)
    exact step more m' (hm.trans (List.prefix_append _ _))

theorem exists_moment_of_exchangesOf {log log' : List Exchange} {e : Exchange}
    (h : exchangesOf caller past = log ++ e :: log') :
    ∃ before after : List Moment, ∃ m disturbed, past = before ++ m :: after ∧
      m.event = .exchange caller e disturbed ∧ exchangesOf caller before = log ∧
      exchangesOf caller after = log' := by
  obtain ⟨before, rest, rfl, hb, hr⟩ := List.filterMap_eq_append_iff.mp h
  obtain ⟨others, m, after, rfl, ho, hm, ha⟩ := List.filterMap_eq_cons_iff.mp hr
  have none_of_others : exchangesOf caller others = [] := List.filterMap_eq_nil_iff.mpr ho
  obtain ⟨store, event, store'⟩ := m
  cases event with
  | edit => cases hm
  | exchange c e' disturbed =>
    dsimp only at hm
    split at hm
    · rename_i own
      obtain rfl := Option.some.inj hm
      subst own
      refine ⟨before ++ others, after, ⟨store, .exchange c e' disturbed, store'⟩, disturbed,
        by simp, rfl, ?_, ha⟩
      rw [exchangesOf_append, none_of_others, List.append_nil]
      exact hb
    · cases hm

theorem exists_moment_of_mem {e : Exchange} (h : e ∈ exchangesOf caller past) :
    ∃ m ∈ past, ∃ disturbed, m.event = .exchange caller e disturbed := by
  obtain ⟨log, log', split⟩ := List.append_of_mem h
  obtain ⟨before, after, m, disturbed, rfl, hm, -, -⟩ := exists_moment_of_exchangesOf split
  exact ⟨m, by simp, disturbed, hm⟩

/-- A caller asks what its exchanges have led it to ask, and is served. -/
theorem Run.asks {e : Exchange} {disturbed : Bool}
    (run : Run programs start (past ++ m :: future) store)
    (hm : m.event = .exchange caller e disturbed) :
    (programs caller).Asks (exchangesOf caller past) e.request ∧
      e.Served disturbed m.before m.after :=
  run.at_moment.2.asks hm

theorem Run.get?_of_read {kind : Kind} {object : ObjectName} {v : Value} {log log' : List Exchange}
    (run : Run programs start past store)
    (h : exchangesOf caller past = log ++ ⟨.readObject kind object, .ok v⟩ :: log') :
    ∃ before after m, past = before ++ m :: after ∧ exchangesOf caller before = log ∧
      m.before.get? ⟨kind.name, object⟩ = some v ∧ m.after = m.before := by
  obtain ⟨before, after, m, disturbed, rfl, hm, hb, -⟩ := exists_moment_of_exchangesOf h
  have served := (run.asks hm).2
  exact ⟨before, after, m, rfl, hb, Server.Serves.get?_of_read served,
    Server.Serves.store_eq_of_read served⟩

theorem Run.exists_read {kind : Kind} {object : ObjectName} {v : Value}
    (run : Run programs start past store)
    (h : ⟨.readObject kind object, .ok v⟩ ∈ exchangesOf caller past) :
    ∃ m ∈ past, m.before.get? ⟨kind.name, object⟩ = some v := by
  obtain ⟨log, log', split⟩ := List.append_of_mem h
  obtain ⟨before, after, m, rfl, -, stored, -⟩ := run.get?_of_read split
  exact ⟨m, by simp, stored⟩

end CanaryRelease
