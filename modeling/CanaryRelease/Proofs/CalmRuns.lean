import CanaryRelease.Proofs.ObjectCalls
import CanaryRelease.Proofs.SiteRuns
import CanaryRelease.Workload.Primary

/-!
# Runs in calm surroundings

Surroundings are undisturbed when no call fails for any reason of their own and nobody else writes
(`Undisturbed`), and calm when the tracker is a function with stable references as well (`Calm`).
What a program does in them is found by following its exchanges: if they are what the surroundings
reply (`Replays`), the program's run is the one that `Ends` describes (`run_of_ends`), and an object
that no exchange is to change stays as it is (`Undisturbed.get?_of_replays`).
-/

namespace CanaryRelease

open Program Workload

/-- The exchanges of a program's run. -/
def Program.log {σ α : Type} (surroundings : Surroundings σ) : Program α → σ → List Exchange
  | .done _, _ => []
  | .fail _, _ => []
  | .ask request next, s =>
    ⟨request, (surroundings request s).1⟩ ::
      log surroundings (next (surroundings request s).1) (surroundings request s).2

variable {σ α : Type} {S : Surroundings σ} {store : σ → Store} {refs : List ConfigRef}
  {redirect : Value → List ConfigRef → Except Failure Value} {s : σ}

/-- Some exchanges are what the surroundings reply, and lead to another state of theirs. -/
def Replays (S : Surroundings σ) : σ → List Exchange → σ → Prop
  | s, [], s' => s' = s
  | s, e :: log, s' => (S e.request s).1 = e.reply ∧ Replays S (S e.request s).2 log s'

/-- A program whose exchanges are what the surroundings reply runs through them. -/
theorem run_of_ends {p : Program α} {log : List Exchange} {outcome : Except Failure α} (s' : σ)
    (ends : Ends p log outcome) (replays : Replays S s log s') :
    p.run S s = (outcome, s') ∧ p.log S s = log := by
  induction ends generalizing s with
  | done answer =>
    obtain rfl : s' = s := replays
    exact ⟨rfl, rfl⟩
  | fail failure =>
    obtain rfl : s' = s := replays
    exact ⟨rfl, rfl⟩
  | @later request next reply log outcome rest ih =>
    obtain ⟨here, later⟩ := replays
    obtain rfl : (S request s).1 = reply := here
    obtain ⟨run, logged⟩ := ih later
    exact ⟨run, congrArg (List.cons _) logged⟩

theorem ends_log (S : Surroundings σ) (p : Program α) (s : σ) :
    Ends p (p.log S s) (p.run S s).1 := by
  induction p generalizing s with
  | done answer => exact .done answer
  | fail failure => exact .fail failure
  | ask request next ih => exact .later (ih _ _)

theorem replays_log (S : Surroundings σ) (p : Program α) (s : σ) :
    Replays S s (p.log S s) (p.run S s).2 := by
  induction p generalizing s with
  | done answer => rfl
  | fail failure => rfl
  | ask request next ih => exact ⟨rfl, ih _ _⟩

theorem replays_append {log log' : List Exchange} {s' : σ} :
    Replays S s (log ++ log') s' ↔ ∃ s₁, Replays S s log s₁ ∧ Replays S s₁ log' s' := by
  induction log generalizing s with
  | nil => exact ⟨fun h => ⟨s, rfl, h⟩, fun ⟨_, here, h⟩ => here ▸ h⟩
  | cons e log ih =>
    constructor
    · rintro ⟨reply, rest⟩
      obtain ⟨s₁, before, after⟩ := ih.mp rest
      exact ⟨s₁, ⟨reply, before⟩, after⟩
    · rintro ⟨s₁, ⟨reply, before⟩, after⟩
      exact ⟨reply, ih.mpr ⟨s₁, before, after⟩⟩

theorem exists_asks_of_mem_log {p : Program α} {e : Exchange} (h : e ∈ p.log S s) :
    ∃ log s', Replays S s log s' ∧ Asks p log e.request := by
  obtain ⟨before, after, split⟩ := List.append_of_mem h
  have ends := ends_log S p s
  have replays := replays_log S p s
  rw [split] at ends replays
  obtain ⟨s', replayed, -⟩ := replays_append.mp replays
  exact ⟨before, s', replayed, ends.asks⟩

/-- Exchanges that write nothing and are what the surroundings reply, whatever their state. -/
structure Silent (S : Surroundings σ) (log : List Exchange) : Prop where
  replays : ∀ s, ∃ s', Replays S s log s'
  readOnly : ∀ e ∈ log, e.request.isWrite = false

/-! ## Undisturbed surroundings -/

/-- The object that a request is to change, by its key, and what it is to become. -/
def Request.change? : Request → Option (ObjectKey × Value)
  | .createObject kind space body => some (⟨kind.name, ⟨Site.bodyName body, space⟩⟩, body)
  | .replaceObject kind object body => some (⟨kind.name, object⟩, body)
  | _ => none

/-- A request is to change the object at a key. -/
def Request.Changes (r : Request) (key : ObjectKey) : Prop :=
  ∃ other body, r.change? = some (other, body) ∧ other.Same key

theorem Request.isWrite_of_change? {r : Request} {change : ObjectKey × Value}
    (h : r.change? = some change) : r.isWrite = true := by
  cases r with
  | createObject | replaceObject => rfl
  | _ => cases h

theorem Exchange.Served.eq_or_put {e : Exchange} {disturbed : Bool} {before after : Store}
    (served : e.Served disturbed before after) :
    after = before ∨ ∃ key body kept, e.request.change? = some (key, body) ∧
      Value.SameApart serverPlaces body kept ∧ after = before.put key kept := by
  obtain ⟨request, reply⟩ := e
  cases request with
  | createObject kind space body =>
    cases reply with
    | error failure => exact .inl served.store_eq_of_not_created
    | ok u =>
      obtain ⟨kept, -, same, put⟩ := served.of_created
      exact .inr ⟨_, body, kept, rfl, same, put⟩
  | replaceObject kind object body =>
    cases reply with
    | error failure => exact .inl served.store_eq_of_not_replaced
    | ok u =>
      obtain ⟨_, kept, -, -, same, put⟩ := served.of_replaced
      exact .inr ⟨_, body, kept, rfl, same, put⟩
  | _ => exact .inl (served.store_eq_of_not_isWrite rfl)

theorem Exchange.Served.exists_put {e : Exchange} {caller : Nat} {disturbed : Bool}
    {before after : Store} {key : ObjectKey} (served : e.Served disturbed before after)
    (writes : (Event.exchange caller e disturbed).Writes key) :
    ∃ other body kept, e.request.change? = some (other, body) ∧ other.Same key ∧
      Value.SameApart serverPlaces body kept ∧ after = before.put other kept := by
  obtain ⟨other, written, same⟩ := writes
  obtain ⟨request, reply⟩ := e
  cases request with
  | createObject kind space body =>
    cases reply with
    | error failure => cases written
    | ok u =>
      obtain ⟨kept, -, here, put⟩ := served.of_created
      obtain rfl := Option.some.inj written
      exact ⟨_, body, kept, rfl, same, here, put⟩
  | replaceObject kind object body =>
    cases reply with
    | error failure => cases written
    | ok u =>
      obtain ⟨_, kept, -, -, here, put⟩ := served.of_replaced
      obtain rfl := Option.some.inj written
      exact ⟨_, body, kept, rfl, same, here, put⟩
  | _ => cases written

/-- Surroundings in which no call is disturbed: the server keeps to its rules. -/
def Undisturbed (S : Surroundings σ) (store : σ → Store) : Prop :=
  ∀ request s, Exchange.Served ⟨request, (S request s).1⟩ false (store s) (store (S request s).2)

namespace Undisturbed

variable {kind : Kind} {object : ObjectName} {v body old : Value} {key : ObjectKey}
  {log : List Exchange} {s' : σ}

theorem store_eq (undisturbed : Undisturbed S store) {request : Request}
    (h : request.isWrite = false) (s : σ) : store (S request s).2 = store s :=
  (undisturbed request s).store_eq_of_not_isWrite h

theorem read (undisturbed : Undisturbed S store) (addressable : object.isAddressable = true)
    (stored : (store s).get? ⟨kind.name, object⟩ = some v) :
    (S (.readObject kind object) s).1 = .ok v :=
  (undisturbed (.readObject kind object) s).read_of_stored addressable stored

theorem replace (undisturbed : Undisturbed S store) (addressable : object.isAddressable = true)
    (stored : (store s).get? ⟨kind.name, object⟩ = some old)
    (alike : body.resourceVersion.alike old.resourceVersion = true) :
    (S (.replaceObject kind object body) s).1 = .ok () ∧
      ∃ kept, Value.SameApart serverPlaces body kept ∧
        store (S (.replaceObject kind object body) s).2 =
          (store s).put ⟨kind.name, object⟩ kept := by
  have served := undisturbed (.replaceObject kind object body) s
  have replaced := served.replaced_of_alike addressable stored alike
  rw [replaced] at served
  obtain ⟨_, kept, -, -, same, after⟩ := served.of_replaced
  exact ⟨replaced, kept, same, after⟩

theorem get?_or_changed (undisturbed : Undisturbed S store) (request : Request) (s : σ) :
    (store (S request s).2).get? key = (store s).get? key ∨
      ∃ other body kept, request.change? = some (other, body) ∧ other.Same key ∧
        Value.SameApart serverPlaces body kept ∧
        (store (S request s).2).get? key = some kept := by
  obtain same | ⟨other, body, kept, change, same, after⟩ := (undisturbed request s).eq_or_put
  · rw [same]
    exact .inl rfl
  · rw [after, Store.get?_put]
    by_cases here : other.Same key
    · rw [if_pos here]
      exact .inr ⟨other, body, kept, change, here, same, rfl⟩
    · rw [if_neg here]
      exact .inl rfl

theorem get?_of_not_changes (undisturbed : Undisturbed S store) {request : Request}
    (other : ¬ request.Changes key) (s : σ) :
    (store (S request s).2).get? key = (store s).get? key := by
  rcases undisturbed.get?_or_changed request s with same | ⟨k, body, _, change, here, -, -⟩
  · exact same
  · exact absurd ⟨k, body, change, here⟩ other

/-- An object that no exchange is to change stays as it is. -/
theorem get?_of_replays (undisturbed : Undisturbed S store) (replays : Replays S s log s')
    (others : ∀ e ∈ log, ¬ e.request.Changes key) :
    (store s').get? key = (store s).get? key := by
  induction log generalizing s with
  | nil => rw [show s' = s from replays]
  | cons e log ih =>
    rw [ih replays.2 fun e' mem => others e' (List.mem_cons_of_mem _ mem)]
    exact undisturbed.get?_of_not_changes (others e List.mem_cons_self) s

theorem forall_of_replays {P : Value → Prop} (undisturbed : Undisturbed S store)
    (replays : Replays S s log s') (before : ∀ v, (store s).get? key = some v → P v)
    (changes : ∀ e ∈ log, ∀ other body kept, e.request.change? = some (other, body) →
      other.Same key → Value.SameApart serverPlaces body kept → P kept) :
    ∀ v, (store s').get? key = some v → P v := by
  induction log generalizing s with
  | nil => rwa [show s' = s from replays]
  | cons e log ih =>
    apply ih replays.2
    · intro v stored
      rcases undisturbed.get?_or_changed e.request s with same | ⟨other, body, kept, change, here,
        same, there⟩
      · exact before v (same ▸ stored)
      · obtain rfl := Option.some.inj (stored.symm.trans there)
        exact changes e List.mem_cons_self other body v change here same
    · intro e' mem
      exact changes e' (List.mem_cons_of_mem _ mem)

theorem store_eq_of_replays (undisturbed : Undisturbed S store) (replays : Replays S s log s')
    (readOnly : ∀ e ∈ log, e.request.isWrite = false) : store s' = store s := by
  induction log generalizing s with
  | nil => rw [show s' = s from replays]
  | cons e log ih =>
    rw [ih replays.2 fun e' mem => readOnly e' (List.mem_cons_of_mem _ mem)]
    exact undisturbed.store_eq (readOnly e List.mem_cons_self) s

variable {α : Type} {p : Program α} {a : α} {rest : List Exchange} {name : ObjectName}

theorem exists_run_of_reads (undisturbed : Undisturbed S store) (front : List Exchange)
    (ends : Ends p (front ++ rest) (.ok a))
    (reads : ∃ s₁, Replays S s front s₁) (readOnly : ∀ e ∈ front, e.request.isWrite = false)
    (silent : Silent S rest) :
    ∃ s', p.run S s = (.ok a, s') ∧ p.log S s = front ++ rest ∧ store s' = store s := by
  obtain ⟨s₁, before⟩ := reads
  obtain ⟨s₂, after⟩ := silent.replays s₁
  obtain ⟨run, logged⟩ := run_of_ends s₂ ends (replays_append.mpr ⟨s₁, before, after⟩)
  refine ⟨s₂, run, logged, ?_⟩
  rw [undisturbed.store_eq_of_replays after silent.readOnly,
    undisturbed.store_eq_of_replays before readOnly]

/-- A program that reads something, replaces an object whose version it has, and writes no more runs
to its end. -/
theorem exists_run_of_replacement (undisturbed : Undisturbed S store) (front : List Exchange)
    (ends : Ends p (front ++ replaceExchange kind name body (.ok ()) :: rest) (.ok a))
    (reads : ∃ s₁, Replays S s front s₁) (readOnly : ∀ e ∈ front, e.request.isWrite = false)
    (silent : Silent S rest) (addressable : object.isAddressable = true)
    (stored : (store s).get? ⟨kind.name, object⟩ = some old)
    (standard : name.standard = object.standard)
    (alike : body.resourceVersion.alike old.resourceVersion = true) :
    ∃ s₁ kept s', (S (.replaceObject kind name body) s₁).1 = .ok () ∧
      store (S (.replaceObject kind name body) s₁).2 = (store s).put ⟨kind.name, name⟩ kept ∧
      Value.SameApart serverPlaces body kept ∧ p.run S s = (.ok a, s') ∧
      p.log S s = front ++ replaceExchange kind name body (.ok ()) :: rest ∧
      store s' = (store s).put ⟨kind.name, name⟩ kept := by
  obtain ⟨s₁, before⟩ := reads
  have same_store : store s₁ = store s := undisturbed.store_eq_of_replays before readOnly
  have stored₁ : (store s₁).get? ⟨kind.name, name⟩ = some old := by
    rw [same_store, ← stored]
    exact Store.get?_congr _ ⟨rfl, standard⟩
  have addressable₁ : name.isAddressable = true :=
    (ObjectName.isAddressable_congr standard).trans addressable
  obtain ⟨replaced, kept, same, put⟩ := undisturbed.replace addressable₁ stored₁ alike
  rw [same_store] at put
  obtain ⟨s', after⟩ := silent.replays (S (.replaceObject kind name body) s₁).2
  have replays : Replays S s (front ++ replaceExchange kind name body (.ok ()) :: rest) s' :=
    replays_append.mpr ⟨s₁, before, replaced, after⟩
  obtain ⟨run, logged⟩ := run_of_ends s' ends replays
  refine ⟨s₁, kept, s', replaced, put, same, run, logged, ?_⟩
  rw [undisturbed.store_eq_of_replays after silent.readOnly]
  exact put

end Undisturbed

/-! ## Calm surroundings -/

/-- Surroundings in which nothing goes wrong: the server keeps to its rules and is not disturbed,
and the tracker is a function with stable references. -/
structure Calm (S : Surroundings σ) (store : σ → Store) (refs : List ConfigRef)
    (redirect : Value → List ConfigRef → Except Failure Value) : Prop where
  served : ∀ request s,
    Exchange.Served ⟨request, (S request s).1⟩ false (store s) (store (S request s).2)
  targetConfigs : ∀ canary s, (S (.targetConfigs canary) s).1 = .ok refs
  copyConfigs : ∀ canary refs prefixes s, (S (.copyConfigs canary refs prefixes) s).1 = .ok ()
  redirectConfigs : ∀ podSpec refs s,
    (S (.redirectConfigs podSpec refs) s).1 = redirect podSpec refs

theorem Calm.undisturbed (calm : Calm S store refs redirect) : Undisturbed S store := calm.served

/-! ## A calm server in memory -/

namespace Server

variable {verb : Verb} {key : ObjectKey} {body : Value} {store : Store}

/-- The server in memory, if it keeps as it is what it cannot number. -/
def serve (verb : Verb) (key : ObjectKey) (body : Value) (store : Store) :
    Except CallFailure Value × Store :=
  if key.object.isAddressable then
    match perform verb key body store with
    | (.error (.broken _), _) => (.ok body, store.put key body)
    | served => served
  else (.error (.broken .malformed), store)

theorem rule_of_broken {failure : Failure} {after : Store}
    (h : perform verb key body store = (.error (.broken failure), after)) :
    Rule store key verb body (.ok body) (store.put key body) := by
  cases verb with
  | read =>
    cases found : store.get? key with
    | none => simp [perform, found] at h
    | some v => simp [perform, found] at h
  | create =>
    cases found : store.get? key with
    | none => exact .created found (.refl _ _)
    | some v => simp [perform, found] at h
  | replace =>
    cases found : store.get? key with
    | none => simp [perform, found] at h
    | some old =>
      cases alike : body.resourceVersion.alike old.resourceVersion with
      | false => simp [perform, found, alike] at h
      | true => exact .replaced found alike (.refl _ _)

theorem serves_serve :
    Serves store key verb body false (serve verb key body store).1
      (serve verb key body store).2 := by
  unfold serve
  split
  · rename_i addressable
    have serves : Serves store key verb body _ _ _ := serves_perform addressable
    split
    · rename_i broken
      exact .ruled addressable (rule_of_broken broken)
    · rename_i unbroken
      rcases done : perform verb key body store with ⟨(_ | failure) | v, after⟩
      · rwa [done] at serves
      · exact absurd done (unbroken failure after)
      · rwa [done] at serves
  · rename_i unaddressable
    exact .unnamed (by simpa using unaddressable)

end Server

/-- Calm surroundings in memory: a store and the number of ids that were drawn. -/
def calmSurroundings (refs : List ConfigRef)
    (redirect : Value → List ConfigRef → Except Failure Value) (clock : Timestamp) :
    Surroundings (Store × Nat)
  | .readObject kind object, (store, drawn) =>
    let (reply, store) := Server.serve .read ⟨kind.name, object⟩ .null store
    (reply, store, drawn)
  | .createObject kind space body, (store, drawn) =>
    let (reply, store) := Server.serve .create ⟨kind.name, ⟨Site.bodyName body, space⟩⟩ body store
    (reply.map fun _ => (), store, drawn)
  | .replaceObject kind object body, (store, drawn) =>
    let (reply, store) := Server.serve .replace ⟨kind.name, object⟩ body store
    (reply.map fun _ => (), store, drawn)
  | .targetConfigs _, s => (.ok refs, s)
  | .copyConfigs _ _ _, s => (.ok (), s)
  | .redirectConfigs podSpec refs, s => (redirect podSpec refs, s)
  | .configsChanged _, s => (.ok false, s)
  | .drawId, (store, drawn) => (Site.id (drawn + 1), store, drawn + 1)
  | .readClock, s => (clock, s)
  | .count _, s => ((), s)
  | .note _ _, s => ((), s)

theorem calm_calmSurroundings (clock : Timestamp) :
    Calm (calmSurroundings refs redirect clock) Prod.fst refs redirect where
  served request s := by
    cases request with
    | readObject => exact Server.serves_serve
    | createObject => exact ⟨_, rfl, Server.serves_serve⟩
    | replaceObject => exact ⟨_, rfl, Server.serves_serve⟩
    | _ => rfl
  targetConfigs _ _ := rfl
  copyConfigs _ _ _ _ := rfl
  redirectConfigs _ _ _ := rfl

/-! ## Stored pairs -/

open TemplateController (primaryObject)

/-- A target and its primary are stored, the primary under the name that it gives itself. The version
of the primary, in the form in which it is sent back, is its version still, as every text is. -/
structure Stored (kind : Kind) (canary : Canary) (store : Store) (target primary : Value) :
    Prop where
  addressable : canary.targetObject.isAddressable = true
  target_stored : ∃ v, store.get? ⟨kind.name, canary.targetObject⟩ = some v ∧
    v.toManifest = .ok target
  primary_stored : ∃ w, store.get? ⟨kind.name, primaryObject canary⟩ = some w ∧
    w.toManifest = .ok primary ∧ w.resourceVersion.wire.alike w.resourceVersion = true
  own : ∃ name, ownName primary = .ok name ∧ name.standard = (primaryObject canary).standard

theorem Stored.primary_addressable {kind : Kind} {canary : Canary} {store : Store}
    {target primary : Value} (h : Stored kind canary store target primary) :
    (primaryObject canary).isAddressable = true := (Bool.and_eq_true_iff.mp h.addressable).2

end CanaryRelease
