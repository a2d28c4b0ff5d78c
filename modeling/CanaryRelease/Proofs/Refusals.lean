import CanaryRelease.Proofs.Attempts
import CanaryRelease.Proofs.Avoidance
import CanaryRelease.Proofs.Staleness

/-!
# Refused calls

A call that the API server refuses ends its operation: the refusal is counted, nothing else is asked
any more, and the error says what the call was made for, which object it was about and what the
server answered (`Surfaces`). The one refusal that is none is the answer 404 to the question whether
a derived object exists, which is followed by the object's creation (`CreatesFirst`).

That every call of every operation is of this kind is proved along the programs. `Accounts` says of
a program all that a part of an operation promises, given the exchanges before it, and is closed
under sequences; each operation is put together from its requests. With it comes which objects are
called for, and that a counter is only moved for a write that succeeded, so that an error is counted
once and nothing is counted for the step that failed (`refused_calls_surface`).
-/

namespace CanaryRelease

open Program Workload

/-! ## Calls and refusals -/

namespace Request

/-- The object that a call to the API server is about, by its key. -/
def key? : Request → Option ObjectKey
  | readObject kind object => some ⟨kind.name, object⟩
  | createObject kind space body => some ⟨kind.name, ⟨Site.bodyName body, space⟩⟩
  | replaceObject kind object _ => some ⟨kind.name, object⟩
  | _ => none

/-- What a call is made for where replacements are made for `writing`. -/
def action (writing : String) : Request → String
  | readObject .. => "get"
  | createObject .. => "create"
  | _ => writing

/-- Whether a request is a call to the API server or an increment of a counter. -/
def isReported : Request → Bool
  | readObject .. | createObject .. | replaceObject .. | count _ => true
  | _ => false

theorem isReported_of_key? {r : Request} {key : ObjectKey} (h : r.key? = some key) :
    r.isReported = true := by
  cases r with
  | readObject | createObject | replaceObject => rfl
  | _ => cases h

end Request

/-- The refusal by which a call was turned away. -/
def Exchange.refusal? : Exchange → Option Refusal
  | ⟨.readObject .., .error (.refused refusal)⟩ => some refusal
  | ⟨.createObject .., .error (.refused refusal)⟩ => some refusal
  | ⟨.replaceObject .., .error (.refused refusal)⟩ => some refusal
  | _ => none

section Refused

variable {kind : Kind} {object : ObjectName} {space body : Value} {refusal : Refusal}

theorem refusal?_read {reply : Except CallFailure Value} :
    (readExchange kind object reply).refusal? = some refusal ↔
      reply = .error (.refused refusal) := by
  rcases reply with (_ | _) | _ <;> simp [Exchange.refusal?]

theorem refusal?_create {reply : Except CallFailure Unit} :
    (createExchange kind space body reply).refusal? = some refusal ↔
      reply = .error (.refused refusal) := by
  rcases reply with (_ | _) | _ <;> simp [Exchange.refusal?]

theorem refusal?_replace {reply : Except CallFailure Unit} :
    (replaceExchange kind object body reply).refusal? = some refusal ↔
      reply = .error (.refused refusal) := by
  rcases reply with (_ | _) | _ <;> simp [Exchange.refusal?]

theorem exists_key_of_refusal? {e : Exchange} (h : e.refusal? = some refusal) :
    ∃ key, e.request.key? = some key := by
  obtain ⟨request, reply⟩ := e
  cases request with
  | readObject | createObject | replaceObject => exact ⟨_, rfl⟩
  | _ => cases h

end Refused

/-- What the replacements of an operation are made for. -/
def Operation.writing : Operation → String
  | promote => "promote"
  | scaleFromZero | finalize => "scale from zero"
  | _ => "scale to zero"

/-- The refusal that caused an error. -/
def WorkloadError.cause? : WorkloadError → Option Refusal
  | refused call => some ⟨call.status, call.reason⟩
  | _ => none

/-- Some exchanges have earned an increment: they wrote what it tells of, or the last of them was
refused. -/
inductive Counter.Earned (kind : Kind) (primary : ObjectName) (log : List Exchange) :
    Counter → Prop where
  | primaryCreated {body : Value} (named : Site.bodyName body = primary.name)
      (created : createExchange kind primary.space body (.ok ()) ∈ log) :
      Earned kind primary log (.primaryCreated kind.name)
  | promoted {object : ObjectName} {body : Value}
      (replaced : replaceExchange kind object body (.ok ()) ∈ log) :
      Earned kind primary log (.promoted kind.name)
  | scaled {object : ObjectName} {body : Value} (down : Bool)
      (replaced : replaceExchange kind object body (.ok ()) ∈ log) :
      Earned kind primary log (.scaled kind.name down)
  | readinessChecked (verdict : Verdict) :
      Earned kind primary log (.readinessChecked kind.name verdict)
  | refused {before : List Exchange} {e : Exchange} {refusal : Refusal} (last : log = before ++ [e])
      (turned : e.refusal? = some refusal) :
      Earned kind primary log (.refused kind.name refusal.status.display)

/-- How the body of an object that is derived from a target is made. -/
def Controller.making : Controller → Canary → Value → ObjectName → Program Value
  | template c, canary, target, _ => do
    let (label, value) ← c.pairingLabel target
    let refs ← c.copyConfigs canary
    c.primaryBody canary target label (primaryName value) refs
  | service c, canary, target, object => c.derivedBody canary object target

/-- Before anything else is reported, a program creates an object whose body it makes, and it does
not succeed without. -/
structure CreatesFirst {α : Type} (kind : Kind) (object : ObjectName) (making : Program Value)
    (p : Program α) : Prop where
  creates : ∀ log r, (∀ e ∈ log, e.request.key? = none) → r.isReported = true →
    (Asks p log r ↔
      ∃ body, Ends making log (.ok body) ∧ r = .createObject kind object.space body)
  named : ∀ log body, Ends making log (.ok body) → Site.bodyName body = object.name
  needed : ∀ log a, Ends p log (.ok a) → ∃ e ∈ log, e.request.key? ≠ none

/-- A read asks whether a derived object exists: the first read of it in an establishment. -/
def ChecksExistence (controller : Controller) (operation : Operation) (canary : Canary)
    (log : List Exchange) (r : Request) : Prop :=
  operation = .establish ∧ ∃ object ∈ controller.derivedObjects canary,
    r = .readObject controller.kind object ∧
      ∀ reply, readExchange controller.kind object reply ∉ log

/-- After some exchanges a program that reads an object takes every answer 404 to mean that there is
none, and creates it from the target that was read. -/
structure TakenForMissing {α : Type} (controller : Controller) (canary : Canary)
    (past : List Exchange) (p : Program α) (log : List Exchange) (object : ObjectName) : Prop where
  rest : ∃ (v target : Value) (q : Program α),
    readExchange controller.kind canary.targetObject (.ok v) ∈ past ++ log ∧
    v.toManifest = .ok target ∧
    CreatesFirst controller.kind object (controller.making canary target object) q ∧
    ∀ refusal : Refusal, refusal.status.alike (.int 404) = true →
      Leaves p (log ++ [readExchange controller.kind object (.error (.refused refusal))]) q

/-! ## What the parts of an operation promise -/

variable {α β : Type} {controller : Controller} {operation : Operation} {canary : Canary}
  {past log : List Exchange} {p : Program α} {f : α → Program β} {key : ObjectKey}
  {object : ObjectName}

/-- A program that comes after some exchanges of an operation accounts for what it asks. -/
structure Accounts (controller : Controller) (operation : Operation) (canary : Canary)
    (past : List Exchange) (p : Program α) : Prop where
  located : ∀ log r key, Asks p log r → r.key? = some key → key.kind = controller.kind.name ∧
    (key.object ∈ canary.targetObject :: controller.derivedObjects canary ∨
      ∃ body, r = .replaceObject controller.kind key.object body)
  earned : ∀ log counter, Asks p log (.count counter) →
    counter.Earned controller.kind (TemplateController.primaryObject canary) (past ++ log)
  refused : ∀ log e key refusal, Asks p log e.request → e.request.key? = some key →
    e.refusal? = some refusal →
    ¬ (refusal.status.alike (.int 404) = true ∧
      ChecksExistence controller operation canary (past ++ log) e.request) →
    Leaves p (log ++ [e])
      (refuse (e.request.action operation.writing) controller.kind key.object refusal)
  missing : ∀ log r key, Asks p log r → r.key? = some key →
    ChecksExistence controller operation canary (past ++ log) r →
    TakenForMissing controller canary past p log key.object

section CreatesFirst

variable {kind : Kind} {making : Program Value}

theorem CreatesFirst.bind (h : CreatesFirst kind object making p) :
    CreatesFirst kind object making (p >>= f) := by
  refine ⟨fun log r silent reported => ?_, h.named, fun log b ends => ?_⟩
  · rw [← h.creates log r silent reported, asks_bind]
    constructor
    · rintro (first | ⟨a, before, after, rfl, ended, -⟩)
      · exact first
      · obtain ⟨e, mem, called⟩ := h.needed before a ended
        exact absurd (silent e (List.mem_append_left _ mem)) called
    · exact .inl
  · obtain ⟨a, before, after, rfl, ended, -⟩ := ends_bind_ok.mp ends
    obtain ⟨e, mem, called⟩ := h.needed before a ended
    exact ⟨e, List.mem_append_left _ mem, called⟩

theorem createsFirst_making {g : Value → Unit → Program α} (quiet : Avoids (·.isReported) making)
    (named : ∀ log body, Ends making log (.ok body) → Site.bodyName body = object.name) :
    CreatesFirst kind object making
      (making >>= fun body => create kind object body >>= g body) := by
  refine ⟨fun log r silent reported => ⟨fun asks => ?_, ?_⟩, named, fun log b ends => ?_⟩
  · obtain first | ⟨body, before, after, rfl, made, rest⟩ := asks_bind.mp asks
    · exact absurd reported (quiet log r first)
    obtain creating | ⟨_, _, _, rfl, created, -⟩ := asks_bind.mp rest
    · obtain now | ⟨reply, _, _, rfl, asked, -⟩ := asks_bind.mp creating
      · obtain ⟨rfl, rfl⟩ := asks_request.mp now
        rw [List.append_nil]
        exact ⟨body, made, rfl⟩
      · obtain ⟨answer, rfl, -⟩ := ends_request.mp asked
        cases silent (createExchange kind object.space body answer) (by simp)
    · obtain rfl := ends_create.mp created
      cases silent (createExchange kind object.space body (.ok ())) (by simp)
  · rintro ⟨body, made, rfl⟩
    refine asks_bind.mpr (.inr ⟨body, log, [], (List.append_nil _).symm, made, ?_⟩)
    exact asks_bind.mpr (.inl (asks_bind.mpr (.inl (asks_request.mpr ⟨rfl, rfl⟩))))
  · obtain ⟨body, before, _, rfl, -, rest⟩ := ends_bind_ok.mp ends
    obtain ⟨_, _, after, rfl, created, -⟩ := ends_bind_ok.mp rest
    obtain rfl := ends_create.mp created
    exact ⟨createExchange kind object.space body (.ok ()), by simp, Option.some_ne_none _⟩

end CreatesFirst

/-! ## Sequences -/

namespace Accounts

theorem bind (hp : Accounts controller operation canary past p)
    (hf : ∀ log a, Ends p log (.ok a) →
      Accounts controller operation canary (past ++ log) (f a)) :
    Accounts controller operation canary past (p >>= f) := by
  constructor
  · intro log r key asks called
    obtain first | ⟨a, before, after, rfl, ended, rest⟩ := asks_bind.mp asks
    · exact hp.located log r key first called
    · exact (hf before a ended).located after r key rest called
  · intro log counter asks
    obtain first | ⟨a, before, after, rfl, ended, rest⟩ := asks_bind.mp asks
    · exact hp.earned log counter first
    · rw [← List.append_assoc]
      exact (hf before a ended).earned after counter rest
  · intro log e key refusal asks called turned fatal
    obtain first | ⟨a, before, after, rfl, ended, rest⟩ := asks_bind.mp asks
    · exact (hp.refused log e key refusal first called turned fatal).bind f
    · rw [← List.append_assoc] at fatal
      rw [List.append_assoc]
      exact ((hf before a ended).refused after e key refusal rest called turned fatal).after_ends
        ended
  · intro log r key asks called check
    obtain first | ⟨a, before, after, rfl, ended, rest⟩ := asks_bind.mp asks
    · obtain ⟨v, target, q, read, manifest, creates, leaves⟩ :=
        hp.missing log r key first called check
      exact ⟨v, target, q >>= f, read, manifest, creates.bind, fun refusal alike =>
        (leaves refusal alike).bind f⟩
    · rw [← List.append_assoc] at check
      obtain ⟨v, target, q, read, manifest, creates, leaves⟩ :=
        (hf before a ended).missing after r key rest called check
      refine ⟨v, target, q, ?_, manifest, creates, fun refusal alike => ?_⟩
      · rwa [← List.append_assoc]
      · rw [List.append_assoc]
        exact (leaves refusal alike).after_ends ended

theorem of_avoids (quiet : Avoids (·.isReported) p) :
    Accounts controller operation canary past p := by
  have uncalled {log : List Exchange} {r : Request} {key : ObjectKey} (asks : Asks p log r)
      (called : r.key? = some key) : False :=
    quiet log r asks (Request.isReported_of_key? called)
  refine ⟨fun _ _ _ asks called => (uncalled asks called).elim, fun log counter asks => ?_,
    fun _ _ _ _ asks called => (uncalled asks called).elim,
    fun _ _ _ asks called => (uncalled asks called).elim⟩
  exact absurd rfl (quiet log _ asks)

theorem pure (a : α) : Accounts controller operation canary past (Pure.pure a) :=
  of_avoids (avoids_pure a)

theorem fail (failure : Failure) :
    Accounts controller operation canary past (.fail failure : Program α) :=
  of_avoids (avoids_fail failure)

theorem lift_bind {x : Except Failure α}
    (hf : ∀ a, x = .ok a → Accounts controller operation canary past (f a)) :
    Accounts controller operation canary past (liftM x >>= f) := by
  refine (of_avoids (avoids_lift x)).bind fun log a ended => ?_
  obtain ⟨rfl, hx⟩ := ends_lift.mp ended
  rw [List.append_nil]
  exact hf a hx.symm

end Accounts

/-! ## Single requests -/

theorem giveUp_bind {action : String} {kind : Kind} {failure : CallFailure} :
    (giveUp action kind object failure : Program α) >>= f = giveUp action kind object failure := by
  cases failure <;> rfl

theorem accounts_refuse {e : Exchange} {refusal : Refusal} (turned : e.refusal? = some refusal)
    (action : String) (object : ObjectName) :
    Accounts controller operation canary (past ++ [e])
      (refuse action controller.kind object refusal : Program α) := by
  have asked {log : List Exchange} {r : Request}
      (asks : Asks (refuse action controller.kind object refusal : Program α) log r) :
      log = [] ∧ r = .count (.refused controller.kind.name refusal.status.display) := by
    obtain now | ⟨_, _, after, rfl, -, rest⟩ := asks_bind.mp asks
    · exact asks_request.mp now
    · exact absurd rest asks_fail
  constructor
  · intro log r key asks called
    obtain ⟨-, rfl⟩ := asked asks
    cases called
  · intro log counter asks
    obtain ⟨rfl, ⟨⟩⟩ := asked asks
    rw [List.append_nil]
    exact .refused rfl turned
  · intro log e key refusal asks called
    rw [(asked asks).2] at called
    cases called
  · intro log r key asks called
    obtain ⟨-, rfl⟩ := asked asks
    cases called

theorem accounts_giveUp {e : Exchange} {failure : CallFailure}
    (turned : ∀ refusal, failure = .refused refusal → e.refusal? = some refusal) (action : String)
    (object : ObjectName) :
    Accounts controller operation canary (past ++ [e])
      (giveUp action controller.kind object failure : Program α) := by
  cases failure with
  | broken failure => exact .fail failure
  | refused refusal => exact accounts_refuse (turned refusal rfl) _ _

theorem accounts_ask {r : Request} {next : r.Reply → Program α} (called : r.key? = some key)
    (kind : key.kind = controller.kind.name)
    (known : key.object ∈ canary.targetObject :: controller.derivedObjects canary ∨
      ∃ body, r = .replaceObject controller.kind key.object body)
    (refused : ∀ reply refusal, Exchange.refusal? ⟨r, reply⟩ = some refusal →
      ¬ (refusal.status.alike (.int 404) = true ∧
        ChecksExistence controller operation canary past r) →
      next reply = refuse (r.action operation.writing) controller.kind key.object refusal)
    (missing : ChecksExistence controller operation canary past r →
      TakenForMissing controller canary past (.ask r next) [] key.object)
    (rest : ∀ reply, Accounts controller operation canary (past ++ [⟨r, reply⟩]) (next reply)) :
    Accounts controller operation canary past (.ask r next) := by
  constructor
  · intro log r' key' asks called'
    obtain ⟨rfl, rfl⟩ | ⟨reply, after, rfl, later⟩ := asks_ask.mp asks
    · obtain rfl := Option.some.inj (called.symm.trans called')
      exact ⟨kind, known⟩
    · exact (rest reply).located after r' key' later called'
  · intro log counter asks
    obtain ⟨-, rfl⟩ | ⟨reply, after, rfl, later⟩ := asks_ask.mp asks
    · cases called
    · simpa using (rest reply).earned after counter later
  · intro log e key' refusal asks called' turned fatal
    obtain ⟨rfl, same⟩ | ⟨reply, after, rfl, later⟩ := asks_ask.mp asks
    · obtain ⟨_, reply⟩ := e
      obtain rfl : _ = r := same
      obtain rfl := Option.some.inj (called.symm.trans called')
      rw [List.append_nil] at fatal
      rw [← refused reply refusal turned fatal]
      exact .later (.all _)
    · refine .later ((rest reply).refused after e key' refusal later called' turned ?_)
      simpa using fatal
  · intro log r' key' asks called' check
    obtain ⟨rfl, rfl⟩ | ⟨reply, after, rfl, later⟩ := asks_ask.mp asks
    · obtain rfl := Option.some.inj (called.symm.trans called')
      rw [List.append_nil] at check
      exact missing check
    · obtain ⟨v, target, q, read, manifest, creates, leaves⟩ :=
        (rest reply).missing after r' key' later called' (by simpa using check)
      exact ⟨v, target, q, by simpa using read, manifest, creates, fun refusal alike =>
        .later (leaves refusal alike)⟩

theorem accounts_fetch (known : object ∈ canary.targetObject :: controller.derivedObjects canary)
    (plain : ¬ ChecksExistence controller operation canary past
      (.readObject controller.kind object)) :
    Accounts controller operation canary past (fetch controller.kind object) := by
  refine accounts_ask (r := .readObject controller.kind object) rfl rfl (.inl known)
    (fun reply refusal turned _ => ?_) (fun check => absurd check plain) fun reply => ?_
  · obtain rfl := refusal?_read.mp turned
    rfl
  · cases reply with
    | error failure => exact accounts_giveUp (fun _ h => refusal?_read.mpr (congrArg _ h)) _ _
    | ok v =>
      dsimp only [Program.bind]
      cases v.toManifest with
      | ok m => exact .pure m
      | error shape => exact .fail _

/-- A derived object whose existence is asked for is created if the answer is 404. -/
theorem accounts_exists_bind {f : Bool → Program α} {v target : Value}
    (check : ChecksExistence controller operation canary past
      (.readObject controller.kind object))
    (read : readExchange controller.kind canary.targetObject (.ok v) ∈ past)
    (manifest : v.toManifest = .ok target)
    (creates : CreatesFirst controller.kind object (controller.making canary target object)
      (f false))
    (rest : ∀ reply found, Accounts controller operation canary
      (past ++ [readExchange controller.kind object reply]) (f found)) :
    Accounts controller operation canary past («exists» controller.kind object >>= f) := by
  have derived : object ∈ controller.derivedObjects canary := by
    obtain ⟨-, _, derived, ⟨⟩, -⟩ := check
    exact derived
  -- what is done about a failed read depends on whether it says that nothing is there
  have failed (failure : CallFailure) :
      (if failure.isNotFound then Pure.pure false
        else giveUp "get" controller.kind object failure) >>= f =
      if failure.isNotFound then f false else giveUp "get" controller.kind object failure := by
    split
    · rfl
    · exact giveUp_bind
  refine accounts_ask (r := .readObject controller.kind object) rfl rfl
    (.inl (List.mem_cons_of_mem _ derived)) (fun reply refusal turned fatal => ?_)
    (fun _ => ⟨v, target, f false, List.mem_append_left _ read, manifest, creates,
      fun refusal alike => .later ?_⟩) fun reply => ?_
  · obtain rfl := refusal?_read.mp turned
    exact (failed _).trans (if_neg fun alike => fatal ⟨alike, check⟩)
  · have gone := (failed (.refused refusal)).trans (if_pos alike)
    exact gone ▸ .all _
  · cases reply with
    | ok v => exact rest _ true
    | error failure =>
      change Accounts _ _ _ _ ((if failure.isNotFound then Pure.pure false
        else giveUp "get" controller.kind object failure) >>= f)
      rw [failed]
      split
      · exact rest _ false
      · exact accounts_giveUp (fun _ h => refusal?_read.mpr (congrArg _ h)) _ _

theorem accounts_create {body : Value} (known : object ∈ controller.derivedObjects canary)
    (named : Site.bodyName body = object.name) :
    Accounts controller operation canary past (create controller.kind object body) := by
  have located : (⟨Site.bodyName body, object.space⟩ : ObjectName) = object := by rw [named]
  refine accounts_ask (r := .createObject controller.kind object.space body) rfl rfl
    (.inl (List.mem_cons_of_mem _ (located ▸ known))) (fun reply refusal turned _ => ?_) nofun
    fun reply => ?_
  · obtain rfl := refusal?_create.mp turned
    change refuse "create" controller.kind object refusal = refuse _ _ ⟨_, _⟩ _
    rw [located]
    rfl
  · cases reply with
    | ok u => exact .pure u
    | error failure => exact accounts_giveUp (fun _ h => refusal?_create.mpr (congrArg _ h)) _ _

theorem accounts_update {v : Value} :
    Accounts controller operation canary past (update controller.kind v operation.writing) := by
  refine .lift_bind fun name _ => .lift_bind fun body _ => ?_
  refine accounts_ask (r := .replaceObject controller.kind name body) rfl rfl (.inr ⟨body, rfl⟩)
    (fun reply refusal turned _ => ?_) nofun fun reply => ?_
  · obtain rfl := refusal?_replace.mp turned
    rfl
  · cases reply with
    | ok u => exact .pure u
    | error failure => exact accounts_giveUp (fun _ h => refusal?_replace.mpr (congrArg _ h)) _ _

theorem accounts_count {counter : Counter}
    (earned : counter.Earned controller.kind (TemplateController.primaryObject canary) past) :
    Accounts controller operation canary past (request (.count counter)) := by
  constructor
  · intro log r key asks called
    obtain ⟨-, rfl⟩ := asks_request.mp asks
    cases called
  · intro log counter' asks
    obtain ⟨rfl, ⟨⟩⟩ := asks_request.mp asks
    rwa [List.append_nil]
  · intro log e key refusal asks called
    rw [(asks_request.mp asks).2] at called
    cases called
  · intro log r key asks called
    obtain ⟨-, rfl⟩ := asks_request.mp asks
    cases called

theorem accounts_promotion {v : Value} {logger : String} {notice : Notice} :
    Accounts controller .promote canary past (do
      update controller.kind v "promote"
      request (.count (.promoted controller.kind.name))
      request (.note logger notice)) := by
  refine (accounts_update : Accounts _ .promote _ _ _).bind fun _ _ updated => ?_
  obtain ⟨name, body, -, -, rfl⟩ := ends_update.mp updated
  refine (accounts_count (.promoted (List.mem_append_right _
    (List.mem_singleton_self (replaceExchange _ name body _))))).bind fun _ _ _ => ?_
  exact .of_avoids (avoids_request Bool.false_ne_true)

/-! ## Existence checks -/

theorem object_ne_target (derived : object ∈ controller.derivedObjects canary) :
    object ≠ canary.targetObject := by
  rintro rfl
  exact not_same_targetKey derived (ObjectKey.same_self _)

theorem unread_of_target_read {v : Value} (derived : object ∈ controller.derivedObjects canary)
    (reply : Except CallFailure Value) : readExchange controller.kind object reply ∉
      [readExchange controller.kind canary.targetObject (.ok v)] := by
  intro mem
  have same := congrArg Exchange.request (List.mem_singleton.mp mem)
  exact object_ne_target derived (Request.readObject.inj same).2

theorem not_checksExistence_target :
    ¬ ChecksExistence controller operation canary past
      (.readObject controller.kind canary.targetObject) := by
  rintro ⟨-, _, derived, same, -⟩
  exact object_ne_target derived (Request.readObject.inj same).2.symm

theorem not_checksExistence_of_mem {reply : Except CallFailure Value}
    (mem : readExchange controller.kind object reply ∈ past) :
    ¬ ChecksExistence controller operation canary past
      (.readObject controller.kind object) := by
  rintro ⟨-, _, -, ⟨⟩, unread⟩
  exact unread reply mem

theorem not_checksExistence_of_ne (h : operation ≠ .establish) {r : Request} :
    ¬ ChecksExistence controller operation canary past r := fun check => h check.1

theorem accounts_fetch_target :
    Accounts controller operation canary past (fetch controller.kind canary.targetObject) :=
  accounts_fetch List.mem_cons_self not_checksExistence_target

theorem accounts_silent {p : Program Unit} (h : Accounts controller operation canary past p) :
    Accounts controller operation canary past (Controller.silent p) := h.bind fun _ _ _ => .pure _

/-! ## Operations of kinds with a pod template -/

namespace TemplateController

variable {c : TemplateController}

theorem checksExistence_primary {v : Value} :
    ChecksExistence (.template c) .establish canary
      [readExchange (.template c.kind) canary.targetObject (.ok v)]
      (.readObject (.template c.kind) (primaryObject canary)) := by
  refine ⟨rfl, _, mem_derivedObjects_primary, rfl, fun reply mem => ?_⟩
  have same := congrArg Exchange.request (List.mem_singleton.mp mem)
  obtain ⟨-, same⟩ := Request.readObject.inj same
  have derived : primaryObject canary ∈ (Controller.template c).derivedObjects canary :=
    mem_derivedObjects_primary
  exact object_ne_target derived same

theorem making_eq {target value : Value} {label : String}
    (paired : c.pairingLabel target = .ok (label, value)) :
    (Controller.template c).making canary target object =
      c.copyConfigs canary >>= fun refs =>
        c.primaryBody canary target label (primaryName value) refs := by
  rw [Controller.making, paired]
  rfl

theorem accounts_createPrimary :
    Accounts (.template c) .establish canary [] (c.createPrimary canary) := by
  refine accounts_fetch_target.bind fun log target fetched => ?_
  obtain ⟨v, rfl, manifest⟩ := ends_fetch.mp fetched
  refine .lift_bind fun _ _ => .lift_bind fun (label, value) paired => ?_
  have named {log : List Exchange} {refs : List ConfigRef} {body : Value}
      (made : Ends (c.primaryBody canary target label (primaryName value) refs) log (.ok body)) :
      Site.bodyName body = (primaryObject canary).name := by
    obtain ⟨-, _, _, -, own, -⟩ := ends_primaryBody made
    exact Site.bodyName_of_ownName own
  refine accounts_exists_bind checksExistence_primary (List.mem_singleton_self _) manifest ?_
    fun reply found => ?_
  · rw [making_eq paired]
    change CreatesFirst _ _ _ (c.copyConfigs canary >>= fun refs =>
      c.primaryBody canary target label (primaryName value) refs >>= fun body =>
        create (.template c.kind) (primaryObject canary) body >>= _)
    rw [← bind_assoc]
    refine createsFirst_making ?_ fun log body made => ?_
    · exact (avoids_copyConfigs nofun nofun).bind fun _ => avoids_primaryBody nofun nofun
    · obtain ⟨refs, _, _, -, -, made⟩ := ends_bind_ok.mp made
      exact named made
  · cases found with
    | true => exact .pure ()
    | false =>
      refine (Accounts.of_avoids (avoids_copyConfigs nofun nofun)).bind fun _ refs _ => ?_
      refine (Accounts.of_avoids (avoids_primaryBody nofun nofun)).bind fun _ body made => ?_
      refine (accounts_create mem_derivedObjects_primary (named made)).bind fun _ _ created => ?_
      obtain rfl := ends_create.mp created
      refine (accounts_count (.primaryCreated (named made) ?_)).bind fun _ _ _ => ?_
      · exact List.mem_append_right _ (List.mem_singleton_self _)
      · exact .of_avoids (avoids_request Bool.false_ne_true)

theorem read_of_createPrimary (h : Ends (c.createPrimary canary) log (.ok ())) :
    ∃ reply, readExchange (.template c.kind) (primaryObject canary) reply ∈ log := by
  unfold createPrimary at h
  obtain ⟨target, _, after, rfl, -, rest⟩ := ends_bind_ok.mp h
  obtain ⟨_, -, rest⟩ := ends_lift_bind.mp rest
  obtain ⟨_, -, rest⟩ := ends_lift_bind.mp rest
  obtain ⟨found, _, after, rfl, hf, -⟩ := ends_bind_ok.mp rest
  obtain ⟨reply, rfl, -⟩ := ends_exists.mp hf
  exact ⟨reply, by simp⟩

theorem accounts_checkRollout {check : ReadinessCheck} {workload : Value} :
    Accounts (.template c) operation canary past
      (c.checkRollout canary check object workload) := by
  refine .lift_bind fun status _ => ?_
  refine Accounts.bind (.of_avoids (avoids_request Bool.false_ne_true)) fun _ now _ => ?_
  refine .lift_bind fun readiness _ => ?_
  refine (accounts_count (.readinessChecked _)).bind fun _ _ _ => ?_
  exact .of_avoids (avoids_ite (avoids_pure _) (avoids_fail _))

theorem accounts_checkPrimary (plain : ¬ ChecksExistence (.template c) operation canary past
      (.readObject (.template c.kind) (primaryObject canary))) :
    Accounts (.template c) operation canary past (c.checkPrimary canary) := by
  refine (accounts_fetch (List.mem_cons_of_mem _ mem_derivedObjects_primary) plain).bind
    fun _ primary _ => ?_
  refine accounts_checkRollout.bind fun _ _ _ => .lift_bind fun replicas _ => ?_
  exact .of_avoids (avoids_ite (avoids_fail _) (avoids_pure _))

theorem accounts_scaleToZero (writing : operation.writing = "scale to zero") :
    Accounts (.template c) operation canary past (c.scaleToZero canary) := by
  refine accounts_fetch_target.bind fun _ target _ => .lift_bind fun podSpec _ => ?_
  refine .lift_bind fun down _ => ?_
  cases down with
  | true => exact .of_avoids ((avoids_request Bool.false_ne_true).bind fun _ => avoids_pure _)
  | false =>
    refine .lift_bind fun marked _ => .lift_bind fun changed _ => ?_
    refine (writing ▸ accounts_update).bind fun _ _ updated => ?_
    obtain ⟨name, body, -, -, rfl⟩ := ends_update.mp updated
    exact accounts_count (.scaled true (List.mem_append_right _ (List.mem_singleton_self _)))

theorem accounts_scaleFromZero (writing : operation.writing = "scale from zero") :
    Accounts (.template c) operation canary past (c.scaleFromZero canary) := by
  refine accounts_fetch_target.bind fun _ target _ => .lift_bind fun podSpec _ => ?_
  refine .lift_bind fun selector _ => .lift_bind fun marked _ => ?_
  cases marked with
  | false => exact .of_avoids ((avoids_request Bool.false_ne_true).bind fun _ => avoids_pure _)
  | true =>
    refine .lift_bind fun unmarked _ => .lift_bind fun changed _ => ?_
    refine (writing ▸ accounts_update).bind fun _ _ updated => ?_
    obtain ⟨name, body, -, -, rfl⟩ := ends_update.mp updated
    refine (accounts_count (.scaled false (List.mem_append_right _
      (List.mem_singleton_self (replaceExchange _ name body _))))).bind fun _ _ _ => ?_
    exact .of_avoids (avoids_request Bool.false_ne_true)

theorem accounts_establish :
    Accounts (.template c) .establish canary [] (c.establish canary) := by
  refine accounts_createPrimary.bind fun log _ created => ?_
  obtain ⟨reply, mem⟩ := read_of_createPrimary created
  have scaling (past : List Exchange) : Accounts (.template c) .establish canary past (do
      request (.note c.logger (.scalingDown c.kind.name canary.targetObject canary.key))
      c.scaleToZero canary) :=
    Accounts.bind (.of_avoids (avoids_request Bool.false_ne_true)) fun _ _ _ =>
      accounts_scaleToZero rfl
  split
  · exact .pure ()
  · split
    · have read : ¬ ChecksExistence (.template c) .establish canary log
          (.readObject (Controller.template c).kind (primaryObject canary)) :=
        not_checksExistence_of_mem mem
      exact (accounts_checkPrimary read).bind fun _ _ _ => scaling _
    · exact scaling _

theorem accounts_promote : Accounts (.template c) .promote canary [] (c.promote canary) := by
  refine accounts_fetch_target.bind fun _ target _ => .lift_bind fun paired _ => ?_
  refine (accounts_fetch (List.mem_cons_of_mem _ mem_derivedObjects_primary)
    (not_checksExistence_of_ne (by decide))).bind fun _ primary _ => ?_
  refine (Accounts.of_avoids (avoids_copyConfigs nofun nofun)).bind fun _ refs _ => ?_
  refine (Accounts.of_avoids (avoids_promoted nofun nofun)).bind fun _ body _ => ?_
  exact accounts_promotion

theorem accounts_call :
    Accounts (.template c) operation canary []
      (Controller.call (.template c) operation canary) := by
  cases operation with
  | establish => exact accounts_silent accounts_establish
  | promote => exact accounts_silent accounts_promote
  | hasTargetChanged =>
    refine Accounts.bind ?_ fun _ _ _ => .pure _
    refine accounts_fetch_target.bind fun _ target _ => .lift_bind fun spec _ => ?_
    refine .lift_bind fun template _ => .lift_bind fun fingerprint _ => .pure _
  | haveConfigsChanged =>
    refine .of_avoids (Avoids.bind ?_ fun _ => avoids_pure _)
    exact avoids_orFail (avoids_request Bool.false_ne_true)
  | pairing =>
    refine Accounts.bind ?_ fun _ _ _ => .pure _
    refine accounts_fetch_target.bind fun _ target _ => .lift_bind fun paired _ => ?_
    dsimp only
    split
    · exact .pure _
    · refine .lift_bind fun spec _ => .lift_bind fun template _ => .lift_bind fun podSpec _ => ?_
      exact .lift_bind fun containers _ => .lift_bind fun ports _ => .pure _
  | checkPrimary =>
    exact accounts_silent (accounts_checkPrimary (not_checksExistence_of_ne (by decide)))
  | checkTarget =>
    refine Accounts.bind ?_ fun _ _ _ => .pure _
    exact accounts_fetch_target.bind fun _ target _ => accounts_checkRollout
  | scaleToZero => exact accounts_silent (accounts_scaleToZero rfl)
  | scaleFromZero | finalize => exact accounts_silent (accounts_scaleFromZero rfl)

end TemplateController

/-! ## Operations of Services -/

namespace ServiceController

variable {c : ServiceController} {target : Value}

theorem named_of_derivedBody {body : Value} (h : c.derivedBody canary object target = .ok body) :
    Site.bodyName body = object.name := by
  obtain ⟨_, _, _, -, -, -, own, -⟩ := exists_spec_of_derivedBody h
  exact Site.bodyName_of_ownName own

theorem accounts_ensureDerived {v : Value}
    (derived : object ∈ (Controller.service c).derivedObjects canary)
    (unread : ∀ reply, readExchange .service object reply ∉ past)
    (read : readExchange .service canary.targetObject (.ok v) ∈ past)
    (manifest : v.toManifest = .ok target) :
    Accounts (.service c) .establish canary past (c.ensureDerived canary object target) := by
  have check : ChecksExistence (.service c) .establish canary past
      (.readObject (Controller.service c).kind object) := ⟨rfl, object, derived, rfl, unread⟩
  refine accounts_exists_bind check read manifest ?_ fun reply found => ?_
  · refine createsFirst_making (avoids_lift _) fun log body made => ?_
    exact named_of_derivedBody (ends_lift.mp made).2.symm
  · cases found with
    | true => exact .pure false
    | false =>
      refine .lift_bind fun body made => ?_
      refine (accounts_create derived (named_of_derivedBody made)).bind fun _ _ _ => ?_
      exact .of_avoids ((avoids_request Bool.false_ne_true).bind fun _ => avoids_pure _)

theorem created_of_ensureDerived (h : Ends (c.ensureDerived canary object target) log (.ok true)) :
    ∃ body, Site.bodyName body = object.name ∧
      createExchange .service object.space body (.ok ()) ∈ log := by
  unfold ensureDerived at h
  obtain ⟨found, _, after, rfl, -, missing⟩ := ends_bind_ok.mp h
  cases found with
  | true =>
    obtain ⟨-, ⟨⟩⟩ := ends_pure.mp missing
  | false =>
    obtain ⟨body, made, creating⟩ := ends_lift_bind.mp missing
    obtain ⟨_, _, after, rfl, created, -⟩ := ends_bind_ok.mp creating
    obtain rfl := ends_create.mp created
    exact ⟨body, named_of_derivedBody made, by simp⟩

theorem reads_ensureDerived {other : ObjectName} (ne : other ≠ object)
    {outcome : Except Failure Bool}
    (h : Ends (c.ensureDerived canary object target) log outcome)
    (reply : Except CallFailure Value) : readExchange .service other reply ∉ log := by
  have avoids : Avoids (· = .readObject .service other) (c.ensureDerived canary object target) := by
    refine (avoids_exists nofun fun same => ne ?_).bind fun found => ?_
    · exact (Request.readObject.inj same).2.symm
    · refine avoids_ite (avoids_pure _) ((avoids_lift _).bind fun body => ?_)
      refine (avoids_create nofun nofun).bind fun _ => ?_
      exact (avoids_request nofun).bind fun _ => avoids_pure _
  exact fun mem => avoids.of_mem h mem rfl

theorem accounts_establish :
    Accounts (.service c) .establish canary [] (c.establish canary) := by
  refine accounts_fetch_target.bind fun log target fetched => ?_
  obtain ⟨v, rfl, manifest⟩ := ends_fetch.mp fetched
  have canary_derived := canaryObject_mem_derivedObjects c canary
  have primary_derived := primaryObject_mem_derivedObjects c canary
  refine (accounts_ensureDerived canary_derived (unread_of_target_read canary_derived)
    (List.mem_singleton_self _) manifest).bind fun first _ ensured => ?_
  refine (accounts_ensureDerived primary_derived (fun reply mem => ?_)
    (List.mem_append_left _ (List.mem_singleton_self _)) manifest).bind
      fun second created made => ?_
  · obtain mem | mem := List.mem_append.mp mem
    · exact unread_of_target_read primary_derived reply mem
    · refine reads_ensureDerived (fun same => ?_) ensured reply mem
      exact canaryObject_ne (congrArg ObjectName.standard same.symm)
  · cases created with
    | false => exact .pure ()
    | true =>
      obtain ⟨body, named, mem⟩ := created_of_ensureDerived made
      exact accounts_count (.primaryCreated named (List.mem_append_right _ mem))

theorem accounts_promote : Accounts (.service c) .promote canary [] (c.promote canary) := by
  refine accounts_fetch_target.bind fun _ target _ => ?_
  refine (accounts_fetch (List.mem_cons_of_mem _ mem_derivedObjects_primary)
    (not_checksExistence_of_ne (by decide))).bind fun _ primary _ => ?_
  refine .lift_bind fun body _ => ?_
  exact accounts_promotion

theorem accounts_call :
    Accounts (.service c) operation canary [] (Controller.call (.service c) operation canary) := by
  cases operation with
  | establish => exact accounts_silent accounts_establish
  | promote => exact accounts_silent accounts_promote
  | hasTargetChanged =>
    refine Accounts.bind ?_ fun _ _ _ => .pure _
    refine accounts_fetch_target.bind fun _ target _ => .lift_bind fun spec _ => ?_
    exact .lift_bind fun fingerprint _ => .pure _
  | _ => exact .pure _

end ServiceController

/-! ## All calls -/

/-- Every operation accounts for all that it asks. -/
theorem Controller.accounts (controller : Controller) (operation : Operation) (canary : Canary) :
    Accounts controller operation canary [] (controller.call operation canary) := by
  cases controller with
  | template c => exact TemplateController.accounts_call
  | service c => exact ServiceController.accounts_call

/-- An error says what a refused call was made for, which object it was about and what the server
answered; another try may help. -/
structure Translates (error : WorkloadError) (action : String) (object : ObjectName)
    (refusal : Refusal) : Prop where
  category : error.category =
    if refusal.status.alike (.int 404) then .notFound
    else if refusal.status.alike (.int 409) then .conflict
    else .api
  retryable : error.retryable = true
  status : error.status = refusal.status
  object : error.object? = some object
  operation : error.operation = action
  cause : error.cause? = some refusal

/-- After some exchanges all that a program still asks is to count a refusal, and then it fails with
the error that the refusal is translated to. -/
structure Surfaces (p : Program α) (log : List Exchange) (kind : String) (action : String)
    (object : ObjectName) (refusal : Refusal) : Prop where
  asks : ∀ more r, Asks p (log ++ more) r ↔
    more = [] ∧ r = .count (.refused kind refusal.status.display)
  ends : ∃ error, Translates error action object refusal ∧ ∀ more outcome,
    Ends p (log ++ more) outcome ↔
      more = [⟨.count (.refused kind refusal.status.display), ()⟩] ∧
        outcome = .error (.workload error)

theorem translates_refused (action kind : String) (object : ObjectName) (refusal : Refusal) :
    Translates (.refused ⟨action, kind, object, refusal.status, refusal.reason⟩) action object
      refusal where
  category := rfl
  retryable := by
    simp only [WorkloadError.retryable, WorkloadError.category, RefusedCall.category]
    split
    · rfl
    · split <;> rfl
  status := rfl
  object := rfl
  operation := rfl
  cause := rfl

theorem surfaces_of_leaves {kind : Kind} {action : String} {refusal : Refusal}
    (h : Leaves p log (refuse action kind object refusal)) :
    Surfaces p log kind.name action object refusal := by
  constructor
  · intro more r
    rw [h.asks_iff]
    constructor
    · intro asks
      obtain now | ⟨_, _, after, rfl, -, rest⟩ := asks_bind.mp asks
      · exact asks_request.mp now
      · exact absurd rest asks_fail
    · rintro ⟨rfl, rfl⟩
      exact .now _ _
  · refine ⟨_, translates_refused action kind.name object refusal, fun more outcome => ?_⟩
    rw [h.ends_iff]
    constructor
    · intro ends
      obtain ⟨_, rest, rfl, ended⟩ := ends_ask.mp ends
      obtain ⟨rfl, rfl⟩ := ends_fail.mp ended
      exact ⟨rfl, rfl⟩
    · rintro ⟨rfl, rfl⟩
      exact .later (.fail _)

/-- What was counted before something is asked are no refusals, and each increment was earned. -/
theorem Controller.counted_before {r : Request} {counter : Counter}
    (asks : Asks (controller.call operation canary) log r)
    (mem : ⟨.count counter, ()⟩ ∈ log) :
    (∀ kind status, counter ≠ .refused kind status) ∧ ∃ earlier, earlier <+: log ∧
      counter.Earned controller.kind (TemplateController.primaryObject canary) earlier := by
  obtain ⟨before, after, rfl⟩ := List.append_of_mem mem
  have counting : Asks (controller.call operation canary) before (.count counter) := asks.earlier
  have earned := (controller.accounts operation canary).earned before counter counting
  refine ⟨?_, before, List.prefix_append _ _, earned⟩
  rintro kind status rfl
  cases earned with
  | @refused front e refusal last turned =>
    obtain rfl : before = front ++ [e] := last
    rw [List.append_assoc] at asks
    have accounts := controller.accounts operation canary
    have asked : Asks (controller.call operation canary) front e.request := asks.earlier
    obtain ⟨key, here⟩ := exists_key_of_refusal? turned
    by_cases missing : refusal.status.alike (.int 404) = true ∧
        ChecksExistence controller operation canary front e.request
    · -- an object that is missing is created before anything is counted
      obtain ⟨_, _, q, -, -, creates, leaves⟩ :=
        accounts.missing front e.request key asked here missing.2
      obtain ⟨-, object, -, same, -⟩ := missing.2
      obtain ⟨request, reply⟩ := e
      obtain rfl : request = _ := same
      obtain rfl := refusal?_read.mp turned
      obtain rfl := Option.some.inj here
      rw [← List.append_nil (front ++ _)] at counting
      have first := (leaves refusal missing.1).asks_iff.mp counting
      obtain ⟨_, -, ⟨⟩⟩ := (creates.creates [] _ (List.forall_mem_nil _) rfl).mp first
    · have surfaces := surfaces_of_leaves (accounts.refused front e key refusal asked here turned
        missing)
      have nothing := (surfaces.asks _ r).mp (by simpa using asks)
      cases nothing.1

/-- A call that the server refuses ends its operation. Unless it is the answer 404 to an existence
check, which leads to the creation, nothing but the count of the refusal is asked any more, no
increment was made before that had not been earned, and the operation fails with the error that
says what was refused. -/
theorem refused_calls_surface {e : Exchange} {refusal : Refusal}
    (asks : Asks (controller.call operation canary) log e.request)
    (called : e.request.key? = some key) (turned : e.refusal? = some refusal) :
    key.kind = controller.kind.name ∧
    (key.object ∈ canary.targetObject :: controller.derivedObjects canary ∨
      ∃ body, e.request = .replaceObject controller.kind key.object body) ∧
    (∀ counter, ⟨.count counter, ()⟩ ∈ log → (∀ kind status, counter ≠ .refused kind status) ∧
      ∃ earlier, earlier <+: log ∧
        counter.Earned controller.kind (TemplateController.primaryObject canary) earlier) ∧
    (refusal.status.alike (.int 404) = true ∧
        ChecksExistence controller operation canary log e.request →
      TakenForMissing controller canary [] (controller.call operation canary) log key.object) ∧
    (¬ (refusal.status.alike (.int 404) = true ∧
        ChecksExistence controller operation canary log e.request) →
      Surfaces (controller.call operation canary) (log ++ [e]) controller.kind.name
        (e.request.action operation.writing) key.object refusal) := by
  -- each operation accounts for all its requests; the parts below are read off its account
  have accounts := controller.accounts operation canary
  obtain ⟨kind, known⟩ := accounts.located log e.request key asks called
  refine ⟨kind, known, fun counter mem => ?_, fun missing => ?_, fun fatal => ?_⟩
  · exact Controller.counted_before asks mem
  · exact accounts.missing log e.request key asks called missing.2
  · exact surfaces_of_leaves (accounts.refused log e key refusal asks called turned fatal)

/-- What a promotion of the Deployment `web` exchanges before it writes. -/
def samplePromotion : List Exchange :=
  let podSpec : Value := .object [("nodeSelector", .object [("disk", .text "ssd")])]
  [readExchange (.template .deployment) sampleCanary.targetObject (.ok sampleUnscaled),
    readExchange (.template .deployment) (TemplateController.primaryObject sampleCanary)
      (.ok (.object (sampleDeployment "web-primary" "2" []))),
    ⟨.targetConfigs sampleCanary, .ok []⟩, ⟨.copyConfigs sampleCanary [] [], .ok ()⟩,
    ⟨.redirectConfigs podSpec [], .ok podSpec⟩, ⟨.drawId, "0"⟩]

/-- A promotion that somebody else's write comes before fails with a conflict about the primary. -/
theorem samplePromotion_surfaces :
    ∃ body, Surfaces ((Controller.template sampleController).call .promote sampleCanary)
      (samplePromotion ++ [replaceExchange (.template .deployment)
        (TemplateController.primaryObject sampleCanary) body (.error (.refused Server.conflict))])
      "Deployment" "promote" (TemplateController.primaryObject sampleCanary) Server.conflict := by
  obtain ⟨body, asks⟩ : ∃ body, Asks
      ((Controller.template sampleController).call .promote sampleCanary) samplePromotion
      (.replaceObject (.template .deployment) (TemplateController.primaryObject sampleCanary)
        body) :=
    ⟨_, .later (.later (.later (.later (.later (.later (.now _ _))))))⟩
  have surfaces := refused_calls_surface
    (e := replaceExchange _ _ body (.error (.refused Server.conflict))) asks rfl rfl
  refine ⟨body, surfaces.2.2.2.2 fun missing => ?_⟩
  exact not_checksExistence_of_ne (by decide) missing.2

end CanaryRelease
