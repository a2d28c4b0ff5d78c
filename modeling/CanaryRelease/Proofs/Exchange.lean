import CanaryRelease.Program

/-!
# Exchanges

A program is watched through its exchanges: the requests that it asks and the replies that it gets.
`Asks p log r` says that after the exchanges in `log` the program `p` asks `r`; `Ends p log outcome`
says that after them it has ended. Both leave every reply open, so a statement about all logs is one
about all surroundings.

`asks_bind` and `ends_bind` split the log of a sequence where its first part ends. They are stated
as equivalences: the lemmas about an operation are read off its steps by rewriting.
-/

namespace CanaryRelease

/-- A request and the reply to it. -/
structure Exchange where
  request : Request
  reply : request.Reply

namespace Request

/-- Whether a request is to change an object. -/
def isWrite : Request → Bool
  | createObject .. | replaceObject .. => true
  | _ => false

end Request

namespace Program

variable {α β : Type}

/-- After the exchanges of a log, a program asks a request. -/
inductive Asks : Program α → List Exchange → Request → Prop where
  | now (request : Request) (next : request.Reply → Program α) : Asks (ask request next) [] request
  | later {request : Request} {next : request.Reply → Program α} {reply : request.Reply}
      {log : List Exchange} {r : Request} (rest : Asks (next reply) log r) :
      Asks (ask request next) (⟨request, reply⟩ :: log) r

/-- After the exchanges of a log, a program has ended. -/
inductive Ends : Program α → List Exchange → Except Failure α → Prop where
  | done (answer : α) : Ends (done answer) [] (.ok answer)
  | fail (failure : Failure) : Ends (fail failure) [] (.error failure)
  | later {request : Request} {next : request.Reply → Program α} {reply : request.Reply}
      {log : List Exchange} {outcome : Except Failure α} (rest : Ends (next reply) log outcome) :
      Ends (ask request next) (⟨request, reply⟩ :: log) outcome

/-! ## Single steps -/

@[simp] theorem asks_done {a : α} {log : List Exchange} {r : Request} :
    ¬ Asks (done a) log r := nofun

@[simp] theorem asks_fail {e : Failure} {log : List Exchange} {r : Request} :
    ¬ Asks (fail e : Program α) log r := nofun

theorem asks_ask {request : Request} {next : request.Reply → Program α} {log : List Exchange}
    {r : Request} :
    Asks (ask request next) log r ↔
      (log = [] ∧ r = request) ∨
        ∃ reply rest, log = ⟨request, reply⟩ :: rest ∧ Asks (next reply) rest r := by
  constructor
  · intro h
    cases h with
    | now => exact .inl ⟨rfl, rfl⟩
    | later rest => exact .inr ⟨_, _, rfl, rest⟩
  · rintro (⟨rfl, rfl⟩ | ⟨reply, rest, rfl, h⟩)
    · exact .now _ _
    · exact .later h

@[simp] theorem ends_done {a : α} {log : List Exchange} {outcome : Except Failure α} :
    Ends (done a) log outcome ↔ log = [] ∧ outcome = .ok a := by
  constructor
  · intro h
    cases h
    exact ⟨rfl, rfl⟩
  · rintro ⟨rfl, rfl⟩
    exact .done a

@[simp] theorem ends_fail {e : Failure} {log : List Exchange} {outcome : Except Failure α} :
    Ends (fail e) log outcome ↔ log = [] ∧ outcome = .error e := by
  constructor
  · intro h
    cases h
    exact ⟨rfl, rfl⟩
  · rintro ⟨rfl, rfl⟩
    exact .fail e

theorem ends_ask {request : Request} {next : request.Reply → Program α} {log : List Exchange}
    {outcome : Except Failure α} :
    Ends (ask request next) log outcome ↔
      ∃ reply rest, log = ⟨request, reply⟩ :: rest ∧ Ends (next reply) rest outcome := by
  constructor
  · intro h
    cases h with
    | later rest => exact ⟨_, _, rfl, rest⟩
  · rintro ⟨reply, rest, rfl, h⟩
    exact .later h

theorem Ends.asks {p : Program α} {before after : List Exchange} {e : Exchange}
    {outcome : Except Failure α} (h : Ends p (before ++ e :: after) outcome) :
    Asks p before e.request := by
  induction before generalizing p with
  | nil =>
    cases h with
    | later rest => exact .now _ _
  | cons first before ih =>
    cases h with
    | later rest => exact .later (ih rest)

/-! ## Sequences -/

theorem ends_bind {p : Program α} {f : α → Program β} {log : List Exchange}
    {outcome : Except Failure β} :
    Ends (p >>= f) log outcome ↔
      (∃ e, Ends p log (.error e) ∧ outcome = .error e) ∨
        ∃ a before after, log = before ++ after ∧ Ends p before (.ok a) ∧
          Ends (f a) after outcome := by
  induction p generalizing log with
  | done a =>
    change Ends (f a) log outcome ↔ _
    constructor
    · intro h
      exact .inr ⟨a, [], log, rfl, .done a, h⟩
    · rintro (⟨e, he, -⟩ | ⟨_, _, after, rfl, hp, hf⟩)
      · cases he
      · cases hp
        exact hf
  | fail e =>
    change Ends (fail e) log outcome ↔ _
    constructor
    · intro h
      cases h
      exact .inl ⟨e, .fail e, rfl⟩
    · rintro (⟨e, he, rfl⟩ | ⟨_, _, _, rfl, hp, -⟩)
      · cases he
        exact .fail e
      · cases hp
  | ask request next ih =>
    change Ends (ask request fun reply => next reply >>= f) log outcome ↔ _
    simp only [ends_ask, ih]
    constructor
    · rintro ⟨reply, rest, rfl, ⟨e, he, rfl⟩ | ⟨a, before, after, rfl, hp, hf⟩⟩
      · exact .inl ⟨e, ⟨reply, rest, rfl, he⟩, rfl⟩
      · exact .inr ⟨a, _ :: before, after, rfl, ⟨reply, before, rfl, hp⟩, hf⟩
    · rintro (⟨e, ⟨reply, rest, rfl, he⟩, rfl⟩ | ⟨a, _, after, rfl, ⟨reply, before, rfl, hp⟩, hf⟩)
      · exact ⟨reply, rest, rfl, .inl ⟨e, he, rfl⟩⟩
      · exact ⟨reply, before ++ after, rfl, .inr ⟨a, before, after, rfl, hp, hf⟩⟩

theorem asks_bind {p : Program α} {f : α → Program β} {log : List Exchange} {r : Request} :
    Asks (p >>= f) log r ↔
      Asks p log r ∨
        ∃ a before after, log = before ++ after ∧ Ends p before (.ok a) ∧ Asks (f a) after r := by
  induction p generalizing log with
  | done a =>
    change Asks (f a) log r ↔ _
    constructor
    · intro h
      exact .inr ⟨a, [], log, rfl, .done a, h⟩
    · rintro (hp | ⟨_, _, after, rfl, hp, hf⟩)
      · cases hp
      · cases hp
        exact hf
  | fail e =>
    change Asks (fail e) log r ↔ _
    constructor
    · intro h
      cases h
    · rintro (hp | ⟨_, _, _, rfl, hp, -⟩)
      · cases hp
      · cases hp
  | ask request next ih =>
    change Asks (ask request fun reply => next reply >>= f) log r ↔ _
    simp only [asks_ask, ends_ask, ih]
    constructor
    · rintro (⟨rfl, rfl⟩ | ⟨reply, rest, rfl, hp | ⟨a, before, after, rfl, hp, hf⟩⟩)
      · exact .inl (.inl ⟨rfl, rfl⟩)
      · exact .inl (.inr ⟨reply, rest, rfl, hp⟩)
      · exact .inr ⟨a, _ :: before, after, rfl, ⟨reply, before, rfl, hp⟩, hf⟩
    · rintro ((⟨rfl, rfl⟩ | ⟨reply, rest, rfl, hp⟩) |
        ⟨a, _, after, rfl, ⟨reply, before, rfl, hp⟩, hf⟩)
      · exact .inl ⟨rfl, rfl⟩
      · exact .inr ⟨reply, rest, rfl, .inl hp⟩
      · exact .inr ⟨reply, before ++ after, rfl, .inr ⟨a, before, after, rfl, hp, hf⟩⟩

theorem ends_bind_ok {p : Program α} {f : α → Program β} {log : List Exchange} {b : β} :
    Ends (p >>= f) log (.ok b) ↔
      ∃ a before after, log = before ++ after ∧ Ends p before (.ok a) ∧
        Ends (f a) after (.ok b) := by
  simp [ends_bind]

/-! ## Computations and requests as programs -/

@[simp] theorem ends_pure {a : α} {log : List Exchange} {outcome : Except Failure α} :
    Ends (pure a) log outcome ↔ log = [] ∧ outcome = .ok a := ends_done

@[simp] theorem asks_pure {a : α} {log : List Exchange} {r : Request} :
    ¬ Asks (pure a) log r := asks_done

@[simp] theorem ends_lift {x : Except Failure α} {log : List Exchange}
    {outcome : Except Failure α} :
    Ends (liftM x) log outcome ↔ log = [] ∧ outcome = x := by
  cases x with
  | ok a => exact ends_done
  | error e => exact ends_fail

@[simp] theorem asks_lift {x : Except Failure α} {log : List Exchange} {r : Request} :
    ¬ Asks (liftM x : Program α) log r := by
  cases x with
  | ok a => exact asks_done
  | error e => exact asks_fail

theorem asks_lift_bind {x : Except Failure α} {f : α → Program β} {log : List Exchange}
    {r : Request} :
    Asks (liftM x >>= f) log r ↔ ∃ a, x = .ok a ∧ Asks (f a) log r := by
  rw [asks_bind]
  constructor
  · rintro (h | ⟨a, _, after, rfl, hx, h⟩)
    · exact absurd h asks_lift
    · obtain ⟨rfl, rfl⟩ := ends_lift.mp hx
      exact ⟨a, rfl, h⟩
  · rintro ⟨a, rfl, h⟩
    exact .inr ⟨a, [], log, rfl, .done a, h⟩

theorem ends_lift_bind {x : Except Failure α} {f : α → Program β} {log : List Exchange} {b : β} :
    Ends (liftM x >>= f) log (.ok b) ↔ ∃ a, x = .ok a ∧ Ends (f a) log (.ok b) := by
  rw [ends_bind_ok]
  constructor
  · rintro ⟨a, _, after, rfl, hx, h⟩
    obtain ⟨rfl, rfl⟩ := ends_lift.mp hx
    exact ⟨a, rfl, h⟩
  · rintro ⟨a, rfl, h⟩
    exact ⟨a, [], log, rfl, .done a, h⟩

@[simp] theorem ends_request {r : Request} {log : List Exchange}
    {outcome : Except Failure r.Reply} :
    Ends (request r) log outcome ↔ ∃ reply, log = [⟨r, reply⟩] ∧ outcome = .ok reply := by
  simp only [request, ends_ask, ends_done]
  constructor
  · rintro ⟨reply, _, rfl, rfl, rfl⟩
    exact ⟨reply, rfl, rfl⟩
  · rintro ⟨reply, rfl, rfl⟩
    exact ⟨reply, [], rfl, rfl, rfl⟩

@[simp] theorem asks_request {r r' : Request} {log : List Exchange} :
    Asks (request r) log r' ↔ log = [] ∧ r' = r := by
  simp only [request, asks_ask, asks_done, and_false, exists_false, or_false]

theorem ends_orFail_ok {p : Program (Except Failure α)} {log : List Exchange} {a : α} :
    Ends p.orFail log (.ok a) ↔ Ends p log (.ok (.ok a)) := by
  change Ends (p >>= ofExcept) log (.ok a) ↔ _
  rw [ends_bind_ok]
  constructor
  · rintro ⟨x, before, after, rfl, hp, hx⟩
    obtain ⟨rfl, rfl⟩ := ends_lift.mp hx
    simpa using hp
  · intro hp
    exact ⟨.ok a, log, [], by simp, hp, .done a⟩

theorem asks_orFail {p : Program (Except Failure α)} {log : List Exchange} {r : Request} :
    Asks p.orFail log r ↔ Asks p log r := by
  change Asks (p >>= ofExcept) log r ↔ _
  rw [asks_bind]
  constructor
  · rintro (h | ⟨x, _, after, rfl, -, hx⟩)
    · exact h
    · exact absurd hx asks_lift
  · exact .inl

/-! ## Writes -/

/-- After the exchanges of a log, a program asks to change an object. -/
def Writes (p : Program α) (log : List Exchange) (r : Request) : Prop := Asks p log r ∧ r.isWrite

/-- A program that never asks to change an object. -/
def ReadOnly (p : Program α) : Prop := ∀ log r, ¬ Writes p log r

theorem writes_bind {p : Program α} {f : α → Program β} {log : List Exchange} {r : Request} :
    Writes (p >>= f) log r ↔
      Writes p log r ∨
        ∃ a before after, log = before ++ after ∧ Ends p before (.ok a) ∧ Writes (f a) after r := by
  simp only [Writes, asks_bind, or_and_right]
  constructor
  · rintro (h | ⟨⟨a, before, after, h⟩, hr⟩)
    · exact .inl h
    · exact .inr ⟨a, before, after, h.1, h.2.1, h.2.2, hr⟩
  · rintro (h | ⟨a, before, after, h1, h2, h3, hr⟩)
    · exact .inl h
    · exact .inr ⟨⟨a, before, after, h1, h2, h3⟩, hr⟩

theorem ReadOnly.writes_bind {p : Program α} (hp : ReadOnly p) {f : α → Program β}
    {log : List Exchange} {r : Request} :
    Writes (p >>= f) log r ↔
      ∃ a before after, log = before ++ after ∧ Ends p before (.ok a) ∧ Writes (f a) after r := by
  rw [Program.writes_bind]
  simp only [hp log r, false_or]

theorem ReadOnly.bind {p : Program α} (hp : ReadOnly p) {f : α → Program β}
    (hf : ∀ a, ReadOnly (f a)) : ReadOnly (p >>= f) := by
  intro log r h
  obtain ⟨a, before, after, -, -, h⟩ := hp.writes_bind.mp h
  exact hf a after r h

theorem readOnly_pure (a : α) : ReadOnly (pure a) := fun _ _ h => asks_pure h.1

theorem readOnly_fail (e : Failure) : ReadOnly (fail e : Program α) := fun _ _ h => asks_fail h.1

theorem readOnly_lift (x : Except Failure α) : ReadOnly (liftM x : Program α) :=
  fun _ _ h => asks_lift h.1

theorem readOnly_request {r : Request} (h : r.isWrite = false) : ReadOnly (request r) := by
  rintro log r' ⟨hr, hw⟩
  obtain ⟨-, rfl⟩ := asks_request.mp hr
  simp [h] at hw

theorem readOnly_orFail {p : Program (Except Failure α)} (hp : ReadOnly p) : ReadOnly p.orFail :=
  fun log r h => hp log r ⟨asks_orFail.mp h.1, h.2⟩

theorem readOnly_ite {c : Prop} [Decidable c] {p q : Program α} (hp : ReadOnly p)
    (hq : ReadOnly q) : ReadOnly (if c then p else q) := by
  split
  · exact hp
  · exact hq

theorem writes_lift_bind {x : Except Failure α} {f : α → Program β} {log : List Exchange}
    {r : Request} :
    Writes (liftM x >>= f) log r ↔ ∃ a, x = .ok a ∧ Writes (f a) log r := by
  simp only [Writes, asks_lift_bind, ← and_assoc, exists_and_right]

/-! ## Replacements -/

/-- A program that may create objects but replaces none. -/
def NeverReplaces (p : Program α) : Prop :=
  ∀ log kind object body, ¬ Asks p log (.replaceObject kind object body)

theorem ReadOnly.neverReplaces {p : Program α} (h : ReadOnly p) : NeverReplaces p :=
  fun log _ _ _ asks => h log _ ⟨asks, rfl⟩

theorem NeverReplaces.bind {p : Program α} (hp : NeverReplaces p) {f : α → Program β}
    (hf : ∀ a, NeverReplaces (f a)) : NeverReplaces (p >>= f) := by
  intro log kind object body asks
  obtain first | ⟨a, before, after, -, -, rest⟩ := asks_bind.mp asks
  · exact hp log kind object body first
  · exact hf a after kind object body rest

theorem neverReplaces_ite {c : Prop} [Decidable c] {p q : Program α} (hp : NeverReplaces p)
    (hq : NeverReplaces q) : NeverReplaces (if c then p else q) := by
  split
  · exact hp
  · exact hq

end Program

end CanaryRelease
