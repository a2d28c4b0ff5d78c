import CanaryRelease.Request

/-!
# Programs

A controller operation is a program: it ends with an answer or a failure, or asks a request and
goes on with the reply. What the surroundings do is up to `Program.run`, which takes them as a
function from requests and a state to replies; between two requests they may do anything.
`run_bind` says that a sequence of programs runs one after the other in the state that the first
one leaves.
-/

namespace CanaryRelease

/-- A computation that asks requests and ends with an answer or a failure. -/
inductive Program (α : Type) : Type where
  | done (answer : α)
  | fail (failure : Failure)
  | ask (request : Request) (next : request.Reply → Program α)

/-- The surroundings of a program: they reply to each request and go on to another state. -/
abbrev Surroundings (σ : Type) := (request : Request) → σ → request.Reply × σ

namespace Program

variable {α β : Type}

/-- A program continued with its answer. -/
def bind : Program α → (α → Program β) → Program β
  | done a, f => f a
  | fail e, _ => fail e
  | ask request next, f => ask request fun reply => bind (next reply) f

instance : Monad Program where
  pure := done
  bind := bind

/-- A request by itself. -/
def request (r : Request) : Program r.Reply := ask r done

/-- A computation without requests as a program. -/
def ofExcept : Except Failure α → Program α
  | .ok a => done a
  | .error e => fail e

instance : MonadLift (Except Failure) Program := ⟨ofExcept⟩

/-- A program whose answer may be a failure, ended by that failure. -/
def orFail (p : Program (Except Failure α)) : Program α := p.bind ofExcept

/-- Runs a program in its surroundings. -/
def run {σ : Type} (surroundings : Surroundings σ) : Program α → σ → Except Failure α × σ
  | done a, s => (.ok a, s)
  | fail e, s => (.error e, s)
  | ask request next, s =>
    let (reply, s) := surroundings request s
    run surroundings (next reply) s

theorem run_bind {σ : Type} (surroundings : Surroundings σ) (p : Program α) (f : α → Program β)
    (s : σ) :
    run surroundings (p.bind f) s =
      match run surroundings p s with
      | (.ok a, s) => run surroundings (f a) s
      | (.error e, s) => (.error e, s) := by
  induction p generalizing s with
  | done a => rfl
  | fail e => rfl
  | ask request next ih => exact ih _ _

instance : LawfulMonad Program :=
  LawfulMonad.mk' Program
    (fun p => by
      induction p with
      | done a => rfl
      | fail e => rfl
      | ask request next ih => exact congrArg (ask request) (funext ih))
    (fun _ _ => rfl)
    (fun p f g => by
      induction p with
      | done a => rfl
      | fail e => rfl
      | ask request next ih => exact congrArg (ask request) (funext ih))

end Program

end CanaryRelease
