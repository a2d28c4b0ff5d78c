import CanaryRelease.Proofs.Refusals

/-!
# Calls keep to their canary

A call asks the API server about the target, the primary and the canary object of its canary and
about nothing else (`Call.confined`). For what it reads and creates that follows from the canary
alone. What it writes back is located by the object's own metadata, so there it takes that the
object was stored under its own name when it was read (`Genuine`); the call keeps it so.

`Confined` says this of a program step by step, for all replies that may come: what comes after a
reply is confined like the whole.
-/

namespace CanaryRelease

open Program Workload Value

/-- A key leads to the same place as one of some keys. -/
def Covers (keys : List ObjectKey) (key : ObjectKey) : Prop := ∃ k ∈ keys, key.Same k

instance (keys : List ObjectKey) (key : ObjectKey) : Decidable (Covers keys key) :=
  inferInstanceAs (Decidable (∃ k ∈ keys, key.Same k))

theorem Covers.congr {keys : List ObjectKey} {key other : ObjectKey} (h : Covers keys key)
    (same : other.Same key) : Covers keys other := by
  obtain ⟨k, mem, here⟩ := h
  exact ⟨k, mem, same.trans here⟩

theorem NamedLike.congr {key other : ObjectKey} {v : Value} (h : NamedLike key v)
    (same : key.Same other) : NamedLike other v :=
  fun manifest name hm own => (h manifest name hm own).trans same.2

theorem Request.key?_of_change? {r : Request} {key : ObjectKey} {body : Value}
    (h : r.change? = some (key, body)) : r.key? = some key := by
  cases r with
  | createObject | replaceObject => exact congrArg (Option.map Prod.fst) h
  | _ => cases h

/-! ## Confined programs -/

/-- If an exchange read the object at `source`, the object names itself like its key. -/
def Genuine (source : ObjectKey) (e : Exchange) : Prop :=
  ∀ kind object v, e = readExchange kind object (.ok v) →
    ObjectKey.Same ⟨kind.name, object⟩ source → NamedLike source v

/-- A request is about the objects at some keys, and it leaves the object at `source` named like its
key if it changes it. -/
structure Request.Within (keys : List ObjectKey) (source : ObjectKey) (r : Request) : Prop where
  covers : ∀ key, r.key? = some key → Covers keys key
  named : ∀ key body kept, r.change? = some (key, body) → key.Same source →
    SameApart serverPlaces body kept → NamedLike source kept

/-- A program all of whose requests are within some keys, as long as what it reads is genuine. -/
inductive Confined {α : Type} (keys : List ObjectKey) (source : ObjectKey) : Program α → Prop
  | done (answer : α) : Confined keys source (.done answer)
  | fail (failure : Failure) : Confined keys source (.fail failure)
  | ask {request : Request} {next : request.Reply → Program α}
      (within : request.Within keys source)
      (rest : ∀ reply, Genuine source ⟨request, reply⟩ → Confined keys source (next reply)) :
      Confined keys source (.ask request next)

theorem confined_of_asks {α : Type} {keys : List ObjectKey} {source : ObjectKey} {p : Program α}
    (within : ∀ log r, (∀ e ∈ log, Genuine source e) → Asks p log r → r.Within keys source) :
    Confined keys source p := by
  induction p with
  | done answer => exact .done answer
  | fail failure => exact .fail failure
  | ask request next ih =>
    refine .ask (within [] request (List.forall_mem_nil _) (.now request next)) ?_
    refine fun reply genuine => ih reply fun log r all asks => ?_
    exact within (⟨request, reply⟩ :: log) r (List.forall_mem_cons.mpr ⟨genuine, all⟩)
      (.later asks)

/-! ## Calls -/

namespace Call

variable {call : Call} {log : List Exchange} {r : Request} {key : ObjectKey}

/-- The keys of the objects that belong to a call's canary: its target, the primary and the canary
object, all of the call's kind. -/
def keys (call : Call) : List ObjectKey :=
  [call.canary.targetObject, TemplateController.primaryObject call.canary,
    ServiceController.canaryObject call.canary].map fun object =>
      ⟨call.controller.kind.name, object⟩

/-- The key of the object that a call may write back: a promotion the primary, any other operation
the target. -/
def source (call : Call) : ObjectKey :=
  if call.operation = .promote then
    ⟨call.controller.kind.name, TemplateController.primaryObject call.canary⟩
  else ⟨call.controller.kind.name, call.canary.targetObject⟩

theorem source_of_promote (h : call.operation = .promote) :
    call.source = ⟨call.controller.kind.name, TemplateController.primaryObject call.canary⟩ :=
  if_pos h

theorem source_of_ne (h : call.operation ≠ .promote) :
    call.source = ⟨call.controller.kind.name, call.canary.targetObject⟩ := if_neg h

theorem covers_source (call : Call) : Covers call.keys call.source := by
  unfold source
  split
  · exact ⟨_, List.mem_cons_of_mem _ List.mem_cons_self, ObjectKey.same_self _⟩
  · exact ⟨_, List.mem_cons_self, ObjectKey.same_self _⟩

theorem covers_of_mem {object : ObjectName}
    (h : object ∈ call.canary.targetObject :: call.controller.derivedObjects call.canary) :
    Covers call.keys ⟨call.controller.kind.name, object⟩ := by
  refine ⟨_, List.mem_map_of_mem ?_, ObjectKey.same_self _⟩
  rcases List.mem_cons.mp h with rfl | derived
  · exact List.mem_cons_self
  · rcases call with ⟨c | c, operation, canary⟩
    · obtain rfl := List.mem_singleton.mp derived
      exact List.mem_cons_of_mem _ List.mem_cons_self
    · exact List.mem_cons_of_mem _ derived

theorem same_source_of_read {seen object : ObjectName} {v manifest : Value}
    (genuine : ∀ e ∈ log, Genuine call.source e)
    (read : readExchange call.controller.kind seen (.ok v) ∈ log)
    (here : call.source = ⟨call.controller.kind.name, seen⟩)
    (hm : v.toManifest = .ok manifest) (own : ownName manifest = .ok object) :
    ObjectKey.Same ⟨call.controller.kind.name, object⟩ call.source := by
  have like := genuine _ read _ _ _ rfl (here ▸ ObjectKey.same_self _)
  rw [here] at like ⊢
  exact ⟨rfl, like _ _ hm own⟩

theorem same_source_of_replaced {kind : Kind} {object : ObjectName} {body : Value}
    (genuine : ∀ e ∈ log, Genuine call.source e)
    (asks : Asks call.program log (.replaceObject kind object body)) :
    ObjectKey.Same ⟨call.controller.kind.name, object⟩ call.source := by
  have writes := Controller.writes_call (r := .replaceObject kind object body) ⟨asks, rfl⟩
  cases writes with
  | promotes promoting read manifest own =>
    exact same_source_of_read genuine read (source_of_promote promoting) manifest own
  | scales _ read manifest own _ direction =>
    have scaling : call.operation ≠ .promote := by
      rintro promoting
      simp [promoting] at direction
    exact same_source_of_read genuine read (source_of_ne scaling) manifest own

theorem not_same_source_of_created {kind : Kind} {space body : Value}
    (asks : Asks call.program log (.createObject kind space body)) :
    ¬ ObjectKey.Same ⟨kind.name, ⟨Site.bodyName body, space⟩⟩ call.source := by
  have writes := Controller.writes_call (r := .createObject kind space body) ⟨asks, rfl⟩
  cases writes with
  | @creates object _ establishing derived own =>
    have mem : object ∈ call.controller.derivedObjects call.canary := by
      rcases call with ⟨c | c, operation, canary⟩
      · obtain rfl | ⟨⟨⟩, -⟩ := derived
        exact List.mem_singleton_self _
      · obtain rfl | ⟨-, rfl⟩ := derived
        · exact List.mem_cons_self
        · exact List.mem_cons_of_mem _ (List.mem_singleton_self _)
    have here : (⟨Site.bodyName body, call.canary.space⟩ : ObjectName) = object := by
      rw [Site.bodyName_of_ownName own, ← space_of_derivedObjects mem]
    rw [here, source_of_ne (by rw [establishing]; decide)]
    exact not_same_targetKey mem

theorem within (genuine : ∀ e ∈ log, Genuine call.source e)
    (asks : Asks call.program log r) : r.Within call.keys call.source := by
  constructor
  · rintro ⟨_, object⟩ called
    obtain ⟨rfl, mem | ⟨body, rfl⟩⟩ :=
      (call.controller.accounts call.operation call.canary).located log r _ asks called
    · exact covers_of_mem mem
    · exact call.covers_source.congr (same_source_of_replaced genuine asks)
  · intro key body kept change here same
    cases r with
    | createObject kind space body =>
      obtain ⟨rfl, rfl⟩ := Prod.mk.inj (Option.some.inj change)
      exact absurd here (not_same_source_of_created asks)
    | replaceObject kind object body =>
      obtain ⟨rfl, rfl⟩ := Prod.mk.inj (Option.some.inj change)
      exact (namedLike_of_replaced asks same).congr here
    | _ => cases change

/-- Every call keeps to the objects of its canary. -/
theorem confined (call : Call) : Confined call.keys call.source call.program :=
  confined_of_asks fun _ _ genuine asks => within genuine asks

end Call

end CanaryRelease
