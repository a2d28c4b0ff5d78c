import CanaryRelease.Proofs.Exchange
import CanaryRelease.Proofs.Places
import CanaryRelease.Workload.Calls

/-!
# The exchanges of object calls

What reading, creating and writing back an object exchange with the surroundings: one call each,
and, if the call has no answer, at most the count of its refusal before the operation fails. The
body that an object is written back with is the object but for its version and kind, which are added
if it has none (`writtenBack_of_writeBody`).
-/

namespace CanaryRelease.Workload

open Program

variable {α : Type} {kind : Kind} {object : ObjectName} {log : List Exchange}

/-- The exchange in which an object is read. -/
abbrev readExchange (kind : Kind) (object : ObjectName) (reply : Except CallFailure Value) :
    Exchange := ⟨.readObject kind object, reply⟩

/-- The exchange in which an object is created. -/
abbrev createExchange (kind : Kind) (space body : Value) (reply : Except CallFailure Unit) :
    Exchange := ⟨.createObject kind space body, reply⟩

/-- The exchange in which an object is replaced. -/
abbrev replaceExchange (kind : Kind) (object : ObjectName) (body : Value)
    (reply : Except CallFailure Unit) : Exchange := ⟨.replaceObject kind object body, reply⟩

/-! ## Calls without an answer -/

theorem readOnly_giveUp (action : String) (kind : Kind) (object : ObjectName)
    (failure : CallFailure) : ReadOnly (giveUp action kind object failure : Program α) := by
  cases failure with
  | refused refusal => exact (readOnly_request rfl).bind fun _ => readOnly_fail _
  | broken failure => exact readOnly_fail failure

theorem not_ends_giveUp {action : String} {failure : CallFailure} {a : α} :
    ¬ Ends (giveUp action kind object failure) log (.ok a) := by
  cases failure with
  | refused refusal =>
    intro h
    obtain ⟨_, _, after, rfl, -, h⟩ := ends_bind_ok.mp h
    cases h
  | broken failure =>
    intro h
    cases h

theorem ends_giveUp_refused (action : String) (kind : Kind) (object : ObjectName)
    (refusal : Refusal) :
    let call : RefusedCall := ⟨action, kind.name, object, refusal.status, refusal.reason⟩
    Ends (giveUp action kind object (.refused refusal) : Program α) [⟨.count call.counter, ()⟩]
      (.error (.workload (.refused call))) :=
  .later (.fail _)

/-! ## Reading -/

theorem readOnly_fetch (kind : Kind) (object : ObjectName) : ReadOnly (fetch kind object) := by
  refine (readOnly_request rfl).bind fun reply => ?_
  cases reply with
  | error failure => exact readOnly_giveUp _ _ _ _
  | ok v =>
    dsimp only
    cases v.toManifest with
    | ok m => exact readOnly_pure m
    | error shape => exact readOnly_fail _

theorem ends_fetch {m : Value} :
    Ends (fetch kind object) log (.ok m) ↔
      ∃ v, log = [readExchange kind object (.ok v)] ∧ v.toManifest = .ok m := by
  unfold fetch
  rw [ends_bind_ok]
  constructor
  · rintro ⟨reply, _, after, rfl, hr, h⟩
    obtain ⟨_, rfl, ⟨⟩⟩ := ends_request.mp hr
    cases reply with
    | error failure => exact absurd h not_ends_giveUp
    | ok v =>
      dsimp only at h
      split at h
      · rename_i manifest hm
        obtain ⟨rfl, ⟨⟩⟩ := ends_pure.mp h
        exact ⟨v, rfl, hm⟩
      · cases h
  · rintro ⟨v, rfl, hm⟩
    refine ⟨.ok v, [_], [], rfl, ends_request.mpr ⟨_, rfl, rfl⟩, ?_⟩
    dsimp only
    rw [hm]
    exact .done m

theorem readOnly_exists (kind : Kind) (object : ObjectName) :
    ReadOnly («exists» kind object) := by
  refine (readOnly_request rfl).bind fun reply => ?_
  cases reply with
  | ok v => exact readOnly_pure true
  | error failure => exact readOnly_ite (readOnly_pure false) (readOnly_giveUp _ _ _ _)

theorem ends_exists {found : Bool} :
    Ends («exists» kind object) log (.ok found) ↔
      ∃ reply, log = [readExchange kind object reply] ∧
        if found then ∃ v, reply = .ok v else ∃ failure, reply = .error failure ∧
          failure.isNotFound = true := by
  unfold «exists»
  rw [ends_bind_ok]
  constructor
  · rintro ⟨reply, _, after, rfl, hr, h⟩
    obtain ⟨_, rfl, ⟨⟩⟩ := ends_request.mp hr
    cases reply with
    | ok v =>
      obtain ⟨rfl, ⟨⟩⟩ := ends_pure.mp h
      exact ⟨.ok v, rfl, v, rfl⟩
    | error failure =>
      dsimp only at h
      split at h
      · rename_i missing
        obtain ⟨rfl, ⟨⟩⟩ := ends_pure.mp h
        exact ⟨.error failure, rfl, failure, rfl, missing⟩
      · exact absurd h not_ends_giveUp
  · rintro ⟨reply, rfl, h⟩
    refine ⟨reply, [_], [], rfl, ends_request.mpr ⟨_, rfl, rfl⟩, ?_⟩
    cases found with
    | true =>
      obtain ⟨v, rfl⟩ := h
      exact .done true
    | false =>
      obtain ⟨failure, rfl, missing⟩ := h
      dsimp only
      rw [if_pos missing]
      exact .done false

/-! ## Writing -/

theorem writes_create {body : Value} {r : Request} :
    Writes (create kind object body) log r ↔
      log = [] ∧ r = .createObject kind object.space body := by
  unfold create
  rw [writes_bind]
  constructor
  · rintro (⟨h, -⟩ | ⟨reply, _, after, rfl, -, h⟩)
    · exact asks_request.mp h
    · cases reply with
      | ok u => exact absurd h (readOnly_pure _ _ _)
      | error failure => exact absurd h (readOnly_giveUp _ _ _ _ _ _)
  · rintro ⟨rfl, rfl⟩
    exact .inl ⟨asks_request.mpr ⟨rfl, rfl⟩, rfl⟩

theorem neverReplaces_create {body : Value} : NeverReplaces (create kind object body) := by
  intro log kind' object' body' asks
  obtain ⟨-, hr⟩ := writes_create.mp ⟨asks, rfl⟩
  cases hr

theorem ends_create {body : Value} :
    Ends (create kind object body) log (.ok ()) ↔
      log = [createExchange kind object.space body (.ok ())] := by
  unfold create
  rw [ends_bind_ok]
  constructor
  · rintro ⟨reply, _, after, rfl, hr, h⟩
    obtain ⟨_, rfl, ⟨⟩⟩ := ends_request.mp hr
    cases reply with
    | ok u =>
      obtain ⟨rfl, -⟩ := ends_pure.mp h
      rfl
    | error failure => exact absurd h not_ends_giveUp
  · rintro rfl
    exact ⟨.ok (), [_], [], rfl, ends_request.mpr ⟨_, rfl, rfl⟩, .done ()⟩

theorem writes_update {v : Value} {action : String} {r : Request} :
    Writes (update kind v action) log r ↔
      log = [] ∧ ∃ name body, ownName v = .ok name ∧ writeBody kind v = .ok body ∧
        r = .replaceObject kind name body := by
  unfold update
  rw [writes_lift_bind]
  constructor
  · rintro ⟨name, hn, h⟩
    obtain ⟨body, hb, h⟩ := writes_lift_bind.mp h
    obtain h | ⟨reply, _, after, rfl, -, h⟩ := writes_bind.mp h
    · obtain ⟨rfl, rfl⟩ := asks_request.mp h.1
      exact ⟨rfl, name, body, hn, hb, rfl⟩
    · cases reply with
      | ok u => exact absurd h (readOnly_pure _ _ _)
      | error failure => exact absurd h (readOnly_giveUp _ _ _ _ _ _)
  · rintro ⟨rfl, name, body, hn, hb, rfl⟩
    refine ⟨name, hn, writes_lift_bind.mpr ⟨body, hb, writes_bind.mpr (.inl ?_)⟩⟩
    exact ⟨asks_request.mpr ⟨rfl, rfl⟩, rfl⟩

theorem ends_update {v : Value} {action : String} :
    Ends (update kind v action) log (.ok ()) ↔
      ∃ name body, ownName v = .ok name ∧ writeBody kind v = .ok body ∧
        log = [replaceExchange kind name body (.ok ())] := by
  unfold update
  rw [ends_lift_bind]
  constructor
  · rintro ⟨name, hn, h⟩
    obtain ⟨body, hb, h⟩ := ends_lift_bind.mp h
    obtain ⟨reply, _, after, rfl, hr, ended⟩ := ends_bind_ok.mp h
    obtain ⟨_, rfl, ⟨⟩⟩ := ends_request.mp hr
    cases reply with
    | ok u =>
      obtain ⟨rfl, -⟩ := ends_pure.mp ended
      exact ⟨name, body, hn, hb, rfl⟩
    | error failure => exact absurd ended not_ends_giveUp
  · rintro ⟨name, body, hn, hb, rfl⟩
    refine ⟨name, hn, ends_lift_bind.mpr ⟨body, hb, ends_bind_ok.mpr ?_⟩⟩
    exact ⟨.ok (), [_], [], rfl, ends_request.mpr ⟨_, rfl, rfl⟩, .done ()⟩

/-! ## Refused replacements -/

/-- A program that counts every refusal of a replacement and fails with it. -/
def FailsOnRefusal (p : Program α) : Prop :=
  ∀ log kind object body, Asks p log (.replaceObject kind object body) →
    ∃ action, ∀ refusal : Refusal,
      let call : RefusedCall := ⟨action, kind.name, object, refusal.status, refusal.reason⟩
      Ends p (log ++ [replaceExchange kind object body (.error (.refused refusal)),
        ⟨.count call.counter, ()⟩]) (.error (.workload (.refused call)))

theorem failsOnRefusal_of_neverReplaces {p : Program α} (h : NeverReplaces p) :
    FailsOnRefusal p := fun log kind object body asks => absurd asks (h log kind object body)

theorem failsOnRefusal_of_readOnly {p : Program α} (h : ReadOnly p) : FailsOnRefusal p :=
  failsOnRefusal_of_neverReplaces h.neverReplaces

theorem FailsOnRefusal.bind {β : Type} {p : Program α} {f : α → Program β} (hp : FailsOnRefusal p)
    (hf : ∀ a, FailsOnRefusal (f a)) : FailsOnRefusal (p >>= f) := by
  intro log kind object body asks
  obtain first | ⟨a, before, after, rfl, ended, later⟩ := asks_bind.mp asks
  · obtain ⟨action, ends⟩ := hp log kind object body first
    exact ⟨action, fun refusal => ends_bind.mpr (.inl ⟨_, ends refusal, rfl⟩)⟩
  · obtain ⟨action, ends⟩ := hf a after kind object body later
    refine ⟨action, fun refusal => ends_bind.mpr (.inr ⟨a, before, _, ?_, ended, ends refusal⟩)⟩
    rw [List.append_assoc]

theorem failsOnRefusal_ite {c : Prop} [Decidable c] {p q : Program α} (hp : FailsOnRefusal p)
    (hq : FailsOnRefusal q) : FailsOnRefusal (if c then p else q) := by
  split
  · exact hp
  · exact hq

theorem failsOnRefusal_update {v : Value} {action : String} :
    FailsOnRefusal (update kind v action) := by
  refine (failsOnRefusal_of_readOnly (readOnly_lift _)).bind fun name => ?_
  refine (failsOnRefusal_of_readOnly (readOnly_lift _)).bind fun body => ?_
  intro log kind' object' body' asks
  obtain now | ⟨reply, _, after, rfl, -, rest⟩ := asks_bind.mp asks
  · obtain ⟨rfl, ⟨⟩⟩ := asks_request.mp now
    exact ⟨action, fun refusal => .later (ends_giveUp_refused action kind name refusal)⟩
  · cases reply with
    | ok u => exact absurd ⟨rest, rfl⟩ (readOnly_pure _ _ (.replaceObject kind' object' body'))
    | error failure =>
      exact absurd ⟨rest, rfl⟩ (readOnly_giveUp _ _ _ _ _ (.replaceObject kind' object' body'))

/-! ## Names and bodies -/

theorem ownName_eq_ok {v : Value} {name : ObjectName} :
    ownName v = .ok name ↔
      v.at? ["metadata", "name"] = some name.name ∧
        v.at? ["metadata", "namespace"] = some name.space := by
  unfold ownName
  simp only [Value.bind_eq_ok, Value.require_eq_ok]
  constructor
  · rintro ⟨_, ⟨fs, rfl, hm⟩, _, ⟨gs, rfl, hn⟩, _, ⟨_, ⟨⟩, hs⟩, ⟨⟩⟩
    simp [Value.at?_object, hm, hn, hs]
  · rintro ⟨hn, hs⟩
    obtain ⟨fs, metadata, rfl, hm, hn⟩ := Value.at?_text_eq_some.mp hn
    obtain ⟨gs, _, rfl, hname, ⟨⟩⟩ := Value.at?_text_eq_some.mp hn
    obtain ⟨_, _, ⟨⟩, hm', hs⟩ := Value.at?_text_eq_some.mp hs
    obtain rfl := Option.some.inj (hm.symm.trans hm')
    obtain ⟨_, _, ⟨⟩, hspace, ⟨⟩⟩ := Value.at?_text_eq_some.mp hs
    exact ⟨_, ⟨fs, rfl, hm⟩, _, ⟨gs, rfl, hname⟩, _, ⟨gs, rfl, hspace⟩, rfl⟩

theorem ownName_of_sameApart {places : List Path} {a b : Value} {name : ObjectName}
    (h : ownName b = .ok name) (same : Value.SameApart places a b)
    (apart : ∀ place ∈ places, Path.Apart ["metadata", "name"] place ∧
      Path.Apart ["metadata", "namespace"] place) : ownName a = .ok name := by
  rw [ownName_eq_ok] at h ⊢
  rw [← same _ fun place hp => (apart place hp).1, ← same _ fun place hp => (apart place hp).2]
  exact h

/-- `body` is what an object is written back with: the object with changes in some places alone,
and with its version and its kind added if it has none. -/
structure WrittenBack (kind : Kind) (places : List Path) (old body : Value) : Prop where
  same : Value.SameApart (["apiVersion"] :: ["kind"] :: places) old body
  apiVersion : body.at? ["apiVersion"] =
    some ((old.at? ["apiVersion"]).getD (.text kind.apiVersion))
  kind : body.at? ["kind"] = some ((old.at? ["kind"]).getD (.text kind.name))

theorem WrittenBack.of_sameApart {kind : Kind} {places more : List Path} {old body kept : Value}
    (h : WrittenBack kind places old body) (same : Value.SameApart more body kept)
    (apart : ∀ place ∈ more, Path.Apart ["apiVersion"] place ∧ Path.Apart ["kind"] place) :
    WrittenBack kind (places ++ more) old kept where
  same := h.same.append same
  apiVersion := (same _ fun place hp => (apart place hp).1).trans h.apiVersion
  kind := (same _ fun place hp => (apart place hp).2).trans h.kind

/-- A body carries the changes that were made to the object before it was written back. -/
theorem writtenBack_of_writeBody {places : List Path} {old v body : Value}
    (h : writeBody kind v = .ok body) (same : Value.SameApart places old v)
    (apart : ∀ place ∈ places, Path.Apart ["apiVersion"] place ∧ Path.Apart ["kind"] place) :
    WrittenBack kind places old body := by
  unfold writeBody at h
  simp only [Value.bind_eq_ok, Value.setDefault_eq_ok] at h
  obtain ⟨_, ⟨fs, rfl, rfl⟩, _, ⟨⟩, rfl⟩ := h
  have hv : (Value.object fs).at? ["apiVersion"] = old.at? ["apiVersion"] :=
    same _ fun place hp => (apart place hp).1
  have hk : (Value.object fs).at? ["kind"] = old.at? ["kind"] :=
    same _ fun place hp => (apart place hp).2
  constructor
  · have added := (Value.sameApart_setDefault fs "apiVersion" (.text kind.apiVersion)).append
      (Value.sameApart_setDefault _ "kind" (.text kind.name))
    refine (same.append added).mono fun place hp => ?_
    simp only [List.mem_append, List.mem_cons] at hp ⊢
    grind
  · rw [← hv, Value.at?_setDefault, if_neg (by decide), Value.at?_setDefault, if_pos rfl]
    simp
  · rw [← hk, Value.at?_setDefault, if_pos rfl]
    simp [Fields.get?_setDefault]

end CanaryRelease.Workload
