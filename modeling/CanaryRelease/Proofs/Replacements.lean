import CanaryRelease.Proofs.Promotion
import CanaryRelease.Proofs.ScaleDown

/-!
# What operations replace

Whatever an operation writes back is what it has read, changed in the operation's own places alone,
and if the server refuses it, the refusal is counted and the operation fails with it
(`Controller.call_replaces`).
-/

namespace CanaryRelease

open Program Workload

variable {canary : Canary}

/-- A program that replaces objects of a kind as it has read them, changed in some places. -/
def WritesBack (kind : Kind) (places : List Path) {α : Type} (p : Program α) : Prop :=
  ∀ log kind' object body, Asks p log (.replaceObject kind' object body) →
    kind' = kind ∧ ∃ before after source v manifest,
      log = before ++ readExchange kind source (.ok v) :: after ∧
      v.toManifest = .ok manifest ∧ ownName manifest = .ok object ∧
      WrittenBack kind places manifest body

section WritesBack

variable {kind : Kind} {places : List Path} {α β : Type} {p : Program α}

theorem writesBack_of_neverReplaces (h : NeverReplaces p) : WritesBack kind places p :=
  fun log kind object body asks => absurd asks (h log kind object body)

theorem writesBack_of_readOnly (h : ReadOnly p) : WritesBack kind places p :=
  writesBack_of_neverReplaces h.neverReplaces

theorem WritesBack.bind {f : α → Program β} (hp : WritesBack kind places p)
    (hf : ∀ a, WritesBack kind places (f a)) : WritesBack kind places (p >>= f) := by
  intro log kind' object body asks
  obtain first | ⟨a, earlier, later, rfl, -, rest⟩ := asks_bind.mp asks
  · exact hp log kind' object body first
  · obtain ⟨hk, before, after, source, v, manifest, rfl, hv, hn, written⟩ :=
      hf a later kind' object body rest
    exact ⟨hk, earlier ++ before, after, source, v, manifest, by simp, hv, hn, written⟩

theorem writesBack_ite {c : Prop} [Decidable c] {q : Program α} (hp : WritesBack kind places p)
    (hq : WritesBack kind places q) : WritesBack kind places (if c then p else q) := by
  split
  · exact hp
  · exact hq

end WritesBack

namespace TemplateController

variable {c : TemplateController}

theorem readOnly_checkTarget : ReadOnly (c.checkTarget canary) := by
  refine (readOnly_fetch _ _).bind fun _ => (readOnly_lift _).bind fun _ => ?_
  refine (readOnly_request rfl).bind fun _ => (readOnly_lift _).bind fun _ => ?_
  exact (readOnly_request rfl).bind fun _ => readOnly_ite (readOnly_pure _) (readOnly_fail _)

theorem readOnly_hasTargetChanged : ReadOnly (c.hasTargetChanged canary) := by
  refine (readOnly_fetch _ _).bind fun _ => (readOnly_lift _).bind fun _ => ?_
  exact (readOnly_lift _).bind fun _ => (readOnly_lift _).bind fun _ => readOnly_pure _

theorem readOnly_pairing : ReadOnly (c.pairing canary) := by
  refine (readOnly_fetch _ _).bind fun _ => (readOnly_lift _).bind fun _ => ?_
  refine readOnly_ite (readOnly_pure _) ?_
  refine (readOnly_lift _).bind fun _ => (readOnly_lift _).bind fun _ => ?_
  refine (readOnly_lift _).bind fun _ => (readOnly_lift _).bind fun _ => ?_
  exact (readOnly_lift _).bind fun _ => readOnly_pure _

theorem neverReplaces_createPrimary : NeverReplaces (c.createPrimary canary) := by
  refine (readOnly_fetch _ _).neverReplaces.bind fun _ => ?_
  refine (readOnly_lift _).neverReplaces.bind fun _ => ?_
  refine (readOnly_lift _).neverReplaces.bind fun _ => ?_
  refine (readOnly_exists _ _).neverReplaces.bind fun _ => ?_
  refine neverReplaces_ite (readOnly_pure _).neverReplaces ?_
  refine readOnly_copyConfigs.neverReplaces.bind fun _ => ?_
  refine readOnly_primaryBody.neverReplaces.bind fun _ => ?_
  refine neverReplaces_create.bind fun _ => ReadOnly.neverReplaces ?_
  exact (readOnly_request rfl).bind fun _ => readOnly_request rfl

theorem writesBack_scaleToZero :
    WritesBack (.template c.kind) [PodTemplate.markerPlace] (c.scaleToZero canary) := by
  intro log kind object body asks
  obtain ⟨v, target, name, _, rfl, hv, hn, ⟨⟩, scaled⟩ := writes_scaleToZero ⟨asks, rfl⟩
  exact ⟨rfl, [], [], _, v, target, rfl, hv, hn, scaled.written⟩

theorem writesBack_scaleFromZero :
    WritesBack (.template c.kind) [PodTemplate.markerPlace] (c.scaleFromZero canary) := by
  intro log kind object body asks
  obtain ⟨v, target, name, _, rfl, hv, hn, ⟨⟩, written, -⟩ := writes_scaleFromZero ⟨asks, rfl⟩
  exact ⟨rfl, [], [], _, v, target, rfl, hv, hn, written⟩

theorem writesBack_establish :
    WritesBack (.template c.kind) [PodTemplate.markerPlace] (c.establish canary) := by
  have scaling : WritesBack (.template c.kind) [PodTemplate.markerPlace] (do
      Program.request (.note c.logger (.scalingDown c.kind.name canary.targetObject canary.key))
      c.scaleToZero canary) :=
    (writesBack_of_readOnly (readOnly_request rfl)).bind fun _ => writesBack_scaleToZero
  refine (writesBack_of_neverReplaces neverReplaces_createPrimary).bind fun _ => ?_
  refine writesBack_ite (writesBack_of_readOnly (readOnly_pure _)) (writesBack_ite ?_ scaling)
  exact (writesBack_of_readOnly readOnly_checkPrimary).bind fun _ => scaling

theorem writesBack_promote :
    WritesBack (.template c.kind) (twinPlaces c.kind) (c.promote canary) := by
  intro log kind object body asks
  obtain ⟨v, target, label, value, w, primary, refs, redirected, id, name, _, rfl, -, -, hw, hn,
    ⟨⟩, written, -⟩ := writes_promote ⟨asks, rfl⟩
  exact ⟨rfl, [_], _, _, w, primary, rfl, hw, hn, written⟩

theorem failsOnRefusal_scaleToZero : FailsOnRefusal (c.scaleToZero canary) := by
  refine (failsOnRefusal_of_readOnly (readOnly_fetch _ _)).bind fun _ => ?_
  refine (failsOnRefusal_of_readOnly (readOnly_lift _)).bind fun _ => ?_
  refine (failsOnRefusal_of_readOnly (readOnly_lift _)).bind fun _ => ?_
  refine failsOnRefusal_ite ?_ ?_
  · exact failsOnRefusal_of_readOnly ((readOnly_request rfl).bind fun _ => readOnly_pure _)
  · refine (failsOnRefusal_of_readOnly (readOnly_lift _)).bind fun _ => ?_
    refine (failsOnRefusal_of_readOnly (readOnly_lift _)).bind fun _ => ?_
    exact failsOnRefusal_update.bind fun _ => failsOnRefusal_of_readOnly (readOnly_request rfl)

theorem failsOnRefusal_scaleFromZero : FailsOnRefusal (c.scaleFromZero canary) := by
  refine (failsOnRefusal_of_readOnly (readOnly_fetch _ _)).bind fun _ => ?_
  refine (failsOnRefusal_of_readOnly (readOnly_lift _)).bind fun _ => ?_
  refine (failsOnRefusal_of_readOnly (readOnly_lift _)).bind fun _ => ?_
  refine (failsOnRefusal_of_readOnly (readOnly_lift _)).bind fun _ => ?_
  refine failsOnRefusal_ite ?_ ?_
  · exact failsOnRefusal_of_readOnly ((readOnly_request rfl).bind fun _ => readOnly_pure _)
  · refine (failsOnRefusal_of_readOnly (readOnly_lift _)).bind fun _ => ?_
    refine (failsOnRefusal_of_readOnly (readOnly_lift _)).bind fun _ => ?_
    refine failsOnRefusal_update.bind fun _ => failsOnRefusal_of_readOnly ?_
    exact (readOnly_request rfl).bind fun _ => readOnly_request rfl

theorem failsOnRefusal_establish : FailsOnRefusal (c.establish canary) := by
  have scaling : FailsOnRefusal (do
      Program.request (.note c.logger (.scalingDown c.kind.name canary.targetObject canary.key))
      c.scaleToZero canary) :=
    (failsOnRefusal_of_readOnly (readOnly_request rfl)).bind fun _ => failsOnRefusal_scaleToZero
  refine (failsOnRefusal_of_neverReplaces neverReplaces_createPrimary).bind fun _ => ?_
  refine failsOnRefusal_ite (failsOnRefusal_of_readOnly (readOnly_pure _)) ?_
  refine failsOnRefusal_ite ?_ scaling
  exact (failsOnRefusal_of_readOnly readOnly_checkPrimary).bind fun _ => scaling

theorem failsOnRefusal_promote : FailsOnRefusal (c.promote canary) := by
  refine (failsOnRefusal_of_readOnly (readOnly_fetch _ _)).bind fun _ => ?_
  refine (failsOnRefusal_of_readOnly (readOnly_lift _)).bind fun _ => ?_
  refine (failsOnRefusal_of_readOnly (readOnly_fetch _ _)).bind fun _ => ?_
  refine (failsOnRefusal_of_readOnly readOnly_copyConfigs).bind fun _ => ?_
  refine (failsOnRefusal_of_readOnly readOnly_promoted).bind fun _ => ?_
  refine failsOnRefusal_update.bind fun _ => failsOnRefusal_of_readOnly ?_
  exact (readOnly_request rfl).bind fun _ => readOnly_request rfl

end TemplateController

namespace ServiceController

variable {c : ServiceController}

theorem readOnly_hasTargetChanged :
    ReadOnly (ServiceController.hasTargetChanged canary) := by
  refine (readOnly_fetch _ _).bind fun _ => (readOnly_lift _).bind fun _ => ?_
  exact (readOnly_lift _).bind fun _ => readOnly_pure _

theorem neverReplaces_ensureDerived {object : ObjectName} {target : Value} :
    NeverReplaces (c.ensureDerived canary object target) := by
  refine (readOnly_exists _ _).neverReplaces.bind fun _ => ?_
  refine neverReplaces_ite (readOnly_pure _).neverReplaces ?_
  refine (readOnly_lift _).neverReplaces.bind fun _ => ?_
  refine neverReplaces_create.bind fun _ => ReadOnly.neverReplaces ?_
  exact (readOnly_request rfl).bind fun _ => readOnly_pure _

theorem neverReplaces_establish : NeverReplaces (c.establish canary) := by
  refine (readOnly_fetch _ _).neverReplaces.bind fun _ => ?_
  refine neverReplaces_ensureDerived.bind fun _ => neverReplaces_ensureDerived.bind fun _ => ?_
  exact (readOnly_ite (readOnly_request rfl) (readOnly_pure _)).neverReplaces

theorem writesBack_promote : WritesBack .service promotedPlaces (c.promote canary) := by
  intro log kind object body asks
  obtain ⟨v, w, primary, name, _, rfl, hw, hn, ⟨⟩, written⟩ := writes_promote ⟨asks, rfl⟩
  exact ⟨rfl, [_], [], _, w, primary, rfl, hw, hn, written⟩

theorem failsOnRefusal_promote : FailsOnRefusal (c.promote canary) := by
  refine (failsOnRefusal_of_readOnly (readOnly_fetch _ _)).bind fun _ => ?_
  refine (failsOnRefusal_of_readOnly (readOnly_fetch _ _)).bind fun _ => ?_
  refine (failsOnRefusal_of_readOnly (readOnly_lift _)).bind fun _ => ?_
  refine failsOnRefusal_update.bind fun _ => failsOnRefusal_of_readOnly ?_
  exact (readOnly_request rfl).bind fun _ => readOnly_request rfl

end ServiceController

/-! ## All operations -/

namespace Controller

variable {controller : Controller} {operation : Operation}

/-- The places of an object that an operation may change when it writes it back. -/
def ownPlaces : Controller → Operation → List Path
  | template c, .promote => TemplateController.twinPlaces c.kind
  | service _, .promote => ServiceController.promotedPlaces
  | template _, .establish | template _, .scaleToZero | template _, .scaleFromZero
  | template _, .finalize => [PodTemplate.markerPlace]
  | _, _ => []

theorem apart_ownPlaces {key : Key} {path : Path} (h : key ≠ .text "spec") :
    ∀ place ∈ ownPlaces controller operation, Path.Apart (key :: path) place := by
  have marker : ∀ place ∈ [PodTemplate.markerPlace], Path.Apart (key :: path) place := by
    simp [PodTemplate.markerPlace, PodTemplate.podSpecPlace, h]
  cases controller with
  | template c =>
    cases operation with
    | promote => exact TemplateController.apart_twinPlaces h
    | establish | scaleToZero | scaleFromZero | finalize => exact marker
    | _ => exact List.forall_mem_nil _
  | service c =>
    cases operation with
    | promote => simp [ownPlaces, ServiceController.promotedPlaces, h]
    | _ => exact List.forall_mem_nil _

/-- Every operation writes objects back as it has read them, changed in its own places alone, and
fails if that is refused. -/
theorem call_replaces :
    WritesBack controller.kind (ownPlaces controller operation)
        (controller.call operation canary) ∧
      FailsOnRefusal (controller.call operation canary) := by
  have silently {kind : Kind} {places : List Path} {p : Program Unit}
      (hw : WritesBack kind places p) (hf : FailsOnRefusal p) :
      WritesBack kind places (silent p) ∧ FailsOnRefusal (silent p) :=
    ⟨hw.bind fun _ => writesBack_of_readOnly (readOnly_pure _),
      hf.bind fun _ => failsOnRefusal_of_readOnly (readOnly_pure _)⟩
  have never {kind : Kind} {places : List Path} {α : Type} {p : Program α}
      (h : NeverReplaces p) : WritesBack kind places p ∧ FailsOnRefusal p :=
    ⟨writesBack_of_neverReplaces h, failsOnRefusal_of_neverReplaces h⟩
  -- an operation either writes one object back or never replaces anything
  cases controller with
  | template c =>
    cases operation with
    | establish =>
      exact silently TemplateController.writesBack_establish
        TemplateController.failsOnRefusal_establish
    | promote =>
      exact silently TemplateController.writesBack_promote
        TemplateController.failsOnRefusal_promote
    | hasTargetChanged =>
      exact never (TemplateController.readOnly_hasTargetChanged.bind fun _ =>
        readOnly_pure _).neverReplaces
    | haveConfigsChanged =>
      exact never ((readOnly_orFail (readOnly_request rfl)).bind fun _ =>
        readOnly_pure _).neverReplaces
    | pairing =>
      exact never (TemplateController.readOnly_pairing.bind fun _ => readOnly_pure _).neverReplaces
    | checkPrimary =>
      exact never (TemplateController.readOnly_checkPrimary.bind fun _ =>
        readOnly_pure _).neverReplaces
    | checkTarget =>
      exact never (TemplateController.readOnly_checkTarget.bind fun _ =>
        readOnly_pure _).neverReplaces
    | scaleToZero =>
      exact silently TemplateController.writesBack_scaleToZero
        TemplateController.failsOnRefusal_scaleToZero
    | scaleFromZero | finalize =>
      exact silently TemplateController.writesBack_scaleFromZero
        TemplateController.failsOnRefusal_scaleFromZero
  | service c =>
    cases operation with
    | establish =>
      exact never (ServiceController.neverReplaces_establish.bind fun _ =>
        (readOnly_pure _).neverReplaces)
    | promote =>
      exact silently ServiceController.writesBack_promote ServiceController.failsOnRefusal_promote
    | hasTargetChanged =>
      exact never (ServiceController.readOnly_hasTargetChanged.bind fun _ =>
        readOnly_pure _).neverReplaces
    | _ => exact never (readOnly_pure _).neverReplaces

end Controller

end CanaryRelease
