import CanaryRelease.Proofs.PodSpecs
import CanaryRelease.Proofs.SiteRuns

/-!
# Trackers that are functions

What a configuration tracker is promised to do: its references are stable, it redirects a pod spec
by a function of the pod spec and the references (`Exchange.FromTracker`), and that function neither
reads nor changes node selectors (`SelectorBlind`). The trackers at a site keep these promises
(`Tracker.selectorBlind`, `Site.fromTracker_of_mem_moments`).
-/

namespace CanaryRelease

open PodTemplate Value

/-- A redirection of pod specs that neither reads nor changes their node selectors. -/
structure SelectorBlind (redirect : Value → List ConfigRef → Except Failure Value) : Prop where
  keeps : ∀ podSpec refs redirected, redirect podSpec refs = .ok redirected →
    redirected.child? "nodeSelector" = podSpec.child? "nodeSelector"
  blind : ∀ podSpec other refs, withoutSelector podSpec = withoutSelector other →
    (redirect podSpec refs).map withoutSelector = (redirect other refs).map withoutSelector

/-- What trackers with stable references reply that redirect pod specs by a function. -/
def Exchange.FromTracker (refs : List ConfigRef)
    (redirect : Value → List ConfigRef → Except Failure Value) : Exchange → Prop
  | ⟨.targetConfigs _, reply⟩ => ∀ found, reply = .ok found → found = refs
  | ⟨.redirectConfigs podSpec refs', reply⟩ =>
    ∀ redirected, reply = .ok redirected → redirect podSpec refs' = .ok redirected
  | _ => True

namespace Tracker

/-- The references that a tracker follows. -/
def refs : Tracker → List ConfigRef
  | off => []
  | recording t => t.refs

/-- The function by which a tracker redirects pod specs. -/
def redirect : Tracker → Value → List ConfigRef → Except Failure Value
  | off, podSpec, _ => .ok podSpec
  | recording _, podSpec, refs => RecordingTracker.redirect refs podSpec

/-! ## Node selectors -/

theorem redirect_object (refs : List ConfigRef) (fs : Fields) :
    RecordingTracker.redirect refs (.object fs) =
      if ((fs.get? "volumes").getD .null).isUnset then .ok (.object fs)
      else do
        let items ← ((fs.get? "volumes").getD .null).elements
        let redirected ← items.mapM (RecordingTracker.redirectVolume refs)
        return .object (fs.set "volumes" (.list redirected)) := by
  rfl

theorem withoutSelector_set_volumes (fs : Fields) (volumes : Value) :
    withoutSelector (.object (fs.set "volumes" volumes)) =
      .object ((fs.erase "nodeSelector").set "volumes" volumes) :=
  congrArg object (Fields.erase_set_of_not_same fs volumes (by decide))

theorem keeps_redirect {refs : List ConfigRef} {podSpec redirected : Value}
    (h : RecordingTracker.redirect refs podSpec = .ok redirected) :
    redirected.child? "nodeSelector" = podSpec.child? "nodeSelector" := by
  cases podSpec with
  | object fs =>
    rw [redirect_object] at h
    split at h
    · obtain rfl := Except.ok.inj h
      rfl
    · obtain ⟨_, -, h⟩ := bind_eq_ok.mp h
      obtain ⟨_, -, ⟨⟩⟩ := bind_eq_ok.mp h
      exact Fields.get?_set_of_not_same fs _ (by decide)
  | _ => cases h

theorem blind_redirect {refs : List ConfigRef} {podSpec other : Value}
    (h : withoutSelector podSpec = withoutSelector other) :
    (RecordingTracker.redirect refs podSpec).map withoutSelector =
      (RecordingTracker.redirect refs other).map withoutSelector := by
  cases podSpec with
  | object fs =>
    cases other with
    | object gs =>
      have same : Fields.erase fs "nodeSelector" = Fields.erase gs "nodeSelector" :=
        Value.object.inj h
      have volumes : Fields.get? fs "volumes" = Fields.get? gs "volumes" := by
        have erased := congrArg (Fields.get? · (.text "volumes")) same
        rwa [Fields.get?_erase, Fields.get?_erase, if_neg (by decide), if_neg (by decide)] at erased
      rw [redirect_object, redirect_object, volumes]
      split
      · exact congrArg Except.ok h
      · cases ((Fields.get? gs "volumes").getD .null).elements with
        | error e => rfl
        | ok items =>
          change Except.map _ (items.mapM _ >>= _) = Except.map _ (items.mapM _ >>= _)
          cases items.mapM (RecordingTracker.redirectVolume refs) with
          | error e => rfl
          | ok redirected =>
            refine congrArg Except.ok ?_
            rw [withoutSelector_set_volumes, withoutSelector_set_volumes, same]
    | _ => cases h
  | _ =>
    cases other with
    | object gs => cases h
    | _ => rfl

theorem selectorBlind (t : Tracker) : SelectorBlind t.redirect := by
  cases t with
  | off =>
    refine ⟨?_, fun _ _ _ h => congrArg Except.ok h⟩
    rintro podSpec refs redirected ⟨⟩
    rfl
  | recording t => exact ⟨fun _ _ _ h => keeps_redirect h, fun _ _ _ h => blind_redirect h⟩

end Tracker

/-! ## At a site -/

namespace Site

variable {caller other : Nat} {s : Site} {m : Moment} {e : Exchange} {disturbed : Bool}

theorem tracker_surroundings (request : Request) (s : Site) :
    (surroundings request s).2.tracker = s.tracker := by
  cases request <;> rfl

theorem fromTracker_recorded {α : Type} {t : RecordingTracker} {call : TrackerCall}
    {answer : Except Failure α} {x : α} (h : (Tracker.recorded t call answer).1 = .ok x) :
    answer = .ok x := by
  unfold Tracker.recorded at h
  split at h
  · cases h
  · exact h

theorem fromTracker_surroundings (request : Request) (s : Site) :
    Exchange.FromTracker s.tracker.refs s.tracker.redirect
      ⟨request, (surroundings request s).1⟩ := by
  cases request with
  | targetConfigs canary =>
    intro found h
    change (s.tracker.targetConfigs canary).1 = .ok found at h
    cases ht : s.tracker with
    | off =>
      rw [ht] at h
      exact (Except.ok.inj h).symm
    | recording t =>
      rw [ht] at h
      exact (Except.ok.inj (fromTracker_recorded h)).symm
  | redirectConfigs podSpec refs =>
    intro redirected h
    change (s.tracker.redirectConfigs podSpec refs).1 = .ok redirected at h
    cases ht : s.tracker with
    | off =>
      rw [ht] at h
      exact h
    | recording t =>
      rw [ht] at h
      exact fromTracker_recorded h
  | _ => trivial

theorem fromTracker_of_mem_momentsOf {request : Request} (h : m ∈ s.momentsOf caller request)
    (hm : m.event = .exchange other e disturbed) :
    e.FromTracker s.tracker.refs s.tracker.redirect := by
  have of_server {exchange : Except CallFailure Value → Exchange} {verb : Verb} {key : ObjectKey}
      {body : Value}
      (mem : m ∈ s.server.moments (fun reply => .exchange caller (exchange reply)) verb key body)
      (calls : ∀ reply, (exchange reply).FromTracker s.tracker.refs s.tracker.redirect) :
      e.FromTracker s.tracker.refs s.tracker.redirect := by
    obtain ⟨value, edit⟩ | ⟨reply, d, exchanged⟩ := Server.event_of_mem_moments mem
    · cases hm.symm.trans edit
    · obtain ⟨-, rfl, -⟩ := Event.exchange.inj (hm.symm.trans exchanged)
      exact calls reply
  cases request with
  | readObject => exact of_server h fun _ => trivial
  | createObject => exact of_server h fun _ => trivial
  | replaceObject => exact of_server h fun _ => trivial
  | _ =>
    rw [List.mem_singleton.mp h] at hm
    obtain ⟨-, rfl, -⟩ := Event.exchange.inj hm
    exact fromTracker_surroundings _ s

theorem fromTracker_of_mem_moments {α : Type} {p : Program α} (h : m ∈ s.moments caller p)
    (hm : m.event = .exchange other e disturbed) :
    e.FromTracker s.tracker.refs s.tracker.redirect := by
  induction p generalizing s with
  | done a => exact absurd h List.not_mem_nil
  | fail e => exact absurd h List.not_mem_nil
  | ask request next ih =>
    rcases List.mem_append.mp h with now | later
    · exact fromTracker_of_mem_momentsOf now hm
    · have rest := ih _ later
      rwa [tracker_surroundings] at rest

end Site

end CanaryRelease
