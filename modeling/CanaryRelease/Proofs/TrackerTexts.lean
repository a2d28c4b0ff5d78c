import CanaryRelease.Proofs.SameTexts
import CanaryRelease.Proofs.Trackers

/-!
# Trackers and JSON

A configuration tracker is given pod specs that came from JSON, and what it makes of them has to
depend on what they say, not on the order of their fields, and not on their node selectors either
(`JsonRedirection`). The trackers at a site are like that (`Tracker.jsonRedirection`): each step of a
redirection takes values that say the same to values that say the same.
-/

namespace CanaryRelease

open PodTemplate Value

/-- A redirection of pod specs that is a function of what they say in JSON, and neither reads nor
changes their node selectors. -/
structure JsonRedirection (redirect : Value → List ConfigRef → Except Failure Value) : Prop where
  keeps : ∀ podSpec refs redirected, redirect podSpec refs = .ok redirected →
    redirected.child? "nodeSelector" = podSpec.child? "nodeSelector"
  congr : ∀ (fs gs fs' : Fields) (refs : List ConfigRef),
    (Value.object fs).isJson Binary64.isProper = true →
    (Value.object gs).isJson Binary64.isProper = true →
    Fields.SameBut ["nodeSelector"] fs gs → redirect (.object fs) refs = .ok (.object fs') →
      ∃ gs' : Fields, redirect (.object gs) refs = .ok (.object gs') ∧
        Fields.SameBut ["nodeSelector"] fs' gs'

namespace Tracker

variable {refs : List ConfigRef}

theorem keepsSame_redirectSource (refs : List ConfigRef) (kind nameKey : String) :
    KeepsSame (RecordingTracker.redirectSource refs kind nameKey) := by
  intro x y x' same hx
  unfold RecordingTracker.redirectSource at hx ⊢
  rw [← same.isUnset]
  split at hx
  · obtain rfl := Except.ok.inj hx
    rw [if_pos ‹_›]
    exact ⟨y, rfl, same⟩
  · rw [if_neg ‹_›]
    obtain ⟨name, hname, hx⟩ := bind_eq_ok.mp hx
    obtain ⟨fs, rfl, rfl⟩ := get_eq_ok.mp hname
    obtain ⟨gs, rfl⟩ := same.exists_object
    have names := same.getD nameKey
    have found : (Value.object gs).get nameKey = .ok ((Fields.get? gs nameKey).getD .null) :=
      get_eq_ok.mpr ⟨gs, rfl, rfl⟩
    rw [found]
    generalize (Fields.get? fs nameKey).getD .null = v at names hx
    generalize (Fields.get? gs nameKey).getD .null = w at names
    split at hx
    · rename_i name
      obtain rfl := names.eq_text
      change ∃ y', (if refs.contains ⟨kind, name⟩ then _ else _) = _ ∧ _
      split at hx
      · rw [if_pos ‹_›]
        obtain rfl := Except.ok.inj hx
        exact ⟨_, rfl, same.set nameKey ⟨rfl, rfl, rfl⟩⟩
      · rw [if_neg ‹_›]
        obtain rfl := Except.ok.inj hx
        exact ⟨_, rfl, same⟩
    · rename_i noText
      obtain rfl := Except.ok.inj hx
      refine ⟨.object gs, bind_eq_ok.mpr ⟨w, rfl, ?_⟩, same⟩
      split
      · exact absurd names.symm.eq_text (noText _)
      · rfl

theorem keepsSame_redirectField (refs : List ConfigRef) (field kind nameKey : String) :
    KeepsSame (fun volume => do
      match ← volume.find field with
      | none => return volume
      | some source =>
        volume.set field (← RecordingTracker.redirectSource refs kind nameKey source)) := by
  intro x y x' same hx
  obtain ⟨found, hfound, hx⟩ := bind_eq_ok.mp hx
  obtain ⟨fs, hfields, ⟨⟩⟩ := bind_eq_ok.mp hfound
  obtain rfl := fields_eq_ok.mp hfields
  obtain ⟨gs, rfl⟩ := same.exists_object
  have sources := same.sameBut [] field List.not_mem_nil
  have here : (Value.object gs).find field = .ok (Fields.get? gs field) := rfl
  cases hs : Fields.get? fs field with
  | none =>
    rw [hs] at hx sources
    obtain rfl := Except.ok.inj hx
    refine ⟨.object gs, bind_eq_ok.mpr ⟨_, here, ?_⟩, same⟩
    rw [Option.map_eq_none_iff.mp sources.symm]
    rfl
  | some source =>
    have sourceSame := same.getD field
    rw [hs] at hx sources sourceSame
    obtain ⟨source₂, hs₂, -⟩ := Option.map_eq_some_iff.mp sources.symm
    rw [hs₂] at sourceSame
    obtain ⟨redirected, hredirected, hx⟩ := bind_eq_ok.mp hx
    obtain ⟨_, ⟨⟩, rfl⟩ := set_eq_ok.mp hx
    obtain ⟨redirected₂, hredirected₂, again⟩ :=
      keepsSame_redirectSource refs kind nameKey _ _ _ sourceSame hredirected
    refine ⟨_, bind_eq_ok.mpr ⟨_, here, ?_⟩, same.set field again⟩
    rw [hs₂]
    exact bind_eq_ok.mpr ⟨_, hredirected₂, rfl⟩

theorem keepsSame_redirectVolume (refs : List ConfigRef) :
    KeepsSame (RecordingTracker.redirectVolume refs) := by
  intro x y x' same hx
  obtain ⟨x₁, hx₁, hx⟩ := bind_eq_ok.mp hx
  obtain ⟨y₁, hy₁, same₁⟩ := keepsSame_redirectField refs "configMap" "ConfigMap" "name" _ _ _ same hx₁
  obtain ⟨y', hy', same'⟩ := keepsSame_redirectField refs "secret" "Secret" "secretName" _ _ _ same₁ hx
  exact ⟨y', bind_eq_ok.mpr ⟨y₁, hy₁, hy'⟩, same'⟩

theorem exists_object_of_redirectVolume {volume redirected : Value}
    (h : RecordingTracker.redirectVolume refs volume = .ok redirected) :
    ∃ fs, volume = .object fs := by
  obtain ⟨_, hv, -⟩ := bind_eq_ok.mp h
  obtain ⟨_, hfound, -⟩ := bind_eq_ok.mp hv
  obtain ⟨fs, hfields, -⟩ := bind_eq_ok.mp hfound
  exact ⟨fs, fields_eq_ok.mp hfields⟩

theorem congr_redirect {fs gs fs' : Fields} (hf : (Value.object fs).isJson Binary64.isProper = true)
    (hg : (Value.object gs).isJson Binary64.isProper = true)
    (same : Fields.SameBut ["nodeSelector"] fs gs)
    (h : RecordingTracker.redirect refs (.object fs) = .ok (.object fs')) :
    ∃ gs' : Fields, RecordingTracker.redirect refs (.object gs) = .ok (.object gs') ∧
      Fields.SameBut ["nodeSelector"] fs' gs' := by
  have volumes : SameJson ((fs.get? "volumes").getD .null) ((gs.get? "volumes").getD .null) :=
    SameJson.of_get? hf hg (same "volumes" (by simp)) rfl
  rw [redirect_object] at h ⊢
  rw [← volumes.isUnset]
  split at h
  · rw [if_pos ‹_›]
    obtain rfl := Value.object.inj (Except.ok.inj h)
    exact ⟨gs, rfl, same⟩
  · rename_i set
    rw [if_neg set]
    obtain ⟨items, hitems, h⟩ := bind_eq_ok.mp h
    obtain ⟨redirected, hredirected, ⟨⟩⟩ := bind_eq_ok.mp h
    have objects : ∀ x ∈ items, ∃ fs, x = .object fs := fun x hx => by
      obtain ⟨_, hy⟩ := exists_of_mapM hredirected x hx
      exact exists_object_of_redirectVolume hy
    rw [eq_list_of_elements hitems (Bool.eq_false_iff.mpr set) objects] at volumes
    obtain ⟨items₂, hlist, each⟩ := volumes.exists_items
    obtain ⟨redirected₂, hredirected₂, again⟩ :=
      (keepsSame_redirectVolume refs).mapM each hredirected
    rw [hlist]
    refine ⟨_, bind_eq_ok.mpr ⟨items₂, rfl, bind_eq_ok.mpr ⟨_, hredirected₂, rfl⟩⟩, ?_⟩
    intro key other
    rw [Fields.get?_set, Fields.get?_set]
    split
    · exact congrArg some (SameJson.of_items again).text
    · exact same key other

theorem jsonRedirection (t : Tracker) : JsonRedirection t.redirect := by
  refine ⟨t.selectorBlind.keeps, ?_⟩
  cases t with
  | off =>
    rintro fs gs _ refs - - same ⟨⟩
    exact ⟨gs, rfl, same⟩
  | recording t => exact fun _ _ _ _ hf hg same h => congr_redirect hf hg same h

end Tracker

end CanaryRelease
