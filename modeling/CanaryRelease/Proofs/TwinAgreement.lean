import CanaryRelease.Proofs.Creation
import CanaryRelease.Proofs.Scalings
import CanaryRelease.Proofs.Trackers

/-!
# Twins of one target agree

A target may be given the marker and have its status updated and still be the same target for its
primary (`KeptTarget`). Twins of it that were made before and after agree (`agree_of_twins`): the
marker is neither policy nor label nor annotation, and it is removed from the pod spec after the
redirection, which has to leave node selectors alone (`SelectorBlind`).
-/

namespace CanaryRelease

open PodTemplate Value

namespace TemplateController

variable {c : TemplateController} {kind : TemplateKind} {target later last v : Value}
  {label value id id' : String} {a b : Value}

/-! ## Targets that were kept -/

/-- The places of an object that are changed without changing what it is for. -/
def idlePlaces : List Path := ["apiVersion"] :: ["kind"] :: ["status"] :: serverPlaces

/-- `later` is a target that was changed in its marker and its status alone. -/
structure KeptTarget (target later : Value) : Prop where
  same : SameApart (markerPlace :: idlePlaces) target later
  podSpec : withoutSelector (sourcePodSpec later) = withoutSelector (sourcePodSpec target)
  entries : baseEntries (sourcePodSpec later) = baseEntries (sourcePodSpec target)

theorem KeptTarget.refl (target : Value) : KeptTarget target target := ⟨.refl _ _, rfl, rfl⟩

theorem KeptTarget.symm (h : KeptTarget target later) : KeptTarget later target :=
  ⟨h.same.symm, h.podSpec.symm, h.entries.symm⟩

theorem KeptTarget.trans (h : KeptTarget target later) (h' : KeptTarget later last) :
    KeptTarget target last :=
  ⟨h.same.trans h'.same, h'.podSpec.trans h.podSpec, h'.entries.trans h.entries⟩

theorem keptTarget_of_sameApart (h : SameApart idlePlaces target later) :
    KeptTarget target later := by
  have podSpec : later.at? podSpecPlace = target.at? podSpecPlace :=
    h _ (by simp [idlePlaces, serverPlaces, podSpecPlace])
  refine ⟨h.mono fun _ hp => List.mem_cons_of_mem _ hp, ?_, ?_⟩
  · rw [sourcePodSpec, sourcePodSpec, podSpec]
  · rw [sourcePodSpec, sourcePodSpec, podSpec]

theorem keptTarget_of_scaledDown {stored body kept : Value} (hm : stored.toManifest = .ok target)
    (h : ScaledDown kind target body) (hk : SameApart serverPlaces body kept) :
    KeptTarget target kept.wire := by
  have podSpec : kept.wire.at? podSpecPlace = body.at? podSpecPlace := by
    rw [← h.wire]
    exact hk.wire _ (by simp [serverPlaces, podSpecPlace])
  have source : sourcePodSpec kept.wire = sourcePodSpec body := by
    rw [sourcePodSpec, sourcePodSpec, podSpec]
  refine ⟨?_, ?_, ?_⟩
  · have same := (h.written.same.append hk).wire
    rw [wire_of_toManifest hm] at same
    refine same.mono fun place hp => ?_
    simp only [idlePlaces, List.mem_append, List.mem_cons] at hp ⊢
    grind
  · rw [source, h.podSpec]
  · rw [source, h.entries]

/-! ## The pairing label -/

/-- The labels by which a workload selects its pods, empty if they are not set. -/
def selectedLabels (workload : Value) : Value :=
  ((workload.at? ["spec", "selector", "matchLabels"]).getD .null).orElse .empty

theorem pairingLabel_eq_ok {paired : String × Value} (h : c.pairingLabel target = .ok paired) :
    c.labels.filterM (selectedLabels target).mentions = .ok [paired.1] ∧
      (selectedLabels target).require (.text paired.1) = .ok paired.2 := by
  unfold pairingLabel matchLabels at h
  obtain ⟨metadata, -, h⟩ := bind_eq_ok.mp h
  obtain ⟨selected, hs, h⟩ := bind_eq_ok.mp h
  obtain ⟨spec, hspec, hs⟩ := bind_eq_ok.mp hs
  obtain ⟨selector, hselector, hselected⟩ := bind_eq_ok.mp hs
  obtain rfl : selected = selectedLabels target := eq_of_getSection hspec hselector hselected
  obtain ⟨found, hf, h⟩ := bind_eq_ok.mp h
  split at h
  · rename_i label
    obtain ⟨value, hv, ⟨⟩⟩ := bind_eq_ok.mp h
    exact ⟨hf, hv⟩
  · obtain ⟨_, -, h⟩ := bind_eq_ok.mp h
    cases h

theorem KeptTarget.pairingLabel {paired paired' : String × Value} (h : KeptTarget target later)
    (ht : c.pairingLabel target = .ok paired) (hl : c.pairingLabel later = .ok paired') :
    paired' = paired := by
  obtain ⟨found, required⟩ := pairingLabel_eq_ok ht
  obtain ⟨found', required'⟩ := pairingLabel_eq_ok hl
  have selected : selectedLabels later = selectedLabels target := by
    rw [selectedLabels, selectedLabels, h.same _ (by
      simp [idlePlaces, serverPlaces, markerPlace, podSpecPlace])]
  rw [selected] at found' required'
  have label : [paired'.1] = [paired.1] := Except.ok.inj (found'.symm.trans found)
  rw [List.cons.injEq] at label
  rw [label.1] at required'
  exact Prod.ext label.1 (Except.ok.inj (required'.symm.trans required))

/-! ## Twins -/

/-- The place of the annotation that tells revisions apart. -/
def idPlace : Path := annotationsPlace ++ [.text idKey]

theorem redirected_congr {redirect : Value → List ConfigRef → Except Failure Value}
    {refs : List ConfigRef} {redirected redirected' : Value} (blind : SelectorBlind redirect)
    (kept : KeptTarget target later) (h : redirect (sourcePodSpec target) refs = .ok redirected)
    (h' : redirect (sourcePodSpec later) refs = .ok redirected') :
    withoutSelector redirected' = withoutSelector redirected ∧
      baseEntries redirected' = baseEntries redirected := by
  constructor
  · have same := blind.blind _ _ refs kept.podSpec
    rw [h, h'] at same
    exact Except.ok.inj same
  · have entries {x y : Value} (hr : redirect x refs = .ok y) : baseEntries y = baseEntries x := by
      rw [baseEntries, baseEntries, selectorOf, selectorOf, blind.keeps _ _ _ hr]
    rw [entries h', entries h, kept.entries]

section Agree

variable {redirected redirected' : Value} {path : Path}

theorem agreeAt_policy (kept : KeptTarget target later)
    (ha : Twin kind target label value redirected id a)
    (hb : Twin kind later label value redirected' id' b) {field : String}
    (hf : field ∈ kind.policyFields) (h : [.text "spec", .text field] <+: path) :
    AgreeAt a b path := by
  obtain ⟨rest, rfl⟩ := h
  obtain ⟨-, -, template⟩ := ne_of_mem_policyFields hf
  refine agreeAt_of_eq ?_
  rw [at?_append, at?_append, ha.policy field hf, hb.policy field hf]
  rw [kept.same [.text "spec", .text field] (by
    simp [idlePlaces, serverPlaces, markerPlace, podSpecPlace, Ne.symm template])]

theorem agreeAt_podSpec (ha : Twin kind target label value redirected id a)
    (hb : Twin kind later label value redirected' id' b)
    (podSpec : withoutSelector redirected' = withoutSelector redirected)
    (entries : baseEntries redirected' = baseEntries redirected) (h : podSpecPlace <+: path) :
    AgreeAt a b path := by
  obtain ⟨p, hp, pa⟩ := ha.podSpec
  obtain ⟨q, hq, qb⟩ := hb.podSpec
  obtain ⟨⟨fs, rfl⟩, -⟩ := child?_of_removeMarker hp
  obtain ⟨⟨gs, rfl⟩, -⟩ := child?_of_removeMarker hq
  exact agreeAt_below pa qb h fun key _ => removeMarker_congr podSpec entries hq hp key

theorem agreeAt_labels (kept : KeptTarget target later)
    (ha : Twin kind target label value redirected id a)
    (hb : Twin kind later label value redirected' id' b) (h : labelsPlace <+: path) :
    AgreeAt a b path := by
  obtain ⟨fs, la, hfs⟩ := ha.labels
  obtain ⟨gs, lb, hgs⟩ := hb.labels
  refine agreeAt_below la lb h fun key _ => ?_
  rw [hfs, hgs, kept.same (labelsPlace ++ [key]) (by
    simp [idlePlaces, serverPlaces, markerPlace, podSpecPlace, labelsPlace])]

theorem agreeAt_annotations (kept : KeptTarget target later)
    (ha : Twin kind target label value redirected id a)
    (hb : Twin kind later label value redirected' id' b) (h : annotationsPlace <+: path)
    (other : ¬ idPlace <+: path) : AgreeAt a b path := by
  obtain ⟨fs, na, hfs⟩ := ha.annotations
  obtain ⟨gs, nb, hgs⟩ := hb.annotations
  refine agreeAt_below na nb h fun key here => ?_
  have not_id : key ≠ .text idKey := by
    rintro rfl
    exact other here
  rw [hfs, hgs, if_neg not_id, if_neg not_id, kept.same (annotationsPlace ++ [key]) (by
    simp [idlePlaces, serverPlaces, markerPlace, podSpecPlace, annotationsPlace])]

/-- The places above those of a twin, and its metadata. -/
def junctions : List Path :=
  [[], ["spec"], ["spec", "template"], ["spec", "template", "metadata"], ["metadata"]]

theorem agreeAt_junction (ha : Twin kind target label value redirected id a)
    (hb : Twin kind later label value redirected' id' b)
    (na : ∃ name, a.wire.at? ["metadata", "name"] = some name)
    (nb : ∃ name, b.wire.at? ["metadata", "name"] = some name) (h : path ∈ junctions) :
    AgreeAt a.wire b.wire path := by
  obtain ⟨name, na⟩ := na
  obtain ⟨name', nb⟩ := nb
  obtain ⟨fs, la, -⟩ := ha.labels
  obtain ⟨gs, lb, -⟩ := hb.labels
  simp only [junctions, List.mem_cons, List.not_mem_nil, or_false] at h
  rcases h with rfl | rfl | rfl | rfl | rfl
  · exact (agreeAt_above [] la lb).wire
  · exact (agreeAt_above ["spec"] la lb).wire
  · exact (agreeAt_above ["spec", "template"] la lb).wire
  · exact (agreeAt_above ["spec", "template", "metadata"] (p := []) (q := []) la lb).wire
  · exact agreeAt_above ["metadata"] (p := []) (q := []) na nb

theorem mem_junctions {place : Path} (hp : place ∈ twinPlaces kind ++ idlePlaces)
    (h : path <+: place) : path = place ∨ path ∈ junctions := by
  have places : place ∈ idlePlaces ∨ (∃ field, place = [.text "spec", .text field]) ∨
      place ∈ [podSpecPlace, annotationsPlace, labelsPlace] := by
    rcases List.mem_append.mp hp with hp | hp
    · rcases List.mem_append.mp hp with hp | hp
      · obtain ⟨field, -, rfl⟩ := List.mem_map.mp hp
        exact .inr (.inl ⟨field, rfl⟩)
      · exact .inr (.inr hp)
    · exact .inl hp
  simp only [idlePlaces, serverPlaces, podSpecPlace, annotationsPlace, labelsPlace, List.mem_cons,
    List.not_mem_nil, or_false] at places
  unfold junctions
  rcases places with (rfl | rfl | rfl | rfl | rfl) | ⟨field, rfl⟩ | rfl | rfl | rfl
  all_goals
    simp only [List.prefix_cons_iff, List.prefix_nil] at h
    grind

end Agree

/-- Twins of a kept target agree but for their ids if they are the same in what is no part of a
twin. -/
theorem agree_of_twins {redirected redirected' : Value} (kept : KeptTarget target later)
    (ha : Twin kind target label value redirected id a)
    (hb : Twin kind later label value redirected' id' b)
    (podSpec : withoutSelector redirected' = withoutSelector redirected)
    (entries : baseEntries redirected' = baseEntries redirected)
    (frame : SameApart (twinPlaces kind ++ idlePlaces) a.wire b.wire)
    (named : ∃ name, a.wire.at? ["metadata", "name"] = some name) :
    Agree (idPlace :: idlePlaces) a.wire b.wire := by
  have idle : ∀ place ∈ idlePlaces, Path.Apart ["metadata", "name"] place := by
    simp [idlePlaces, serverPlaces]
  have named' : ∃ name, b.wire.at? ["metadata", "name"] = some name := by
    rw [frame ["metadata", "name"] ?_]
    · exact named
    · intro place hp
      rcases List.mem_append.mp hp with hp | hp
      · exact apart_twinPlaces (by decide) place hp
      · exact idle place hp
  intro path within
  have beyond {place : Path} (hp : place ∈ twinPlaces kind ++ idlePlaces) (h : place <+: path) :
      AgreeAt a.wire b.wire path := by
    rcases List.mem_append.mp hp with hp | hp
    · rcases List.mem_append.mp hp with hp | hp
      · obtain ⟨field, hf, rfl⟩ := List.mem_map.mp hp
        exact (agreeAt_policy kept ha hb hf h).wire
      · simp only [List.mem_cons, List.not_mem_nil, or_false] at hp
        rcases hp with rfl | rfl | rfl
        · exact (agreeAt_podSpec ha hb podSpec entries h).wire
        · exact (agreeAt_annotations kept ha hb h (within _ List.mem_cons_self)).wire
        · exact (agreeAt_labels kept ha hb h).wire
    · exact absurd h (within _ (List.mem_cons_of_mem _ hp))
  by_cases apart : ∀ place ∈ twinPlaces kind ++ idlePlaces, path.Apart place
  · exact agreeAt_of_eq (frame path apart)
  · obtain ⟨place, hp, near⟩ : ∃ place ∈ twinPlaces kind ++ idlePlaces, ¬ path.Apart place := by
      simpa using apart
    rcases Path.apart_or path place with far | below | above
    · exact absurd far near
    · exact beyond hp below
    · rcases mem_junctions hp above with rfl | junction
      · exact beyond hp (List.prefix_refl _)
      · exact agreeAt_junction ha hb named named' junction

end TemplateController

end CanaryRelease
