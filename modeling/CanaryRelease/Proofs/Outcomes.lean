import CanaryRelease.Proofs.Attempts

/-!
# Establishments of one canary agree

What establishing makes of a store is a function of the store, up to the id of the primary and what
is nobody's business but the server's (`Established.agree`): a program is told what to do by what it
is told (`Program.Asks.unique`), and the bodies of primaries of one target that were made with two
ids are the same elsewhere (`TemplateController.sameApart_of_primaryBodies`).
-/

namespace CanaryRelease

open Program Workload PodTemplate Value

theorem Program.Asks.unique {α : Type} {p : Program α} {log : List Exchange} {r r' : Request}
    (h : Asks p log r) (h' : Asks p log r') : r' = r := by
  induction h with
  | now =>
    cases h' with
    | now => rfl
  | later _ ih =>
    cases h' with
    | later rest => exact ih rest

/-! ## Values that differ in one place -/

namespace Value

variable {fs gs : Fields} {s : String} {x y : Value} {place : Path}

theorem not_same_of_ne {key : Key} (h : key ≠ .text s) : ¬ Key.Same (.text s) key :=
  fun same => h (Key.text_same.mp same)

theorem sameApart_of_field (hx : fs.get? (.text s) = some x) (hy : gs.get? (.text s) = some y)
    (others : ∀ key : Key, key ≠ .text s → gs.get? key = fs.get? key)
    (same : SameApart [place] x y) :
    SameApart [.text s :: place] (object fs) (object gs) := by
  intro path apart
  cases path with
  | nil => exact absurd (apart _ List.mem_cons_self) Path.not_apart_nil_left
  | cons key path =>
    rw [at?_object, at?_object]
    by_cases here : key = .text s
    · subst here
      rw [hx, hy]
      refine same path fun other mem => ?_
      obtain rfl := List.mem_singleton.mp mem
      exact Path.apart_cons.mp (apart _ List.mem_cons_self) rfl
    · rw [others key here]

theorem sameApart_sets (fs : Fields) (s : String) (same : SameApart [place] x y) :
    SameApart [.text s :: place] (object (fs.set (.text s) x)) (object (fs.set (.text s) y)) := by
  refine sameApart_of_field (Fields.get?_set_self ..) (Fields.get?_set_self ..)
    (fun key other => ?_) same
  rw [Fields.get?_set_of_not_same _ _ (not_same_of_ne other),
    Fields.get?_set_of_not_same _ _ (not_same_of_ne other)]

end Value

/-! ## Bodies with two ids -/

namespace TemplateController

variable {c : TemplateController} {canary : Canary} {target body body' template template' : Value}
  {label value id id' : String} {refs : List ConfigRef} {redirected : Value}

theorem sameApart_of_primaryTemplates
    (h : Ends (primaryTemplate target label value refs)
      [⟨.drawId, id⟩, ⟨.redirectConfigs (sourcePodSpec target) refs, .ok redirected⟩]
      (.ok template))
    (h' : Ends (primaryTemplate target label value refs)
      [⟨.drawId, id'⟩, ⟨.redirectConfigs (sourcePodSpec target) refs, .ok redirected⟩]
      (.ok template')) :
    SameApart [["metadata", "annotations", .text idKey]] template template' := by
  unfold primaryTemplate at h h'
  simp only [ends_lift_bind] at h h'
  obtain ⟨spec, hs, source, ht, metadata, hm, field, hl, labels, hp, marks, ha, h⟩ := h
  obtain ⟨_, hs', _, ht', _, hm', _, hl', _, hp', _, ha', h'⟩ := h'
  obtain rfl := Except.ok.inj (hs.symm.trans hs')
  obtain rfl := Except.ok.inj (ht.symm.trans ht')
  obtain rfl := Except.ok.inj (hm.symm.trans hm')
  obtain rfl := Except.ok.inj (hl.symm.trans hl')
  obtain rfl := Except.ok.inj (hp.symm.trans hp')
  obtain rfl := Except.ok.inj (ha.symm.trans ha')
  obtain ⟨_, _, _, hlog, fresh, h⟩ := ends_bind_ok.mp h
  obtain ⟨_, _, _, hlog', fresh', h'⟩ := ends_bind_ok.mp h'
  obtain ⟨kept, _, hk, rfl, rfl⟩ := ends_freshAnnotations.mp fresh
  obtain ⟨_, _, hk', rfl, rfl⟩ := ends_freshAnnotations.mp fresh'
  obtain rfl := Except.ok.inj (hk.symm.trans hk')
  obtain ⟨podSpec, _, _, rfl, made, ended⟩ := ends_bind_ok.mp h
  obtain ⟨_, _, _, rfl, made', ended'⟩ := ends_bind_ok.mp h'
  obtain ⟨_, _, -, hr, rfl⟩ := ends_primaryPodSpec.mp made
  obtain ⟨_, _, -, hr', rfl⟩ := ends_primaryPodSpec.mp made'
  obtain ⟨rfl, ⟨⟩⟩ := ends_pure.mp ended
  obtain ⟨rfl, ⟨⟩⟩ := ends_pure.mp ended'
  cases hlog
  cases hlog'
  obtain rfl := Except.ok.inj (hr.symm.trans hr')
  have ids : SameApart [[.text idKey]] (.object (stamp kept id)) (.object (stamp kept id')) :=
    sameApart_sets kept idKey fun path apart =>
      absurd (apart _ List.mem_cons_self) Path.not_apart_nil_right
  have metadata : SameApart [["annotations", .text idKey]]
      (.object [("labels", .object labels), ("annotations", .object (stamp kept id))])
      (.object [("labels", .object labels), ("annotations", .object (stamp kept id'))]) := by
    refine sameApart_of_field rfl rfl (fun key apart => ?_) ids
    simp only [Fields.get?_cons, not_same_of_ne apart, if_false]
  refine sameApart_of_field rfl rfl (fun key apart => ?_) metadata
  simp only [Fields.get?_cons, not_same_of_ne apart, if_false]

theorem sameApart_of_primaryBodies
    (h : Ends (c.primaryBody canary target label value refs)
      [⟨.drawId, id⟩, ⟨.redirectConfigs (sourcePodSpec target) refs, .ok redirected⟩] (.ok body))
    (h' : Ends (c.primaryBody canary target label value refs)
      [⟨.drawId, id'⟩, ⟨.redirectConfigs (sourcePodSpec target) refs, .ok redirected⟩]
      (.ok body')) :
    SameApart [idPlace] body body' := by
  obtain ⟨spec, template, metadata, hs, made, hm, rfl⟩ := exists_parts_of_primaryBody h
  obtain ⟨_, template', _, hs', made', hm', rfl⟩ := exists_parts_of_primaryBody h'
  obtain rfl := Value.object.inj (Except.ok.inj (hs.symm.trans hs'))
  obtain rfl := Except.ok.inj (hm.symm.trans hm')
  have templates := sameApart_of_primaryTemplates made made'
  refine sameApart_of_field rfl rfl (fun key apart => ?_) (sameApart_sets _ "template" templates)
  simp only [Fields.get?_cons, not_same_of_ne apart, if_false]

end TemplateController

/-! ## Outcomes -/

section Outcomes

variable {canary : Canary} {controller : Controller} {refs : List ConfigRef}
  {redirect : Value → List ConfigRef → Except Failure Value} {start now now' : Store}
  {log log' : List Exchange} {object : ObjectName} {target body body' v : Value} {id id' : String}

theorem TemplateController.Marks.unique {c : TemplateController} {target' : Value}
    {name name' : ObjectName} (h : c.Marks canary v target name body)
    (h' : c.Marks canary v target' name' body') : body' = body := by
  have same := h.writes.1.unique h'.writes.1
  injection same

/-- Where bodies that were built for an object from one target may differ. -/
def builtPlaces (canary : Canary) (object : ObjectName) : List Path :=
  if object = TemplateController.primaryObject canary then [TemplateController.idPlace] else []

theorem Builds.agree (h : Builds canary refs redirect target controller object id body)
    (h' : Builds canary refs redirect target controller object id' body') :
    SameApart (builtPlaces canary object) body body' := by
  cases h with
  | primary paired redirection made =>
    cases h' with
    | primary paired' redirection' made' =>
      obtain ⟨⟩ := Except.ok.inj (paired.symm.trans paired')
      obtain rfl := Except.ok.inj (redirection.symm.trans redirection')
      rw [builtPlaces, if_pos rfl]
      exact TemplateController.sameApart_of_primaryBodies made made'
  | service made =>
    cases h' with
    | service made' =>
      obtain rfl := Except.ok.inj (made.symm.trans made')
      exact .refl _ _

/-- Where objects may differ between two establishments: in what their server fills in, and the
primary in its id and its status. -/
def renewedPlaces (controller : Controller) (canary : Canary) (key : ObjectKey) : List Path :=
  if key.Same (controller.primaryKey canary) then
    TemplateController.idPlace :: ["status"] :: serverPlaces
  else serverPlaces

theorem mem_renewedPlaces {key : ObjectKey} {place : Path}
    (derived : object ∈ controller.derivedObjects canary)
    (here : key.Same ⟨controller.kind.name, object⟩)
    (h : place ∈
      freePlaces canary object ++ (builtPlaces canary object ++ freePlaces canary object)) :
    place ∈ renewedPlaces controller canary key := by
  unfold renewedPlaces
  by_cases own : object = TemplateController.primaryObject canary
  · subst own
    rw [if_pos (by exact here)]
    simp only [freePlaces, builtPlaces, if_true, List.mem_append, List.mem_cons] at h ⊢
    tauto
  · have other : ¬ key.Same (controller.primaryKey canary) := fun same =>
      own (eq_of_derivedObjects derived mem_derivedObjects_primary (here.symm.trans same).2)
    rw [if_neg other]
    simpa [freePlaces, builtPlaces, own] using h

theorem Derivation.agree {w w' : Value}
    (h : Derivation controller canary refs redirect object start log now)
    (h' : Derivation controller canary refs redirect object start log' now')
    (there : now.get? ⟨controller.kind.name, object⟩ = some w)
    (there' : now'.get? ⟨controller.kind.name, object⟩ = some w') :
    SameApart (freePlaces canary object ++ (builtPlaces canary object ++ freePlaces canary object))
      w w' := by
  have kept {w₀ w : Value}
      (same : w = w₀ ∨ object = TemplateController.primaryObject canary ∧ StatusUpdate w₀ w) :
      SameApart (freePlaces canary object) w₀ w := by
    rcases same with rfl | ⟨own, update⟩
    · exact .refl _ _
    · rw [freePlaces, if_pos own]
      exact update.same
  cases h with
  | found stored here same =>
    obtain rfl := Option.some.inj (there.symm.trans here)
    cases h' with
    | found stored' here' same' =>
      obtain rfl := Option.some.inj (there'.symm.trans here')
      obtain rfl := Option.some.inj (stored.symm.trans stored')
      exact (kept same).symm.append ((SameApart.refl _ _).append (kept same'))
    | missing before => cases stored.symm.trans before
    | made before => cases stored.symm.trans before
  | missing _ after => cases there.symm.trans after
  | made before stored manifest builds here same =>
    obtain rfl := Option.some.inj (there.symm.trans here)
    cases h' with
    | found stored' => cases before.symm.trans stored'
    | missing _ after => cases there'.symm.trans after
    | made _ stored' manifest' builds' here' same' =>
      obtain rfl := Option.some.inj (there'.symm.trans here')
      obtain rfl := Option.some.inj (stored.symm.trans stored')
      obtain rfl := Except.ok.inj (manifest.symm.trans manifest')
      exact same.symm.append ((builds.agree builds').append same')

/-- Whether a target is scaled down is settled by what it was at the start. -/
theorem ScaledSince.not_unchanged (done : Sealed controller canary now')
    (scaled : ScaledSince controller canary start now) :
    now'.get? (controller.targetKey canary) ≠ start.get? (controller.targetKey canary) := by
  obtain ⟨initial, -, c, v, target, name, body, kept, rfl, stored, marks, -⟩ := scaled
  intro unchanged
  obtain ⟨v', target', stored', manifest, marker⟩ := done.marked c rfl initial
  rw [unchanged] at stored'
  obtain rfl := Option.some.inj (stored.symm.trans stored')
  obtain rfl := Except.ok.inj (manifest.symm.trans marks.manifest)
  exact marks.unmarked marker

/-- Establishments from one store agree. -/
theorem Established.agree (h : Established controller canary refs redirect start log now)
    (h' : Established controller canary refs redirect start log' now') (key : ObjectKey) :
    now'.get? key = now.get? key ∨ ∃ w w', now.get? key = some w ∧ now'.get? key = some w' ∧
      SameApart (renewedPlaces controller canary key) w w' := by
  by_cases target : key.Same (controller.targetKey canary)
  · rw [Store.get?_congr now target, Store.get?_congr now' target]
    rcases h.target with unchanged | scaled
    · rcases h'.target with unchanged' | scaled'
      · exact .inl (unchanged'.trans unchanged.symm)
      · exact absurd unchanged (scaled'.not_unchanged h.toSealed)
    · rcases h'.target with unchanged' | scaled'
      · exact absurd unchanged' (scaled.not_unchanged h'.toSealed)
      · obtain ⟨-, -, c, v, _, name, body, kept, rfl, stored, marks, same, there⟩ := scaled
        obtain ⟨-, -, _, v', _, name', body', kept', ⟨⟩, stored', marks', same', there'⟩ := scaled'
        obtain rfl := Option.some.inj (stored.symm.trans stored')
        obtain rfl := marks.unique marks'
        refine .inr ⟨kept, kept', there, there', ?_⟩
        have not_primary : ¬ key.Same (Controller.primaryKey (.template c) canary) := fun same =>
          not_same_targetKey mem_derivedObjects_primary (same.symm.trans target)
        rw [renewedPlaces, if_neg not_primary]
        exact same.symm.trans same'
  · by_cases derived : ∃ object ∈ controller.derivedObjects canary,
        key.Same ⟨controller.kind.name, object⟩
    · obtain ⟨object, derived, here⟩ := derived
      obtain ⟨w, there⟩ := Option.isSome_iff_exists.mp (h.present object derived)
      obtain ⟨w', there'⟩ := Option.isSome_iff_exists.mp (h'.present object derived)
      refine .inr ⟨w, w', (Store.get?_congr now here).trans there,
        (Store.get?_congr now' here).trans there', ?_⟩
      exact ((h.derived object derived).agree (h'.derived object derived) there there').mono
        fun _ => mem_renewedPlaces derived here
    · have others : ∀ object ∈ controller.derivedObjects canary,
          ¬ key.Same ⟨controller.kind.name, object⟩ := fun object mem here =>
        derived ⟨object, mem, here⟩
      exact .inl ((h'.others key target others).trans (h.others key target others).symm)

end Outcomes

end CanaryRelease
