import CanaryRelease.Proofs.CallWrites
import CanaryRelease.Proofs.CalmRuns
import CanaryRelease.Proofs.PrimaryAgreement

/-!
# Targets and primaries are paired for good

The pairing label of a target is resolved afresh by every operation that needs it, while the
primary's selector is written once, when the primary is created. They never come apart:
`pairing_kept` says that, as long as the target selects by the same labels, the primary selects by
the pairing label alone, with a value of its own that its template carries, so it selects its own
pods and never those of the target, and the target never selects those of the primary.

A promotion may write back a primary that was read long before, so the invariant is about all stores
of the run (`Selecting.paired`).
-/

namespace CanaryRelease

open Program Workload PodTemplate Value

/-- The place of the labels by which a workload selects its pods. -/
def PodTemplate.matchLabelsPlace : Path := ["spec", "selector", "matchLabels"]

/-- A selector selects what has all its labels. -/
def Selects (selector labels : Fields) : Prop :=
  ∀ key v, selector.get? key = some v → labels.get? key = some v

namespace TemplateController

variable {c : TemplateController} {canary : Canary} {log : List Exchange} {label value : String}
  {selected fs : Fields} {candidates : List String} {target v : Value}

/-! ## Resolving the pairing label -/

/-- Among some candidates only one label is selected by, with a text for its value. -/
structure Resolves (candidates : List String) (selected : Fields) (label value : String) :
    Prop where
  only : candidates.filter (fun candidate : String => (selected.get? candidate).isSome) = [label]
  value : selected.get? label = some (.text value)

theorem Resolves.unique {label' value' : String} (h : Resolves candidates selected label value)
    (h' : Resolves candidates selected label' value') : label' = label ∧ value' = value := by
  obtain ⟨rfl⟩ : [label'] = [label] := h'.only.symm.trans h.only
  exact ⟨rfl, Value.text.inj (Option.some.inj (h'.value.symm.trans h.value))⟩

theorem filterAuxM_mentions (candidates found : List String) (fs : Fields) :
    candidates.filterAuxM (object fs).mentions found =
      .ok ((candidates.filter fun candidate : String => (fs.get? candidate).isSome).reverse ++
        found) := by
  induction candidates generalizing found with
  | nil => rfl
  | cons candidate candidates ih =>
    change candidates.filterAuxM (object fs).mentions
      (cond (fs.get? candidate).isSome (candidate :: found) found) = _
    rw [ih, List.filter_cons]
    cases (fs.get? candidate).isSome with
    | true => simp
    | false => simp

theorem filterM_mentions (candidates : List String) (fs : Fields) :
    candidates.filterM (object fs).mentions =
      .ok (candidates.filter fun candidate : String => (fs.get? candidate).isSome) := by
  rw [List.filterM, filterAuxM_mentions]
  exact congrArg Except.ok (by simp)

theorem resolves_of_pairingLabel (h : c.pairingLabel target = .ok (label, v))
    (selects : selectedLabels target = .object fs)
    (same : ∀ key, fs.get? key = selected.get? key)
    (texts : ∀ key x, selected.get? key = some x → ∃ s, x = .text s) :
    ∃ value, v = .text value ∧ Resolves c.labels selected label value := by
  obtain ⟨found, required⟩ := pairingLabel_eq_ok h
  rw [selects, filterM_mentions] at found
  rw [selects] at required
  obtain ⟨_, ⟨⟩, stands⟩ := require_eq_ok.mp required
  rw [same] at stands
  obtain ⟨value, rfl⟩ := texts _ _ stands
  refine ⟨value, rfl, ?_, stands⟩
  rw [← Except.ok.inj found]
  simp only [same]

theorem ends_pairing {p : Pairing} (h : Ends (c.pairing canary) log (.ok p)) :
    ∃ v target, log = [readExchange (.template c.kind) canary.targetObject (.ok v)] ∧
      v.toManifest = .ok target ∧ c.pairingLabel target = .ok (p.label, p.value) := by
  unfold pairing at h
  obtain ⟨target, _, _, rfl, ht, rest⟩ := ends_bind_ok.mp h
  obtain ⟨v, rfl, hv⟩ := ends_fetch.mp ht
  obtain ⟨⟨label, value⟩, paired, rest⟩ := ends_lift_bind.mp rest
  refine ⟨v, target, ?_⟩
  dsimp only at rest
  split at rest
  · obtain ⟨rfl, ⟨⟩⟩ := ends_pure.mp rest
    exact ⟨rfl, hv, paired⟩
  · simp only [ends_lift_bind] at rest
    obtain ⟨_, -, _, -, _, -, _, -, _, -, ended⟩ := rest
    obtain ⟨rfl, ⟨⟩⟩ := ends_pure.mp ended
    exact ⟨rfl, hv, paired⟩

/-- The steps that resolve the pairing label of a target that was read end alike: either each of
the operations fails with the same failure, or each goes on with the same label and value. -/
structure ResolveTogether (c : TemplateController) (canary : Canary) (v target : Value) : Prop where
  fail : ∀ failure, c.pairingLabel target = .error failure →
    let read := [readExchange (.template c.kind) canary.targetObject (.ok v)]
    Ends (c.pairing canary) read (.error failure) ∧ Ends (c.promote canary) read (.error failure) ∧
      (c.checkStrategy target = .ok () → Ends (c.createPrimary canary) read (.error failure))
  succeed : ∀ label value, c.pairingLabel target = .ok (label, value) →
    let read := [readExchange (.template c.kind) canary.targetObject (.ok v)]
    let next := Request.readObject (.template c.kind) (primaryObject canary)
    (∀ p, Ends (c.pairing canary) read (.ok p) → p.label = label ∧ p.value = value) ∧
      (canary.service.portDiscovery = false →
        Ends (c.pairing canary) read (.ok ⟨label, value, none⟩)) ∧
      Asks (c.promote canary) read next ∧
      (c.checkStrategy target = .ok () → Asks (c.createPrimary canary) read next)

theorem resolveTogether (manifest : v.toManifest = .ok target) :
    ResolveTogether c canary v target := by
  have fetched : Ends (fetch (.template c.kind) canary.targetObject)
      [readExchange (.template c.kind) canary.targetObject (.ok v)] (.ok target) :=
    ends_fetch.mpr ⟨v, rfl, manifest⟩
  constructor
  · intro failure unresolved
    have stops {α : Type} (f : String × Value → Program α) :
        Ends (liftM (c.pairingLabel target) >>= f) [] (.error failure) :=
      ends_bind.mpr (.inl ⟨failure, ends_lift.mpr ⟨rfl, unresolved.symm⟩, rfl⟩)
    refine ⟨ends_bind.mpr (.inr ⟨target, [_], [], rfl, fetched, stops _⟩),
      ends_bind.mpr (.inr ⟨target, [_], [], rfl, fetched, stops _⟩), fun accepted => ?_⟩
    refine ends_bind.mpr (.inr ⟨target, [_], [], rfl, fetched, ends_bind.mpr (.inr ?_)⟩)
    exact ⟨(), [], [], rfl, ends_lift.mpr ⟨rfl, accepted.symm⟩, stops _⟩
  · intro label value resolved
    refine ⟨?_, ?_, ?_, ?_⟩
    · intro p ended
      obtain ⟨w, target', hlog, hw, paired⟩ := ends_pairing ended
      obtain ⟨⟩ := hlog
      obtain rfl := Except.ok.inj (hw.symm.trans manifest)
      obtain ⟨⟩ := Except.ok.inj (paired.symm.trans resolved)
      exact ⟨rfl, rfl⟩
    · intro off
      refine ends_bind_ok.mpr ⟨target, [_], [], rfl, fetched, ends_lift_bind.mpr ⟨_, resolved, ?_⟩⟩
      rw [off]
      exact ends_pure.mpr ⟨rfl, rfl⟩
    · refine asks_bind.mpr (.inr ⟨target, [_], [], rfl, fetched, ?_⟩)
      refine asks_lift_bind.mpr ⟨_, resolved, asks_bind.mpr (.inl (asks_bind.mpr (.inl ?_)))⟩
      exact asks_request.mpr ⟨rfl, rfl⟩
    · intro accepted
      refine asks_bind.mpr (.inr ⟨target, [_], [], rfl, fetched, ?_⟩)
      refine asks_lift_bind.mpr ⟨(), accepted, asks_lift_bind.mpr ⟨_, resolved, ?_⟩⟩
      exact asks_bind.mpr (.inl (asks_bind.mpr (.inl (asks_request.mpr ⟨rfl, rfl⟩))))

/-! ## Paired primaries -/

/-- A primary selects by the pairing label alone, with a value of its own that its template carries
as well. -/
structure PairedPrimary (label value : String) (primary : Value) : Prop where
  selector : primary.at? matchLabelsPlace =
    some (.object [(.text label, .text (value ++ "-primary"))])
  labels : ∃ labels : Fields, primary.at? labelsPlace = some (.object labels) ∧
    labels.get? label = some (.text (value ++ "-primary"))

variable {refs : List ConfigRef} {body kept primary : Value} {kind : TemplateKind}

theorem matchLabels_of_primaryBody
    (h : Ends (c.primaryBody canary target label value refs) log (.ok body)) :
    body.at? matchLabelsPlace = some (.object [(.text label, .text value)]) := by
  obtain ⟨_, _, _, -, -, -, rfl⟩ := exists_parts_of_primaryBody h
  change (object ((Fields.set _ (.text "selector") _).set (.text "template") _)).at?
    ["selector", "matchLabels"] = _
  rw [at?_set, if_neg (by decide), at?_set, if_pos rfl]
  rfl

theorem labels_of_twin {redirected : Value} {id : String}
    (h : Twin kind target label (primaryName (.text value)) redirected id primary) :
    ∃ labels : Fields, primary.at? labelsPlace = some (.object labels) ∧
      labels.get? label = some (.text (value ++ "-primary")) := by
  obtain ⟨labels, stands, twin⟩ := h.labels
  exact ⟨labels, stands, (twin label).trans (if_pos rfl)⟩

theorem paired_of_primaryBody
    (h : Ends (c.primaryBody canary target label (primaryName (.text value)) refs) log (.ok body)) :
    PairedPrimary label value body := by
  obtain ⟨-, id, redirected, -, -, twin⟩ := ends_primaryBody h
  exact ⟨matchLabels_of_primaryBody h, labels_of_twin twin⟩

theorem PairedPrimary.congr (h : PairedPrimary label value primary)
    (same : SameApart serverPlaces primary kept) : PairedPrimary label value kept := by
  obtain ⟨selector, labels⟩ := h
  constructor
  · rw [same _ (by simp [serverPlaces, matchLabelsPlace]), selector]
  · rw [same _ (by simp [serverPlaces, labelsPlace])]
    exact labels

theorem apart_matchLabelsPlace :
    ∀ place ∈ (["apiVersion"] : Path) :: ["kind"] :: twinPlaces kind,
      Path.Apart matchLabelsPlace place := by
  intro place hp
  simp only [List.mem_cons, twinPlaces, List.mem_append, List.mem_map, List.not_mem_nil,
    or_false] at hp
  rcases hp with rfl | rfl | ⟨field, hf, rfl⟩ | rfl | rfl | rfl
  · simp [matchLabelsPlace]
  · simp [matchLabelsPlace]
  · obtain ⟨-, other, -⟩ := ne_of_mem_policyFields hf
    simpa [matchLabelsPlace] using other
  · simp [matchLabelsPlace, podSpecPlace]
  · simp [matchLabelsPlace, annotationsPlace]
  · simp [matchLabelsPlace, labelsPlace]

theorem PairedPrimary.promoted {w redirected : Value} {id : String}
    (h : PairedPrimary label value w) (manifest : w.toManifest = .ok primary)
    (written : WrittenBack (.template kind) (twinPlaces kind) primary body)
    (twin : Twin kind target label (primaryName (.text value)) redirected id body) :
    PairedPrimary label value body := by
  refine ⟨?_, labels_of_twin twin⟩
  obtain ⟨fs, -, parts⟩ := toManifest_eq_ok manifest
  rw [written.same _ apart_matchLabelsPlace, matchLabelsPlace, parts, at?_wire]
  exact congrArg (Option.map wire) h.selector

/-! ## Runs in which the selector is kept -/

variable {programs : Nat → Program Value} {start store : Store} {past : List Moment} {m : Moment}
  {moments : List Moment} {caller : Nat} {operation : Operation}

/-- A caller makes a call on the target of a canary, with the candidates of its controller. -/
def Calls (c : TemplateController) (canary : Canary) (programs : Nat → Program Value) (caller : Nat)
    (operation : Operation) : Prop :=
  ∃ c' other, c'.kind = c.kind ∧ c'.labels = c.labels ∧
    other.targetObject = canary.targetObject ∧
    programs caller = Controller.call (.template c') operation other

/-- A primary is written by the controllers of its canary: it is created when the canary is
established, and then promoted. -/
inductive Maintains (c : TemplateController) (canary : Canary) (programs : Nat → Program Value) :
    Event → Prop where
  | creates {caller : Nat} {space body : Value} {disturbed : Bool}
      (calls : Calls c canary programs caller .establish) :
      Maintains c canary programs
        (.exchange caller (createExchange (.template c.kind) space body (.ok ())) disturbed)
  | promotes {caller : Nat} {e : Exchange} {disturbed : Bool}
      (calls : Calls c canary programs caller .promote) :
      Maintains c canary programs (.exchange caller e disturbed)

theorem Maintains.exists_exchange {event : Event} (h : Maintains c canary programs event) :
    ∃ caller e disturbed, event = .exchange caller e disturbed := by
  cases h with
  | creates => exact ⟨_, _, _, rfl⟩
  | promotes => exact ⟨_, _, _, rfl⟩

/-- The primary is as it was before a moment, or a call of the controllers has put it there. -/
theorem kept_or_maintained {w : Value} (follows : m.Follows programs past)
    (writers : m.event.Writes (c.primaryKey canary) → Maintains c canary programs m.event)
    (stored : m.after.get? (c.primaryKey canary) = some w) :
    m.before.get? (c.primaryKey canary) = some w ∨
      Maintains c canary programs m.event ∧ ∃ caller e disturbed key body,
        m.event = .exchange caller e disturbed ∧ e.request.change? = some (key, body) ∧
          SameApart serverPlaces body w := by
  by_cases writes : m.event.Writes (c.primaryKey canary)
  · right
    obtain ⟨caller, e, disturbed, event⟩ := (writers writes).exists_exchange
    have served := (follows.asks event).2
    rw [event] at writes
    obtain ⟨key, body, kept, change, same, here, put⟩ := served.exists_put writes
    rw [put, Store.get?_put, if_pos same] at stored
    obtain rfl := Option.some.inj stored
    exact ⟨writers (event ▸ writes), caller, e, disturbed, key, body, event, change, here⟩
  · left
    rcases follows.get?_of_not_writes writes with same | gone
    · exact same ▸ stored
    · rw [gone] at stored
      cases stored

/-- The labels that a store's target selects by are the given ones. -/
def SelectsBy (c : TemplateController) (canary : Canary) (selected : Fields) (s : Store) : Prop :=
  ∀ v, s.get? (c.targetKey canary) = some v →
    ∃ fs : Fields, selectedLabels v.wire = .object fs ∧ ∀ key, fs.get? key = selected.get? key

/-- A canary's target selects by the same labels all along, and nobody but its controllers writes
the primary, which is missing at the start. -/
structure Selecting (c : TemplateController) (canary : Canary) (selected : Fields)
    (programs : Nat → Program Value) (start : Store) (moments : List Moment) : Prop where
  texts : ∀ key v, selected.get? key = some v → ∃ s, v = .text s
  selects : ∀ m ∈ moments, SelectsBy c canary selected m.before
  missing : start.get? (c.primaryKey canary) = none
  writers : ∀ m ∈ moments, m.event.Writes (c.primaryKey canary) →
    Maintains c canary programs m.event

theorem Selecting.of_append {future : List Moment}
    (h : Selecting c canary selected programs start (past ++ future)) :
    Selecting c canary selected programs start past :=
  ⟨h.texts, fun m hm => h.selects m (List.mem_append_left _ hm), h.missing,
    fun m hm => h.writers m (List.mem_append_left _ hm)⟩

/-- The primary of a store, if there is one, is paired by what the target selects by. -/
def Paired (c : TemplateController) (canary : Canary) (selected : Fields) (s : Store) : Prop :=
  ∀ w, s.get? (c.primaryKey canary) = some w →
    ∃ label value, Resolves c.labels selected label value ∧ PairedPrimary label value w

theorem Selecting.resolves (h : Selecting c canary selected programs start past)
    (run : Run programs start past store) {c' : TemplateController} (labels : c'.labels = c.labels)
    (read : readExchange (.template c.kind) canary.targetObject (.ok v) ∈ exchangesOf caller past)
    (manifest : v.toManifest = .ok target) {x : Value}
    (paired : c'.pairingLabel target = .ok (label, x)) :
    ∃ value, x = .text value ∧ Resolves c.labels selected label value := by
  obtain ⟨m, hm, stored⟩ := run.exists_read read
  obtain ⟨fs, selects, same⟩ := h.selects m hm v stored
  obtain ⟨gs, -, parts⟩ := toManifest_eq_ok manifest
  have here : selectedLabels target = .object fs := by
    rw [← selects, selectedLabels, selectedLabels, parts]
  rw [← labels]
  exact resolves_of_pairingLabel paired here same h.texts

theorem Selecting.paired_of_maintains {key : ObjectKey}
    (h : Selecting c canary selected programs start past) (run : Run programs start past m.before)
    (follows : m.Follows programs past) (maintains : Maintains c canary programs m.event)
    (earlier : ∀ r ∈ past, Paired c canary selected r.before)
    (written : ∃ caller e disturbed, m.event = .exchange caller e disturbed ∧
      e.request.change? = some (key, body)) :
    ∃ label value, Resolves c.labels selected label value ∧ PairedPrimary label value body := by
  obtain ⟨caller, e, disturbed, event, change⟩ := written
  obtain ⟨asks, -⟩ := follows.asks event
  rw [event] at maintains
  have writes : e.request.isWrite = true := Request.isWrite_of_change? change
  cases maintains with
  | @creates _ space _ _ calls =>
    obtain ⟨c', other, kind_eq, labels, target_eq, call⟩ := calls
    rw [call] at asks
    obtain ⟨-, rfl⟩ := Prod.mk.inj (Option.some.inj change)
    obtain creating | ⟨_, _, _, -, -, -, -, scaling⟩ :=
      writes_establish (Controller.writes_silent.mp ⟨asks, rfl⟩)
    · obtain ⟨v, target, label, x, _, refs, made, body, hlog, hv, paired, hb, hr⟩ :=
        exists_body_of_writes creating
      obtain ⟨-, -, rfl⟩ := Request.createObject.inj hr
      have read : readExchange (.template c.kind) canary.targetObject (.ok v) ∈
          exchangesOf caller past := by simp [hlog, ← kind_eq, ← target_eq]
      obtain ⟨value, rfl, resolves⟩ := h.resolves run labels read hv paired
      exact ⟨label, value, resolves, paired_of_primaryBody hb⟩
    · obtain ⟨_, _, _, _, -, -, -, ⟨⟩, -⟩ := writes_scaleToZero scaling
  | promotes calls =>
    obtain ⟨c', other, kind_eq, labels, target_eq, call⟩ := calls
    rw [call] at asks
    obtain ⟨v, target, label, x, w, primary, refs, redirected, id, name, body, hlog, hv, paired, hw,
      -, hr, written, twin⟩ := writes_promote (Controller.writes_silent.mp ⟨asks, writes⟩)
    rw [hr] at change
    obtain ⟨-, rfl⟩ := Prod.mk.inj (Option.some.inj change)
    have read : readExchange (.template c.kind) canary.targetObject (.ok v) ∈
        exchangesOf caller past := by simp [hlog, ← kind_eq, ← target_eq]
    have read_primary : readExchange (.template c.kind) (primaryObject canary) (.ok w) ∈
        exchangesOf caller past := by simp [hlog, ← kind_eq, ← primaryObject_congr target_eq]
    obtain ⟨value, rfl, resolves⟩ := h.resolves run labels read hv paired
    obtain ⟨r, hr, stored⟩ := run.exists_read read_primary
    obtain ⟨label', value', resolves', now⟩ := earlier r hr w stored
    obtain ⟨rfl, rfl⟩ := resolves'.unique resolves
    exact ⟨_, _, resolves, now.promoted hw written twin⟩

/-- A moment leaves the primary paired if it was paired before, whichever version is written. -/
theorem Selecting.paired_after (h : Selecting c canary selected programs start (past ++ [m]))
    (run : Run programs start past m.before) (follows : m.Follows programs past)
    (now : Paired c canary selected m.before)
    (earlier : ∀ r ∈ past, Paired c canary selected r.before) :
    Paired c canary selected m.after := by
  intro w stored
  have writers := h.writers m (List.mem_append_right _ List.mem_cons_self)
  obtain before | ⟨maintains, caller, e, disturbed, key, body, event, change, here⟩ :=
    kept_or_maintained follows writers stored
  · exact now w before
  · obtain ⟨label, value, resolves, paired⟩ :=
      h.of_append.paired_of_maintains run follows maintains earlier
        ⟨caller, e, disturbed, event, change⟩
    exact ⟨label, value, resolves, paired.congr here⟩

theorem Selecting.paired (h : Selecting c canary selected programs start moments)
    (run : Run programs start moments store) : Paired c canary selected store := by
  suffices all : ∀ s ∈ store :: moments.map Moment.before, Paired c canary selected s from
    all store List.mem_cons_self
  induction run with
  | start =>
    intro s hs w stored
    obtain rfl := List.mem_singleton.mp hs
    rw [h.missing] at stored
    cases stored
  | @step past m run follows ih =>
    have before := ih h.of_append
    have now := before m.before List.mem_cons_self
    have earlier : ∀ r ∈ past, Paired c canary selected r.before := fun r hr =>
      before r.before (List.mem_cons_of_mem _ (List.mem_map_of_mem hr))
    intro s hs
    rw [List.map_append, List.mem_cons, List.mem_append] at hs
    rcases hs with rfl | hs | hs
    · exact h.paired_after run follows now earlier
    · exact before s (List.mem_cons_of_mem _ hs)
    · rw [List.mem_singleton.mp hs]
      exact now

theorem Selecting.answer_eq (h : Selecting c canary selected programs start moments)
    (run : Run programs start moments store) (resolves : Resolves c.labels selected label value)
    (calls : Calls c canary programs caller .pairing) {answer : Value}
    (ended : Ends (programs caller) (exchangesOf caller moments) (.ok answer)) :
    ∃ ports, answer = .list [.text label, .text value, ports] := by
  obtain ⟨c', other, kind_eq, labels, target_eq, call⟩ := calls
  rw [call] at ended
  obtain ⟨p, log, _, hlog, found, answering⟩ := ends_bind_ok.mp ended
  obtain ⟨rfl, ⟨⟩⟩ := ends_pure.mp answering
  obtain ⟨v, target, rfl, manifest, paired⟩ := ends_pairing found
  have read : readExchange (.template c.kind) canary.targetObject (.ok v) ∈
      exchangesOf caller moments := by simp [hlog, ← kind_eq, ← target_eq]
  obtain ⟨value', hvalue, resolves'⟩ := h.resolves run labels read manifest paired
  obtain ⟨hlabel, rfl⟩ := resolves.unique resolves'
  exact ⟨_, by rw [Pairing.toValue, hlabel, hvalue]⟩

/-- At every moment of a run in which the target selects by the same labels, and the primary is made
and kept by the controllers alone, the primary selects by the pairing label that every pairing call
answers, with a value of its own that its template carries. So it selects its own pods, the target
selects none of the primary's, and the primary none of a target's that selects its own. All three
operations resolve the label alike. -/
theorem pairing_kept (selecting : Selecting c canary selected programs start moments)
    (run : Run programs start moments store) :
    (∀ w, store.get? (c.primaryKey canary) = some w →
      ∃ (label value : String) (labels : Fields),
        let selector : Fields := [(.text label, .text (value ++ "-primary"))]
        Resolves c.labels selected label value ∧
        (∀ caller answer, Calls c canary programs caller .pairing →
          Ends (programs caller) (exchangesOf caller moments) (.ok answer) →
            ∃ ports, answer = .list [.text label, .text value, ports]) ∧
        w.at? matchLabelsPlace = some (.object selector) ∧
        w.at? labelsPlace = some (.object labels) ∧
        labels.get? label = some (.text (value ++ "-primary")) ∧
        Selects selector labels ∧ ¬ Selects selected labels ∧
        ∀ own, Selects selected own → ¬ Selects selector own) ∧
    ∀ other v target, v.toManifest = .ok target → ResolveTogether c other v target := by
  refine ⟨fun w stored => ?_, fun other v target manifest => resolveTogether manifest⟩
  obtain ⟨label, value, resolves, matchLabels, labels, stands, paired⟩ :=
    selecting.paired run w stored
  -- the value that the primary selects by is the target's with something added
  have other_value : value ++ "-primary" ≠ value := by simp
  have selected_label (labels : Fields) (h : Selects selected labels) :
      labels.get? label = some (.text value) := h _ _ resolves.value
  refine ⟨label, value, labels, resolves, fun caller answer calls ended =>
    selecting.answer_eq run resolves calls ended, matchLabels, stands, paired, ?_, ?_, ?_⟩
  · intro key x found
    rw [Fields.get?_cons] at found
    split at found
    · rename_i same
      rw [Key.text_same.mp same, paired, found]
    · cases found
  · intro selects
    have same := paired.symm.trans (selected_label labels selects)
    exact other_value (Value.text.inj (Option.some.inj same))
  · intro own selects selects_own
    have same := (selects_own label _ (Fields.get?_set_self [] _ _)).symm.trans
      (selected_label own selects)
    exact other_value (Value.text.inj (Option.some.inj same))

/-- The Deployment `web` with template labels that name its primary. -/
def sampleRelabeled : Value :=
  .object [
    ("metadata", .object [("name", .text "web"), ("namespace", .text "prod"),
      ("resourceVersion", .text "9"), ("generation", .int 4)]),
    ("spec", .object [
      ("selector", .object [("matchLabels", .object [("app", .text "web")])]),
      ("template", .object [("metadata", .object [
        ("labels", .object [("app", .text "web-primary"), ("tier", .text "front")])])])])]

/-- One caller establishes the canary, one promotes it, and others ask for the pairing. -/
def samplePairingPrograms : Nat → Program Value
  | 0 => Controller.call (.template sampleController) .establish sampleRelease
  | 1 => Controller.call (.template sampleController) .promote sampleRelease
  | _ => Controller.call (.template sampleController) .pairing sampleRelease

/-- The site after the canary was established and somebody changed the labels of the target. -/
def sampleRelabeledSite : Site :=
  { sampleEstablished with
    server := { sampleEstablished.server with
      store := sampleEstablished.server.store.put (sampleController.targetKey sampleRelease)
        sampleRelabeled } }

/-- The site after the promotion of the changed target. -/
def samplePromotedSite : Site := (sampleRelabeledSite.run (samplePairingPrograms 1)).2

/-- What happens until the labels of the target were changed. -/
def sampleRelabeling : List Moment :=
  (sampleSite [] [("web", "1")]).moments 0 (samplePairingPrograms 0) ++
    [⟨sampleEstablished.server.store,
      .edit (sampleController.targetKey sampleRelease) (some sampleRelabeled),
      sampleRelabeledSite.server.store⟩]

/-- What happens when after that the primary is promoted and the pairing is asked for. -/
def samplePairingMoments : List Moment :=
  sampleRelabeling ++ sampleRelabeledSite.moments 1 (samplePairingPrograms 1) ++
    samplePromotedSite.moments 2 (samplePairingPrograms 2)

theorem run_samplePairingMoments :
    Run samplePairingPrograms (sampleSite [] [("web", "1")]).server.store samplePairingMoments
      (samplePromotedSite.run (samplePairingPrograms 2)).2.server.store := by
  have established : Run samplePairingPrograms (sampleSite [] [("web", "1")]).server.store
      ([] ++ (sampleSite [] [("web", "1")]).moments 0 (samplePairingPrograms 0))
      sampleEstablished.server.store := Site.run_of_call rfl .start rfl
  have relabeled : Run samplePairingPrograms (sampleSite [] [("web", "1")]).server.store
      sampleRelabeling sampleRelabeledSite.server.store := .step established .edit
  have promoted : Run samplePairingPrograms (sampleSite [] [("web", "1")]).server.store
      (sampleRelabeling ++ sampleRelabeledSite.moments 1 (samplePairingPrograms 1))
      samplePromotedSite.server.store := Site.run_of_call rfl relabeled (by decide +kernel)
  exact Site.run_of_call rfl promoted (by decide +kernel)

/-- Caller 0 creates Deployments and caller 1 does what it likes; the primary of the sample is
written by nobody else. -/
def keepsToCallers (event : Event) : Bool :=
  let elsewhere := (event.written?.map fun key =>
    decide (¬ key.Same (sampleController.primaryKey sampleRelease))).getD true
  match event with
  | .exchange 0 ⟨.createObject kind _ _, reply⟩ _ =>
    decide (kind = .template .deployment) && Except.toBool reply
  | .exchange 1 _ _ => true
  | .exchange .. | .edit .. => elsewhere

theorem maintains_of_keepsToCallers {event : Event} (h : keepsToCallers event = true)
    (establishes : Calls sampleController sampleRelease programs 0 .establish)
    (promotes : Calls sampleController sampleRelease programs 1 .promote)
    (writes : event.Writes (sampleController.primaryKey sampleRelease)) :
    Maintains sampleController sampleRelease programs event := by
  have elsewhere (h : (event.written?.map fun key =>
      decide (¬ key.Same (sampleController.primaryKey sampleRelease))).getD true = true) :
      Maintains sampleController sampleRelease programs event := by
    obtain ⟨key, hk, same⟩ := writes
    rw [hk] at h
    exact absurd same (of_decide_eq_true h)
  cases event with
  | edit key value => exact elsewhere h
  | exchange caller e disturbed =>
    obtain ⟨request, reply⟩ := e
    match caller with
    | 0 =>
      cases request with
      | createObject kind space body =>
        obtain ⟨isDeployment, created⟩ := Bool.and_eq_true_iff.mp h
        obtain rfl := of_decide_eq_true isDeployment
        cases reply with
        | error failure => cases created
        | ok u => exact .creates establishes
      | _ => exact elsewhere h
    | 1 => exact .promotes promotes
    | n + 2 => exact elsewhere h

theorem selecting_samplePairingMoments :
    Selecting sampleController sampleRelease [("app", .text "web")] samplePairingPrograms
      (sampleSite [] [("web", "1")]).server.store samplePairingMoments := by
  have selects : (samplePairingMoments.all fun m =>
      (m.before.get? (sampleController.targetKey sampleRelease)).all fun v =>
        decide (selectedLabels v.wire = .object [("app", .text "web")])) = true := by
    decide +kernel
  have written : (samplePairingMoments.all fun m => keepsToCallers m.event) = true := by
    decide +kernel
  refine ⟨?_, ?_, by decide +kernel, fun m hm writes => ?_⟩
  · intro key v found
    rw [Fields.get?_cons] at found
    split at found
    · exact ⟨"web", (Option.some.inj found).symm⟩
    · cases found
  · intro m hm v stored
    have here := List.all_eq_true.mp selects m hm
    rw [stored] at here
    exact ⟨_, of_decide_eq_true here, fun _ => rfl⟩
  · exact maintains_of_keepsToCallers (List.all_eq_true.mp written m hm) ⟨_, _, rfl, rfl, rfl, rfl⟩
      ⟨_, _, rfl, rfl, rfl, rfl⟩ writes

/-- A primary stays paired when it is promoted after somebody gave its target the primary's own
label. -/
theorem samplePromoted_keeps_pairing :
    ∃ (w : Value) (labels : Fields),
      (samplePromotedSite.run (samplePairingPrograms 2)).2.server.store.get?
        (sampleController.primaryKey sampleRelease) = some w ∧
      w.at? matchLabelsPlace = some (.object [("app", .text "web-primary")]) ∧
      w.at? labelsPlace = some (.object labels) ∧
      labels.get? "app" = some (.text "web-primary") ∧
      (samplePromotedSite.run (samplePairingPrograms 2)).1 =
        .ok (.list [.text "app", .text "web", .null]) ∧
      ¬ Selects [("app", .text "web")] labels := by
  obtain ⟨w, stored⟩ : ∃ w, (samplePromotedSite.run (samplePairingPrograms 2)).2.server.store.get?
      (sampleController.primaryKey sampleRelease) = some w := Option.isSome_iff_exists.mp (by
    decide +kernel)
  have resolved : Resolves sampleController.labels [("app", .text "web")] "app" "web" :=
    ⟨by decide, rfl⟩
  obtain ⟨label, value, labels, resolves, -, matchLabels, stands, paired, -, apart, -⟩ :=
    (pairing_kept selecting_samplePairingMoments run_samplePairingMoments).1 w stored
  obtain ⟨rfl, rfl⟩ := resolved.unique resolves
  exact ⟨w, labels, stored, matchLabels, stands, paired, by decide +kernel, apart⟩

end TemplateController

end CanaryRelease
