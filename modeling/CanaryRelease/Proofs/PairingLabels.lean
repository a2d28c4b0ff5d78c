import CanaryRelease.Proofs.CommaLists
import CanaryRelease.Proofs.Pairings
import CanaryRelease.Workload.Registry
import Mathlib.Logic.ExistsUnique
import Mathlib.Order.Defs.PartialOrder

/-!
# Exactly one candidate is the pairing label

The candidates for the pairing label are listed in the environment, and exactly one of them has to
be among the labels that a target selects its pods by. `pairing_label_by_rule` says what comes of
that for every list and every target: the label that is resolved, the error if there is none, and
that neither the order of the list nor the blanks in it matter.

What is counted are the entries of the list, not the labels: a label that is listed twice and that
the target selects by is refused as if it were two (`repeated_candidate_refused`).
-/

namespace CanaryRelease

open Program Workload PodTemplate Value

namespace TemplateController

variable {c c' : TemplateController} {environment environment' : Environment}
  {target v : Value} {label : String}

/-! ## Targets with labels to select by -/

/-- What a workload selects its pods by under a label. -/
def selectedBy? (workload : Value) (label : String) : Option Value :=
  workload.at? (matchLabelsPlace ++ [.text label])

/-- A label is one of those that a workload selects its pods by. -/
def selectsBy (workload : Value) (label : String) : Bool := (selectedBy? workload label).isSome

/-- The name that an object gives itself, null where it gives none. -/
def givenName (v : Value) : ObjectName :=
  ⟨(v.at? ["metadata", "name"]).getD .null, (v.at? ["metadata", "namespace"]).getD .null⟩

/-- A target whose metadata, and whose labels to select by, are objects where they are set. -/
structure Legible (target : Value) : Prop where
  object : ∃ fs : Fields, target = .object fs
  metadata : SectionAt target ["metadata"]
  spec : SectionAt target ["spec"]
  selector : SectionAt target ["spec", "selector"]
  labels : SectionAt target matchLabelsPlace

theorem claimedName_object (h : IsSection target "metadata" (.object fs)) :
    claimedName (.object fs) = .ok (givenName target) := by
  have field (s : String) :
      (Value.object fs).get (.text s) = .ok ((target.at? ["metadata", .text s]).getD .null) :=
    get_eq_ok.mpr ⟨fs, rfl, by rw [← h, at?_object_singleton]⟩
  rw [claimedName, field, field]
  rfl

theorem Legible.exists_matchLabels (h : Legible target) :
    ∃ fs : Fields, matchLabels target = .ok (.object fs) ∧
      ∀ label : String, fs.get? label = selectedBy? target label := by
  obtain ⟨ts, rfl⟩ := h.object
  obtain ⟨ss, hspec⟩ := h.spec.exists_getSection
  have inSpec := isSection_of_getSection hspec
  obtain ⟨ls, hselector⟩ := (h.selector.of_isSection inSpec).exists_getSection
  have inSelector := isSection_of_getSection hselector
  have labels : SectionAt (.object ls) ["matchLabels"] :=
    (h.labels.of_isSection inSpec).of_isSection inSelector
  obtain ⟨fs, hlabels⟩ := labels.exists_getSection
  have inLabels := isSection_of_getSection hlabels
  refine ⟨fs, ?_, fun label => ?_⟩
  · unfold matchLabels
    exact bind_eq_ok.mpr ⟨_, hspec, bind_eq_ok.mpr ⟨_, hselector, hlabels⟩⟩
  · rw [selectedBy?, matchLabelsPlace, List.cons_append, List.cons_append, List.cons_append,
      List.nil_append, ← inSpec, ← inSelector, ← inLabels, at?_object_singleton]

/-! ## The rule on entries -/

/-- What is wrong with a target that leaves no entry, or a choice of them. -/
def refusal (c : TemplateController) (target : Value) : WorkloadError :=
  .configuration (.pairingLabel c.kind (givenName target) c.labels
    (c.labels.any (selectsBy target)))

theorem Legible.pairingLabel_eq (h : Legible target) :
    c.pairingLabel target =
      match c.labels.filter (selectsBy target) with
      | [label] => .ok (label, (selectedBy? target label).getD .null)
      | _ => .error (.workload (c.refusal target)) := by
  obtain ⟨fs, hlabels, stands⟩ := h.exists_matchLabels
  obtain ⟨ts, rfl⟩ := h.object
  obtain ⟨ms, hmetadata⟩ := h.metadata.exists_getSection
  have claimed := claimedName_object (isSection_of_getSection hmetadata)
  have entries : c.labels.filterM (Value.object fs).mentions =
      .ok (c.labels.filter (selectsBy (.object ts))) := by
    rw [filterM_mentions]
    simp only [stands]
    rfl
  have several : c.labels.any (selectsBy (.object ts)) =
      !(c.labels.filter (selectsBy (.object ts))).isEmpty := by
    rw [Bool.eq_iff_iff]
    simp
  unfold pairingLabel refusal
  simp only [hmetadata, hlabels, entries, Bind.bind, Except.bind, claimed, several]
  rcases found : c.labels.filter (selectsBy (.object ts)) with _ | ⟨label, _ | ⟨other, rest⟩⟩
  · rfl
  · have mem : label ∈ c.labels.filter (selectsBy (.object ts)) := found ▸ List.mem_cons_self
    obtain ⟨v, hv⟩ := Option.isSome_iff_exists.mp (List.mem_filter.mp mem).2
    have required : (Value.object fs).require (.text label) = .ok v :=
      require_eq_ok.mpr ⟨fs, rfl, (stands label).trans hv⟩
    simp only [required, hv, Option.getD_some]
    rfl
  · rfl

theorem Legible.pairingLabel_eq_ok (h : Legible target) :
    c.pairingLabel target = .ok (label, v) ↔
      c.labels.filter (selectsBy target) = [label] ∧ selectedBy? target label = some v := by
  rw [h.pairingLabel_eq]
  split
  · rename_i found only
    have mem : found ∈ c.labels.filter (selectsBy target) := only ▸ List.mem_cons_self
    obtain ⟨w, hw⟩ := Option.isSome_iff_exists.mp (List.mem_filter.mp mem).2
    rw [hw, Option.getD_some, only, Except.ok.injEq, Prod.mk.injEq, List.cons.injEq]
    constructor
    · rintro ⟨rfl, rfl⟩
      exact ⟨⟨rfl, rfl⟩, hw⟩
    · rintro ⟨⟨rfl, -⟩, hv⟩
      exact ⟨rfl, Option.some.inj (hw.symm.trans hv)⟩
  · rename_i others
    exact ⟨nofun, fun ⟨only, _⟩ => absurd only (others label)⟩

theorem Legible.pairingLabel_eq_error (h : Legible target)
    (unresolved : ∀ paired, c.pairingLabel target ≠ .ok paired) :
    c.pairingLabel target = .error (.workload (c.refusal target)) := by
  have eq := h.pairingLabel_eq (c := c)
  split at eq
  · exact absurd eq (unresolved _)
  · exact eq

theorem filter_eq_singleton {α : Type} [DecidableEq α] {p : α → Bool} {l : List α} {a : α} :
    l.filter p = [a] ↔ l.count a = 1 ∧ p a = true ∧ ∀ b ∈ l, p b = true → b = a := by
  constructor
  · intro only
    have mem : a ∈ l.filter p := only ▸ List.mem_cons_self
    have holds : p a = true := (List.mem_filter.mp mem).2
    refine ⟨?_, holds, fun b hb hp => ?_⟩
    · rw [← List.count_filter holds, only, List.count_singleton_self]
    · have left : b ∈ l.filter p := List.mem_filter.mpr ⟨hb, hp⟩
      rw [only] at left
      exact List.mem_singleton.mp left
  · rintro ⟨once, holds, others⟩
    have same : ∀ b ∈ l, p b = (b == a) := fun b hb => by
      rw [Bool.eq_iff_iff, beq_iff_eq]
      exact ⟨others b hb, fun eq => eq ▸ holds⟩
    rw [List.filter_congr same, List.filter_beq, once, List.replicate_one]

/-! ## The rule on lists of candidates -/

/-- The candidates for the pairing label that an environment lists. -/
def candidates (environment : Environment) : List String :=
  Settings.ofVariable environment "SELECTOR_LABELS" Settings.defaultSelectorLabels

/-- A controller as it is made in an environment, which has to name a candidate. -/
def MadeIn (environment : Environment) (c : TemplateController) : Prop :=
  ∃ registry : Registry, Settings.ofEnvironment environment = .ok registry.settings ∧
    registry.ofKind (.template c.kind) = .template c

/-- Two environments list the same candidates, each in its own order and with its own blanks. -/
def Relists (environment environment' : Environment) : Prop :=
  ∃ parts parts' : List Settings.Part,
    (environment.lookup "SELECTOR_LABELS").getD Settings.defaultSelectorLabels =
      Settings.joined parts ∧
    (environment'.lookup "SELECTOR_LABELS").getD Settings.defaultSelectorLabels =
      Settings.joined parts' ∧
    (parts.map Settings.Part.label).Perm (parts'.map Settings.Part.label)

theorem accepted_iff :
    (∃ settings, Settings.ofEnvironment environment = .ok settings) ↔
      candidates environment ≠ [] := by
  unfold candidates Settings.ofEnvironment
  split
  · rename_i none
    simp [none]
  · rename_i some
    exact iff_of_true ⟨_, rfl⟩ some

theorem MadeIn.labels_eq (h : MadeIn environment c) : c.labels = candidates environment := by
  obtain ⟨registry, accepted, made⟩ := h
  have labels : c.labels = registry.settings.selectorLabels := by
    rw [Registry.ofKind, Controller.template.injEq] at made
    rw [← made]
  rw [labels]
  unfold Settings.ofEnvironment at accepted
  split at accepted
  · cases accepted
  · rw [← Except.ok.inj accepted, candidates]

theorem Relists.perm (h : Relists environment environment') :
    (candidates environment).Perm (candidates environment') := by
  obtain ⟨parts, parts', list, list', same⟩ := h
  rw [candidates, candidates, Settings.ofVariable, Settings.ofVariable, list, list']
  exact Settings.perm_items same

/-- How the pairing label of a target follows from a list of candidates. -/
structure PairsByRule (c : TemplateController) (candidates : List String) (target : Value) :
    Prop where
  /-- It is the only candidate that the target selects by, with its value there, and it is listed
  once. -/
  resolved : ∀ label v, c.pairingLabel target = .ok (label, v) ↔
    candidates.count label = 1 ∧ selectedBy? target label = some v ∧
      ∀ other ∈ candidates, selectsBy target other = true → other = label
  /-- As long as no label is listed twice that the target selects by, there is one exactly if the
  target selects by exactly one candidate. -/
  exactly_one : (∀ label, selectsBy target label = true → candidates.count label ≤ 1) →
    ((∃ paired, c.pairingLabel target = .ok paired) ↔
      ∃! label, label ∈ candidates ∧ selectsBy target label = true)
  refused : (∀ paired, c.pairingLabel target ≠ .ok paired) →
    c.pairingLabel target = .error (.workload (c.refusal target))
  /-- A label that is listed twice counts as two. -/
  repeated : ∀ label, selectsBy target label = true → 2 ≤ candidates.count label →
    c.pairingLabel target = .error (.workload (c.refusal target))

theorem Legible.resolved_iff (h : Legible target) :
    c.pairingLabel target = .ok (label, v) ↔
      c.labels.count label = 1 ∧ selectedBy? target label = some v ∧
        ∀ other ∈ c.labels, selectsBy target other = true → other = label := by
  rw [h.pairingLabel_eq_ok, filter_eq_singleton]
  constructor
  · rintro ⟨⟨once, -, others⟩, stands⟩
    exact ⟨once, stands, others⟩
  · rintro ⟨once, stands, others⟩
    exact ⟨⟨once, by rw [selectsBy, stands, Option.isSome_some], others⟩, stands⟩

theorem Legible.pairsByRule (h : Legible target) : PairsByRule c c.labels target where
  resolved _ _ := h.resolved_iff
  exactly_one single := by
    constructor
    · rintro ⟨⟨label, v⟩, paired⟩
      obtain ⟨once, stands, others⟩ := h.resolved_iff.mp paired
      refine ⟨label, ⟨List.count_pos_iff.mp (by omega), ?_⟩, fun other ⟨mem, selects⟩ =>
        others other mem selects⟩
      rw [selectsBy, stands, Option.isSome_some]
    · rintro ⟨label, ⟨mem, selects⟩, others⟩
      obtain ⟨v, stands⟩ := Option.isSome_iff_exists.mp selects
      have once : c.labels.count label = 1 :=
        le_antisymm (single label selects) (List.count_pos_iff.mpr mem)
      exact ⟨(label, v), h.resolved_iff.mpr ⟨once, stands, fun other mem selects =>
        others other ⟨mem, selects⟩⟩⟩
  refused := h.pairingLabel_eq_error
  repeated label selects twice := h.pairingLabel_eq_error fun ⟨found, v⟩ paired => by
    obtain ⟨once, -, others⟩ := h.resolved_iff.mp paired
    obtain rfl := others label (List.count_pos_iff.mp (by omega)) selects
    omega

/-- What is resolved depends on how often the labels are listed that the target selects by. -/
theorem Legible.pairingLabel_of_counts {paired : String × Value} (h : Legible target)
    (same : ∀ label, selectsBy target label = true → c'.labels.count label = c.labels.count label)
    (resolved : c.pairingLabel target = .ok paired) : c'.pairingLabel target = .ok paired := by
  obtain ⟨label, v⟩ := paired
  obtain ⟨once, stands, others⟩ := h.resolved_iff.mp resolved
  have selects : selectsBy target label = true := by rw [selectsBy, stands, Option.isSome_some]
  refine h.resolved_iff.mpr ⟨(same label selects).trans once, stands, fun other mem selects => ?_⟩
  have listed : 0 < c'.labels.count other := List.count_pos_iff.mpr mem
  rw [same other selects] at listed
  exact others other (List.count_pos_iff.mp listed) selects

/-- For every list of candidates that an environment may hold, and every target that says by which
labels it selects its pods, the pairing label is the one candidate that the target selects by, with
its value there; failing that, the error is a configuration error at the target that no other try
will help. The order of the candidates and the blanks around them change nothing, nor does how often
a candidate is listed that the target does not select by. -/
theorem pairing_label_by_rule (made : MadeIn environment c) (legible : Legible target) :
    PairsByRule c (candidates environment) target ∧
    ((c.refusal target).category = .configuration ∧ (c.refusal target).retryable = false ∧
      (c.refusal target).object? = some (givenName target)) ∧
    (∀ environment', Relists environment environment' →
      (∃ settings, Settings.ofEnvironment environment' = .ok settings) ∧
      ∀ c', MadeIn environment' c' →
        ∀ paired, c'.pairingLabel target = .ok paired ↔ c.pairingLabel target = .ok paired) ∧
    ∀ environment' c', MadeIn environment' c' →
      (∀ label, selectsBy target label = true →
        (candidates environment').count label = (candidates environment).count label) →
      ∀ paired, c'.pairingLabel target = .ok paired ↔ c.pairingLabel target = .ok paired := by
  have labels : c.labels = candidates environment := made.labels_eq
  have counts {environment' : Environment} {c' : TemplateController}
      (made' : MadeIn environment' c') (same : ∀ label, selectsBy target label = true →
        (candidates environment').count label = (candidates environment).count label) :
      ∀ paired, c'.pairingLabel target = .ok paired ↔ c.pairingLabel target = .ok paired := by
    rw [← labels, ← made'.labels_eq] at same
    exact fun paired =>
      ⟨legible.pairingLabel_of_counts fun label selects => (same label selects).symm,
        legible.pairingLabel_of_counts same⟩
  refine ⟨labels ▸ legible.pairsByRule, ⟨rfl, rfl, rfl⟩, fun environment' relists => ⟨?_, ?_⟩,
    fun environment' c' made' same => counts made' same⟩
  · have accepted : candidates environment ≠ [] := by
      obtain ⟨registry, accepted, -⟩ := made
      exact accepted_iff.mp ⟨_, accepted⟩
    exact accepted_iff.mpr fun none =>
      accepted (List.perm_nil.mp (none ▸ relists.perm))
  · exact fun c' made' => counts made' fun label _ => (relists.perm.count_eq label).symm

theorem sampleUnscaled_legible : Legible sampleUnscaled where
  object := ⟨_, rfl⟩
  metadata _ hx := .inr ⟨_, Option.some.inj (hx.symm.trans rfl)⟩
  spec _ hx := .inr ⟨_, Option.some.inj (hx.symm.trans rfl)⟩
  selector _ hx := .inr ⟨_, Option.some.inj (hx.symm.trans rfl)⟩
  labels _ hx := .inr ⟨_, Option.some.inj (hx.symm.trans rfl)⟩

/-- The candidates of the sample controller, backwards and with blanks. -/
def sampleSpaced : Environment := [("SELECTOR_LABELS", " name ,,\tapp")]

theorem sampleSpaced_paired :
    ∃ c, MadeIn sampleSpaced c ∧ Legible sampleUnscaled ∧
      candidates sampleSpaced = ["name", "app"] ∧
      c.pairingLabel sampleUnscaled = .ok ("app", .text "web") := by
  have listed : candidates sampleSpaced = ["name", "app"] := by decide +kernel
  have made : MadeIn sampleSpaced { sampleController with labels := ["name", "app"] } :=
    ⟨⟨⟨["name", "app"], []⟩, some "canary"⟩, by decide +kernel, rfl⟩
  refine ⟨_, made, sampleUnscaled_legible, listed, ?_⟩
  refine ((pairing_label_by_rule made sampleUnscaled_legible).1.resolved "app" _).mpr ?_
  rw [listed]
  exact ⟨by decide, rfl, by decide⟩

/-- A target that selects by the only candidate there is, which is listed twice. -/
theorem repeated_candidate_refused :
    let environment : Environment := [("SELECTOR_LABELS", "app,app")]
    let c := { sampleController with labels := ["app", "app"] }
    MadeIn environment c ∧ Legible sampleUnscaled ∧
      (∃! label, label ∈ candidates environment ∧ selectsBy sampleUnscaled label = true) ∧
      c.pairingLabel sampleUnscaled = .error (.workload (.configuration
        (.pairingLabel .deployment ⟨.text "web", .text "prod"⟩ ["app", "app"] true))) := by
  have listed : candidates [("SELECTOR_LABELS", "app,app")] = ["app", "app"] := by decide +kernel
  refine ⟨⟨⟨⟨["app", "app"], []⟩, some "canary"⟩, by decide +kernel, rfl⟩, sampleUnscaled_legible,
    ⟨"app", ?_, ?_⟩, by decide +kernel⟩
  · rw [listed]
    exact ⟨by decide, rfl⟩
  · rintro label ⟨mem, -⟩
    rw [listed] at mem
    simpa using mem

end TemplateController

end CanaryRelease
