import CanaryRelease.PodTemplate.Ports
import CanaryRelease.Proofs.JsonTexts
import CanaryRelease.Proofs.PodSpecs
import Mathlib.Data.List.Nodup

/-!
# Port discovery loses no port and adds none

The ports of a pod are collected in a map, so a port would be lost if two of them had one name.
`ports_found_once` says that this cannot happen as long as the names are distinct that the
containers give themselves and their ports: what is found are the ports that are not left out, in
their order and each under its name. Names that are generated never coincide with each other
(`generatedName_inj`): the last dash tells the container from the place.

A port at its place (`PlacedPort`) is what the two loops go through. One port and one container are
a lemma each (`addPort_eq`, `addContainer_eq`), and `discoverPorts_eq` collects the ports of all
containers, whatever their names.
-/

namespace CanaryRelease.PodTemplate

open Value

variable {service : ServicePorts} {container : String} {index : Nat} {found : Fields}

/-! ## Generated names -/

theorem append_cons_inj_of_not_mem {α : Type} {x : α} {as as' bs bs' : List α}
    (hb : x ∉ bs) (hb' : x ∉ bs') (h : as ++ x :: bs = as' ++ x :: bs') : as = as' ∧ bs = bs' := by
  have aligned {ms bs bs' : List α} (hb : x ∉ bs) (h : x :: bs = ms ++ x :: bs') : ms = [] := by
    cases ms with
    | nil => rfl
    | cons m ms =>
      rw [List.cons_append, List.cons.injEq] at h
      exact absurd (h.2 ▸ List.mem_append_right _ List.mem_cons_self) hb
  rcases List.append_eq_append_iff.mp h with ⟨ms, rfl, rest⟩ | ⟨ms, rfl, rest⟩
  · obtain rfl := aligned hb rest
    exact ⟨(List.append_nil _).symm, (List.cons.inj rest).2⟩
  · obtain rfl := aligned hb' rest
    exact ⟨List.append_nil _, (List.cons.inj rest).2.symm⟩

theorem toList_generatedName (container : String) (index : Nat) :
    (generatedName (.text container) index).toList =
      "tcp-".toList ++ (container.toList ++ '-' :: Nat.toDigits 10 index) := by
  rw [generatedName, Value.display]
  simp [String.toList_append]

/-- A generated name tells the container and the place, whatever the container is called. -/
theorem generatedName_inj {container container' : String} {index index' : Nat}
    (h : generatedName (.text container) index = generatedName (.text container') index') :
    container = container' ∧ index = index' := by
  have dash (n : Nat) : '-' ∉ Nat.toDigits 10 n := fun mem =>
    absurd (Nat.isDigit_of_mem_toDigits (by decide) (by decide) mem) (by decide)
  have lists := congrArg String.toList h
  rw [toList_generatedName, toList_generatedName, List.append_cancel_left_eq] at lists
  obtain ⟨names, digits⟩ := append_cons_inj_of_not_mem (dash _) (dash _) lists
  exact ⟨String.toList_inj.mp names, toDigits_inj digits⟩

/-! ## Containers and their ports -/

/-- A port that a container declares. -/
structure ContainerPort where
  /-- The name that the container gives it, if it gives it one. -/
  name : Option String
  number : Int
  deriving DecidableEq, Repr

/-- A container with a name. -/
structure PodContainer where
  name : String
  ports : List ContainerPort
  deriving DecidableEq, Repr

/-- A port of a container, at its place among all of them. -/
structure PlacedPort where
  container : String
  index : Nat
  port : ContainerPort
  deriving DecidableEq, Repr

/-- A manifest declares a port; an empty name is none. -/
structure DeclaresPort (v : Value) (port : ContainerPort) : Prop where
  number : v.at? ["containerPort"] = some (.int port.number)
  named : ∀ s, port.name = some s → s ≠ "" ∧ v.at? ["name"] = some (.text s)
  unnamed : port.name = none → ∀ x, v.at? ["name"] = some x → x.isUnset = true

/-- A manifest declares a container. -/
structure DeclaresContainer (v : Value) (container : PodContainer) : Prop where
  name : v.at? ["name"] = some (.text container.name)
  ports : ((∀ x, v.at? ["ports"] = some x → x.isUnset = true) ∧ container.ports = []) ∨
    ∃ items, v.at? ["ports"] = some (.list items) ∧
      List.Forall₂ DeclaresPort items container.ports

/-- What a target port may be: nothing, a number or a name. -/
def IsTargetPort (v : Value) : Prop := v = .null ∨ (∃ n, v = .int n) ∨ ∃ s, v = .text s

/-- Whether a port is left out: the one with the number or the name that is the target port, or, if
that is not chosen, the one with the number of the service port. -/
def ContainerPort.excluded (service : ServicePorts) (port : ContainerPort) : Bool :=
  match service.targetPort with
  | .int n => port.number = if n = 0 then service.port else n
  | .text s => if s = "0" ∨ s = "" then port.number = service.port else port.name = some s
  | _ => port.number = service.port

namespace PlacedPort

/-- The name that a port gets from its place. -/
def generated (x : PlacedPort) : String := generatedName (.text x.container) x.index

/-- The name under which a port is found. -/
def name (x : PlacedPort) : String := x.port.name.getD x.generated

/-- A port as it is found. -/
def entry (x : PlacedPort) : Key × Value := (.text x.name, .int x.port.number)

end PlacedPort

/-- The ports of a container from a place on. -/
def portsFrom (container : String) (index : Nat) (ports : List ContainerPort) : List PlacedPort :=
  (ports.zipIdx index).map fun (port, index) => ⟨container, index, port⟩

/-- The ports of all containers but the sidecars, each at its place. -/
def placedPorts (containers : List PodContainer) : List PlacedPort :=
  (containers.filter fun c => c.name ∉ sidecars).flatMap fun c => portsFrom c.name 0 c.ports

/-- The ports that are not left out. -/
def keptPorts (service : ServicePorts) (containers : List PodContainer) : List PlacedPort :=
  (placedPorts containers).filter fun x => !x.port.excluded service

/-! ## One port, one container -/

theorem int_alike {m n : Int} : (Value.int m).alike (.int n) = decide (m = n) := by
  simp [alike, sameQuantity, quantity?, toKey?, Key.quantity?, Quantity.same]

theorem text_alike_text {s t : String} : (Value.text s).alike (.text t) = decide (s = t) := by
  simp [alike]

theorem DeclaresPort.alike_iff {v : Value} {port : ContainerPort} (h : DeclaresPort v port)
    {s : String} (set : s ≠ "") :
    (((v.at? ["name"]).getD .null).alike (.text s) = decide (port.name = some s)) := by
  cases named : port.name with
  | some t =>
    rw [(h.named t named).2, Option.getD_some, text_alike_text]
    simp
  | none =>
    have other : ((v.at? ["name"]).getD .null).alike (.text s) ≠ true := fun alike => by
      have text := eq_text_of_alike alike
      cases stands : v.at? ["name"] with
      | none => simp [stands] at text
      | some x =>
        rw [stands, Option.getD_some] at text
        have unset := h.unnamed named x stands
        subst text
        exact set (by simpa [isUnset] using unset)
    simpa using other

theorem DeclaresPort.isManaged_eq {v : Value} {port : ContainerPort} (h : DeclaresPort v port)
    (target : IsTargetPort service.targetPort) :
    isManaged service (.int port.number) ((v.at? ["name"]).getD .null) = port.excluded service := by
  obtain ⟨own, targetPort, discovery⟩ := service
  rcases target with rfl | ⟨n, rfl⟩ | ⟨s, rfl⟩
  · exact int_alike
  · have unchosen : isUnchosen (.int n) = decide (n = 0) := by
      rw [isUnchosen, int_alike]
      simp [alike, sameQuantity, quantity?, toKey?, Key.quantity?]
    simp only [isManaged, unchosen, ContainerPort.excluded, int_alike]
    split <;> simp_all
  · have unchosen : isUnchosen (.text s) = decide (s = "0" ∨ s = "") := by
      simp only [isUnchosen, text_alike_text]
      simp [alike, sameQuantity, quantity?, toKey?, Key.quantity?]
    by_cases chosen : s = "0" ∨ s = ""
    · simp [isManaged, unchosen, ContainerPort.excluded, int_alike, chosen]
    · have set : s ≠ "" := fun eq => chosen (.inr eq)
      simp [isManaged, unchosen, ContainerPort.excluded, chosen, h.alike_iff set]

/-- What is found with one more port, unless it is left out. -/
def collect (service : ServicePorts) (found : Fields) (x : PlacedPort) : Fields :=
  if x.port.excluded service then found else found.set x.entry.1 x.entry.2

theorem addPort_eq {v : Value} {port : ContainerPort} (h : DeclaresPort v port)
    (target : IsTargetPort service.targetPort) :
    addPort service (.text container) found index v =
      .ok (collect service found ⟨container, index, port⟩) := by
  obtain ⟨fs, _, rfl, number, ⟨⟩⟩ := at?_text_eq_some.mp h.number
  have numbered : (Value.object fs).get "containerPort" = .ok (.int port.number) :=
    get_eq_ok.mpr ⟨fs, rfl, by rw [number, Option.getD_some]⟩
  have named : (Value.object fs).get "name" = .ok (((Value.object fs).at? ["name"]).getD .null) :=
    get_eq_ok.mpr ⟨fs, rfl, by rw [at?_object_singleton]⟩
  have key : ((((Value.object fs).at? ["name"]).getD .null).orElse
      (.text (generatedName (.text container) index))).toKey? =
        some (.text (PlacedPort.name ⟨container, index, port⟩)) := by
    cases name : port.name with
    | some s =>
      obtain ⟨set, stands⟩ := h.named s name
      rw [stands, Option.getD_some, orElse, if_neg (by simpa [isUnset] using set), PlacedPort.name,
        name]
      rfl
    | none =>
      have unset : (((Value.object fs).at? ["name"]).getD .null).isUnset = true := by
        cases stands : (Value.object fs).at? ["name"] with
        | none => rfl
        | some x => exact h.unnamed name x stands
      rw [orElse, if_pos unset, PlacedPort.name, name]
      rfl
  rw [addPort, numbered, named]
  simp only [Bind.bind, Except.bind, h.isManaged_eq target, key, collect]
  split <;> rfl

theorem addPorts_eq {values : List Value} {ports : List ContainerPort}
    (h : List.Forall₂ DeclaresPort values ports) (target : IsTargetPort service.targetPort) :
    addPorts service (.text container) found index values =
      .ok ((portsFrom container index ports).foldl (collect service) found) := by
  induction h generalizing found index with
  | nil => rfl
  | cons declares _ ih =>
    rw [addPorts, addPort_eq declares target]
    exact ih

theorem DeclaresContainer.exists_elements {v : Value} {c : PodContainer}
    (h : DeclaresContainer v c) :
    ∃ items, (((v.at? ["ports"]).getD .null).orElse (.list [])).elements = .ok items ∧
      List.Forall₂ DeclaresPort items c.ports := by
  rcases h.ports with ⟨unset, none⟩ | ⟨items, stands, declares⟩
  · refine ⟨[], ?_, none ▸ .nil⟩
    cases stands : v.at? ["ports"] with
    | none => rfl
    | some x => rw [Option.getD_some, orElse, if_pos (unset x stands), elements]
  · refine ⟨items, ?_, declares⟩
    rw [stands, Option.getD_some]
    cases items <;> rfl

theorem addContainer_eq {v : Value} {c : PodContainer} (h : DeclaresContainer v c)
    (target : IsTargetPort service.targetPort) :
    addContainer service found v = .ok (if c.name ∈ sidecars then found else
      (portsFrom c.name 0 c.ports).foldl (collect service) found) := by
  obtain ⟨items, elements, declares⟩ := h.exists_elements
  obtain ⟨fs, _, rfl, name, ⟨⟩⟩ := at?_text_eq_some.mp h.name
  have named : (Value.object fs).getOr "name" (.text "") = .ok (.text c.name) :=
    getOr_eq_ok.mpr ⟨fs, rfl, by rw [name, Option.getD_some]⟩
  have ports : (Value.object fs).get "ports" = .ok (((Value.object fs).at? ["ports"]).getD .null) :=
    get_eq_ok.mpr ⟨fs, rfl, by rw [at?_object_singleton]⟩
  have sidecar : (sidecars.any fun sidecar => Value.text c.name = .text sidecar) =
      decide (c.name ∈ sidecars) := by
    rw [Bool.eq_iff_iff]
    simp
  rw [addContainer, named, ports]
  simp only [Bind.bind, Except.bind, elements, sidecar, isScalar, Bool.not_true,
    Bool.false_eq_true, if_false, decide_eq_true_eq, addPorts_eq declares target]
  split <;> rfl

/-! ## All containers -/

/-- The ports of all containers are collected in their order. -/
theorem discoverPorts_eq {values : List Value} {containers : List PodContainer}
    (h : List.Forall₂ DeclaresContainer values containers)
    (target : IsTargetPort service.targetPort) :
    discoverPorts service (.list values) =
      .ok (((keptPorts service containers).map PlacedPort.entry).foldl
        (fun found entry => found.set entry.1 entry.2) []) := by
  have run (found : Fields) : values.foldlM (addContainer service) found =
      .ok ((placedPorts containers).foldl (collect service) found) := by
    induction h generalizing found with
    | nil => rfl
    | @cons v c values containers declares _ ih =>
      rw [List.foldlM_cons, addContainer_eq declares target, placedPorts]
      refine (ih _).trans (congrArg Except.ok ?_)
      by_cases sidecar : c.name ∈ sidecars
      · rw [List.filter_cons_of_neg (by simpa using sidecar), if_pos sidecar]
        rfl
      · rw [List.filter_cons_of_pos (by simpa using sidecar), if_neg sidecar, List.flatMap_cons,
          List.foldl_append]
        rfl
  rw [discoverPorts, elements]
  refine (run []).trans (congrArg Except.ok ?_)
  rw [List.foldl_map, keptPorts, List.foldl_filter]
  refine List.foldl_ext _ _ _ fun found x _ => ?_
  rw [collect]
  cases x.port.excluded service <;> rfl

/-! ## Distinct names -/

theorem mem_portsFrom {ports : List ContainerPort} {x : PlacedPort} :
    x ∈ portsFrom container 0 ports ↔
      x.container = container ∧ ports[x.index]? = some x.port := by
  rw [portsFrom, List.mem_map]
  constructor
  · rintro ⟨⟨port, index⟩, mem, rfl⟩
    exact ⟨rfl, List.mem_zipIdx_iff_getElem?.mp mem⟩
  · rintro ⟨rfl, stands⟩
    exact ⟨(x.port, x.index), List.mem_zipIdx_iff_getElem?.mpr stands, rfl⟩

theorem mem_placedPorts {containers : List PodContainer} {x : PlacedPort} :
    x ∈ placedPorts containers ↔ ∃ c ∈ containers, c.name ∉ sidecars ∧
      x.container = c.name ∧ c.ports[x.index]? = some x.port := by
  simp only [placedPorts, List.mem_flatMap, List.mem_filter, decide_eq_true_eq, mem_portsFrom,
    and_assoc]

theorem pairwise_places {containers : List PodContainer}
    (names : (containers.map PodContainer.name).Nodup) :
    (placedPorts containers).Pairwise fun x y =>
      ¬ (x.container = y.container ∧ x.index = y.index) := by
  rw [placedPorts, List.pairwise_flatMap]
  constructor
  · intro c _
    have indices : ((portsFrom c.name 0 c.ports).map PlacedPort.index).Nodup := by
      rw [portsFrom, List.map_map]
      exact (List.zipIdx_map_snd 0 c.ports).symm ▸ List.nodup_range'
    exact (List.pairwise_map.mp indices).imp fun differ same => differ same.2
  · refine ((List.pairwise_map.mp names).sublist List.filter_sublist).imp ?_
    intro c d differ x hx y hy same
    exact differ ((mem_portsFrom.mp hx).1.symm.trans (same.1.trans (mem_portsFrom.mp hy).1))

/-- What the ports of some containers are called by themselves never meets. -/
structure Unambiguous (containers : List PodContainer) : Prop where
  distinct : (containers.map PodContainer.name).Nodup
  /-- No explicit name is used twice. -/
  explicit : ((placedPorts containers).filterMap fun x => x.port.name).Nodup
  /-- No explicit name is the generated name of a port that has no other. -/
  apart : ∀ x ∈ placedPorts containers, ∀ y ∈ placedPorts containers, y.port.name = none →
    x.port.name ≠ some y.generated

/-- Under whatever names ports are found, no two of them are the same. -/
theorem Unambiguous.nodup_names {containers : List PodContainer} (h : Unambiguous containers) :
    ((placedPorts containers).map PlacedPort.name).Nodup := by
  have explicit := List.pairwise_filterMap.mp h.explicit
  refine List.pairwise_map.mpr ?_
  refine List.Pairwise.imp_of_mem ?_ ((pairwise_places h.distinct).and explicit)
  intro x y hx hy ⟨places, names⟩ same
  rw [PlacedPort.name, PlacedPort.name] at same
  cases hxn : x.port.name with
  | some s =>
    cases hyn : y.port.name with
    | some t =>
      rw [hxn, hyn] at same
      exact names s hxn t hyn same
    | none =>
      rw [hxn, hyn] at same
      exact h.apart x hx y hy hyn (hxn.trans (congrArg some same))
  | none =>
    cases hyn : y.port.name with
    | some t =>
      rw [hxn, hyn] at same
      exact h.apart y hy x hx hxn (hyn.trans (congrArg some same.symm))
    | none =>
      rw [hxn, hyn] at same
      exact places (generatedName_inj same)

theorem set_of_fresh {s : String} {x : Value} (fresh : .text s ∉ found.map Prod.fst) :
    found.set (.text s) x = found ++ [(.text s, x)] := by
  induction found with
  | nil => rfl
  | cons field found ih =>
    obtain ⟨key, y⟩ := field
    rw [List.map_cons, List.mem_cons, not_or] at fresh
    rw [Fields.set, if_neg (by simpa using Ne.symm fresh.1), ih fresh.2]
    rfl

theorem foldl_set_of_nodup {entries : List (Key × Value)}
    (texts : ∀ entry ∈ entries, ∃ s, entry.1 = .text s)
    (nodup : ((found ++ entries).map Prod.fst).Nodup) :
    entries.foldl (fun found entry => found.set entry.1 entry.2) found = found ++ entries := by
  induction entries generalizing found with
  | nil => exact (List.append_nil _).symm
  | cons entry entries ih =>
    obtain ⟨⟨s, key⟩, texts⟩ := List.forall_mem_cons.mp texts
    have last : found.set entry.1 entry.2 = found ++ [entry] := by
      have fresh : entry.1 ∉ found.map Prod.fst := by
        rw [List.map_append, List.map_cons, List.nodup_append] at nodup
        exact fun mem => nodup.2.2 _ mem _ List.mem_cons_self rfl
      obtain ⟨_, x⟩ := entry
      obtain rfl := key
      exact set_of_fresh fresh
    rw [List.foldl_cons, last, ih texts (by rwa [List.append_assoc]), List.append_assoc]
    rfl

/-- Port discovery finds every port that is not left out, in its order and under its name, and
nothing else, as long as the names are unambiguous that containers and ports have by themselves.
Generated names are never ambiguous. -/
theorem ports_found_once {values : List Value} {containers : List PodContainer}
    (target : IsTargetPort service.targetPort)
    (declared : List.Forall₂ DeclaresContainer values containers)
    (unambiguous : Unambiguous containers) :
    (∃ found : Fields, discoverPorts service (.list values) = .ok found ∧
      found = (keptPorts service containers).map PlacedPort.entry ∧
      (found.map Prod.fst).Nodup ∧
      ∀ entry, entry ∈ found ↔ ∃ c ∈ containers, c.name ∉ sidecars ∧
        ∃ (index : Nat) (port : ContainerPort), c.ports[index]? = some port ∧
          port.excluded service = false ∧
          entry = (.text (port.name.getD (generatedName (.text c.name) index)),
            .int port.number)) ∧
    ∀ c c' index index', generatedName (.text c) index = generatedName (.text c') index' →
      c = c' ∧ index = index' := by
  have nodup : (((keptPorts service containers).map PlacedPort.entry).map Prod.fst).Nodup := by
    have names : ((keptPorts service containers).map PlacedPort.name).Nodup :=
      unambiguous.nodup_names.sublist (List.filter_sublist.map _)
    have keys := names.map (f := Key.text) fun s t => Key.text.inj
    rwa [List.map_map] at keys ⊢
  have texts : ∀ entry ∈ (keptPorts service containers).map PlacedPort.entry,
      ∃ s, entry.1 = .text s := fun entry mem => by
    obtain ⟨x, -, rfl⟩ := List.mem_map.mp mem
    exact ⟨x.name, rfl⟩
  refine ⟨⟨_, ?_, rfl, nodup, fun entry => ?_⟩, fun c c' index index' => generatedName_inj⟩
  · rw [discoverPorts_eq declared target, foldl_set_of_nodup texts nodup, List.nil_append]
  · rw [List.mem_map]
    constructor
    · rintro ⟨x, mem, rfl⟩
      obtain ⟨placed, kept⟩ := List.mem_filter.mp mem
      obtain ⟨c, hc, pod, here, stands⟩ := mem_placedPorts.mp placed
      refine ⟨c, hc, pod, x.index, x.port, stands, by simpa using kept, ?_⟩
      rw [← here]
      rfl
    · rintro ⟨c, hc, pod, index, port, stands, kept, rfl⟩
      have placed : (⟨c.name, index, port⟩ : PlacedPort) ∈ placedPorts containers :=
        mem_placedPorts.mpr ⟨c, hc, pod, rfl, stands⟩
      exact ⟨⟨c.name, index, port⟩, List.mem_filter.mpr ⟨placed, by simpa using kept⟩, rfl⟩

/-- Two containers whose names differ by what might be a place, and a sidecar. -/
def samplePod : List PodContainer :=
  [⟨"web", [⟨some "http", 8080⟩, ⟨none, 9090⟩]⟩, ⟨"web-1", [⟨none, 9091⟩]⟩,
    ⟨"envoy", [⟨some "admin", 9901⟩]⟩]

/-- The containers of `samplePod` as a manifest has them. -/
def samplePodManifests : List Value :=
  [.object [("name", .text "web"), ("ports", .list [
      .object [("name", .text "http"), ("containerPort", .int 8080)],
      .object [("containerPort", .int 9090)]])],
    .object [("name", .text "web-1"), ("ports", .list [
      .object [("name", .text ""), ("containerPort", .int 9091)]])],
    .object [("name", .text "envoy"), ("ports", .list [
      .object [("name", .text "admin"), ("containerPort", .int 9901)]])]]

theorem samplePod_declared : List.Forall₂ DeclaresContainer samplePodManifests samplePod := by
  have named {v : Value} {s : String} {n : Int} (number : v.at? ["containerPort"] = some (.int n))
      (set : s ≠ "") (name : v.at? ["name"] = some (.text s)) : DeclaresPort v ⟨some s, n⟩ :=
    ⟨number, fun _ eq => Option.some.inj eq ▸ ⟨set, name⟩, nofun⟩
  refine .cons ⟨rfl, .inr ⟨_, rfl, .cons (named rfl (by decide) rfl) (.cons ⟨rfl, nofun, ?_⟩ .nil)⟩⟩
    (.cons ⟨rfl, .inr ⟨_, rfl, .cons ⟨rfl, nofun, ?_⟩ .nil⟩⟩
      (.cons ⟨rfl, .inr ⟨_, rfl, .cons (named rfl (by decide) rfl) .nil⟩⟩ .nil))
  · exact fun _ x hx => nomatch hx
  · exact fun _ x hx => Option.some.inj hx ▸ rfl

theorem samplePod_found_once :
    discoverPorts ⟨80, .text "http", true⟩ (.list samplePodManifests) =
      .ok [("tcp-web-1", .int 9090), ("tcp-web-1-0", .int 9091)] := by
  let service : ServicePorts := ⟨80, .text "http", true⟩
  have target : IsTargetPort service.targetPort := .inr (.inr ⟨_, rfl⟩)
  have unambiguous : Unambiguous samplePod :=
    ⟨by decide +kernel, by decide +kernel, by decide +kernel⟩
  obtain ⟨⟨found, run, eq, -, -⟩, -⟩ := ports_found_once target samplePod_declared unambiguous
  rw [run, eq]
  decide +kernel

end CanaryRelease.PodTemplate
