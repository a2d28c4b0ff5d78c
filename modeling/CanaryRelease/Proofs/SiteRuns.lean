import CanaryRelease.Proofs.Interleaving
import CanaryRelease.Workload.TemplateController

/-!
# Runs at a site

A program that runs at a site makes a run. `Site.moments` lists what happens there, the acts of
hooks before and after each call included, and `Site.run_moments` says that these moments follow one
another as `Run` has it: the server in memory keeps to the rules of servers, and a call that it
refuses by a fault, or that breaks off, counts as disturbed. What holds of all runs therefore holds
of those at a site.
-/

namespace CanaryRelease

open Program

/-! ## What the server in memory writes -/

namespace Value

theorem changeMetadata_eq_ok {change : Fields → Except Failure Fields} {v w : Value}
    (h : v.changeMetadata change = .ok w) :
    w = v ∨ ∃ fs metadata changed : Fields, v = object fs ∧
      fs.get? "metadata" = some (object metadata) ∧ change metadata = .ok changed ∧
      w = object (fs.set "metadata" (object changed)) := by
  unfold changeMetadata at h
  split at h
  · rename_i fs metadata found
    obtain ⟨changed, hc, ⟨⟩⟩ := bind_eq_ok.mp h
    unfold metadata? at found
    split at found
    · split at found
      · rename_i hm
        cases found
        exact .inr ⟨fs, metadata, changed, rfl, hm, hc, rfl⟩
      · cases found
    · cases found
  · exact .inl (Except.ok.inj h).symm

theorem sameApart_changeMetadata {change : Fields → Except Failure Fields} {v w : Value}
    (places : List Path) (hne : places ≠ [])
    (hc : ∀ metadata changed, change metadata = .ok changed →
      SameApart places (object metadata) (object changed))
    (h : v.changeMetadata change = .ok w) : SameApart (places.map (.text "metadata" :: ·)) v w := by
  obtain rfl | ⟨fs, metadata, changed, rfl, hm, hchanged, rfl⟩ := changeMetadata_eq_ok h
  · exact .refl _ _
  · exact (isSection_of_get? hm).sameApart_set hne (hc metadata changed hchanged)

theorem sameApart_bumped {v w : Value} (h : v.bumped = .ok w) :
    SameApart [["metadata", "resourceVersion"]] v w := by
  refine sameApart_changeMetadata [["resourceVersion"]] (by simp) ?_ h
  intro metadata changed hc
  obtain ⟨version, -, ⟨⟩⟩ := bind_eq_ok.mp hc
  exact sameApart_set metadata "resourceVersion" version

theorem sameApart_asCreated {v w : Value} (h : v.asCreated = .ok w) :
    SameApart serverPlaces v w := by
  refine sameApart_changeMetadata [["resourceVersion"], ["generation"]] (by simp) ?_ h
  rintro metadata changed ⟨⟩
  exact (sameApart_set metadata "resourceVersion" (text "1")).append
    (sameApart_set _ "generation" (int 1))

theorem sameApart_asReplacing {old v w : Value} (h : asReplacing old v = .ok w) :
    SameApart serverPlaces v w := by
  unfold asReplacing at h
  obtain ⟨written, hw, h⟩ := bind_eq_ok.mp h
  have version := sameApart_bumped hw
  split at h
  · obtain rfl := Except.ok.inj h
    exact version.mono (by simp [serverPlaces])
  · obtain ⟨generation, -, h⟩ := bind_eq_ok.mp h
    refine version.append (sameApart_changeMetadata [["generation"]] (by simp) ?_ h)
    rintro metadata changed ⟨⟩
    exact sameApart_set metadata "generation" generation

end Value

namespace Server

variable {store after : Store} {key : ObjectKey} {verb : Verb} {body : Value}

/-- Whether a call broke off although its name can be one. -/
def isBroken : Except CallFailure Value → Bool
  | .error (.broken _) => true
  | _ => false

theorem serves_perform (h : key.object.isAddressable = true) :
    Serves store key verb body (isBroken (perform verb key body store).1)
      (perform verb key body store).1 (perform verb key body store).2 := by
  cases verb with
  | read =>
    cases found : store.get? key with
    | none =>
      simp only [perform, found]
      exact .ruled h (.missing nofun found)
    | some v =>
      simp only [perform, found]
      exact .ruled h (.found found)
  | create =>
    cases found : store.get? key with
    | none =>
      cases kept : body.asCreated with
      | error failure =>
        simp only [perform, found, kept]
        exact .disturbed _
      | ok v =>
        simp only [perform, found, kept]
        exact .ruled h (.created found (Value.sameApart_asCreated kept))
    | some v =>
      simp only [perform, found]
      exact .ruled h (.taken found)
  | replace =>
    cases found : store.get? key with
    | none =>
      simp only [perform, found]
      exact .ruled h (.missing nofun found)
    | some old =>
      cases alike : body.resourceVersion.alike old.resourceVersion with
      | false =>
        simp only [perform, found, alike]
        exact .ruled h (.outdated found alike)
      | true =>
        cases kept : old.asReplacing body with
        | error failure =>
          simp only [perform, found, alike, kept]
          exact .disturbed _
        | ok v =>
          simp only [perform, found, alike, kept]
          exact .ruled h (.replaced found alike (Value.sameApart_asReplacing kept))

/-! ## What happens during a call -/

/-- What happens when somebody else acts on an object. -/
def effectMoments (store : Store) (key : ObjectKey) : Effect → List Moment
  | .bump =>
    match (store.get? key).map Value.bumped with
    | some (.ok v) => [⟨store, .edit key (some v), store.put key v⟩]
    | _ => []
  | .delete => [⟨store, .edit key none, store.delete key⟩]
  | .create => [⟨store, .edit key (some (bareObject key.object)),
      store.put key (bareObject key.object)⟩]

/-- What happens when the hooks that are due run. -/
def hookMoments (before : Bool) (verb : Verb) (key : ObjectKey) : List Hook → Store → List Moment
  | [], _ => []
  | hook :: hooks, store =>
    if hook.before = before ∧ hook.verb = verb ∧ hook.kind = key.kind ∧
        hook.name.alike key.object.name ∧ 0 < hook.times then
      effectMoments store key hook.effect ++
        hookMoments before verb key hooks (act store key hook.effect)
    else hookMoments before verb key hooks store

/-- What happens during a call about a name that can be one, the exchange being given by its reply
and by whether it was disturbed. -/
def momentsAt (event : Except CallFailure Value → Bool → Event) (verb : Verb) (key : ObjectKey)
    (body : Value) (s : Server) : List Moment :=
  let (hooks, store) := runHooks true verb key s.hooks s.store
  hookMoments true verb key s.hooks s.store ++
    match takeFault verb key s.faults with
    | (some refusal, _) => [⟨store, event (.error (.refused refusal)) true, store⟩]
    | (none, _) =>
      let (reply, after) := perform verb key body store
      ⟨store, event reply (isBroken reply), after⟩ ::
        match reply with
        | .error _ => []
        | .ok _ => hookMoments false verb key hooks after

/-- What happens during a call. -/
def moments (event : Except CallFailure Value → Bool → Event) (verb : Verb) (key : ObjectKey)
    (body : Value) (s : Server) : List Moment :=
  if key.object.isAddressable then s.momentsAt event verb key body
  else
    match takeFault verb key s.faults with
    | (some refusal, _) => [⟨s.store, event (.error (.refused refusal)) true, s.store⟩]
    | (none, _) => [⟨s.store, event (.error (.broken .malformed)) false, s.store⟩]

variable {programs : Nat → Program Value} {start : Store} {past : List Moment} {caller : Nat}
  {exchange : Except CallFailure Value → Exchange}

theorem run_effectMoments (run : Run programs start past store) (caller : Nat) (effect : Effect) :
    Run programs start (past ++ effectMoments store key effect) (act store key effect) ∧
      exchangesOf caller (effectMoments store key effect) = [] := by
  cases effect with
  | bump =>
    rcases bumped : (store.get? key).map Value.bumped with _ | ⟨failure | v⟩
    · simp only [effectMoments, act, bumped]
      exact ⟨by simpa using run, rfl⟩
    · simp only [effectMoments, act, bumped]
      exact ⟨by simpa using run, rfl⟩
    · simp only [effectMoments, act, bumped]
      exact ⟨.step run .edit, rfl⟩
  | delete => exact ⟨.step run .edit, rfl⟩
  | create => exact ⟨.step run .edit, rfl⟩

theorem run_hookMoments (run : Run programs start past store) (caller : Nat) (before : Bool)
    (verb : Verb) (key : ObjectKey) (hooks : List Hook) :
    Run programs start (past ++ hookMoments before verb key hooks store)
        (runHooks before verb key hooks store).2 ∧
      exchangesOf caller (hookMoments before verb key hooks store) = [] := by
  induction hooks generalizing past store with
  | nil => exact ⟨by simpa [hookMoments, runHooks] using run, rfl⟩
  | cons hook hooks ih =>
    simp only [hookMoments, runHooks]
    split
    · obtain ⟨acted, none_acting⟩ := run_effectMoments run caller hook.effect
      obtain ⟨rest, none_after⟩ := ih acted
      rw [List.append_assoc] at rest
      exact ⟨rest, by rw [exchangesOf_append, none_acting, none_after]; rfl⟩
    · exact ih run

theorem run_exchange {e : Exchange} {disturbed : Bool} (more : List Moment)
    (run : Run programs start (past ++ more) store) (none_before : exchangesOf caller more = [])
    (asks : (programs caller).Asks (exchangesOf caller past) e.request)
    (served : e.Served disturbed store after) :
    Run programs start (past ++ (more ++ [⟨store, .exchange caller e disturbed, after⟩])) after ∧
      exchangesOf caller (more ++ [⟨store, .exchange caller e disturbed, after⟩]) = [e] := by
  have same : exchangesOf caller (past ++ more) = exchangesOf caller past := by
    rw [exchangesOf_append, none_before, List.append_nil]
  rw [← same] at asks
  rw [← List.append_assoc]
  exact ⟨.step run (.exchange asks served), by rw [exchangesOf_snoc rfl, none_before]; rfl⟩

theorem run_moments {s : Server} (run : Run programs start past s.store)
    (asks : ∀ reply, (programs caller).Asks (exchangesOf caller past) (exchange reply).request)
    (served : ∀ reply disturbed before after, Serves before key verb body disturbed reply after →
      (exchange reply).Served disturbed before after) :
    Run programs start
        (past ++ s.moments (fun reply => .exchange caller (exchange reply)) verb key body)
        (s.answer verb key body).2.store ∧
      exchangesOf caller
          (s.moments (fun reply => .exchange caller (exchange reply)) verb key body) =
        [exchange (s.answer verb key body).1] := by
  unfold moments answer
  split
  · rename_i addressable
    unfold momentsAt answerAt
    obtain ⟨early, none_early⟩ := run_hookMoments run caller true verb key s.hooks
    rcases hooked : runHooks true verb key s.hooks s.store with ⟨hooks, store⟩
    rw [hooked] at early
    rcases fault : takeFault verb key s.faults with ⟨_ | refusal, faults⟩
    · have serves : Serves store key verb body _ _ _ := serves_perform addressable
      obtain ⟨called, once⟩ := run_exchange _ early none_early (asks _) (served _ _ _ _ serves)
      rcases done : perform verb key body store with ⟨failure | v, after⟩
      · simp only [done] at called once ⊢
        exact ⟨called, once⟩
      · simp only [done] at called once ⊢
        obtain ⟨late, none_late⟩ := run_hookMoments called caller false verb key hooks
        rcases hooked' : runHooks false verb key hooks after with ⟨hooks', store'⟩
        rw [List.append_assoc, List.append_assoc, hooked'] at late
        refine ⟨late, ?_⟩
        rw [List.append_cons, exchangesOf_append, once]
        exact congrArg _ none_late
    · exact run_exchange _ early none_early (asks _) (served _ _ _ _ (.disturbed _))
  · rename_i unaddressable
    rcases fault : takeFault verb key s.faults with ⟨_ | refusal, faults⟩
    · exact run_exchange [] (by simpa using run) rfl (asks _)
        (served _ _ _ _ (.unnamed (by simpa using unaddressable)))
    · exact run_exchange [] (by simpa using run) rfl (asks _) (served _ _ _ _ (.disturbed _))

/-! ## Whose events they are -/

theorem event_of_mem_effectMoments {effect : Effect} {m : Moment}
    (h : m ∈ effectMoments store key effect) : ∃ value, m.event = .edit key value := by
  cases effect with
  | bump =>
    simp only [effectMoments] at h
    split at h
    · obtain rfl := List.mem_singleton.mp h
      exact ⟨_, rfl⟩
    · exact absurd h List.not_mem_nil
  | delete =>
    obtain rfl := List.mem_singleton.mp h
    exact ⟨_, rfl⟩
  | create =>
    obtain rfl := List.mem_singleton.mp h
    exact ⟨_, rfl⟩

theorem event_of_mem_hookMoments {before : Bool} {hooks : List Hook} {m : Moment}
    (h : m ∈ hookMoments before verb key hooks store) : ∃ value, m.event = .edit key value := by
  induction hooks generalizing store with
  | nil => exact absurd h List.not_mem_nil
  | cons hook hooks ih =>
    unfold hookMoments at h
    split at h
    · rcases List.mem_append.mp h with now | later
      · exact event_of_mem_effectMoments now
      · exact ih later
    · exact ih h

theorem event_of_mem_moments {event : Except CallFailure Value → Bool → Event} {s : Server}
    {m : Moment} (h : m ∈ s.moments event verb key body) :
    (∃ value, m.event = .edit key value) ∨ ∃ reply disturbed, m.event = event reply disturbed := by
  have only {moment : Moment} (hm : m ∈ [moment]) : m.event = moment.event := by
    rw [List.mem_singleton.mp hm]
  unfold moments at h
  split at h
  · rcases List.mem_append.mp h with early | rest
    · exact .inl (event_of_mem_hookMoments early)
    · split at rest
      · exact .inr ⟨_, _, only rest⟩
      · rcases List.mem_cons.mp rest with rfl | late
        · exact .inr ⟨_, _, rfl⟩
        · split at late
          · exact absurd late List.not_mem_nil
          · exact .inl (event_of_mem_hookMoments late)
  · split at h
    · exact .inr ⟨_, _, only h⟩
    · exact .inr ⟨_, _, only h⟩

end Server

namespace Site

variable {programs : Nat → Program Value} {start : Store} {past : List Moment} {caller : Nat}
  {p : Program Value}

/-- What happens when a caller asks a request. -/
def momentsOf (caller : Nat) (s : Site) : Request → List Moment
  | .readObject kind object =>
    s.server.moments (fun reply => .exchange caller ⟨.readObject kind object, reply⟩) .read
      ⟨kind.name, object⟩ .null
  | .createObject kind space body =>
    s.server.moments
      (fun reply => .exchange caller ⟨.createObject kind space body, reply.map fun _ => ()⟩) .create
      ⟨kind.name, ⟨bodyName body, space⟩⟩ body
  | .replaceObject kind object body =>
    s.server.moments
      (fun reply => .exchange caller ⟨.replaceObject kind object body, reply.map fun _ => ()⟩)
      .replace ⟨kind.name, object⟩ body
  | request =>
    [⟨s.server.store, .exchange caller ⟨request, (surroundings request s).1⟩ false,
      s.server.store⟩]

/-- What happens when a caller's program runs. -/
def moments {α : Type} (caller : Nat) : Program α → Site → List Moment
  | .done _, _ => []
  | .fail _, _ => []
  | .ask request next, s =>
    s.momentsOf caller request ++
      moments caller (next (surroundings request s).1) (surroundings request s).2

theorem run_momentsOf {s : Site} {request : Request} (run : Run programs start past s.server.store)
    (asks : (programs caller).Asks (exchangesOf caller past) request) :
    Run programs start (past ++ s.momentsOf caller request)
        (surroundings request s).2.server.store ∧
      exchangesOf caller (s.momentsOf caller request) =
        [⟨request, (surroundings request s).1⟩] := by
  cases request with
  | readObject kind object =>
    exact Server.run_moments run (fun _ => asks) fun _ _ _ _ serves => serves
  | createObject kind space body =>
    exact Server.run_moments run (fun _ => asks) fun reply _ _ _ serves => ⟨reply, rfl, serves⟩
  | replaceObject kind object body =>
    exact Server.run_moments run (fun _ => asks) fun reply _ _ _ serves => ⟨reply, rfl, serves⟩
  | _ =>
    refine Server.run_exchange (e := ⟨_, (surroundings _ s).1⟩) [] (by simpa using run) rfl asks ?_
    rfl

/-- A program that runs at a site makes a run, as a caller's own program or as what is left of
it. -/
theorem run_moments {α : Type} {p : Program α} {s : Site}
    (run : Run programs start past s.server.store)
    (own : ∀ log r, p.Asks log r → (programs caller).Asks (exchangesOf caller past ++ log) r) :
    Run programs start (past ++ moments caller p s) (s.run p).2.server.store := by
  induction p generalizing past s with
  | done a => simpa [moments, Site.run, Program.run] using run
  | fail e => simpa [moments, Site.run, Program.run] using run
  | ask request next ih =>
    obtain ⟨asked, once⟩ := run_momentsOf run (by simpa using own _ _ (.now request next))
    rw [moments, ← List.append_assoc]
    refine ih _ asked fun log r asks => ?_
    rw [exchangesOf_append, once, List.append_assoc]
    exact own _ _ (.later asks)

theorem run_of_call {s : Site} (own : programs caller = p)
    (run : Run programs start past s.server.store) (none_before : exchangesOf caller past = []) :
    Run programs start (past ++ moments caller p s) (s.run p).2.server.store :=
  run_moments run fun log r asks => by rwa [own, none_before]

end Site

/-! ## A small site -/

/-- A rolled out Deployment in the namespace `prod`. -/
def sampleDeployment (name version : String) (selector : Fields) : Fields :=
  [("metadata", .object [("name", .text name), ("namespace", .text "prod"),
      ("resourceVersion", .text version), ("generation", .int 1)]),
    ("spec", .object [("replicas", .int 2), ("minReadySeconds", .int 5),
      ("selector", .object [("matchLabels", .object [("app", .text name)])]),
      ("template", .object [
        ("metadata", .object [("labels", .object [("app", .text name)])]),
        ("spec", .object [("nodeSelector", .object selector)])])]),
    ("status", .object [("observedGeneration", .int 1), ("updatedReplicas", .int 2),
      ("replicas", .int 2), ("availableReplicas", .int 2)])]

/-- The Deployment `web` when it is not scaled down. -/
def sampleUnscaled : Value := .object (sampleDeployment "web" "7" [("disk", .text "ssd")])

/-- A site with some Deployments in the namespace `prod`, given by their names and versions. -/
def sampleSite (hooks : List Hook) (deployments : List (String × String)) : Site where
  server := ⟨deployments.map fun (name, version) =>
    (⟨"Deployment", ⟨.text name, .text "prod"⟩⟩,
      .object (sampleDeployment name version [("disk", .text "ssd")])), [], hooks⟩
  tracker := .off
  clock := ⟨⟨2024, 5, 17, by decide⟩, ⟨12, 0, 0, 0, by decide⟩, some .zero⟩
  drawn := 0
  record := []

/-- A canary of the Deployment `web` in its first phase. -/
def sampleCanary : Canary where
  object := ⟨.text "web", .text "prod"⟩
  uid := .text "0"
  apiVersion := .text Canary.defaultApiVersion
  target := ⟨.text "Deployment", .text "web", .text "apps/v1"⟩
  phase := .initializing
  progressDeadline := Canary.defaultProgressDeadline
  skipAnalysis := false
  service := ⟨80, .null, false⟩
  lastAppliedSpec := .text ""
  lastPromotedSpec := .text ""

/-- A controller of Deployments. -/
def sampleController : TemplateController := ⟨.deployment, ["app", "name"], [], "canary"⟩

end CanaryRelease
