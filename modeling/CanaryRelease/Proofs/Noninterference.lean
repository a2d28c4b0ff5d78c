import CanaryRelease.Proofs.Confinement

/-!
# Canaries do not interfere

Two calls run against one cluster, a request of either at a time, in any order (`Together`). They
share the objects of the cluster and the record of increments (`Scene`). What else a call is told
comes from surroundings of its own: a tracker that has no state tells either call the same whatever
the other does, and fresh ids are drawn apart. If no key of the one call's canary is a key of the
other's, then both calls end as they do when one runs after the other, and so do the objects and the
totals (`calls_do_not_interfere`). A site whose server nothing disturbs is such a scene
(`Site.run_scene`).

A call that keeps to some keys does the same wherever the objects under these keys are the same
(`Confined.run_congr`). So every interleaving comes to what the two calls do each by itself
(`Merges`): that is carried through the interleaving one request at a time, and running one call
after the other is one interleaving among them (`together_in_turn`).
-/

namespace CanaryRelease

open Program Workload

/-! ## Servers that nothing disturbs -/

namespace Server

variable {s t : Store} {key : ObjectKey}

theorem answer_calm (verb : Verb) (key : ObjectKey) (body : Value) (s : Store) :
    answer verb key body ⟨s, [], []⟩ =
      if key.object.isAddressable then
        ((perform verb key body s).1, ⟨(perform verb key body s).2, [], []⟩)
      else (.error (.broken .malformed), ⟨s, [], []⟩) := by
  unfold answer answerAt
  split
  · simp only [runHooks, takeFault]
    rcases perform verb key body s with ⟨_ | _, after⟩ <;> rfl
  · rfl

theorem serves_calm (verb : Verb) (key : ObjectKey) (body : Value) (s : Store) :
    ∃ disturbed, Serves s key verb body disturbed (answer verb key body ⟨s, [], []⟩).1
      (answer verb key body ⟨s, [], []⟩).2.store := by
  rw [answer_calm]
  cases addressable : key.object.isAddressable with
  | true => exact ⟨_, serves_perform addressable⟩
  | false => exact ⟨false, .unnamed addressable⟩

theorem perform_congr (verb : Verb) (body : Value) (same : s.get? key = t.get? key) :
    (perform verb key body s).1 = (perform verb key body t).1 ∧
      ∀ other, s.get? other = t.get? other →
        (perform verb key body s).2.get? other = (perform verb key body t).2.get? other := by
  have put (v : Value) (other : ObjectKey) (h : s.get? other = t.get? other) :
      (s.put key v).get? other = (t.put key v).get? other := by
    rw [Store.get?_put, Store.get?_put, h]
  unfold perform
  rw [same]
  cases verb with
  | read => cases t.get? key <;> exact ⟨rfl, fun _ h => h⟩
  | create =>
    cases t.get? key with
    | some old => exact ⟨rfl, fun _ h => h⟩
    | none =>
      cases body.asCreated with
      | ok v => exact ⟨rfl, put v⟩
      | error failure => exact ⟨rfl, fun _ h => h⟩
  | replace =>
    cases t.get? key with
    | none => exact ⟨rfl, fun _ h => h⟩
    | some old =>
      dsimp only
      split
      · cases old.asReplacing body with
        | ok v => exact ⟨rfl, put v⟩
        | error failure => exact ⟨rfl, fun _ h => h⟩
      · exact ⟨rfl, fun _ h => h⟩

theorem answer_congr (verb : Verb) (body : Value) (same : s.get? key = t.get? key) :
    (answer verb key body ⟨s, [], []⟩).1 = (answer verb key body ⟨t, [], []⟩).1 ∧
      ∀ other, s.get? other = t.get? other →
        (answer verb key body ⟨s, [], []⟩).2.store.get? other =
          (answer verb key body ⟨t, [], []⟩).2.store.get? other := by
  rw [answer_calm, answer_calm]
  split
  · exact perform_congr verb body same
  · exact ⟨rfl, fun _ h => h⟩

end Server

/-! ## Scenes -/

/-- What calls share: the objects of a cluster and the record of increments. -/
structure Scene where
  store : Store
  counted : List Counter

/-- The counter that a request increments. -/
def Request.counter? : Request → Option Counter
  | count counter => some counter
  | _ => none

/-- The increments in some exchanges. -/
def increments (log : List Exchange) : List Counter := log.filterMap fun e => e.request.counter?

namespace Scene

/-- Passes a call on to the server, which nothing disturbs. -/
def answer (verb : Verb) (key : ObjectKey) (body : Value) (s : Scene) :
    Except CallFailure Value × Scene :=
  let (reply, server) := Server.answer verb key body ⟨s.store, [], []⟩
  (reply, { s with store := server.store })

/-- The surroundings of a call: a scene, and surroundings of its own for all else that it asks. -/
def surroundings {ι : Type} (own : Surroundings ι) : Surroundings (Scene × ι)
  | .readObject kind object, (s, i) =>
    let (reply, s) := s.answer .read ⟨kind.name, object⟩ .null
    (reply, s, i)
  | .createObject kind space body, (s, i) =>
    let (reply, s) := s.answer .create ⟨kind.name, ⟨Site.bodyName body, space⟩⟩ body
    (reply.map fun _ => (), s, i)
  | .replaceObject kind object body, (s, i) =>
    let (reply, s) := s.answer .replace ⟨kind.name, object⟩ body
    (reply.map fun _ => (), s, i)
  | .count counter, (s, i) => ((), { s with counted := s.counted ++ [counter] }, i)
  | request, (s, i) =>
    let (reply, i) := own request i
    (reply, s, i)

/-- Two scenes have the same objects under some keys. -/
def Agree (keys : List ObjectKey) (s t : Scene) : Prop :=
  ∀ key, Covers keys key → s.store.get? key = t.store.get? key

/-- Two scenes have the same objects, and every counter was incremented equally often. -/
structure Alike (s t : Scene) : Prop where
  objects : ∀ key, s.store.get? key = t.store.get? key
  counted : s.counted.Perm t.counted

/-- The object at a key, if there is one, names itself like the key. -/
def Named (source : ObjectKey) (s : Scene) : Prop :=
  ∀ v, s.store.get? source = some v → NamedLike source v

section Steps

variable {ι : Type} {r : Request} {s t : Scene} {keys : List ObjectKey} {source key : ObjectKey}

theorem served_surroundings (own : Surroundings ι) (r : Request) (s : Scene) (i : ι) :
    ∃ disturbed, Exchange.Served ⟨r, (surroundings own r (s, i)).1⟩ disturbed s.store
      (surroundings own r (s, i)).2.1.store := by
  cases r with
  | readObject kind object => exact Server.serves_calm ..
  | createObject kind space body =>
    obtain ⟨disturbed, serves⟩ :=
      Server.serves_calm .create ⟨kind.name, ⟨Site.bodyName body, space⟩⟩ body s.store
    exact ⟨disturbed, _, rfl, serves⟩
  | replaceObject kind object body =>
    obtain ⟨disturbed, serves⟩ := Server.serves_calm .replace ⟨kind.name, object⟩ body s.store
    exact ⟨disturbed, _, rfl, serves⟩
  | _ => exact ⟨false, rfl⟩

theorem counted_surroundings (own : Surroundings ι) (r : Request) (s : Scene) (i : ι) :
    (surroundings own r (s, i)).2.1.counted = s.counted ++ r.counter?.toList := by
  cases r with
  | count counter => rfl
  | _ => exact (List.append_nil _).symm

theorem surroundings_congr (own : Surroundings ι) (i : ι) (within : r.Within keys source)
    (agree : Agree keys s t) :
    (surroundings own r (s, i)).1 = (surroundings own r (t, i)).1 ∧
      (surroundings own r (s, i)).2.2 = (surroundings own r (t, i)).2.2 ∧
      Agree keys (surroundings own r (s, i)).2.1 (surroundings own r (t, i)).2.1 := by
  have called (verb : Verb) (body : Value) {key : ObjectKey} (here : r.key? = some key) :
      (s.answer verb key body).1 = (t.answer verb key body).1 ∧
        Agree keys (s.answer verb key body).2 (t.answer verb key body).2 := by
    obtain ⟨reply, after⟩ := Server.answer_congr verb body (agree key (within.covers key here))
    exact ⟨reply, fun other covered => after other (agree other covered)⟩
  cases r with
  | readObject kind object =>
    obtain ⟨reply, after⟩ := called .read .null rfl
    exact ⟨reply, rfl, after⟩
  | createObject kind space body =>
    obtain ⟨reply, after⟩ := called .create body rfl
    exact ⟨congrArg (Except.map fun _ => ()) reply, rfl, after⟩
  | replaceObject kind object body =>
    obtain ⟨reply, after⟩ := called .replace body rfl
    exact ⟨congrArg (Except.map fun _ => ()) reply, rfl, after⟩
  | _ => exact ⟨rfl, rfl, agree⟩

theorem get?_surroundings (own : Surroundings ι) (i : ι) (within : r.Within keys source)
    (apart : ¬ Covers keys key) :
    (surroundings own r (s, i)).2.1.store.get? key = s.store.get? key := by
  obtain ⟨disturbed, served⟩ := served_surroundings own r s i
  obtain same | ⟨other, body, kept, change, -, put⟩ := served.eq_or_put
  · rw [same]
  · have covered := within.covers other (Request.key?_of_change? change)
    rw [put, Store.get?_put, if_neg fun here => apart (covered.congr here.symm)]

theorem named_surroundings (own : Surroundings ι) (i : ι) (within : r.Within keys source)
    (named : s.Named source) : (surroundings own r (s, i)).2.1.Named source := by
  obtain ⟨disturbed, served⟩ := served_surroundings own r s i
  intro v stored
  obtain same | ⟨other, body, kept, change, same, put⟩ := served.eq_or_put
  · exact named v (same ▸ stored)
  · rw [put, Store.get?_put] at stored
    split at stored
    · rename_i here
      obtain rfl := Option.some.inj stored
      exact within.named other body kept change here same
    · exact named v stored

theorem named_elsewhere (own : Surroundings ι) (i : ι) (within : r.Within keys source)
    (apart : ¬ Covers keys key) (named : s.Named key) :
    (surroundings own r (s, i)).2.1.Named key := by
  intro v stored
  rw [get?_surroundings own i within apart] at stored
  exact named v stored

theorem genuine_surroundings (own : Surroundings ι) (r : Request) (i : ι)
    (named : s.Named source) : Genuine source ⟨r, (surroundings own r (s, i)).1⟩ := by
  obtain ⟨disturbed, served⟩ := served_surroundings own r s i
  intro kind object v read same
  rw [read] at served
  have stored := Server.Serves.get?_of_read served
  exact named v ((Store.get?_congr _ same).symm.trans stored)

end Steps

end Scene

/-! ## Sites as scenes -/

namespace Site

/-- The counter that an occurrence incremented. -/
def counted? : Occurrence → Option Counter
  | .counted counter => some counter
  | _ => none

/-- The scene of a site: its objects and the increments in its record. -/
def scene (s : Site) : Scene := ⟨s.server.store, s.record.filterMap counted?⟩

/-- A site whose server nothing disturbs shows a scene, and what else it replies is what another
site with the same tracker, clock and supply of ids replies. -/
structure Shows (site : Site) (scene : Scene) (own : Site) : Prop where
  server : site.server = ⟨scene.store, [], []⟩
  counted : site.record.filterMap counted? = scene.counted
  tracker : own.tracker = site.tracker
  clock : own.clock = site.clock
  drawn : own.drawn = site.drawn

section Shows

variable {site own : Site} {scene : Scene}

theorem Shows.recorded (shows : site.Shows scene own) {what : List Occurrence}
    (uncounted : what.filterMap counted? = []) : (site.recorded what).Shows scene own :=
  { shows with
    counted := by
      rw [Site.recorded, List.filterMap_append, uncounted, List.append_nil, shows.counted] }

theorem Shows.own_recorded (shows : site.Shows scene own) (what : List Occurrence) :
    site.Shows scene (own.recorded what) :=
  ⟨shows.server, shows.counted, shows.tracker, shows.clock, shows.drawn⟩

theorem Shows.callServer (shows : site.Shows scene own) (verb : Verb) (kind : Kind)
    (object : ObjectName) (body : Option Value) :
    (site.callServer verb kind object body).1 =
        (scene.answer verb ⟨kind.name, object⟩ (body.getD .null)).1 ∧
      (site.callServer verb kind object body).2.Shows
        (scene.answer verb ⟨kind.name, object⟩ (body.getD .null)).2 own := by
  unfold Site.callServer Scene.answer
  rw [shows.server]
  refine ⟨rfl, Shows.recorded ?_ rfl⟩
  refine ⟨?_, shows.counted, shows.tracker, shows.clock, shows.drawn⟩
  rw [Server.answer_calm]
  split <;> rfl

/-- A site and the scene that it shows reply alike, and it shows what they come to. -/
theorem Shows.surroundings (shows : site.Shows scene own) (r : Request) :
    (Site.surroundings r site).1 = (Scene.surroundings Site.surroundings r (scene, own)).1 ∧
      (Site.surroundings r site).2.Shows
        (Scene.surroundings Site.surroundings r (scene, own)).2.1
        (Scene.surroundings Site.surroundings r (scene, own)).2.2 := by
  -- what the tracker is asked is recorded, and records do not show
  have tracked (calls calls' : List TrackerCall) :
      (site.recorded (calls.map .trackerCall)).Shows scene
        (own.recorded (calls'.map .trackerCall)) := by
    refine (shows.recorded ?_).own_recorded _
    simp [List.filterMap_map, Function.comp_def, counted?]
  cases r with
  | readObject kind object => exact shows.callServer .read kind object none
  | createObject kind space body =>
    obtain ⟨reply, after⟩ := shows.callServer .create kind ⟨bodyName body, space⟩ (some body)
    exact ⟨congrArg (Except.map fun _ => ()) reply, after⟩
  | replaceObject kind object body =>
    obtain ⟨reply, after⟩ := shows.callServer .replace kind object (some body)
    exact ⟨congrArg (Except.map fun _ => ()) reply, after⟩
  | targetConfigs canary =>
    exact ⟨congrArg (fun t : Tracker => (t.targetConfigs canary).1) shows.tracker.symm, tracked ..⟩
  | copyConfigs canary refs prefixes =>
    exact ⟨congrArg (fun t : Tracker => (t.copyConfigs canary refs prefixes).1) shows.tracker.symm,
      tracked ..⟩
  | redirectConfigs podSpec refs =>
    exact ⟨congrArg (fun t : Tracker => (t.redirectConfigs podSpec refs).1) shows.tracker.symm,
      tracked ..⟩
  | configsChanged canary =>
    exact ⟨congrArg (fun t : Tracker => (t.configsChanged canary).1) shows.tracker.symm, tracked ..⟩
  | drawId =>
    refine ⟨congrArg (fun n => Site.id (n + 1)) shows.drawn.symm, shows.server, shows.counted,
      shows.tracker, shows.clock, congrArg (· + 1) shows.drawn⟩
  | readClock => exact ⟨shows.clock.symm, shows⟩
  | count counter =>
    refine ⟨rfl, shows.server, ?_, shows.tracker, shows.clock, shows.drawn⟩
    exact List.filterMap_append.trans (congrArg (· ++ [counter]) shows.counted)
  | note logger notice =>
    have uncounted : [Occurrence.noted logger notice].filterMap counted? = [] := rfl
    exact ⟨rfl, (shows.recorded uncounted).own_recorded _⟩

/-- A program runs at a site whose server nothing disturbs as it runs by itself in the scene there,
with the site's tracker, clock and ids for its own. -/
theorem run_scene {α : Type} (p : Program α) (site : Site) (faults : site.server.faults = [])
    (hooks : site.server.hooks = []) :
    let alone := p.run (Scene.surroundings Site.surroundings) (site.scene, site)
    (site.run p).1 = alone.1 ∧ (site.run p).2.scene = alone.2.1 := by
  have start : site.Shows site.scene site := by
    refine ⟨?_, rfl, rfl, rfl, rfl⟩
    rw [Site.scene, ← faults, ← hooks]
  have along (site own : Site) (scene : Scene) (shows : site.Shows scene own) :
      (site.run p).1 = (p.run (Scene.surroundings Site.surroundings) (scene, own)).1 ∧
        (site.run p).2.Shows
          (p.run (Scene.surroundings Site.surroundings) (scene, own)).2.1
          (p.run (Scene.surroundings Site.surroundings) (scene, own)).2.2 := by
    induction p generalizing site own scene with
    | done answer => exact ⟨rfl, shows⟩
    | fail failure => exact ⟨rfl, shows⟩
    | ask request next ih =>
      obtain ⟨reply, after⟩ := shows.surroundings request
      rcases there : Scene.surroundings Site.surroundings request (scene, own) with
        ⟨answer, scene', own'⟩
      rcases here : Site.surroundings request site with ⟨answer', site'⟩
      rw [here, there] at reply after
      obtain rfl : answer' = answer := reply
      simp only [Site.run, Program.run, here, there]
      exact ih answer' site' own' scene' after
  obtain ⟨outcome, shows⟩ := along site site site.scene start
  refine ⟨outcome, ?_⟩
  rw [Site.scene, shows.server, shows.counted]

end Shows

end Site

/-! ## Confined programs by themselves -/

section Alone

variable {ι α : Type} {keys : List ObjectKey} {source : ObjectKey} {p : Program α} {s t : Scene}

theorem Confined.run_congr (own : Surroundings ι) (i : ι) (confined : Confined keys source p)
    (named : s.Named source) (agree : Scene.Agree keys s t) :
    (p.run (Scene.surroundings own) (s, i)).1 = (p.run (Scene.surroundings own) (t, i)).1 ∧
      p.log (Scene.surroundings own) (s, i) = p.log (Scene.surroundings own) (t, i) ∧
      Scene.Agree keys (p.run (Scene.surroundings own) (s, i)).2.1
        (p.run (Scene.surroundings own) (t, i)).2.1 := by
  induction confined generalizing s t i with
  | done answer => exact ⟨rfl, rfl, agree⟩
  | fail failure => exact ⟨rfl, rfl, agree⟩
  | @ask request next within rest ih =>
    obtain ⟨reply, asked, after⟩ := Scene.surroundings_congr own i within agree
    have genuine := Scene.genuine_surroundings own request i named
    have kept := Scene.named_surroundings own i within named
    simp only [Program.run, Program.log]
    rcases there : Scene.surroundings own request (t, i) with ⟨answer, t', j⟩
    rcases here : Scene.surroundings own request (s, i) with ⟨answer', s', j'⟩
    rw [here, there] at reply asked after
    rw [here] at genuine kept
    obtain rfl : answer' = answer := reply
    obtain rfl : j' = j := asked
    obtain ⟨outcome, logged, later⟩ := ih answer' genuine j' kept after
    exact ⟨outcome, congrArg _ logged, later⟩

end Alone

/-! ## Interleavings -/

section Together

variable {σ ι κ α β : Type}

/-- Two programs run together, from one state to another: as long as one of them has not ended, it
may be the next to ask a request. Either has a state of its own besides the one that they share. -/
inductive Together (left : Surroundings (σ × ι)) (right : Surroundings (σ × κ)) :
    Program α × ι → Program β × κ → σ → Except Failure α → Except Failure β → σ → Prop
  | ended {p : Program α} {q : Program β} {i : ι} {j : κ} {s : σ} {a : Except Failure α}
      {b : Except Failure β} (first : Ends p [] a) (second : Ends q [] b) :
      Together left right (p, i) (q, j) s a b s
  | left {request : Request} {next : request.Reply → Program α} {q : Program β × κ} {i : ι}
      {s after : σ} {a : Except Failure α} {b : Except Failure β}
      (rest : Together left right
        (next (left request (s, i)).1, (left request (s, i)).2.2) q (left request (s, i)).2.1 a b
        after) :
      Together left right (.ask request next, i) q s a b after
  | right {p : Program α × ι} {request : Request} {next : request.Reply → Program β} {j : κ}
      {s after : σ} {a : Except Failure α} {b : Except Failure β}
      (rest : Together left right p
        (next (right request (s, j)).1, (right request (s, j)).2.2) (right request (s, j)).2.1 a b
        after) :
      Together left right p (.ask request next, j) s a b after

variable {left : Surroundings (σ × ι)} {right : Surroundings (σ × κ)}

theorem Together.symm {p : Program α × ι} {q : Program β × κ} {s after : σ} {a : Except Failure α}
    {b : Except Failure β} (h : Together left right p q s a b after) :
    Together right left q p s b a after := by
  induction h with
  | ended first second => exact .ended second first
  | left _ ih => exact .right ih
  | right _ ih => exact .left ih

theorem together_in_turn (p : Program α) (q : Program β) (i : ι) (j : κ) (s : σ) :
    Together left right (p, i) (q, j) s (p.run left (s, i)).1
      (q.run right ((p.run left (s, i)).2.1, j)).1
      (q.run right ((p.run left (s, i)).2.1, j)).2.1 := by
  have alone (p : Program α) (a : Except Failure α) (ended : Ends p [] a) (s : σ) (i : ι) :
      Together left right (p, i) (q, j) s a (q.run right (s, j)).1
        (q.run right (s, j)).2.1 := by
    induction q generalizing s j with
    | done answer => exact .ended ended (.done answer)
    | fail failure => exact .ended ended (.fail failure)
    | ask request next ih => exact .right (ih ..)
  induction p generalizing s i with
  | done answer => exact alone _ _ (.done answer) s i
  | fail failure => exact alone _ _ (.fail failure) s i
  | ask request next ih => exact .left (ih ..)

end Together

/-! ## What interleavings come to -/

section Merges

variable {ι κ α β : Type} {ownLeft : Surroundings ι} {ownRight : Surroundings κ}
  {left right : List ObjectKey} {p : Program α × ι} {q : Program β × κ} {s after other : Scene}
  {a a' : Except Failure α} {b b' : Except Failure β} {atLeft atRight : ObjectKey}

/-- Two programs ended, after a scene, as each does by itself there: their outcomes are its
outcomes, the objects under its keys are those that it leaves, all other objects are as they were,
and what was counted is what either counts. -/
structure Merges (ownLeft : Surroundings ι) (ownRight : Surroundings κ)
    (left right : List ObjectKey) (p : Program α × ι) (q : Program β × κ) (s : Scene)
    (a : Except Failure α) (b : Except Failure β) (after : Scene) : Prop where
  first : a = (p.1.run (Scene.surroundings ownLeft) (s, p.2)).1
  second : b = (q.1.run (Scene.surroundings ownRight) (s, q.2)).1
  objects_first : Scene.Agree left after (p.1.run (Scene.surroundings ownLeft) (s, p.2)).2.1
  objects_second : Scene.Agree right after (q.1.run (Scene.surroundings ownRight) (s, q.2)).2.1
  others : ∀ key, ¬ Covers left key → ¬ Covers right key →
    after.store.get? key = s.store.get? key
  counted : after.counted.Perm (s.counted ++
    (increments (p.1.log (Scene.surroundings ownLeft) (s, p.2)) ++
      increments (q.1.log (Scene.surroundings ownRight) (s, q.2))))

theorem Merges.symm (h : Merges ownLeft ownRight left right p q s a b after) :
    Merges ownRight ownLeft right left q p s b a after where
  first := h.second
  second := h.first
  objects_first := h.objects_second
  objects_second := h.objects_first
  others key hr hl := h.others key hl hr
  counted := h.counted.trans (List.perm_append_comm.append_left _)

theorem Merges.unique (h : Merges ownLeft ownRight left right p q s a b after)
    (h' : Merges ownLeft ownRight left right p q s a' b' other) :
    a = a' ∧ b = b' ∧ after.Alike other := by
  refine ⟨h.first.trans h'.first.symm, h.second.trans h'.second.symm, fun key => ?_,
    h.counted.trans h'.counted.symm⟩
  by_cases first : Covers left key
  · exact (h.objects_first key first).trans (h'.objects_first key first).symm
  by_cases second : Covers right key
  · exact (h.objects_second key second).trans (h'.objects_second key second).symm
  · exact (h.others key first second).trans (h'.others key first second).symm

theorem merges_ended {p : Program α} {q : Program β} {i : ι} {j : κ} (first : Ends p [] a)
    (second : Ends q [] b) : Merges ownLeft ownRight left right (p, i) (q, j) s a b s := by
  cases first <;> cases second
  all_goals
    refine ⟨rfl, rfl, fun _ _ => rfl, fun _ _ => rfl, fun _ _ _ => rfl, ?_⟩
    simp [increments, Program.log]

theorem Merges.ask {request : Request} {next : request.Reply → Program α} {i : ι}
    (within : request.Within left atLeft) (confined : Confined right atRight q.1)
    (apart : ∀ key, Covers left key → ¬ Covers right key) (named : s.Named atRight)
    (rest : Merges ownLeft ownRight left right
      (next (Scene.surroundings ownLeft request (s, i)).1,
        (Scene.surroundings ownLeft request (s, i)).2.2) q
      (Scene.surroundings ownLeft request (s, i)).2.1 a b after) :
    Merges ownLeft ownRight left right (.ask request next, i) q s a b after := by
  have untouched : Scene.Agree right s (Scene.surroundings ownLeft request (s, i)).2.1 :=
    fun key covered =>
      (Scene.get?_surroundings ownLeft i within fun h => apart key h covered).symm
  obtain ⟨outcome, logged, objects⟩ := confined.run_congr ownRight q.2 named untouched
  constructor
  · exact rest.first
  · exact rest.second.trans outcome.symm
  · exact rest.objects_first
  · exact fun key covered => (rest.objects_second key covered).trans (objects key covered).symm
  · intro key first second
    exact (rest.others key first second).trans (Scene.get?_surroundings ownLeft i within first)
  · have counted := rest.counted
    rw [Scene.counted_surroundings, ← logged] at counted
    have more : increments (Program.log (Scene.surroundings ownLeft) (.ask request next) (s, i)) =
        request.counter?.toList ++ increments (Program.log (Scene.surroundings ownLeft)
          (next (Scene.surroundings ownLeft request (s, i)).1)
          (Scene.surroundings ownLeft request (s, i)).2) := by
      simp only [increments, Program.log, List.filterMap_cons]
      cases request.counter? <;> rfl
    rwa [more, List.append_assoc, ← List.append_assoc s.counted]

/-- However two programs with no key in common run together, it comes to what they do each by
itself. -/
theorem merges_of_together (confined : Confined left atLeft p.1)
    (confined' : Confined right atRight q.1) (covers : Covers left atLeft)
    (covers' : Covers right atRight) (apart : ∀ key, Covers left key → ¬ Covers right key)
    (named : s.Named atLeft) (named' : s.Named atRight)
    (run : Together (Scene.surroundings ownLeft) (Scene.surroundings ownRight) p q s a b after) :
    Merges ownLeft ownRight left right p q s a b after := by
  have apart' (key : ObjectKey) (second : Covers right key) (first : Covers left key) : False :=
    apart key first second
  -- each request is taken to the front of its own program and past the other one
  induction run with
  | ended first second => exact merges_ended first second
  | left run ih =>
    cases confined with
    | ask within rest =>
      have later := ih (rest _ (Scene.genuine_surroundings _ _ _ named)) confined'
        (Scene.named_surroundings _ _ within named)
        (Scene.named_elsewhere _ _ within (apart' _ covers') named')
      exact later.ask within confined' apart named'
  | right run ih =>
    cases confined' with
    | ask within rest =>
      have later := ih confined (rest _ (Scene.genuine_surroundings _ _ _ named'))
        (Scene.named_elsewhere _ _ within (apart _ covers) named)
        (Scene.named_surroundings _ _ within named')
      exact (later.symm.ask within confined apart' named).symm

end Merges

/-! ## Calls -/

namespace Call

variable {a b : Call}

/-- No key of one call's canary is a key of the other's. -/
def Apart (a b : Call) : Prop := ∀ k ∈ a.keys, ∀ l ∈ b.keys, ¬ k.Same l

instance (a b : Call) : Decidable (a.Apart b) :=
  inferInstanceAs (Decidable (∀ k ∈ a.keys, ∀ l ∈ b.keys, ¬ k.Same l))

theorem Apart.not_covers (apart : a.Apart b) (key : ObjectKey) (first : Covers a.keys key) :
    ¬ Covers b.keys key := by
  rintro ⟨l, mem, there⟩
  obtain ⟨k, mem', here⟩ := first
  exact apart k mem' l mem (here.symm.trans there)

/-- Runs a call by itself: what it ends with, and the scene that it leaves. -/
def alone {ι : Type} (call : Call) (own : Surroundings ι) (i : ι) (s : Scene) :
    Except Failure Value × Scene :=
  let (outcome, after, _) := call.program.run (Scene.surroundings own) (s, i)
  (outcome, after)

end Call

theorem Store.SelfNamed.named {s : Scene} (named : s.store.SelfNamed) (source : ObjectKey) :
    s.Named source :=
  fun v stored manifest name hm own => named source v manifest name stored hm own

/-- Calls for canaries with no key in common do not interfere: in whatever order their requests
come, each ends as it does when one call runs after the other, either way round, and what is stored
and counted in the end is the same too. -/
theorem calls_do_not_interfere {ι κ : Type} {a b : Call} {ownA : Surroundings ι}
    {ownB : Surroundings κ} {i : ι} {j : κ} {scene after : Scene} {endA endB : Except Failure Value}
    (apart : a.Apart b) (named : scene.store.SelfNamed)
    (run : Together (Scene.surroundings ownA) (Scene.surroundings ownB) (a.program, i)
      (b.program, j) scene endA endB after) :
    (let first := a.alone ownA i scene
      let second := b.alone ownB j first.2
      endA = first.1 ∧ endB = second.1 ∧ after.Alike second.2) ∧
    (let first := b.alone ownB j scene
      let second := a.alone ownA i first.2
      endB = first.1 ∧ endA = second.1 ∧ after.Alike second.2) := by
  have merges {endA endB : Except Failure Value} {after : Scene}
      (run : Together (Scene.surroundings ownA) (Scene.surroundings ownB) (a.program, i)
        (b.program, j) scene endA endB after) :
      Merges ownA ownB a.keys b.keys (a.program, i) (b.program, j) scene endA endB after :=
    merges_of_together a.confined b.confined a.covers_source b.covers_source apart.not_covers
      (named.named _) (named.named _) run
  -- both orders are ways to run together, and what programs do each by itself is one thing
  have here := merges run
  obtain ⟨sameA, sameB, alike⟩ := here.unique (merges (together_in_turn ..))
  obtain ⟨sameA', sameB', alike'⟩ := here.unique (merges (together_in_turn ..).symm)
  exact ⟨⟨sameA, sameB, alike⟩, sameB', sameA', alike'⟩

/-- The Deployment `web` with its primary, and the Deployment `api`. -/
def sampleNeighbours : Site := sampleSite [] [("web", "1"), ("web-primary", "2"), ("api", "3")]

/-- The promotion of one Deployment reads its target, then the other Deployment's canary is
established, then the promotion goes on: both succeed as they do one after the other. -/
theorem sampleNeighbours_do_not_interfere :
    let web := sampleCall "web" .promote
    let api := sampleCall "api" .establish
    let S := Scene.surroundings Site.surroundings
    let site := sampleNeighbours
    web.Apart api ∧ site.scene.store.SelfNamed ∧
    ∃ endWeb endApi after,
      Together S S (web.program, site) (api.program, site) site.scene endWeb endApi after ∧
      (endWeb = .ok .null ∧ endApi = .ok .null) ∧
      (let first := web.alone Site.surroundings site site.scene
        let second := api.alone Site.surroundings site first.2
        endWeb = first.1 ∧ endApi = second.1 ∧ after.Alike second.2) ∧
      (let first := api.alone Site.surroundings site site.scene
        let second := web.alone Site.surroundings site first.2
        endApi = first.1 ∧ endWeb = second.1 ∧ after.Alike second.2) := by
  intro web api S site
  have apart : web.Apart api := by decide +kernel
  have named : site.scene.store.SelfNamed := by decide +kernel
  have run : Together S S (web.program, site) (api.program, site) site.scene _ _ _ :=
    .left (together_in_turn _ _ _ _ _).symm
  exact ⟨apart, named, _, _, _, run, by decide +kernel, calls_do_not_interfere apart named run⟩

end CanaryRelease
