import CanaryRelease.Proofs.Evaluations
import CanaryRelease.Proofs.LostUpdates
import CanaryRelease.Proofs.Ownership
import Mathlib.Algebra.BigOperators.Group.Finset.Piecewise
import Mathlib.Algebra.Order.BigOperators.Group.Finset

/-!
# Counters over whole runs

Calls of all kinds run interleaved, any call to the server may fail, and others edit the objects in
between. However that goes, each counter says how often what it tells of has happened
(`counters_tell_truth`): it is never ahead, and it is behind only by what the calls that are still
going on have not yet counted, one increment each.

For one call this is `Call.balanced`. In a run, the exchanges of each caller are a log of its call,
and both what was counted and what there was to count are sums over the callers
(`count_gather_moments`), by induction on the run: a moment adds to the share of its caller alone.
-/

namespace CanaryRelease

open Program Workload PodTemplate

/-! ## The logs of callers -/

section Calls

variable {α : Type} {p : Program α} {log : List Exchange} {e : Exchange}

theorem asks_or_ends (h : Asks p log e.request) :
    (∃ r, Asks p (log ++ [e]) r) ∨ ∃ outcome, Ends p (log ++ [e]) outcome := by
  obtain ⟨request, reply⟩ := e
  induction log generalizing p with
  | nil =>
    cases h with
    | now _ next =>
      cases h : next reply with
      | done a => exact .inr ⟨.ok a, .later (h ▸ .done a)⟩
      | fail failure => exact .inr ⟨.error failure, .later (h ▸ .fail failure)⟩
      | ask r rest => exact .inl ⟨r, .later (h ▸ .now r rest)⟩
  | cons first log ih =>
    cases h with
    | later rest =>
      obtain ⟨r, asks⟩ | ⟨outcome, ends⟩ := ih rest
      · exact .inl ⟨r, .later asks⟩
      · exact .inr ⟨outcome, .later ends⟩

/-- What is counted in a log is what there was to count, but for one increment at most. -/
theorem Balanced.count_le {call : Call} (h : Balanced call [] [] call.program fun _ => [])
    (reached : (∃ r, Asks call.program log r) ∨ ∃ outcome, Ends call.program log outcome)
    (counter : Counter) :
    (increments log).count counter ≤ (call.occasions [] log).count counter ∧
      (call.occasions [] log).count counter ≤ (increments log).count counter + 1 := by
  obtain ⟨r, asks⟩ | ⟨failure | a, ends⟩ := reached
  · obtain ⟨pending, short, balance⟩ := h.going log r asks
    have most : pending.count counter ≤ 1 := List.count_le_length.trans short
    rw [List.nil_append] at balance
    rw [balance, List.count_append]
    omega
  · have balance := h.failed log failure ends
    rw [List.nil_append] at balance
    rw [balance]
    omega
  · have balance := h.succeeded log a ends
    rw [List.nil_append, List.append_nil] at balance
    rw [balance]
    omega

theorem Balanced.occasions_eq {call : Call} (h : Balanced call [] [] call.program fun _ => [])
    {outcome : Except Failure Value} (ends : Ends call.program log outcome) :
    call.occasions [] log = increments log := by
  cases outcome with
  | error failure => simpa using h.failed log failure ends
  | ok a => simpa using h.succeeded log a ends

end Calls

/-! ## Sums over callers -/

/-- What rules, one for each caller, make of a moment that comes after others. -/
def Moment.by? (rules : Nat → List Exchange → Exchange → Option Counter) (past : List Moment)
    (m : Moment) : Option Counter :=
  match m.event with
  | .exchange caller e _ => rules caller (exchangesOf caller past) e
  | .edit .. => none

variable {calls : Nat → Call} {start store : Store} {moments past future : List Moment} {m : Moment}
  {e : Exchange} {caller : Nat} {disturbed : Bool}

section Sums

variable {rules : Nat → List Exchange → Exchange → Option Counter}

theorem exchangesOf_snoc_of_ne {other : Nat} (hm : m.event = .exchange caller e disturbed)
    (ne : other ≠ caller) : exchangesOf other (past ++ [m]) = exchangesOf other past := by
  rw [exchangesOf_append]
  simp [exchangesOf, hm, ne.symm]

theorem exchangesOf_snoc_edit {key : ObjectKey} {value : Option Value}
    (hm : m.event = .edit key value) :
    exchangesOf caller (past ++ [m]) = exchangesOf caller past := by
  rw [exchangesOf_append]
  simp [exchangesOf, hm]

theorem count_gather_moments (rules : Nat → List Exchange → Exchange → Option Counter)
    (callers : Finset Nat)
    (known : ∀ m ∈ moments, ∀ caller e disturbed, m.event = .exchange caller e disturbed →
      caller ∈ callers) (counter : Counter) :
    (gather (Moment.by? rules) [] moments).count counter =
      ∑ i ∈ callers, (gather (rules i) [] (exchangesOf i moments)).count counter := by
  induction moments using List.reverseRecOn with
  | nil => simp [gather, exchangesOf]
  | append_singleton past m ih =>
    have before := ih fun m' hm' => known m' (List.mem_append_left _ hm')
    rw [gather_snoc, List.count_append, before, List.nil_append, Moment.by?]
    cases hm : m.event with
    | edit key value => simp [exchangesOf_snoc_edit hm]
    | exchange caller e disturbed =>
      -- the log of the moment's caller is one exchange longer, and no other one is
      have share (i : Nat) : (gather (rules i) [] (exchangesOf i (past ++ [m]))).count counter =
          (gather (rules i) [] (exchangesOf i past)).count counter +
            if i = caller then ((rules caller (exchangesOf caller past) e).toList).count counter
            else 0 := by
        by_cases own : i = caller
        · subst own
          rw [exchangesOf_snoc hm, gather_snoc, List.count_append, List.nil_append, if_pos rfl]
        · rw [exchangesOf_snoc_of_ne hm own, if_neg own, Nat.add_zero]
      have mem : caller ∈ callers := known m (by simp) caller e disturbed hm
      simp only [share, Finset.sum_add_distrib, Finset.sum_ite_eq', if_pos mem]

theorem exists_callers (moments : List Moment) : ∃ callers : Finset Nat, ∀ m ∈ moments,
    ∀ caller e disturbed, m.event = .exchange caller e disturbed → caller ∈ callers := by
  induction moments with
  | nil => exact ⟨∅, by simp⟩
  | cons m moments ih =>
    obtain ⟨callers, known⟩ := ih
    cases hm : m.event with
    | edit key value =>
      refine ⟨callers, fun m' mem caller e disturbed hm' => ?_⟩
      obtain rfl | mem := List.mem_cons.mp mem
      · cases hm.symm.trans hm'
      · exact known m' mem caller e disturbed hm'
    | exchange first e disturbed =>
      refine ⟨insert first callers, fun m' mem caller e' disturbed' hm' => ?_⟩
      obtain rfl | mem := List.mem_cons.mp mem
      · cases hm.symm.trans hm'
        exact Finset.mem_insert_self _ _
      · exact Finset.mem_insert_of_mem (known m' mem caller e' disturbed' hm')

end Sums

/-! ## What is counted and what there is to count -/

/-- The counter that an event increments. -/
def Event.counter? : Event → Option Counter
  | .exchange _ e _ => e.request.counter?
  | .edit .. => none

/-- The increments that are made in a run. -/
def countedIn (moments : List Moment) : List Counter := moments.filterMap (·.event.counter?)

/-- The occasions that there are in a run of calls. -/
def occasionsIn (calls : Nat → Call) (moments : List Moment) : List Counter :=
  gather (Moment.by? fun caller => (calls caller).occasion?) [] moments

/-- A caller's call is not going on: it has not begun, or it has ended. -/
def AtRest (calls : Nat → Call) (moments : List Moment) (caller : Nat) : Prop :=
  exchangesOf caller moments = [] ∨
    ∃ outcome, (calls caller).program.Ends (exchangesOf caller moments) outcome

theorem count_countedIn {callers : Finset Nat}
    (known : ∀ m ∈ moments, ∀ caller e disturbed, m.event = .exchange caller e disturbed →
      caller ∈ callers) (counter : Counter) :
    (countedIn moments).count counter =
      ∑ i ∈ callers, (increments (exchangesOf i moments)).count counter := by
  have rule : Moment.by? (fun _ _ e => e.request.counter?) = fun _ m => m.event.counter? := by
    funext past ⟨before, event, after⟩
    cases event <;> rfl
  have sum := count_gather_moments (fun _ _ e => e.request.counter?) callers known counter
  rw [rule, gather_const] at sum
  simp only [gather_const] at sum
  exact sum

theorem count_occasionsIn {callers : Finset Nat}
    (known : ∀ m ∈ moments, ∀ caller e disturbed, m.event = .exchange caller e disturbed →
      caller ∈ callers) (counter : Counter) :
    (occasionsIn calls moments).count counter =
      ∑ i ∈ callers, ((calls i).occasions [] (exchangesOf i moments)).count counter :=
  count_gather_moments _ callers known counter

theorem count_caller_at_rest {caller : Nat} (rest : AtRest calls moments caller)
    (counter : Counter) :
    ((calls caller).occasions [] (exchangesOf caller moments)).count counter =
      (increments (exchangesOf caller moments)).count counter := by
  rcases rest with none | ⟨outcome, ends⟩
  · rw [none]
    rfl
  · rw [(calls caller).balanced.occasions_eq ends]

section Runs

variable (run : Run (fun caller => (calls caller).program) start moments store)

include run

theorem Run.reached (caller : Nat) : exchangesOf caller moments = [] ∨
    (∃ r, Asks (calls caller).program (exchangesOf caller moments) r) ∨
      ∃ outcome, Ends (calls caller).program (exchangesOf caller moments) outcome := by
  rcases List.eq_nil_or_concat' (exchangesOf caller moments) with none | ⟨log, e, some⟩
  · exact .inl none
  · obtain ⟨before, after, m, disturbed, rfl, hm, rfl, -⟩ := exists_moment_of_exchangesOf some
    rw [some]
    exact .inr (asks_or_ends (run.asks hm).1)

theorem Run.count_caller (caller : Nat) (counter : Counter) :
    (increments (exchangesOf caller moments)).count counter ≤
        ((calls caller).occasions [] (exchangesOf caller moments)).count counter ∧
      ((calls caller).occasions [] (exchangesOf caller moments)).count counter ≤
        (increments (exchangesOf caller moments)).count counter + 1 := by
  rcases run.reached caller with none | reached
  · rw [none]
    exact ⟨Nat.le_refl 0, Nat.zero_le 1⟩
  · exact (calls caller).balanced.count_le reached counter

/-- No counter is ever ahead of its occasions. -/
theorem Run.counted_le (counter : Counter) :
    (countedIn moments).count counter ≤ (occasionsIn calls moments).count counter := by
  obtain ⟨callers, known⟩ := exists_callers moments
  rw [count_countedIn known, count_occasionsIn known]
  exact Finset.sum_le_sum fun i _ => (run.count_caller i counter).1

/-- A counter is behind by what the calls that are going on have to count, one increment each. -/
theorem Run.occasions_le {going : Finset Nat} (rest : ∀ i ∉ going, AtRest calls moments i)
    (counter : Counter) :
    (occasionsIn calls moments).count counter ≤
      (countedIn moments).count counter + going.card := by
  obtain ⟨callers, known⟩ := exists_callers moments
  rw [count_countedIn known, count_occasionsIn known]
  calc ∑ i ∈ callers, ((calls i).occasions [] (exchangesOf i moments)).count counter
      ≤ ∑ i ∈ callers, ((increments (exchangesOf i moments)).count counter +
          if i ∈ going then 1 else 0) := Finset.sum_le_sum fun i _ => by
        by_cases active : i ∈ going
        · rw [if_pos active]
          exact (run.count_caller i counter).2
        · rw [if_neg active, count_caller_at_rest (rest i active)]
          exact Nat.le_refl _
    _ = ∑ i ∈ callers, (increments (exchangesOf i moments)).count counter +
          (callers ∩ going).card := by
        rw [Finset.sum_add_distrib, ← Finset.card_filter, Finset.filter_mem_eq_inter]
    _ ≤ _ := Nat.add_le_add_left (Finset.card_le_card Finset.inter_subset_right) _

end Runs

/-! ## What an occasion says of its call -/

namespace Call

variable {call : Call} {log : List Exchange} {counter : Counter}

/-- What has to be the case for an exchange to be an occasion. -/
inductive Earns (call : Call) (e : Exchange) : Counter → Prop where
  | primaryCreated (named : e.request.key? = some (call.controller.primaryKey call.canary)) :
      Earns call e (.primaryCreated call.controller.kind.name)
  | promoted (promoting : call.operation = .promote) :
      Earns call e (.promoted call.controller.kind.name)
  | scaled {kind : Kind} {name : ObjectName} {body : Value} (other : call.operation ≠ .promote)
      (replaced : e = replaceExchange kind name body (.ok ())) (down : Bool) :
      Earns call e (.scaled call.controller.kind.name down)
  | judged {c : TemplateController} (template : call.controller = .template c)
      (clock : e.request = .readClock) (verdict : Verdict) :
      Earns call e (.readinessChecked c.kind.name verdict)
  | refused (status : String) : Earns call e (.refused call.controller.kind.name status)

theorem earns_of_judgement {now : Timestamp} (h : call.judgement? log now = some counter) :
    call.Earns ⟨.readClock, now⟩ counter := by
  obtain ⟨controller, operation, canary⟩ := call
  cases controller with
  | service c => cases h
  | template c =>
    simp only [judgement?, Option.bind_eq_bind, Option.bind_eq_some_iff] at h
    obtain ⟨_, -, _, -, _, -, readiness, -, ⟨⟩⟩ := h
    exact .judged rfl rfl readiness.verdict

theorem earns_of_refusal (log : List Exchange) (h : (e.refusal?.bind fun refusal =>
      if refusal.status.alike (.int 404) = true ∧
          ChecksExistence call.controller call.operation call.canary log e.request then none
      else some (.refused call.controller.kind.name refusal.status.display)) = some counter) :
    call.Earns e counter := by
  obtain ⟨refusal, -, h⟩ := Option.bind_eq_some_iff.mp h
  split at h
  · cases h
  · cases h
    exact .refused _

theorem earns_of_occasion (h : call.occasion? log e = some counter) : call.Earns e counter := by
  obtain ⟨request, reply⟩ := e
  cases request with
  | createObject kind space body =>
    cases reply with
    | error failure => exact earns_of_refusal log h
    | ok u =>
      change (if _ ∧ _ then some (Counter.primaryCreated call.controller.kind.name) else none) = _
        at h
      split at h
      · rename_i both
        cases h
        exact .primaryCreated both.2
      · cases h
  | replaceObject kind name body =>
    cases reply with
    | error failure => exact earns_of_refusal log h
    | ok u =>
      change (if call.operation = .promote then _ else _) = _ at h
      split at h
      · rename_i promoting
        cases h
        exact .promoted promoting
      · rename_i other
        obtain ⟨target, -, h⟩ := Option.bind_eq_some_iff.mp h
        obtain ⟨down, -, rfl⟩ := Option.map_eq_some_iff.mp h
        exact .scaled other rfl down
  | readClock => exact earns_of_judgement h
  | _ => exact earns_of_refusal log h

end Call

/-! ## Targets whose marker is moved -/

variable {kind : Kind} {object name : ObjectName} {body v : Value} {log : List Exchange}

/-- At a moment the marker is put on the object that is stored at a key, or taken off it. -/
def Moment.MovesMarker (m : Moment) (key : ObjectKey) (down : Bool) : Prop :=
  ∃ old new, m.before.get? key = some old ∧ m.after.get? key = some new ∧ MarkerMoved old new down

namespace TemplateController

variable {c : TemplateController} {canary : Canary} {operation : Operation}

/-- `body` is what the target is replaced with after it was read, with its marker moved. -/
structure Moves (c : TemplateController) (canary : Canary) (log : List Exchange) (body : Value)
    (down : Bool) : Prop where
  steps : ∃ before v target,
    log = before ++ [readExchange (.template c.kind) canary.targetObject (.ok v)] ∧
    v.toManifest = .ok target ∧ WrittenBack (.template c.kind) [markerPlace] target body ∧
    MarkerMoved target body down

theorem moves_of_writes (other : operation ≠ .promote)
    (h : Writes (Controller.call (.template c) operation canary) log
      (.replaceObject kind name body)) :
    kind = .template c.kind ∧ ∃ down, Moves c canary log body down := by
  have scaled {before last : List Exchange} (hlog : log = before ++ last)
      (scaling : Writes (c.scaleToZero canary) last (.replaceObject kind name body)) :
      kind = .template c.kind ∧ ∃ down, Moves c canary log body down := by
    obtain ⟨v, target, _, _, rfl, ⟨⟩, marks⟩ := marks_of_writes scaling
    exact ⟨rfl, true, before, v, target, hlog, marks.manifest, marks.down.written, marks.unmarked,
      marks.down.marker⟩
  have unscaled (scaling : Writes (c.scaleFromZero canary) log (.replaceObject kind name body)) :
      kind = .template c.kind ∧ ∃ down, Moves c canary log body down := by
    obtain ⟨v, target, _, _, x, rfl, hv, ⟨⟩, written, marked, gone⟩ := unmarks_of_writes scaling
    exact ⟨rfl, false, [], v, target, rfl, hv, written, by simp [marked], gone⟩
  cases operation with
  | promote => exact absurd rfl other
  | establish =>
    obtain creating | ⟨seen, checked, last, hlog, -, -, -, scaling⟩ :=
      writes_establish (Controller.writes_silent.mp h)
    · obtain ⟨_, _, _, _, _, _, _, _, _, -, -, -, hr, -⟩ := writes_createPrimary creating
      cases hr
    · exact scaled hlog scaling
  | scaleToZero => exact scaled (List.nil_append _).symm (Controller.writes_silent.mp h)
  | scaleFromZero | finalize => exact unscaled (Controller.writes_silent.mp h)
  | hasTargetChanged | haveConfigsChanged | pairing | checkPrimary | checkTarget =>
    exact absurd h (Controller.readOnly_call rfl _ _)

end TemplateController

theorem Call.exists_template {call : Call} (other : call.operation ≠ .promote)
    (h : Writes call.program log (.replaceObject kind name body)) :
    ∃ c, call.controller = .template c := by
  obtain ⟨controller, operation, canary⟩ := call
  cases controller with
  | template c => exact ⟨c, rfl⟩
  | service c =>
    cases Controller.writes_call h with
    | promotes promoting => exact absurd promoting other
    | scales same => cases same

theorem Kind.template_ne_service (kind : TemplateKind) :
    (Kind.template kind).name ≠ Kind.service.name := by
  cases kind <;> decide

theorem Call.Earns.apart_from_services {call : Call} {counter : Counter} (h : call.Earns e counter)
    (asks : Asks call.program log e.request) :
    (∀ down, counter ≠ .scaled Kind.service.name down) ∧
      ∀ verdict, counter ≠ .readinessChecked Kind.service.name verdict := by
  cases h with
  | scaled other replaced =>
    subst replaced
    obtain ⟨c, template⟩ := exists_template other ⟨asks, rfl⟩
    rw [template]
    exact ⟨fun down same => Kind.template_ne_service _ (Counter.scaled.inj same).1, nofun⟩
  | judged =>
    refine ⟨nofun, fun verdict same => ?_⟩
    exact Kind.template_ne_service _ (Counter.readinessChecked.inj same).1
  | _ => exact ⟨nofun, nofun⟩

theorem Call.Earns.refused_of_canaryObject {call : Call} {counter : Counter}
    (h : call.Earns e counter) (asks : Asks call.program log e.request)
    (establishing : call.operation = .establish)
    (about : e.request.key? =
      some ⟨Kind.service.name, ServiceController.canaryObject call.canary⟩) :
    ∃ status, counter = .refused Kind.service.name status := by
  have located := (call.controller.accounts call.operation call.canary).located log _ _ asks about
  cases h with
  | primaryCreated named =>
    have same := (ObjectKey.mk.inj (Option.some.inj (named.symm.trans about))).2
    exact absurd (congrArg ObjectName.standard same.symm) ServiceController.canaryObject_ne
  | promoted promoting => cases establishing.symm.trans promoting
  | scaled other replaced =>
    subst replaced
    obtain ⟨c, template⟩ := exists_template other ⟨asks, rfl⟩
    rw [template] at located
    exact absurd located.1.symm (Kind.template_ne_service c.kind)
  | judged _ clock =>
    rw [clock] at about
    cases about
  | refused status => exact ⟨status, by rw [← located.1]⟩

section Runs

variable (run : Run (fun caller => (calls caller).program) start (past ++ m :: future) store)

include run

/-- A replacement that succeeds and is no promotion is counted by what it makes of the marker, and
that is what becomes of the stored target. -/
theorem Run.scales
    (hm : m.event = .exchange caller (replaceExchange kind name body (.ok ())) disturbed)
    (other : (calls caller).operation ≠ .promote) :
    ∃ down, (calls caller).occasion? (exchangesOf caller past)
        (replaceExchange kind name body (.ok ())) =
          some (.scaled (calls caller).controller.kind.name down) ∧
      (FreshVersions start (past ++ m :: future) →
        m.MovesMarker ((calls caller).controller.targetKey (calls caller).canary) down) := by
  obtain ⟨asks, served⟩ := run.asks hm
  have writes : Writes (calls caller).program (exchangesOf caller past)
      (.replaceObject kind name body) := ⟨asks, rfl⟩
  obtain ⟨c, template⟩ := Call.exists_template other writes
  rcases hcall : calls caller with ⟨controller, operation, canary⟩
  rw [hcall] at template other writes
  obtain rfl : controller = .template c := template
  obtain ⟨rfl, down, before, v, target, hlog, manifest, written, moved⟩ :=
    TemplateController.moves_of_writes other writes
  refine ⟨down, ?_, fun fresh => ?_⟩
  · rw [hlog]
    exact TemplateController.occasion?_replace other manifest moved
  · obtain ⟨earlier, since, read, _, rfl, hread, -, -⟩ := exists_moment_of_exchangesOf hlog
    obtain ⟨runUntil, -⟩ := run.at_moment
    have stored : read.before.get? ⟨_, canary.targetObject⟩ = some v :=
      Server.Serves.get?_of_read (runUntil.asks hread).2
    have version := resourceVersion_of_writtenBack manifest written
      (by simp [markerPlace, podSpecPlace])
    obtain ⟨x, kept, hx, alike, same, after⟩ := served.of_replaced
    -- the version was accepted, so the marker that was read is the one that is replaced
    obtain ⟨place, rfl⟩ := fresh.of_append.eq_of_alike runUntil stored version hx alike
    have read_marker : target.at? markerPlace = (x.at? markerPlace).map Value.wire := by
      obtain ⟨_, -, parts⟩ := Value.toManifest_eq_ok manifest
      rw [← Value.at?_wire]
      exact parts _ _
    have kept_marker : kept.at? markerPlace = body.at? markerPlace :=
      same _ (by simp [serverPlaces, markerPlace, podSpecPlace])
    refine ⟨x, kept, (Store.get?_congr _ place).symm.trans hx, ?_, ?_⟩
    · rw [after]
      exact (Store.get?_put ..).trans (if_pos place)
    · cases down with
      | true =>
        refine ⟨fun there => moved.1 ?_, kept_marker.trans moved.2⟩
        rw [read_marker, there]
        rfl
      | false =>
        refine ⟨fun gone => moved.1 ?_, kept_marker.trans moved.2⟩
        rw [read_marker, gone]
        rfl

end Runs

/-! ## All counters -/

theorem Site.ends_moments {programs : Nat → Program Value} {p : Program Value} {s : Site}
    (run : Run programs start past s.server.store)
    (own : ∀ log r, p.Asks log r → (programs caller).Asks (exchangesOf caller past ++ log) r) :
    Ends p (exchangesOf caller (Site.moments caller p s)) (s.run p).1 := by
  induction p generalizing past s with
  | done a => exact .done a
  | fail failure => exact .fail failure
  | ask request next ih =>
    obtain ⟨asked, once⟩ := run_momentsOf run (by simpa using own _ _ (.now request next))
    rw [Site.moments, exchangesOf_append, once]
    refine .later (ih _ asked fun log r asks => ?_)
    rw [exchangesOf_append, once, List.append_assoc]
    exact own _ _ (.later asks)

/-- The exchanges of a call at a site, from its beginning to its end. -/
def Call.exchangesAt (call : Call) (site : Site) : List Exchange :=
  exchangesOf 0 (site.moments 0 call.program)

theorem Call.ends_exchangesAt (call : Call) (site : Site) :
    Ends call.program (call.exchangesAt site) (site.run call.program).1 := by
  have run : Run (fun _ => call.program) site.server.store [] site.server.store := .start
  exact Site.ends_moments run fun _ _ asks => asks

/-- The counters of a run tell how often what they count has happened. -/
structure TruthfulCounters (calls : Nat → Call) (start : Store) (moments : List Moment) : Prop where
  /-- While no call is going on, what there was to count has been counted. -/
  settled : (∀ caller, AtRest calls moments caller) → ∀ counter,
    (countedIn moments).count counter = (occasionsIn calls moments).count counter
  /-- Nothing is counted before it has happened, or twice. -/
  ahead : ∀ counter, (countedIn moments).count counter ≤ (occasionsIn calls moments).count counter
  /-- A call that is going on has one increment at most to make. -/
  behind : ∀ going : Finset Nat, (∀ caller ∉ going, AtRest calls moments caller) → ∀ counter,
    (occasionsIn calls moments).count counter ≤ (countedIn moments).count counter + going.card
  /-- Replacements other than promotions are counted by what they make of the marker. -/
  scales : ∀ past m future caller kind name body disturbed, moments = past ++ m :: future →
    m.event = .exchange caller (replaceExchange kind name body (.ok ())) disturbed →
    (calls caller).operation ≠ .promote →
    ∃ down, (calls caller).occasion? (exchangesOf caller past)
        (replaceExchange kind name body (.ok ())) =
          some (.scaled (calls caller).controller.kind.name down) ∧
      (FreshVersions start moments →
        m.MovesMarker ((calls caller).controller.targetKey (calls caller).canary) down)
  /-- An object that was read to be judged and could be mapped is judged by the next exchange. -/
  evaluates : ∀ past m future caller e disturbed, moments = past ++ m :: future →
    m.event = .exchange caller e disturbed →
    (calls caller).Evaluates (exchangesOf caller past) e →
    (calls caller).program.Asks (exchangesOf caller (past ++ [m])) .readClock
  /-- Nothing is scaled or judged for a Service. -/
  services : ∀ counter ∈ countedIn moments, (∀ down, counter ≠ .scaled Kind.service.name down) ∧
    ∀ verdict, counter ≠ .readinessChecked Kind.service.name verdict
  /-- The service that a canary is reached through is counted by refusals alone. -/
  canaryServices : ∀ past m future caller e disturbed counter, moments = past ++ m :: future →
    m.event = .exchange caller e disturbed → (calls caller).operation = .establish →
    e.request.key? =
      some ⟨Kind.service.name, ServiceController.canaryObject (calls caller).canary⟩ →
    (calls caller).occasion? (exchangesOf caller past) e = some counter →
    ∃ status, counter = .refused Kind.service.name status

/-- In every run of calls, whatever fails and whatever others do, the counters tell the truth. -/
theorem counters_tell_truth
    (run : Run (fun caller => (calls caller).program) start moments store) :
    TruthfulCounters calls start moments where
  settled rest counter := by
    refine Nat.le_antisymm (run.counted_le counter) ?_
    exact run.occasions_le (fun caller (_ : caller ∉ (∅ : Finset Nat)) => rest caller) counter
  ahead := run.counted_le
  behind _ rest := run.occasions_le rest
  scales := by
    rintro past m future caller kind name body disturbed rfl hm other
    exact run.scales hm other
  evaluates := by
    rintro past m future caller e disturbed rfl hm evaluates
    rw [exchangesOf_snoc hm]
    exact evaluates.asks_clock (run.asks hm).1
  services := by
    intro counter counted
    have some_occasion := (List.count_pos_iff.mpr counted).trans_le (run.counted_le counter)
    obtain ⟨past, m, future, rfl, made⟩ :=
      exists_entry_of_mem_gather (List.count_pos_iff.mp some_occasion)
    rw [Moment.by?] at made
    cases hm : m.event with
    | edit key value =>
      rw [hm] at made
      cases made
    | exchange caller e disturbed =>
      rw [hm] at made
      exact (Call.earns_of_occasion made).apart_from_services (run.asks hm).1
  canaryServices := by
    rintro past m future caller e disturbed counter rfl hm establishing about made
    exact (Call.earns_of_occasion made).refused_of_canaryObject (run.asks hm).1 establishing about

/-- The calls for two Deployments, one of which fails, are counted one by one. -/
theorem sampleCalls_counted :
    (∀ counter, (countedIn (sampleMomentsUntil 4)).count counter =
      (occasionsIn sampleCalls (sampleMomentsUntil 4)).count counter) ∧
    occasionsIn sampleCalls (sampleMomentsUntil 4) =
      [.primaryCreated "Deployment", .scaled "Deployment" true, .refused "Deployment" "500",
        .promoted "Deployment", .scaled "Deployment" false] := by
  have own : ∀ n < 4, exchangesOf n (sampleMomentsUntil n) = [] ∧
      exchangesOf n (sampleMomentsUntil 4) =
        exchangesOf n ((sampleSiteAfter n).moments n (sampleCalls n).program) := by
    decide +kernel
  have few : ((sampleMomentsUntil 4).all fun m => match m.event with
      | .exchange caller _ _ => caller < 4
      | .edit .. => true) = true := by
    decide +kernel
  have rest (caller : Nat) : AtRest sampleCalls (sampleMomentsUntil 4) caller := by
    by_cases called : caller < 4
    · obtain ⟨none_before, all⟩ := own caller called
      have run := run_sampleMomentsUntil (Nat.le_of_lt called)
      have ends := Site.ends_moments run fun log r asks => by rwa [none_before]
      exact .inr ⟨_, all ▸ ends⟩
    · refine .inl (List.filterMap_eq_nil_iff.mpr fun m mem => ?_)
      have early := List.all_eq_true.mp few m mem
      cases event : m.event with
      | edit key value => rfl
      | exchange other e disturbed =>
        rw [event] at early
        have other_lt : other < 4 := of_decide_eq_true early
        exact if_neg (by omega)
  have run := run_sampleMomentsUntil (Nat.le_refl 4)
  exact ⟨(counters_tell_truth run).settled rest, by decide +kernel⟩

end CanaryRelease
