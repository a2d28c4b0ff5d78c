import CanaryRelease.Proofs.Numerals
import CanaryRelease.Proofs.Places
import CanaryRelease.Canary

/-!
# Integers of a canary

Two fields of a Canary object are integers: the deadline of a rollout and the port of the service.
Each may be given as a number or as a text, and a text has to be a spelling of an integer
(`integer_spellings`): it then stands for that integer, and any other text is refused.

Nothing else of the object is looked at differently for it. The reading of an object is a function
of what one of these fields reads as (`exists_reading`), and `Reading` says which functions these
are: they hand the integer on, and they fail with the field if it fails.
-/

namespace CanaryRelease

open Value Text

namespace Value

/-! ## Objects that differ in one place -/

namespace SameApart

variable {fs gs : Fields} {s : String} {place : Path}

theorem get?_eq (h : SameApart [.text s :: place] (object fs) (object gs)) (key : Key)
    (other : key ≠ .text s) : gs.get? key = fs.get? key := by
  have same := h [key] fun p hp => by
    obtain rfl := List.mem_singleton.mp hp
    exact Path.apart_cons.mpr fun here => absurd here other
  rwa [at?_object_singleton, at?_object_singleton] at same

theorem inner {a b : Value} (h : SameApart [.text s :: place] (object fs) (object gs))
    (ha : fs.get? (.text s) = some a) (hb : gs.get? (.text s) = some b) :
    SameApart [place] a b := by
  intro path apart
  have same := h (.text s :: path) fun p hp => by
    obtain rfl := List.mem_singleton.mp hp
    exact Path.apart_cons.mpr fun _ => apart place List.mem_cons_self
  rwa [at?_object, at?_object, ha, hb] at same

end SameApart

theorem sameApart_set_section {fs gs : Fields} {r : String}
    (h : fs.get? (.text r) = some (object gs)) (s : String) (x : Value) :
    SameApart [[.text r, .text s]] (object fs)
      (object (fs.set (.text r) (object (gs.set (.text s) x)))) :=
  (isSection_of_get? h).sameApart_set (List.cons_ne_nil _ _) (sameApart_set gs s x)

theorem get_object (fs : Fields) (key : Key) :
    (object fs).get key = .ok ((fs.get? key).getD null) := rfl

theorem getOr_object (fs : Fields) (key : Key) (default : Value) :
    (object fs).getOr key default = .ok ((fs.get? key).getD default) := rfl

theorem getSection_object (fs : Fields) (key : Key) :
    (object fs).getSection key = .ok (((fs.get? key).getD null).orElse empty) := rfl

theorem toInteger_text {s : String} {n : Int} (h : readInteger s.toList = .ok n) :
    (text s).toInteger = .ok n := by
  rw [toInteger, h]

theorem toInteger_text_error {s : String} {e : NumeralError}
    (h : readInteger s.toList = .error e) :
    (text s).toInteger = .error (.invalid (.numeral s e)) := by
  rw [toInteger, h]

end Value

namespace Canary

/-! ## The fields -/

/-- The fields of a Canary object that are integers. -/
inductive IntegerField where
  | progressDeadline
  | servicePort
  deriving DecidableEq, Repr

namespace IntegerField

/-- Where the field stands. -/
def place : IntegerField → Path
  | progressDeadline => ["spec", "progressDeadlineSeconds"]
  | servicePort => ["spec", "service", "port"]

/-- The field in what is read. -/
def of : IntegerField → Canary → Int
  | progressDeadline, c => c.progressDeadline
  | servicePort, c => c.service.port

/-- A canary with another integer in the field. -/
def put : IntegerField → Int → Canary → Canary
  | progressDeadline, n, c => { c with progressDeadline := n }
  | servicePort, n, c => { c with service := { c.service with port := n } }

@[simp] theorem of_put (field : IntegerField) (n : Int) (c : Canary) :
    field.of (field.put n c) = n := by
  cases field <;> rfl

end IntegerField

/-! ## Readings -/

/-- A way to read a canary from what one of its fields reads as. Where an integer there gives a
canary, another one gives the same canary but for it, and a failure of the field is a failure of
all. -/
structure Reading (field : IntegerField) (read : Except Failure Int → Except Failure Canary) :
    Prop where
  change : ∀ {n c}, read (.ok n) = .ok c → ∀ m, read (.ok m) = .ok (field.put m c)
  error : ∀ {n c}, read (.ok n) = .ok c → ∀ e, read (.error e) = .error e

namespace Reading

variable {field : IntegerField} {α : Type} {read : Except Failure Int → Except Failure Canary}

theorem bind {x : Except Failure α} {read : α → Except Failure Int → Except Failure Canary}
    (h : ∀ a, Reading field (read a)) :
    Reading field fun result => x >>= fun a => read a result := by
  cases x with
  | ok a => exact h a
  | error e => exact ⟨nofun, nofun⟩

theorem ite {p : Prop} [Decidable p] {read' : Except Failure Int → Except Failure Canary}
    (h : Reading field read) (h' : Reading field read') :
    Reading field fun result => if p then read result else read' result := by
  by_cases hp : p
  · simpa only [if_pos hp] using h
  · simpa only [if_neg hp] using h'

theorem guard {p : Prop} [Decidable p] {e : Failure} (h : Reading field read) :
    Reading field fun result =>
      if p then (.error e : Except Failure PUnit) >>= fun _ => read result else read result :=
  .ite ⟨nofun, nofun⟩ h

theorem here {next : Int → Except Failure Canary}
    (h : ∀ {n c}, next n = .ok c → ∀ m, next m = .ok (field.put m c)) :
    Reading field fun result => result >>= next :=
  ⟨h, fun _ _ => rfl⟩

end Reading

/-- An object is another one with a value given for a field. -/
structure Given (field : IntegerField) (v : Value) (object other : Value) : Prop where
  same : SameApart [field.place] object other
  value : other.at? field.place = some v

theorem ok_bind {α β : Type} (a : α) (f : α → Except Failure β) : (Except.ok a >>= f) = f a := rfl

theorem exists_reading_progressDeadline {object w : Value}
    (stands : object.at? IntegerField.progressDeadline.place = some w) :
    ∃ read, Reading .progressDeadline read ∧ ∀ {v other}, v ≠ .null →
      Given .progressDeadline v object other → ofObject other = read v.toInteger := by
  obtain ⟨os, spec, rfl, hspec, stands⟩ := at?_text_eq_some.mp stands
  obtain ⟨ss, -, rfl, -, -⟩ := at?_text_eq_some.mp stands
  -- the way to read is what unfolding gives, with the field taken out of it
  refine ⟨?read, ?reading, ?eq⟩
  case eq =>
    intro v other set given
    obtain ⟨os', spec', rfl, hspec', here⟩ := at?_text_eq_some.mp given.value
    obtain ⟨ss', x, rfl, hx, same⟩ := at?_text_eq_some.mp here
    obtain rfl : x = v := Option.some.inj same
    have outer := given.same
    have inner := outer.inner hspec hspec'
    unfold ofObject
    simp only [getSection_object, get_object, getOr_object, ok_bind, hspec', Option.getD_some,
      orElse_empty_object, hx, set, if_false]
    rw [outer.get?_eq "metadata" (by decide), outer.get?_eq "status" (by decide),
      outer.get?_eq "apiVersion" (by decide),
      inner.get?_eq "targetRef" (by decide), inner.get?_eq "service" (by decide),
      inner.get?_eq "skipAnalysis" (by decide)]
    generalize x.toInteger = result
    rfl
  case reading =>
    refine .bind fun name => .bind fun space => .guard <| .bind fun targetName => .guard <|
      .bind fun uid => .bind fun kind => .bind fun version => .bind fun phase => .here ?_
    intro n c accepted m
    simp only [bind_eq_ok] at accepted ⊢
    obtain ⟨_, h₁, _, h₂, _, h₃, _, h₄, _, h₅, _, h₆, made⟩ := accepted
    obtain rfl := Except.ok.inj made
    exact ⟨_, h₁, _, h₂, _, h₃, _, h₄, _, h₅, _, h₆, rfl⟩

theorem exists_reading_servicePort {object w : Value}
    (stands : object.at? IntegerField.servicePort.place = some w) :
    ∃ read, Reading .servicePort read ∧ ∀ {v other},
      Given .servicePort v object other → ofObject other = read v.toInteger := by
  obtain ⟨os, spec, rfl, hspec, stands⟩ := at?_text_eq_some.mp stands
  obtain ⟨ss, service, rfl, hservice, stands⟩ := at?_text_eq_some.mp stands
  obtain ⟨vs, -, rfl, -, -⟩ := at?_text_eq_some.mp stands
  refine ⟨?read, ?reading, ?eq⟩
  case eq =>
    intro v other given
    obtain ⟨os', spec', rfl, hspec', here⟩ := at?_text_eq_some.mp given.value
    obtain ⟨ss', service', rfl, hservice', here⟩ := at?_text_eq_some.mp here
    obtain ⟨vs', x, rfl, hx, same⟩ := at?_text_eq_some.mp here
    obtain rfl : x = v := Option.some.inj same
    have outer := given.same
    have inner := outer.inner hspec hspec'
    have innermost := inner.inner hservice hservice'
    unfold ofObject
    simp only [getSection_object, get_object, getOr_object, ok_bind, hspec', hservice',
      Option.getD_some, orElse_empty_object, hx]
    rw [outer.get?_eq "metadata" (by decide), outer.get?_eq "status" (by decide),
      outer.get?_eq "apiVersion" (by decide),
      inner.get?_eq "targetRef" (by decide),
      inner.get?_eq "progressDeadlineSeconds" (by decide),
      inner.get?_eq "skipAnalysis" (by decide),
      innermost.get?_eq "targetPort" (by decide),
      innermost.get?_eq "portDiscovery" (by decide)]
    generalize x.toInteger = result
    rfl
  case reading =>
    refine .bind fun name => .bind fun space => .guard <| .bind fun targetName => .guard <|
      .bind fun uid => .bind fun kind => .bind fun version => .bind fun phase =>
      .ite (.here ?_) (.bind fun deadline => .here ?_)
    all_goals
      intro n c accepted m
      simp only [bind_eq_ok] at accepted ⊢
      obtain ⟨_, h₁, _, h₂, made⟩ := accepted
      obtain rfl := Except.ok.inj made
      exact ⟨_, h₁, _, h₂, rfl⟩

/-- An object with something in a field is read by a function of what stands there. -/
theorem exists_reading {field : IntegerField} {object w : Value}
    (stands : object.at? field.place = some w) :
    ∃ read, Reading field read ∧ ∀ {v other}, v ≠ .null → Given field v object other →
      ofObject other = read v.toInteger := by
  cases field with
  | progressDeadline => exact exists_reading_progressDeadline stands
  | servicePort =>
    obtain ⟨read, reading, eq⟩ := exists_reading_servicePort stands
    exact ⟨read, reading, fun _ given => eq given⟩

/-! ## Texts -/

/-- A text in a field is accepted exactly if it is a spelling of an integer, in an object that is
acceptable with some integer there; it then gives the canary that the integer itself gives. -/
theorem integer_spellings (field : IntegerField) (object : Value) (s : String)
    (stands : object.at? field.place = some (.text s)) (ascii : ∀ c ∈ s.toList, c.toNat < 0x80)
    (short : (digitsIn s.toList).length ≤ 4300)
    (otherwise : ∃ n other c, Given field (.int n) object other ∧ ofObject other = .ok c) :
    ((∃ c, ofObject object = .ok c) ↔ ∃ x : Spelling, x.chars = s.toList) ∧
      (∀ x : Spelling, x.chars = s.toList → ∃ c, ofObject object = .ok c ∧ field.of c = x.value ∧
        ∀ other, Given field (.int x.value) object other → ofObject other = .ok c) ∧
      ((¬ ∃ x : Spelling, x.chars = s.toList) →
        ofObject object = .error (.invalid (.numeral s .malformed))) := by
  obtain ⟨read, reading, eq⟩ := exists_reading stands
  obtain ⟨n, other, c, given, acceptable⟩ := otherwise
  have of_integer : ∀ {m other}, Given field (.int m) object other →
      ofObject other = read (.ok m) := fun given => eq Value.noConfusion given
  have here : ofObject object = read (Value.text s).toInteger :=
    eq Value.noConfusion ⟨.refl _ _, stands⟩
  rw [of_integer given] at acceptable
  have spelled : ∀ x : Spelling, x.chars = s.toList →
      ofObject object = .ok (field.put x.value c) := by
    intro x same
    have value := x.readInteger (x.length_digits_le.trans (same ▸ short))
    rw [same] at value
    rw [here, toInteger_text value]
    exact reading.change acceptable x.value
  have refused : (¬ ∃ x : Spelling, x.chars = s.toList) →
      ofObject object = .error (.invalid (.numeral s .malformed)) := fun unspelled => by
    rw [here, toInteger_text_error (readInteger_eq_malformed ascii short unspelled)]
    exact reading.error acceptable _
  refine ⟨⟨fun ⟨c, accepted⟩ => ?_, fun ⟨x, same⟩ => ⟨_, spelled x same⟩⟩, fun x same => ?_,
    refused⟩
  · by_contra unspelled
    rw [refused unspelled] at accepted
    cases accepted
  · refine ⟨_, spelled x same, field.of_put _ _, fun other given => ?_⟩
    rw [of_integer given]
    exact reading.change acceptable x.value

/-- What a canary with a deadline is to be. -/
def deadlineSpec (deadline : Value) : Fields :=
  [("targetRef", .object [("name", .text "podinfo")]), ("progressDeadlineSeconds", deadline)]

/-- A canary with a deadline. -/
def deadlineFields (deadline : Value) : Fields :=
  [("metadata", .object [("name", .text "podinfo"), ("namespace", .text "test")]),
    ("spec", .object (deadlineSpec deadline))]

/-- A spelling with all that a spelling may have. -/
def sampleSpelling : Spelling where
  before := [' ']
  sign := .minus
  first := '0'
  tail := ['6', '_', '0', '0']
  after := ['\n']
  padding_before := by simp [IsPadding]
  digit_first := rfl
  digits_tail := .digit rfl (.underscore rfl (.digit rfl .nil))
  padding_after := by simp [IsPadding]

theorem deadline_spelled :
    ∃ c, ofObject (.object (deadlineFields (.text " -06_00\n"))) = .ok c ∧
      c.progressDeadline = -600 ∧ ofObject (.object (deadlineFields (.int (-600)))) = .ok c := by
  have given : ∀ n, Given .progressDeadline (.int n)
      (.object (deadlineFields (.text " -06_00\n"))) (.object (deadlineFields (.int n))) := fun n =>
    have inside : (deadlineFields (.text " -06_00\n")).get? "spec" =
        some (.object (deadlineSpec (.text " -06_00\n"))) := rfl
    ⟨sameApart_set_section inside "progressDeadlineSeconds" (.int n), rfl⟩
  obtain ⟨c, accepted, value, same⟩ := (integer_spellings .progressDeadline _ " -06_00\n" rfl
    (by simp) (by decide) ⟨1, _, _, given 1, rfl⟩).2.1 sampleSpelling rfl
  exact ⟨c, accepted, value, same _ (given _)⟩

end Canary

end CanaryRelease
