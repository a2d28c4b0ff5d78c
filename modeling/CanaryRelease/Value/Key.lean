import CanaryRelease.Number.Binary64
import CanaryRelease.Time.Timestamp

/-!
# Keys

What the fields of an object go by. In JSON every key is a text; a list of pairs taken as an object
may bring any scalar. Numbers and truth values of one quantity are one key, whatever their form;
`Key.standard` picks the form that stands for all of them, and `Key.Same` compares by it.
-/

namespace CanaryRelease

/-- What a field goes by. -/
inductive Key where
  | null
  | bool (b : Bool)
  | int (n : Int)
  | float (x : Binary64)
  | time (t : Timestamp)
  | text (s : String)
  deriving DecidableEq

namespace Key

instance : Coe String Key := ⟨text⟩

/-- The quantity of a number or truth value. -/
def quantity? : Key → Option Quantity
  | bool b => some (.exact (if b then 1 else 0))
  | int n => some (.exact n)
  | float x => some x.quantity
  | _ => none

/-- The form that stands for all keys that count as one: an integer for every number or truth
value that is a whole quantity, the key itself otherwise. -/
def standard : Key → Key
  | bool b => int (if b then 1 else 0)
  | float x =>
    match x.quantity with
    | .exact q => if q.den = 1 then int q.num else float x
    | _ => float x
  | key => key

/-- Two keys count as one. -/
def Same (k l : Key) : Prop := k.standard = l.standard

instance (k l : Key) : Decidable (k.Same l) := inferInstanceAs (Decidable (_ = _))

@[simp] theorem same_self (k : Key) : k.Same k := rfl

theorem Same.symm {k l : Key} (h : k.Same l) : l.Same k := Eq.symm h

theorem same_comm {k l : Key} : k.Same l ↔ l.Same k := ⟨Same.symm, Same.symm⟩

theorem Same.trans {k l m : Key} (h : k.Same l) (h' : l.Same m) : k.Same m := Eq.trans h h'

theorem Same.congr_left {k l : Key} (h : k.Same l) (m : Key) : k.Same m ↔ l.Same m :=
  ⟨h.symm.trans, h.trans⟩

@[simp] theorem same_text {k : Key} {s : String} : k.Same (text s) ↔ k = text s := by
  cases k with
  | float x =>
    simp only [Same, standard]
    split
    · split <;> simp
    · simp
  | _ => simp [Same, standard]

@[simp] theorem text_same {k : Key} {s : String} : (text s).Same k ↔ k = text s := by
  rw [same_comm, same_text]

/-- The text of a key that is one. -/
def text? : Key → Option String
  | text s => some s
  | _ => none

end Key

end CanaryRelease
