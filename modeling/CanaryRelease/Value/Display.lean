import CanaryRelease.Number.Shortest
import CanaryRelease.Text.Quoted
import CanaryRelease.Value.Basic

/-!
# Values inside messages

A text is shown as it is; every other value, and every value inside a list or an object, by its
literal: words for null and the truth values, quoted text, brackets and braces.
-/

namespace CanaryRelease

/-- An integer in decimal digits. -/
def decimalDigits (n : Int) : List Char :=
  if n < 0 then '-' :: Nat.toDigits 10 n.natAbs else Nat.toDigits 10 n.natAbs

/-- The words for floating-point numbers without a decimal, inside messages. -/
def messageWords : Binary64.SpecialWords := ⟨['n', 'a', 'n'], ['i', 'n', 'f']⟩

namespace Timestamp

/-- The literal of an offset: UTC by name, another one by its span. -/
def offsetLiteral (o : UtcOffset) : String :=
  if o.micros = 0 then "datetime.timezone.utc"
  else s!"datetime.timezone(datetime.timedelta({spanFields o.micros}))"

/-- The literal of a timestamp: its fields, seconds and microseconds left out if they end in
zeros. -/
def literal (t : Timestamp) : String :=
  let clock :=
    if t.time.micro ≠ 0 then [t.time.hour, t.time.minute, t.time.second, t.time.micro]
    else if t.time.second ≠ 0 then [t.time.hour, t.time.minute, t.time.second]
    else [t.time.hour, t.time.minute]
  let fields := ([t.date.year, t.date.month, t.date.day] ++ clock).map toString
  let zone := match t.offset with
    | none => []
    | some o => ["tzinfo=" ++ offsetLiteral o]
  "datetime.datetime(" ++ ", ".intercalate (fields ++ zone) ++ ")"

end Timestamp

/-- The literal of a scalar. -/
def Key.literal : Key → String
  | null => "None"
  | bool b => if b then "True" else "False"
  | int n => String.ofList (decimalDigits n)
  | float x => String.ofList (x.text messageWords)
  | text s => Text.quoted s
  | time t => t.literal

namespace Value

mutual

/-- The literal of a value. -/
def literal : Value → String
  | .null => Key.null.literal
  | .bool b => (Key.bool b).literal
  | .int n => (Key.int n).literal
  | .float x => (Key.float x).literal
  | .text s => (Key.text s).literal
  | .time t => (Key.time t).literal
  | .list items => "[" ++ ", ".intercalate (literalItems items) ++ "]"
  | .object fields => "\x7b" ++ ", ".intercalate (literalFields fields) ++ "\x7d"

/-- The literals of the items of a list. -/
def literalItems : List Value → List String
  | [] => []
  | x :: xs => literal x :: literalItems xs

/-- The literals of the fields of an object, each after its key. -/
def literalFields : List (Key × Value) → List String
  | [] => []
  | (k, x) :: fs => (k.literal ++ ": " ++ literal x) :: literalFields fs

end

/-- A value as it stands inside a message. -/
def display : Value → String
  | .text s => s
  | .time t => String.ofList (t.render ' ')
  | v => v.literal

end Value

end CanaryRelease
