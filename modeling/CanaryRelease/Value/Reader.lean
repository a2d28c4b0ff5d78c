import CanaryRelease.Text.Numeral
import CanaryRelease.Time.Reader
import CanaryRelease.Value.Basic

/-!
# Reading JSON text

A value from its JSON text. A number with a fraction or an exponent is a floating-point number,
rounded to the nearest; every other number is an integer of any size. Besides these the words
`NaN`, `Infinity` and `-Infinity` stand for the floating-point numbers that have no decimal. Of
fields with the same key the last one counts.
-/

namespace CanaryRelease

/-- The number nearest to `digits * 10 ^ exponent`. Exponents far out of range are settled by the
number of digits alone. -/
def Binary64.ofDecimal (negative : Bool) (digits : Nat) (exponent : Int) : Binary64 :=
  let places := (Nat.toDigits 10 digits).length + exponent
  if digits = 0 || places < -330 then .finite negative 0 leastExponent
  else if 330 < places then .infinite negative
  else round negative (digits * Nat.pow 10 exponent.toNat) (Nat.pow 10 (-exponent).toNat)

namespace Json

/-- A text without blanks at its start. -/
def skipBlanks (cs : List Char) : List Char :=
  cs.dropWhile fun c => c = ' ' || c = '\n' || c = '\r' || c = '\t'

/-- The digits at the start of a text, their number and the rest. -/
def digits (value count : Nat) : List Char → Nat × Nat × List Char
  | [] => (value, count, [])
  | c :: cs =>
    match Reader.digit? c with
    | some d => digits (10 * value + d) (count + 1) cs
    | none => (value, count, c :: cs)

/-- The exponent of a number, zero if there is none. -/
def exponent? (cs : List Char) : Option (Option Int × List Char) :=
  match cs with
  | c :: rest =>
    if c = 'e' || c = 'E' then
      let negative := rest.head? = some '-'
      let rest := if rest.head? = some '-' || rest.head? = some '+' then rest.tail else rest
      match digits 0 0 rest with
      | (_, 0, _) => none
      | (n, _, rest) => some (some (if negative then -(n : Int) else n), rest)
    else some (none, cs)
  | [] => some (none, [])

/-- A number. -/
def number? (cs : List Char) : Option (Value × List Char) := do
  let negative := cs.head? = some '-'
  let cs := if negative then cs.tail else cs
  match digits 0 0 cs with
  | (_, 0, _) => none
  | (whole, _, cs) =>
    let (value, places, cs) := match cs with
      | '.' :: rest =>
        match digits whole 0 rest with
        | (_, 0, _) => (whole, 0, cs)
        | found => found
      | _ => (whole, 0, cs)
    let (exponent, cs) ← exponent? cs
    if places = 0 ∧ exponent.isNone then
      some (.int (if negative then -(whole : Int) else whole), cs)
    else some (.float (.ofDecimal negative value (exponent.getD 0 - places)), cs)

/-- The value of a hexadecimal digit. -/
def hexValue? (c : Char) : Option Nat :=
  if '0' ≤ c ∧ c ≤ '9' then some (c.toNat - 48)
  else if 'a' ≤ c ∧ c ≤ 'f' then some (c.toNat - 87)
  else if 'A' ≤ c ∧ c ≤ 'F' then some (c.toNat - 55)
  else none

/-- A unit of 16 bits from four hexadecimal digits. -/
def unit? : List Char → Option (Nat × List Char)
  | a :: b :: c :: d :: cs => do
    let a ← hexValue? a
    let b ← hexValue? b
    let c ← hexValue? c
    let d ← hexValue? d
    some (((a * 16 + b) * 16 + c) * 16 + d, cs)
  | _ => none

/-- The character of an escape after its backslash and `u`: one unit, or a pair of them. Half a pair
by itself stands for no character and is replaced by U+FFFD. -/
def escapedUnits? (cs : List Char) : Option (Char × List Char) := do
  let (first, cs) ← unit? cs
  let second := match cs with
    | '\\' :: 'u' :: rest => unit? rest
    | _ => none
  match second with
  | some (second, rest) =>
    if 0xD800 ≤ first ∧ first < 0xDC00 ∧ 0xDC00 ≤ second ∧ second < 0xE000 then
      some (Char.ofNat (0x10000 + (first - 0xD800) * 0x400 + (second - 0xDC00)), rest)
    else some (unitChar first, cs)
  | none => some (unitChar first, cs)
where
  /-- The character of one unit. -/
  unitChar (n : Nat) : Char :=
    if 0xD800 ≤ n ∧ n < 0xE000 then Char.ofNat 0xFFFD else Char.ofNat n

/-- The characters up to the closing quote, behind those read so far in reverse. -/
def characters? : Nat → List Char → List Char → Option (String × List Char)
  | 0, _, _ => none
  | fuel + 1, read, cs =>
    match cs with
    | '"' :: rest => some (String.ofList read.reverse, rest)
    | '\\' :: 'u' :: rest =>
      match escapedUnits? rest with
      | some (c, rest) => characters? fuel (c :: read) rest
      | none => none
    | '\\' :: c :: rest =>
      let short := match c with
        | 'n' => '\n' | 'r' => '\r' | 't' => '\t' | 'b' => '\x08' | 'f' => '\x0c' | c => c
      characters? fuel (short :: read) rest
    | c :: rest => characters? fuel (c :: read) rest
    | [] => none

/-- A word that stands for a value. -/
def word? (word : List Char) (v : Value) (cs : List Char) : Option (Value × List Char) :=
  if word.isPrefixOf cs then some (v, cs.drop word.length) else none

/-- The word for infinity after its first letter. -/
def infinityEnd : List Char := ['n', 'f', 'i', 'n', 'i', 't', 'y']

mutual

/-- A value; the first argument bounds the length of the text. -/
def value? : Nat → List Char → Option (Value × List Char)
  | 0, _ => none
  | fuel + 1, cs =>
    match skipBlanks cs with
    | '\x7b' :: rest =>
      match skipBlanks rest with
      | '\x7d' :: rest => some (.empty, rest)
      | rest => members? fuel [] rest
    | '[' :: rest =>
      match skipBlanks rest with
      | ']' :: rest => some (.list [], rest)
      | rest => items? fuel [] rest
    | '"' :: rest => (characters? (rest.length + 1) [] rest).map fun (s, rest) => (.text s, rest)
    | 'n' :: rest => word? ['u', 'l', 'l'] .null rest
    | 't' :: rest => word? ['r', 'u', 'e'] (.bool true) rest
    | 'f' :: rest => word? ['a', 'l', 's', 'e'] (.bool false) rest
    | 'N' :: rest => word? ['a', 'N'] (.float .nan) rest
    | 'I' :: rest => word? infinityEnd (.float (.infinite false)) rest
    | '-' :: 'I' :: rest => word? infinityEnd (.float (.infinite true)) rest
    | rest => number? rest

/-- The items of a list up to its bracket, behind those read so far in reverse. -/
def items? : Nat → List Value → List Char → Option (Value × List Char)
  | 0, _, _ => none
  | fuel + 1, read, cs =>
    match value? fuel cs with
    | none => none
    | some (v, rest) =>
      match skipBlanks rest with
      | ',' :: rest => items? fuel (v :: read) rest
      | ']' :: rest => some (.list (v :: read).reverse, rest)
      | _ => none

/-- The fields of an object up to its brace, onto those read so far. -/
def members? : Nat → Fields → List Char → Option (Value × List Char)
  | 0, _, _ => none
  | fuel + 1, read, cs =>
    match skipBlanks cs with
    | '"' :: rest =>
      match characters? (rest.length + 1) [] rest with
      | none => none
      | some (key, rest) =>
        match skipBlanks rest with
        | ':' :: rest =>
          match value? fuel rest with
          | none => none
          | some (v, rest) =>
            match skipBlanks rest with
            | ',' :: rest => members? fuel (read.set key v) rest
            | '\x7d' :: rest => some (.object (read.set key v), rest)
            | _ => none
        | _ => none
    | _ => none

end

end Json

/-- The value of a JSON text. -/
def Value.ofJson? (text : String) : Option Value :=
  let cs := text.toList
  match Json.value? (cs.length + 1) cs with
  | some (v, rest) => if (Json.skipBlanks rest).isEmpty then some v else none
  | none => none

end CanaryRelease
