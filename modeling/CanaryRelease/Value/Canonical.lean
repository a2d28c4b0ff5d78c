import CanaryRelease.Value.Display

/-!
# Canonical JSON

One text for each value up to the order of fields: no blanks, fields sorted by key, ASCII only. A
timestamp becomes a text with a blank between date and time. Keys are sorted as texts by code
points or as numbers by quantity, and written as texts either way; `Value.isOrderable` says that the
keys of every object can be sorted.
-/

namespace CanaryRelease

/-- The words for floating-point numbers without a decimal, in JSON text. -/
def jsonWords : Binary64.SpecialWords :=
  ⟨['N', 'a', 'N'], ['I', 'n', 'f', 'i', 'n', 'i', 't', 'y']⟩

namespace Text

/-- One unit of 16 bits as an escape. -/
def unitEscape (n : Nat) : List Char := '\\' :: 'u' :: hex 4 n

/-- A character inside a JSON text: short escapes where there are any, else visible ASCII as it is
and all other characters by their units of 16 bits. -/
def jsonChar (c : Char) : List Char :=
  if c = '"' then ['\\', '"']
  else if c = '\\' then ['\\', '\\']
  else if c = '\n' then ['\\', 'n']
  else if c = '\r' then ['\\', 'r']
  else if c = '\t' then ['\\', 't']
  else if c = '\x08' then ['\\', 'b']
  else if c = '\x0c' then ['\\', 'f']
  else if 0x20 ≤ c.toNat ∧ c.toNat ≤ 0x7E then [c]
  else if c.toNat < 0x10000 then unitEscape c.toNat
  else
    unitEscape (0xD800 + (c.toNat - 0x10000) / 0x400) ++
      unitEscape (0xDC00 + (c.toNat - 0x10000) % 0x400)

/-- A text between double quotes. -/
def jsonText (cs : List Char) : List Char := '"' :: cs.flatMap jsonChar ++ ['"']

/-- Texts with commas between them. -/
def commaSeparated (items : List (List Char)) : List Char := [','].intercalate items

end Text

namespace Key

/-- A scalar as canonical JSON writes it, without the quotes of a text. -/
def word : Key → List Char
  | null => ['n', 'u', 'l', 'l']
  | bool b => if b then ['t', 'r', 'u', 'e'] else ['f', 'a', 'l', 's', 'e']
  | int n => decimalDigits n
  | float x => x.text jsonWords
  | time t => t.render ' '
  | text s => s.toList

/-- The order of keys: texts by code points, numbers by quantity. Keys of other kinds have none. -/
def precedes : Key → Key → Bool
  | text s, text t => s ≤ t
  | k, l =>
    match k.quantity?, l.quantity? with
    | some p, some q => !q.less p
    | _, _ => true

/-- Keys that can be sorted and written: texts, or numbers, or a single key that is no timestamp. -/
def areOrderable (keys : List Key) : Bool :=
  keys.all (fun k => k.text?.isSome) || keys.all (fun k => k.quantity?.isSome) ||
    keys == [null]

end Key

namespace Value

/-- Fields in the order of their keys. -/
def sortedByKey {α : Type} (fields : List (Key × α)) : List (Key × α) :=
  fields.mergeSort fun a b => a.1.precedes b.1

mutual

/-- The canonical text of a value. -/
def canonical : Value → List Char
  | .null => Key.null.word
  | .bool b => (Key.bool b).word
  | .int n => (Key.int n).word
  | .float x => (Key.float x).word
  | .text s => Text.jsonText (Key.text s).word
  | .time t => Text.jsonText (Key.time t).word
  | .list items => '[' :: Text.commaSeparated (canonicalItems items) ++ [']']
  | .object fields =>
    let members := (sortedByKey (canonicalFields fields)).map fun (k, x) =>
      Text.jsonText k.word ++ ':' :: x
    '{' :: Text.commaSeparated members ++ ['}']

/-- The canonical texts of the items of a list. -/
def canonicalItems : List Value → List (List Char)
  | [] => []
  | x :: xs => canonical x :: canonicalItems xs

/-- The canonical texts of the values of fields. -/
def canonicalFields : List (Key × Value) → List (Key × List Char)
  | [] => []
  | (k, x) :: fs => (k, canonical x) :: canonicalFields fs

end

mutual

/-- The keys of every object inside a value can be sorted and written. -/
def isOrderable : Value → Bool
  | .list items => areItemsOrderable items
  | .object fields => Key.areOrderable (fields.map Prod.fst) && areFieldsOrderable fields
  | _ => true

/-- The keys of every object inside the items of a list can be sorted and written. -/
def areItemsOrderable : List Value → Bool
  | [] => true
  | x :: xs => isOrderable x && areItemsOrderable xs

/-- The keys of every object inside the values of fields can be sorted and written. -/
def areFieldsOrderable : List (Key × Value) → Bool
  | [] => true
  | (_, x) :: fs => isOrderable x && areFieldsOrderable fs

end

end Value

end CanaryRelease
