import CanaryRelease.Text.Blank
import CanaryRelease.Text.Digit

/-!
# Integer numerals

The grammar of an integer written as text: white space, an optional sign, decimal digits with at
most single underscores between them, white space. Digits of every script count. A run of more than
4300 digits is refused whatever follows it.
-/

namespace CanaryRelease.Text

/-- Why a text is no integer. -/
inductive NumeralError where
  /-- The text does not follow the grammar. -/
  | malformed
  /-- The text has more digits than are read. -/
  | tooLong (digits : Nat)
  deriving DecidableEq, Repr

/-- The greatest number of digits that is read. -/
def maxDigits : Nat := 4300

/-- What a run of digits amounts to. -/
structure DigitRun where
  value : Nat
  digits : Nat
  rest : List Char
  deriving DecidableEq, Repr

/-- Continues a run of digits; nothing if an underscore is not followed by a digit. -/
def digitRun (value digits : Nat) : List Char → Option DigitRun
  | [] => some ⟨value, digits, []⟩
  | ['_'] => none
  | '_' :: c :: cs =>
    match digitValue? c with
    | some d => digitRun (10 * value + d) (digits + 1) cs
    | none => none
  | c :: cs =>
    match digitValue? c with
    | some d => digitRun (10 * value + d) (digits + 1) cs
    | none => some ⟨value, digits, c :: cs⟩

/-- A natural number followed by white space only. -/
def readDigits : List Char → Except NumeralError Nat
  | [] => .error .malformed
  | c :: cs =>
    match (digitValue? c).bind fun d => digitRun d 1 cs with
    | none => .error .malformed
    | some run =>
      if maxDigits < run.digits then .error (.tooLong run.digits)
      else if run.rest.all isWhiteSpace then .ok run.value
      else .error .malformed

/-- An integer with white space around it. -/
def readInteger (cs : List Char) : Except NumeralError Int :=
  match cs.dropWhile isWhiteSpace with
  | '-' :: rest => (readDigits rest).map fun n => -(n : Int)
  | '+' :: rest => (readDigits rest).map Int.ofNat
  | rest => (readDigits rest).map Int.ofNat

end CanaryRelease.Text
