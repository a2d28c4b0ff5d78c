/-!
# Binary floating-point numbers of 64 bits

A finite number is a sign, a mantissa below `2 ^ 53` and an exponent of two from `-1074` to `971`;
the mantissa is at least `2 ^ 52` unless the exponent is the least one, so each number has one form.
`Binary64.round` finds the number nearest to a rational, a tie going to the even mantissa.
Comparisons and differences are exact: they are made on rationals.
-/

namespace CanaryRelease

/-- A binary floating-point number of 64 bits. -/
inductive Binary64 where
  | nan
  | infinite (negative : Bool)
  | finite (negative : Bool) (mantissa : Nat) (exponent : Int)
  deriving DecidableEq, Repr

namespace Binary64

/-- The exponent of the numbers closest to zero. -/
def leastExponent : Int := -1074

/-- The exponent of the numbers furthest from zero. -/
def greatestExponent : Int := 971

/-- The least mantissa of a number with an exponent above the least one. -/
def leastNormal : Nat := 0x10000000000000

/-- The quotient of two naturals, rounded to the nearest natural, a tie to the even one. -/
def roundQuotient (num den : Nat) : Nat :=
  let down := num / den
  let twice := 2 * (num % den)
  if twice < den then down
  else if den < twice then down + 1
  else if down % 2 = 0 then down else down + 1

/-- The greatest `l` with `2 ^ l` at most `num / den`, for positive `num` and `den`. -/
def floorLog2 (num den : Nat) : Int :=
  let l : Int := (num.log2 : Int) - den.log2
  if den * Nat.pow 2 l.toNat ≤ num * Nat.pow 2 (-l).toNat then l else l - 1

/-- The number nearest to `num / den`, with the given sign. -/
def round (negative : Bool) (num den : Nat) : Binary64 :=
  if num = 0 then finite negative 0 leastExponent
  else
    let e := max (floorLog2 num den - 52) leastExponent
    let m := roundQuotient (num * Nat.pow 2 (-e).toNat) (den * Nat.pow 2 e.toNat)
    let (m, e) := if m = 2 * leastNormal then (leastNormal, e + 1) else (m, e)
    if greatestExponent < e then infinite negative else finite negative m e

/-- The number nearest to a rational. -/
def ofRat (q : Rat) : Binary64 :=
  round (q.num < 0) q.num.natAbs q.den

end Binary64

/-- A number as comparisons see it, whatever its written form. -/
inductive Quantity where
  | nan
  | infinite (negative : Bool)
  | exact (q : Rat)
  deriving DecidableEq

/-- The exact quantity of a floating-point number. -/
def Binary64.quantity : Binary64 → Quantity
  | nan => .nan
  | infinite negative => .infinite negative
  | finite negative m e =>
    let size : Int := (m * Nat.pow 2 e.toNat : Nat)
    .exact (mkRat (if negative then -size else size) (Nat.pow 2 (-e).toNat))

namespace Quantity

/-- Strictly less; nothing compares with `nan`. -/
def less : Quantity → Quantity → Bool
  | exact p, exact q => p < q
  | infinite true, infinite true => false
  | infinite true, nan => false
  | infinite true, _ => true
  | exact _, infinite false => true
  | _, _ => false

/-- The same quantity; `nan` equals nothing. -/
def same : Quantity → Quantity → Bool
  | exact p, exact q => p = q
  | infinite a, infinite b => a == b
  | _, _ => false

/-- Zero, of either sign. -/
def isZero : Quantity → Bool
  | exact q => q = 0
  | _ => false

/-- The nearest floating-point number. -/
def nearest : Quantity → Binary64
  | nan => .nan
  | infinite negative => .infinite negative
  | exact q => .ofRat q

/-- The difference of two quantities as floating-point arithmetic has it. -/
def minus : Quantity → Quantity → Binary64
  | exact p, exact q => .ofRat (p - q)
  | infinite a, infinite b => if a = b then .nan else .infinite a
  | infinite a, exact _ => .infinite a
  | exact _, infinite b => .infinite (!b)
  | _, _ => .nan

end Quantity

end CanaryRelease
