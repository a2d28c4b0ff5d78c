import CanaryRelease.Number.Binary64
import CanaryRelease.Text.Hex

/-!
# Shortest decimals

The decimal with the fewest significant digits that rounds to a floating-point number, and among
those the one closest to it. For one digit, two digits and so on, the two neighbours of the number
on that decimal grid are tried; the first grid with a neighbour that rounds back wins.
-/

namespace CanaryRelease.Binary64

/-- The decimal `digits * 10 ^ exponent`. -/
structure Decimal where
  digits : Nat
  exponent : Int
  deriving DecidableEq, Repr

/-- A positive number and the ends of the stretch that rounds to it, over one denominator. -/
structure RoundingStretch where
  number : Nat
  low : Nat
  high : Nat
  den : Nat
  /-- The ends themselves round to the number. -/
  closed : Bool

/-- The stretch around `m * 2 ^ e`: halfway to either neighbour. -/
def roundingStretch (m : Nat) (e : Int) : RoundingStretch :=
  let scale := Nat.pow 2 (e - 2).toNat
  let below := if m = leastNormal ∧ leastExponent < e then 1 else 2
  { number := 4 * m * scale, low := (4 * m - below) * scale, high := (4 * m + 2) * scale
    den := Nat.pow 2 (2 - e).toNat, closed := m % 2 = 0 }

/-- How many decimal digits a natural has; zero has one. -/
def decimalLength (n : Nat) : Nat := (Nat.toDigits 10 n).length

/-- The greatest `k` with `10 ^ k` at most `num / den`, for positive `num` and `den`. -/
def floorLog10 (num den : Nat) : Int :=
  if den ≤ num then (decimalLength (num / den) : Int) - 1
  else
    let l := decimalLength (den / num)
    if den ≤ num * Nat.pow 10 (l - 1) then -((l : Int) - 1) else -(l : Int)

/-- The neighbour of the number on the grid of multiples of `10 ^ g` that rounds to it, the nearer
one if both do. -/
def RoundingStretch.hit? (s : RoundingStretch) (g : Int) : Option Decimal :=
  let unit := s.den * Nat.pow 10 g.toNat
  let fine := Nat.pow 10 (-g).toNat
  let inside (c : Nat) : Bool :=
    if s.closed then s.low * fine ≤ c * unit && c * unit ≤ s.high * fine
    else s.low * fine < c * unit && c * unit < s.high * fine
  let c := s.number * fine / unit
  let below := s.number * fine - c * unit
  let above := (c + 1) * unit - s.number * fine
  let downFirst := below < above || (below = above && c % 2 = 0)
  match inside c, inside (c + 1) with
  | true, true => some ⟨if downFirst then c else c + 1, g⟩
  | true, false => some ⟨c, g⟩
  | false, true => some ⟨c + 1, g⟩
  | false, false => none

/-- A decimal without zeros at its end. -/
def Decimal.stripped : Nat → Decimal → Decimal
  | 0, d => d
  | fuel + 1, d =>
    if d.digits ≠ 0 ∧ d.digits % 10 = 0 then stripped fuel ⟨d.digits / 10, d.exponent + 1⟩ else d

/-- The shortest decimal that rounds to `m * 2 ^ e`, for positive `m`. Seventeen digits suffice. -/
def shortest (m : Nat) (e : Int) : Decimal :=
  let s := roundingStretch m e
  let k := floorLog10 s.number s.den
  let grids := (List.range 17).map fun (n : Nat) => k - (n : Int)
  match grids.findSome? s.hit? with
  | some d => d.stripped 17
  | none => ⟨0, 0⟩

/-- A decimal from `10 ^ (-4)` to below `10 ^ 16` is written with a point and at least one digit on
either side of it, another one with an exponent of at least two digits and a sign. -/
def Decimal.text (d : Decimal) : List Char :=
  let ds := Nat.toDigits 10 d.digits
  let point : Int := ds.length + d.exponent
  if -4 < point ∧ point ≤ 16 then
    if point ≤ 0 then '0' :: '.' :: List.replicate (-point).toNat '0' ++ ds
    else if ds.length ≤ point then
      ds ++ List.replicate (point.toNat - ds.length) '0' ++ ['.', '0']
    else ds.take point.toNat ++ '.' :: ds.drop point.toNat
  else
    let size := Nat.toDigits 10 (point - 1).natAbs
    let mantissa := match ds with
      | first :: second :: more => first :: '.' :: second :: more
      | _ => ds
    mantissa ++ 'e' :: (if point - 1 < 0 then '-' else '+')
      :: List.replicate (2 - size.length) '0' ++ size

/-- The words for the numbers that have no decimal. -/
structure SpecialWords where
  nan : List Char
  infinity : List Char

/-- A floating-point number as text. -/
def text (words : SpecialWords) : Binary64 → List Char
  | .nan => words.nan
  | .infinite negative => if negative then '-' :: words.infinity else words.infinity
  | .finite negative m e =>
    let size := if m = 0 then ['0', '.', '0'] else (shortest m e).text
    if negative then '-' :: size else size

end CanaryRelease.Binary64
