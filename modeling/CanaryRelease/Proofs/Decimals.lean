import CanaryRelease.Number.Shortest
import CanaryRelease.Proofs.CanonicalTexts
import Mathlib.Tactic.Ring

/-!
# Seventeen digits suffice

The search for the shortest decimal of a floating-point number ends: on the grid of seventeen
significant digits the nearer neighbour of the number rounds back to it (`exists_hit`). Whatever grid
wins, the decimal there is not zero, so a number is written like zero only if it is zero
(`isZero_iff_text`).
-/

namespace CanaryRelease.Binary64

/-- A number in the one form that it has. -/
def isProper : Binary64 → Bool
  | .nan | .infinite _ => true
  | .finite _ m e =>
    m < 2 * leastNormal && leastExponent ≤ e && e ≤ greatestExponent &&
      (leastNormal ≤ m || e = leastExponent)

/-! ## The first digit -/

theorem decimalLength_pos (n : Nat) : 0 < decimalLength n := Nat.length_toDigits_pos

theorem lt_pow_decimalLength (n : Nat) : n < 10 ^ decimalLength n :=
  (Nat.length_toDigits_le_iff (by decide) (decimalLength_pos n)).mp (Nat.le_refl _)

theorem pow_decimalLength_le {n : Nat} (h : 0 < n) : 10 ^ (decimalLength n - 1) ≤ n := by
  have pos := decimalLength_pos n
  by_cases one : decimalLength n = 1
  · rw [one]
    exact h
  · have longer : ¬ decimalLength n ≤ decimalLength n - 1 := by omega
    rw [decimalLength, Nat.length_toDigits_le_iff (by decide) (by
      change 0 < decimalLength n - 1
      omega)] at longer
    exact Nat.not_lt.mp longer

theorem pow_floorLog10_le {num den : Nat} (hn : 0 < num) (hd : 0 < den) :
    den * 10 ^ (floorLog10 num den).toNat ≤ num * 10 ^ (-floorLog10 num den).toNat := by
  unfold floorLog10
  split
  · rename_i whole
    have quotient := pow_decimalLength_le (Nat.div_pos whole hd)
    have pos := decimalLength_pos (num / den)
    have up : ((decimalLength (num / den) : Int) - 1).toNat = decimalLength (num / den) - 1 := by
      omega
    have down : (-((decimalLength (num / den) : Int) - 1)).toNat = 0 := by omega
    rw [up, down, Nat.pow_zero, Nat.mul_one]
    exact Nat.le_trans (Nat.mul_le_mul_left den quotient) (Nat.mul_div_le num den)
  · dsimp only
    have pos := decimalLength_pos (den / num)
    split
    · rename_i fits
      have up : (-((decimalLength (den / num) : Int) - 1)).toNat = 0 := by omega
      have down : (- -((decimalLength (den / num) : Int) - 1)).toNat =
          decimalLength (den / num) - 1 := by omega
      rw [up, down, Nat.pow_zero, Nat.mul_one]
      exact fits
    · have up : (-(decimalLength (den / num) : Int)).toNat = 0 := by omega
      have down : (- -(decimalLength (den / num) : Int)).toNat = decimalLength (den / num) := by
        omega
      rw [up, down, Nat.pow_zero, Nat.mul_one]
      have quotient := lt_pow_decimalLength (den / num)
      exact Nat.le_trans (Nat.le_of_lt (Nat.lt_mul_div_succ den hn))
        (Nat.mul_le_mul_left num quotient)

/-! ## Grids -/

namespace RoundingStretch

variable {s : RoundingStretch}

/-- The step of a grid, over the denominator that the stretch is scaled to there. -/
def unit (s : RoundingStretch) (g : Int) : Nat := s.den * 10 ^ g.toNat

/-- The factor by which a stretch is scaled on a grid. -/
def fine (g : Int) : Nat := 10 ^ (-g).toNat

/-- On a grid that starts some digits after the first one, the number is far from zero. -/
theorem pow_mul_unit_le (hn : 0 < s.number) (hd : 0 < s.den) (n : Nat) :
    10 ^ n * s.unit (floorLog10 s.number s.den - n) ≤
      s.number * fine (floorLog10 s.number s.den - n) := by
  have first := pow_floorLog10_le hn hd
  generalize floorLog10 s.number s.den = k at first ⊢
  unfold unit fine
  have exponents : n + (k - n).toNat + (-k).toNat = (-(k - n)).toNat + k.toNat := by omega
  refine Nat.le_of_mul_le_mul_right ?_ (Nat.pow_pos (n := (-k).toNat) (by decide : 0 < 10))
  calc 10 ^ n * (s.den * 10 ^ (k - n).toNat) * 10 ^ (-k).toNat
      = s.den * 10 ^ (n + (k - n).toNat + (-k).toNat) := by ring
    _ = 10 ^ (-(k - n)).toNat * (s.den * 10 ^ k.toNat) := by
      rw [exponents]
      ring
    _ ≤ 10 ^ (-(k - n)).toNat * (s.number * 10 ^ (-k).toNat) := Nat.mul_le_mul_left _ first
    _ = s.number * 10 ^ (-(k - n)).toNat * 10 ^ (-k).toNat := by ring

/-- The neighbour of the number below it on a grid. -/
def below (s : RoundingStretch) (g : Int) : Nat := s.number * fine g / s.unit g

/-- Whether a point of a grid rounds to the number. -/
def inside (s : RoundingStretch) (g : Int) (c : Nat) : Bool :=
  if s.closed then s.low * fine g ≤ c * s.unit g && c * s.unit g ≤ s.high * fine g
  else s.low * fine g < c * s.unit g && c * s.unit g < s.high * fine g

theorem inside_of_lt {g : Int} {c : Nat} (hl : s.low * fine g < c * s.unit g)
    (hh : c * s.unit g < s.high * fine g) : s.inside g c = true := by
  unfold inside
  split
  · simp [Nat.le_of_lt hl, Nat.le_of_lt hh]
  · simp [hl, hh]

theorem digits_of_hit? {g : Int} {d : Decimal} (h : s.hit? g = some d) :
    d.digits = s.below g ∨ d.digits = s.below g + 1 := by
  unfold hit? at h
  dsimp only at h
  split at h
  · obtain rfl := Option.some.inj h
    dsimp only
    split
    · exact .inl rfl
    · exact .inr rfl
  · obtain rfl := Option.some.inj h
    exact .inl rfl
  · obtain rfl := Option.some.inj h
    exact .inr rfl
  · cases h

theorem exists_hit?_of_inside {g : Int}
    (h : s.inside g (s.below g) = true ∨ s.inside g (s.below g + 1) = true) :
    ∃ d, s.hit? g = some d := by
  unfold hit?
  dsimp only
  split
  · exact ⟨_, rfl⟩
  · exact ⟨_, rfl⟩
  · exact ⟨_, rfl⟩
  · rename_i outside outside'
    rcases h with h | h
    · exact absurd (outside.symm.trans h) nofun
    · exact absurd (outside'.symm.trans h) nofun

/-- On a grid whose steps are less than twice the distance to either end, a neighbour of the number
rounds to it. -/
theorem exists_hit?_of_near {g : Int} (near : Nat) (hu : 0 < s.unit g)
    (step : s.unit g < 2 * near) (low : s.low * fine g + near ≤ s.number * fine g)
    (high : s.number * fine g + near ≤ s.high * fine g) : ∃ d, s.hit? g = some d := by
  have parts := Nat.div_add_mod (s.number * fine g) (s.unit g)
  have rest := Nat.mod_lt (s.number * fine g) hu
  have point : s.below g * s.unit g = s.unit g * (s.number * fine g / s.unit g) := Nat.mul_comm ..
  have next : (s.below g + 1) * s.unit g = s.below g * s.unit g + s.unit g := Nat.succ_mul ..
  refine exists_hit?_of_inside ?_
  by_cases half : 2 * (s.number * fine g % s.unit g) ≤ s.unit g
  · exact .inl (inside_of_lt (by omega) (by omega))
  · exact .inr (inside_of_lt (by omega) (by omega))

end RoundingStretch

/-! ## Seventeen digits -/

section Shortest

variable {m : Nat} {e : Int}

theorem roundingStretch_pos (hm : 0 < m) :
    0 < (roundingStretch m e).number ∧ 0 < (roundingStretch m e).den := by
  have two (n : Nat) : 0 < 2 ^ n := Nat.pow_pos (by decide)
  exact ⟨Nat.mul_pos (by omega) (two _), two _⟩

open RoundingStretch in
/-- With seventeen digits a neighbour of the number rounds to it. -/
theorem exists_hit (hm : 0 < m) (proper : isProper (.finite false m e) = true) :
    ∃ d, (roundingStretch m e).hit?
      (floorLog10 (roundingStretch m e).number (roundingStretch m e).den - (16 : Nat)) = some d := by
  obtain ⟨number_pos, den_pos⟩ := roundingStretch_pos (e := e) hm
  have far := pow_mul_unit_le number_pos den_pos 16
  generalize floorLog10 _ _ - ((16 : Nat) : Int) = g at far ⊢
  have unit_pos : 0 < (roundingStretch m e).unit g :=
    Nat.mul_pos den_pos (Nat.pow_pos (by decide))
  have small : m < 2 * leastNormal := by
    simp only [isProper, Bool.and_eq_true, decide_eq_true_eq] at proper
    exact proper.1.1.1
  -- All distances are multiples of a quarter of the distance to the next number.
  obtain ⟨quarter, number, high, low⟩ : ∃ quarter,
      (roundingStretch m e).number * fine g = 4 * (m * quarter) ∧
      (roundingStretch m e).high * fine g = 4 * (m * quarter) + 2 * quarter ∧
      (roundingStretch m e).low * fine g +
        (if m = leastNormal ∧ leastExponent < e then 1 else 2) * quarter = 4 * (m * quarter) := by
    refine ⟨2 ^ (e - 2).toNat * fine g, ?_, ?_, ?_⟩
    · change 4 * m * 2 ^ (e - 2).toNat * fine g = _
      ring
    · change (4 * m + 2) * 2 ^ (e - 2).toNat * fine g = _
      ring
    · change (4 * m - if m = leastNormal ∧ leastExponent < e then 1 else 2) * 2 ^ (e - 2).toNat *
        fine g + _ = _
      have whole : 4 * m - (if m = leastNormal ∧ leastExponent < e then 1 else 2) +
          (if m = leastNormal ∧ leastExponent < e then 1 else 2) = 4 * m := by
        split
        · omega
        · omega
      rw [Nat.mul_assoc, ← Nat.add_mul, whole]
      ring
  rw [number] at far
  split at low
  · rename_i edge
    have size : m * quarter = 0x10000000000000 * quarter := by rw [edge.1, leastNormal]
    exact exists_hit?_of_near quarter unit_pos (by omega) (by omega) (by omega)
  · have size : m * quarter ≤ 0x20000000000000 * quarter := Nat.mul_le_mul_right _ small.le
    exact exists_hit?_of_near (2 * quarter) unit_pos (by omega) (by omega) (by omega)

theorem digits_pos_of_hit? (hm : 0 < m) {n : Nat} {d : Decimal}
    (h : (roundingStretch m e).hit?
      (floorLog10 (roundingStretch m e).number (roundingStretch m e).den - n) = some d) :
    0 < d.digits := by
  obtain ⟨number_pos, den_pos⟩ := roundingStretch_pos (e := e) hm
  have far := RoundingStretch.pow_mul_unit_le number_pos den_pos n
  rcases RoundingStretch.digits_of_hit? h with below | above
  · rw [below]
    refine Nat.div_pos (Nat.le_trans (Nat.le_mul_of_pos_left _ ?_) far) ?_
    · exact Nat.pow_pos (by decide)
    · exact Nat.mul_pos den_pos (Nat.pow_pos (by decide))
  · omega

theorem digits_pos_of_stripped (fuel : Nat) {d : Decimal} (h : 0 < d.digits) :
    0 < (d.stripped fuel).digits := by
  induction fuel generalizing d with
  | zero => exact h
  | succ fuel ih =>
    rw [Decimal.stripped]
    split
    · refine ih ?_
      change 0 < d.digits / 10
      omega
    · exact h

theorem digits_pos_of_shortest (hm : 0 < m) (proper : isProper (.finite false m e) = true) :
    0 < (shortest m e).digits := by
  obtain ⟨last, found⟩ := exists_hit hm proper
  unfold shortest
  dsimp only
  cases search : ((List.range 17).map fun (n : Nat) =>
      floorLog10 (roundingStretch m e).number (roundingStretch m e).den - (n : Int)).findSome?
        (roundingStretch m e).hit? with
  | some d =>
    obtain ⟨g, hg, hit⟩ := List.exists_of_findSome?_eq_some search
    obtain ⟨n, -, rfl⟩ := List.mem_map.mp hg
    exact digits_pos_of_stripped 17 (digits_pos_of_hit? hm hit)
  | none =>
    have missed := List.findSome?_eq_none_iff.mp search _
      (List.mem_map.mpr ⟨16, List.mem_range.mpr (by decide), rfl⟩)
    rw [found] at missed
    cases missed

end Shortest

/-! ## Texts of zero -/

theorem exists_digit_ne_zero {n : Nat} (h : 0 < n) :
    ∃ c ∈ Nat.toDigits 10 n, c.isDigit = true ∧ c ≠ '0' := by
  by_contra none
  have zeros : ∀ c ∈ Nat.toDigits 10 n, c = '0' := by
    intro c hc
    by_contra other
    exact none ⟨c, hc, Nat.isDigit_of_mem_toDigits (by decide) (by decide) hc, other⟩
  have value : ∀ cs : List Char, (∀ c ∈ cs, c = '0') → Nat.ofDigitChars 10 cs 0 = 0 := by
    intro cs hcs
    induction cs with
    | nil => rfl
    | cons c cs ih =>
      rw [hcs c List.mem_cons_self]
      exact ih fun c hc => hcs c (List.mem_cons_of_mem _ hc)
  have read := Nat.ofDigitChars_ten_toDigits (n := n)
  rw [value _ zeros] at read
  omega

theorem mem_text_of_mem_digits {d : Decimal} {c : Char} (h : c ∈ Nat.toDigits 10 d.digits) :
    c ∈ d.text := by
  unfold Decimal.text
  dsimp only
  split
  · split
    · simp [h]
    · split
      · simp [h]
      · rename_i point _
        have parts := List.take_append_drop
          (((Nat.toDigits 10 d.digits).length : Int) + d.exponent).toNat (Nat.toDigits 10 d.digits)
        rw [← parts, List.mem_append] at h
        rcases h with h | h
        · exact List.mem_append_left _ h
        · exact List.mem_append_right _ (List.mem_cons_of_mem _ h)
  · refine List.mem_append_left _ (List.mem_append_left _ ?_)
    split
    · rename_i first second more eq
      rw [eq, List.mem_cons] at h
      rw [List.mem_cons]
      exact h.imp_right (List.mem_cons_of_mem _)
    · exact h

/-- How zero is written. -/
def zeroTexts : List (List Char) := [['0', '.', '0'], ['-', '0', '.', '0']]

theorem isZero_finite {negative : Bool} {m : Nat} {e : Int} :
    (finite negative m e).quantity.isZero = true ↔ m = 0 := by
  have two (n : Nat) : Nat.pow 2 n ≠ 0 := Nat.ne_of_gt (Nat.pow_pos (by decide))
  have size : ((m * Nat.pow 2 e.toNat : Nat) : Int) = 0 ↔ m = 0 := by
    simp
  rw [← size]
  unfold quantity Quantity.isZero
  dsimp only
  rw [decide_eq_true_iff, Rat.mkRat_eq_zero (two _)]
  cases negative with
  | true => exact Int.neg_eq_zero
  | false => exact Iff.rfl

theorem isZero_iff_text {x : Binary64} (proper : x.isProper = true) :
    x.quantity.isZero = true ↔ x.text jsonWords ∈ zeroTexts := by
  cases x with
  | nan => decide
  | infinite negative =>
    cases negative with
    | true => decide
    | false => decide
  | finite negative m e =>
    rw [isZero_finite]
    constructor
    · rintro rfl
      cases negative with
      | true => exact List.mem_cons_of_mem _ List.mem_cons_self
      | false => exact List.mem_cons_self
    · intro zero
      by_contra hm
      have digits := digits_pos_of_shortest (Nat.pos_of_ne_zero hm) proper
      obtain ⟨c, hc, digit, other⟩ := exists_digit_ne_zero digits
      have written : c ∈ (finite negative m e).text jsonWords := by
        have size := mem_text_of_mem_digits hc
        cases negative with
        | true =>
          simp only [Binary64.text, if_neg hm]
          exact List.mem_cons_of_mem _ size
        | false =>
          simp only [Binary64.text, if_neg hm]
          exact size
      have none : ∀ text ∈ zeroTexts, ∀ c ∈ text, c.isDigit = true → c = '0' := by
        simp [zeroTexts]
      exact other (none _ zero c written digit)

end CanaryRelease.Binary64
