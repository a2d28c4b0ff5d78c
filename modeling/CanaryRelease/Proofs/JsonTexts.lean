import CanaryRelease.Value.Canonical
import CanaryRelease.Value.Reader
import Mathlib.Algebra.Group.Nat.Defs

/-!
# The parts of canonical texts

Canonical JSON is made of words, numbers and quoted texts. A quoted text ends where it says and can
be read back whatever follows it (`characters?_flatMap`), so it is known by its characters
(`jsonText_append_inj`). Words and numbers have characters of their own (`isWordChar`), so they end
where something else begins, and an integer is known by its digits (`decimalDigits_inj`).
-/

namespace CanaryRelease

namespace Text

/-! ## Hexadecimal digits -/

theorem hexValue?_hexDigit {d : Nat} (h : d < 16) : Json.hexValue? (hexDigit d) = some d := by
  have digits : ∀ d : Fin 16, Json.hexValue? (hexDigit d) = some d.val := by decide
  exact digits ⟨d, h⟩

theorem unit?_hex {n : Nat} (h : n < 0x10000) (rest : List Char) :
    Json.unit? (hex 4 n ++ rest) = some (n, rest) := by
  have first : Json.hexValue? (hexDigit (n / 16 / 16 / 16 % 16)) = some (n / 16 / 16 / 16 % 16) :=
    hexValue?_hexDigit (Nat.mod_lt _ (by decide))
  have second : Json.hexValue? (hexDigit (n / 16 / 16 % 16)) = some (n / 16 / 16 % 16) :=
    hexValue?_hexDigit (Nat.mod_lt _ (by decide))
  have third : Json.hexValue? (hexDigit (n / 16 % 16)) = some (n / 16 % 16) :=
    hexValue?_hexDigit (Nat.mod_lt _ (by decide))
  have fourth : Json.hexValue? (hexDigit (n % 16)) = some (n % 16) :=
    hexValue?_hexDigit (Nat.mod_lt _ (by decide))
  show Json.unit? (_ :: _ :: _ :: _ :: rest) = _
  have whole : ((n / 16 / 16 / 16 % 16 * 16 + n / 16 / 16 % 16) * 16 + n / 16 % 16) * 16 + n % 16 =
      n := by omega
  simp only [Json.unit?, first, second, third, fourth, Option.bind_eq_bind, Option.bind_some, whole]

theorem hexDigit_inj {d e : Nat} (hd : d < 16) (he : e < 16) (h : hexDigit d = hexDigit e) :
    d = e := by
  have read := hexValue?_hexDigit hd
  rw [h, hexValue?_hexDigit he] at read
  exact (Option.some.inj read).symm

theorem hex_inj {width n m : Nat} (hn : n < 16 ^ width) (hm : m < 16 ^ width)
    (h : hex width n = hex width m) : n = m := by
  induction width generalizing n m with
  | zero => omega
  | succ width ih =>
    obtain ⟨front, last⟩ := List.append_inj h (by simp)
    have rest : n / 16 = m / 16 := ih (by omega) (by omega) front
    have digit : n % 16 = m % 16 :=
      hexDigit_inj (Nat.mod_lt _ (by decide)) (Nat.mod_lt _ (by decide)) (List.singleton_inj.mp last)
    omega

/-! ## Quoted texts -/

theorem not_half (c : Char) : ¬ (0xD800 ≤ c.toNat ∧ c.toNat < 0xE000) := by
  rintro ⟨low, high⟩
  have valid := c.valid
  rcases valid with h | ⟨h, -⟩
  · have : c.toNat < 0xD800 := h
    omega
  · have : 0xDFFF < c.toNat := h
    omega

theorem escapedUnits?_hex {c : Char} (h : c.toNat < 0x10000) (rest : List Char) :
    Json.escapedUnits? (hex 4 c.toNat ++ rest) = some (c, rest) := by
  have apart := not_half c
  have unit : Json.escapedUnits?.unitChar c.toNat = c := by
    rw [Json.escapedUnits?.unitChar, if_neg apart, Char.ofNat_toNat]
  have no_pair (second : Nat) : ¬ (0xD800 ≤ c.toNat ∧ c.toNat < 0xDC00 ∧ 0xDC00 ≤ second ∧
      second < 0xE000) := by
    omega
  unfold Json.escapedUnits?
  simp only [unit?_hex h, Option.bind_eq_bind, Option.bind_some, unit, no_pair, if_false]
  split
  · rfl
  · rfl

theorem escapedUnits?_pair {high low : Nat} (hl : 0xD800 ≤ high) (hh : high < 0xDC00)
    (ll : 0xDC00 ≤ low) (lh : low < 0xE000) (rest : List Char) :
    Json.escapedUnits? (hex 4 high ++ (unitEscape low ++ rest)) =
      some (Char.ofNat (0x10000 + (high - 0xD800) * 0x400 + (low - 0xDC00)), rest) := by
  unfold Json.escapedUnits?
  rw [unit?_hex (by omega)]
  simp only [Option.bind_eq_bind, Option.bind_some, unitEscape, List.cons_append,
    unit?_hex (show low < 0x10000 by omega), hl, hh, ll, lh, and_self, if_true]

theorem escapedUnits?_astral {c : Char} (h : 0x10000 ≤ c.toNat) (rest : List Char) :
    Json.escapedUnits? (hex 4 (0xD800 + (c.toNat - 0x10000) / 0x400) ++
      (unitEscape (0xDC00 + (c.toNat - 0x10000) % 0x400) ++ rest)) = some (c, rest) := by
  have bound : c.toNat < 0x110000 := by
    rcases c.valid with h | ⟨-, h⟩
    · have : c.toNat < 0xD800 := h
      omega
    · exact h
  rw [escapedUnits?_pair (by omega) (by omega) (by omega) (by omega)]
  have whole : 0x10000 + (0xD800 + (c.toNat - 0x10000) / 0x400 - 0xD800) * 0x400 +
      (0xDC00 + (c.toNat - 0x10000) % 0x400 - 0xDC00) = c.toNat := by omega
  rw [whole, Char.ofNat_toNat]

theorem characters?_jsonChar (fuel : Nat) (read : List Char) (c : Char) (rest : List Char) :
    Json.characters? (fuel + 1) read (jsonChar c ++ rest) =
      Json.characters? fuel (c :: read) rest := by
  unfold jsonChar
  split
  · subst_vars
    rfl
  split
  · subst_vars
    rfl
  split
  · subst_vars
    rfl
  split
  · subst_vars
    rfl
  split
  · subst_vars
    rfl
  split
  · subst_vars
    rfl
  split
  · subst_vars
    rfl
  split
  · rename_i quote backslash _ _ _ _ _ _
    rw [List.cons_append, List.nil_append, Json.characters?]
    · exact fun h => quote h
    · exact fun _ h => absurd h backslash
    · exact fun _ _ h => absurd h backslash
  split
  · rename_i _ small
    rw [unitEscape, List.cons_append, List.cons_append, Json.characters?, escapedUnits?_hex small]
  · rename_i _ small
    rw [unitEscape, List.append_assoc, List.cons_append, List.cons_append, Json.characters?,
      escapedUnits?_astral (by omega)]

theorem characters?_flatMap (cs : List Char) (fuel : Nat) (read rest : List Char)
    (h : cs.length < fuel) :
    Json.characters? fuel read (cs.flatMap jsonChar ++ '"' :: rest) =
      some (String.ofList (read.reverse ++ cs), rest) := by
  induction cs generalizing fuel read with
  | nil =>
    cases fuel with
    | zero => cases h
    | succ fuel => simp [Json.characters?]
  | cons c cs ih =>
    cases fuel with
    | zero => cases h
    | succ fuel =>
      rw [List.flatMap_cons, List.append_assoc, characters?_jsonChar,
        ih fuel (c :: read) (by simpa using h)]
      simp

/-- A JSON text ends where it says, and says which text it is of. -/
theorem jsonText_append_inj {cs ds r s : List Char} (h : jsonText cs ++ r = jsonText ds ++ s) :
    cs = ds ∧ r = s := by
  have body : cs.flatMap jsonChar ++ '"' :: r = ds.flatMap jsonChar ++ '"' :: s := by
    simpa [jsonText] using h
  have read := characters?_flatMap cs (cs.length + ds.length + 1) [] r (by omega)
  rw [body, characters?_flatMap ds _ [] s (by omega)] at read
  obtain ⟨texts, rests⟩ := Prod.mk.inj (Option.some.inj read)
  exact ⟨(String.ofList_inj.mp texts).symm, rests.symm⟩

/-! ## Words and numbers -/

/-- The characters of words and numbers. -/
def isWordChar (c : Char) : Bool := c.isAlphanum || c = '+' || c = '-' || c = '.'

theorem isWordChar_of_isDigit {c : Char} (h : c.isDigit = true) : isWordChar c = true := by
  simp [isWordChar, Char.isAlphanum, h]

/-- The characters of numbers, those without a decimal among them. -/
def isNumberChar (c : Char) : Bool :=
  c.isDigit || ['.', 'e', '+', '-', 'N', 'a', 'I', 'n', 'f', 'i', 't', 'y'].contains c

theorem isNumberChar_toDigits {n : Nat} {c : Char} (h : c ∈ Nat.toDigits 10 n) :
    isNumberChar c = true := by
  simp [isNumberChar, Nat.isDigit_of_mem_toDigits (by decide) (by decide) h]

theorem isWordChar_of_isNumberChar {c : Char} (h : isNumberChar c = true) :
    isWordChar c = true := by
  rcases Bool.or_eq_true_iff.mp h with digit | other
  · exact isWordChar_of_isDigit digit
  · have all : ∀ d ∈ ['.', 'e', '+', '-', 'N', 'a', 'I', 'n', 'f', 'i', 't', 'y'],
        isWordChar d = true := List.all_eq_true.mp (by decide)
    exact all c (by simpa using other)

theorem word_append_inj {v w r s : List Char} (hv : ∀ c ∈ v, isWordChar c = true)
    (hw : ∀ c ∈ w, isWordChar c = true) (hr : ∀ c tail, r = c :: tail → isWordChar c = false)
    (hs : ∀ c tail, s = c :: tail → isWordChar c = false) (h : v ++ r = w ++ s) :
    v = w ∧ r = s := by
  induction v generalizing w with
  | nil =>
    cases w with
    | nil => exact ⟨rfl, h⟩
    | cons d w =>
      have start := hr d (w ++ s) h
      rw [hw d List.mem_cons_self] at start
      cases start
  | cons c v ih =>
    cases w with
    | nil =>
      have start := hs c (v ++ r) h.symm
      rw [hv c List.mem_cons_self] at start
      cases start
    | cons d w =>
      obtain ⟨rfl, tails⟩ := List.cons.inj h
      obtain ⟨rfl, rests⟩ := ih (fun c hc => hv c (List.mem_cons_of_mem _ hc))
        (fun c hc => hw c (List.mem_cons_of_mem _ hc)) tails
      exact ⟨rfl, rests⟩

end Text

theorem decimalDigits_ne_nil (n : Int) : decimalDigits n ≠ [] := by
  unfold decimalDigits
  split
  · nofun
  · exact Nat.toDigits_ne_nil

theorem mem_decimalDigits {n : Int} {c : Char} (h : c ∈ decimalDigits n) :
    c.isDigit = true ∨ c = '-' := by
  have digit {k : Nat} (h : c ∈ Nat.toDigits 10 k) : c.isDigit = true :=
    Nat.isDigit_of_mem_toDigits (by decide) (by decide) h
  unfold decimalDigits at h
  split at h
  · rcases List.mem_cons.mp h with rfl | h
    · exact .inr rfl
    · exact .inl (digit h)
  · exact .inl (digit h)

theorem isNumberChar_decimalDigits {n : Int} {c : Char} (h : c ∈ decimalDigits n) :
    Text.isNumberChar c = true := by
  rcases mem_decimalDigits h with digit | rfl
  · simp [Text.isNumberChar, digit]
  · decide

theorem toDigits_inj {n m : Nat} (h : Nat.toDigits 10 n = Nat.toDigits 10 m) : n = m := by
  have read := Nat.ofDigitChars_ten_toDigits (n := n)
  rw [h, Nat.ofDigitChars_ten_toDigits] at read
  exact read.symm

theorem decimalDigits_inj {n m : Int} (h : decimalDigits n = decimalDigits m) : n = m := by
  have signed {k : Nat} {tail : List Char} : Nat.toDigits 10 k ≠ '-' :: tail := by
    intro digits
    have digit := Nat.isDigit_of_mem_toDigits (b := 10) (n := k) (c := '-') (by decide) (by decide)
      (by rw [digits]; exact List.mem_cons_self)
    exact absurd digit (by decide)
  unfold decimalDigits at h
  split at h
  · split at h
    · have same := toDigits_inj (List.cons.inj h).2
      omega
    · exact absurd h.symm signed
  · split at h
    · exact absurd h signed
    · have same := toDigits_inj h
      omega

end CanaryRelease
