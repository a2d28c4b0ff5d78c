import CanaryRelease.Text.Numeral
import Mathlib.Data.List.TakeWhile
import Mathlib.Data.Nat.Digits.Defs

/-!
# Spellings of integers

An integer has many spellings: with or without a sign, with zeros before it, with underscores
between its digits and with white space around it. `Spelling` is the grammar of those in ASCII, and
what a spelling denotes is a sum of digits times powers of ten. A numeral is read exactly if it is a
spelling (`exists_spelling`, `Spelling.readInteger`), and then it is read as what it denotes.

A run of digits is read from the left with the value so far, and its grammar goes with the recursion
of the reader: `DigitTail` is what may follow a digit, one constructor for each step that goes on.
-/

namespace CanaryRelease.Text

/-! ## The grammar -/

/-- White space in ASCII. -/
def IsPadding (c : Char) : Prop := c.toNat = 0x20 ∨ 0x09 ≤ c.toNat ∧ c.toNat ≤ 0x0D

/-- What may follow a digit of a numeral: digits, with at most one underscore before each. -/
inductive DigitTail : List Char → Prop
  | nil : DigitTail []
  | digit {c : Char} {cs : List Char} (h : c.isDigit = true) (rest : DigitTail cs) :
      DigitTail (c :: cs)
  | underscore {c : Char} {cs : List Char} (h : c.isDigit = true) (rest : DigitTail cs) :
      DigitTail ('_' :: c :: cs)

/-- The values of the digits in a text. -/
def digitsIn (cs : List Char) : List Nat := (cs.filter Char.isDigit).map fun c => c.toNat - 0x30

/-- The sign before a numeral. -/
inductive Sign where
  | none
  | plus
  | minus
  deriving DecidableEq, Repr

namespace Sign

/-- The sign as it is written. -/
def chars : Sign → List Char
  | none => []
  | plus => ['+']
  | minus => ['-']

/-- A natural number with the sign before it. -/
def of : Sign → Nat → Int
  | none, n | plus, n => n
  | minus, n => -n

end Sign

/-- A spelling of an integer in ASCII. -/
structure Spelling where
  before : List Char
  sign : Sign
  first : Char
  tail : List Char
  after : List Char
  padding_before : ∀ c ∈ before, IsPadding c
  digit_first : first.isDigit = true
  digits_tail : DigitTail tail
  padding_after : ∀ c ∈ after, IsPadding c

namespace Spelling

/-- The digits, with the underscores between them. -/
def body (x : Spelling) : List Char := x.first :: x.tail

/-- The spelling as it is written. -/
def chars (x : Spelling) : List Char := x.before ++ (x.sign.chars ++ (x.body ++ x.after))

/-- The integer that the digits denote in base ten. -/
def value (x : Spelling) : Int := x.sign.of (Nat.ofDigits 10 (digitsIn x.body).reverse)

end Spelling

/-! ## Characters -/

variable {c : Char} {cs rest : List Char} {d value digits : Nat}

theorem isDigit_iff : c.isDigit = true ↔ 0x30 ≤ c.toNat ∧ c.toNat ≤ 0x39 := by
  rw [Char.isDigit, Bool.and_eq_true, decide_eq_true_iff, decide_eq_true_iff]
  exact Iff.rfl

theorem find_digitZeros : ∀ n < 0x80,
    (digitZeros.find? fun first => first ≤ n && n < first + 10) =
      if 0x30 ≤ n ∧ n ≤ 0x39 then some 0x30 else none := by
  decide +kernel

theorem digitValue?_ascii (h : c.toNat < 0x80) :
    digitValue? c = if c.isDigit then some (c.toNat - 0x30) else none := by
  rw [digitValue?, find_digitZeros _ h]
  simp only [isDigit_iff]
  split
  · rfl
  · rfl

theorem digitValue?_of_isDigit (h : c.isDigit = true) :
    digitValue? c = some (c.toNat - 0x30) := by
  have bounds := isDigit_iff.mp h
  rw [digitValue?_ascii (by omega), if_pos h]

theorem digitValue?_eq_some (ascii : c.toNat < 0x80) (h : digitValue? c = some d) :
    c.isDigit = true ∧ d = c.toNat - 0x30 := by
  rw [digitValue?_ascii ascii] at h
  split at h
  · exact ⟨‹_›, (Option.some.inj h).symm⟩
  · cases h

theorem isWhiteSpace_ascii (h : c.toNat < 0x80) : isWhiteSpace c = true ↔ IsPadding c := by
  simp only [isWhiteSpace, Bool.or_eq_true, Bool.and_eq_true, decide_eq_true_iff, beq_iff_eq,
    IsPadding]
  omega

theorem IsPadding.lt (h : IsPadding c) : c.toNat < 0x80 := by
  rcases h with h | h <;> omega

theorem IsPadding.isWhiteSpace (h : IsPadding c) : Text.isWhiteSpace c = true :=
  (isWhiteSpace_ascii h.lt).mpr h

theorem IsPadding.not_isDigit (h : IsPadding c) : ¬ c.isDigit = true := by
  rw [isDigit_iff]
  rcases h with h | h <;> omega

theorem IsPadding.ne_underscore (h : IsPadding c) : c ≠ '_' := by
  rintro rfl
  rcases h with h | h <;> simp at h

theorem isDigit_ne_underscore (h : c.isDigit = true) : c ≠ '_' := by
  rintro rfl
  cases h

/-! ## Digits -/

theorem digitsIn_cons_of_isDigit (h : c.isDigit = true) (cs : List Char) :
    digitsIn (c :: cs) = (c.toNat - 0x30) :: digitsIn cs := by
  rw [digitsIn, List.filter_cons_of_pos h]
  rfl

theorem digitsIn_cons_of_not (h : ¬ c.isDigit = true) (cs : List Char) :
    digitsIn (c :: cs) = digitsIn cs := by
  rw [digitsIn, List.filter_cons_of_neg h]
  rfl

theorem digitsIn_append (cs ds : List Char) : digitsIn (cs ++ ds) = digitsIn cs ++ digitsIn ds := by
  rw [digitsIn, List.filter_append, List.map_append]
  rfl

/-- A number continued by digits. -/
def continued (value : Nat) (ds : List Nat) : Nat := ds.foldl (fun acc d => 10 * acc + d) value

theorem continued_zero (ds : List Nat) : continued 0 ds = Nat.ofDigits 10 ds.reverse := by
  rw [continued, Nat.ofDigits_eq_foldr, List.foldr_reverse]
  refine congrArg (fun f => List.foldl f 0 ds) (funext fun acc => funext fun d => ?_)
  simp [Nat.add_comm]

/-- The run that some digits amount to, after a number of other digits. -/
def runOver (value digits : Nat) (ds : List Nat) (rest : List Char) : DigitRun :=
  ⟨continued value ds, digits + ds.length, rest⟩

theorem runOver_cons (d : Nat) (ds : List Nat) :
    runOver value digits (d :: ds) rest = runOver (10 * value + d) (digits + 1) ds rest := by
  rw [runOver, runOver, List.length_cons, Nat.add_right_comm, Nat.add_assoc digits]
  rfl

/-! ## Runs of digits -/

theorem digitRun_cons (h : c ≠ '_') (cs : List Char) :
    digitRun value digits (c :: cs) =
      match digitValue? c with
      | some d => digitRun (10 * value + d) (digits + 1) cs
      | none => some ⟨value, digits, c :: cs⟩ := by
  rw [digitRun.eq_def]
  split
  · rename_i listed
    cases listed
  · rename_i listed
    exact absurd (List.cons.inj listed).1 h
  · rename_i listed
    exact absurd (List.cons.inj listed).1 h
  · rename_i listed
    obtain ⟨rfl, rfl⟩ := List.cons.inj listed
    rfl

theorem digitRun_digit (h : c.isDigit = true) (cs : List Char) :
    digitRun value digits (c :: cs) =
      digitRun (10 * value + (c.toNat - 0x30)) (digits + 1) cs := by
  rw [digitRun_cons (isDigit_ne_underscore h), digitValue?_of_isDigit h]

theorem digitRun_underscore (h : c.isDigit = true) (cs : List Char) :
    digitRun value digits ('_' :: c :: cs) =
      digitRun (10 * value + (c.toNat - 0x30)) (digits + 1) cs := by
  rw [digitRun, digitValue?_of_isDigit h]

theorem digitRun_of_digitTail (tail : DigitTail cs) (ended : ∀ c ∈ rest.head?, IsPadding c) :
    digitRun value digits (cs ++ rest) = some (runOver value digits (digitsIn cs) rest) := by
  induction tail generalizing value digits with
  | nil =>
    cases rest with
    | nil => rfl
    | cons c rest =>
      have padding := ended c rfl
      have none_left : digitValue? c = none := by
        rw [digitValue?_ascii padding.lt, if_neg padding.not_isDigit]
      rw [List.nil_append, digitRun_cons padding.ne_underscore, none_left]
      rfl
  | digit h tail ih =>
    rw [List.cons_append, digitRun_digit h, ih, digitsIn_cons_of_isDigit h, runOver_cons]
  | underscore h tail ih =>
    rw [List.cons_append, List.cons_append, digitRun_underscore h, ih,
      digitsIn_cons_of_not (by decide), digitsIn_cons_of_isDigit h, runOver_cons]

theorem exists_digitTail {run : DigitRun} (ascii : ∀ c ∈ cs, c.toNat < 0x80)
    (h : digitRun value digits cs = some run) :
    ∃ tail, DigitTail tail ∧ cs = tail ++ run.rest ∧
      run = runOver value digits (digitsIn tail) run.rest := by
  fun_induction digitRun value digits cs with
  | case1 value digits =>
    obtain rfl := Option.some.inj h
    exact ⟨[], .nil, rfl, rfl⟩
  | case2 => cases h
  | case3 value digits c cs d read ih =>
    obtain ⟨tail, grammar, rfl, same⟩ := ih (fun c mem => ascii c (by simp [mem])) h
    obtain ⟨isDigit, rfl⟩ := digitValue?_eq_some (ascii c (by simp)) read
    refine ⟨'_' :: c :: tail, .underscore isDigit grammar, rfl, ?_⟩
    rw [same, digitsIn_cons_of_not (by decide), digitsIn_cons_of_isDigit isDigit, runOver_cons]
    rfl
  | case4 => cases h
  | case5 value digits c cs _ _ d read ih =>
    obtain ⟨tail, grammar, rfl, same⟩ := ih (fun c mem => ascii c (by simp [mem])) h
    obtain ⟨isDigit, rfl⟩ := digitValue?_eq_some (ascii c (by simp)) read
    refine ⟨c :: tail, .digit isDigit grammar, rfl, ?_⟩
    rw [same, digitsIn_cons_of_isDigit isDigit, runOver_cons]
    rfl
  | case6 value digits c cs =>
    obtain rfl := Option.some.inj h
    exact ⟨[], .nil, rfl, rfl⟩

/-! ## Natural numbers -/

theorem runOver_first (isDigit : c.isDigit = true) :
    runOver (c.toNat - 0x30) 1 (digitsIn cs) rest = runOver 0 0 (digitsIn (c :: cs)) rest := by
  rw [digitsIn_cons_of_isDigit isDigit, runOver_cons, Nat.mul_zero, Nat.zero_add, Nat.zero_add]

theorem readDigits_of_digitTail (isDigit : c.isDigit = true) (tail : DigitTail cs)
    (padding : ∀ c ∈ rest, IsPadding c) (short : (digitsIn (c :: cs)).length ≤ maxDigits) :
    readDigits (c :: cs ++ rest) = .ok (Nat.ofDigits 10 (digitsIn (c :: cs)).reverse) := by
  have run : digitRun (c.toNat - 0x30) 1 (cs ++ rest) =
      some (runOver (c.toNat - 0x30) 1 (digitsIn cs) rest) :=
    digitRun_of_digitTail tail fun c first => padding c (List.mem_of_mem_head? first)
  have white : rest.all isWhiteSpace = true :=
    List.all_eq_true.mpr fun c mem => (padding c mem).isWhiteSpace
  have fits : ¬ maxDigits < 0 + (digitsIn (c :: cs)).length := by omega
  rw [List.cons_append, readDigits, digitValue?_of_isDigit isDigit, Option.bind_some, run,
    runOver_first isDigit, ← continued_zero]
  exact (if_neg fits).trans (if_pos white)

theorem exists_run {run : DigitRun} (ascii : ∀ x ∈ c :: cs, x.toNat < 0x80)
    (h : ((digitValue? c).bind fun d => digitRun d 1 cs) = some run) :
    c.isDigit = true ∧ ∃ tail, DigitTail tail ∧ cs = tail ++ run.rest ∧
      run = runOver 0 0 (digitsIn (c :: tail)) run.rest := by
  obtain ⟨d, read, h⟩ := Option.bind_eq_some_iff.mp h
  obtain ⟨isDigit, rfl⟩ := digitValue?_eq_some (ascii c List.mem_cons_self) read
  obtain ⟨tail, grammar, split, same⟩ :=
    exists_digitTail (fun x mem => ascii x (List.mem_cons_of_mem _ mem)) h
  exact ⟨isDigit, tail, grammar, split, same.trans (runOver_first isDigit)⟩

theorem exists_digits {n : Nat} (ascii : ∀ x ∈ cs, x.toNat < 0x80) (h : readDigits cs = .ok n) :
    ∃ c tail after, c.isDigit = true ∧ DigitTail tail ∧ (∀ x ∈ after, IsPadding x) ∧
      cs = c :: tail ++ after ∧ n = Nat.ofDigits 10 (digitsIn (c :: tail)).reverse := by
  cases cs with
  | nil => cases h
  | cons c cs =>
    rw [readDigits] at h
    split at h
    · cases h
    · rename_i run going
      obtain ⟨isDigit, tail, grammar, rfl, same⟩ := exists_run ascii going
      split at h
      · cases h
      · split at h
        · rename_i white
          obtain rfl := Except.ok.inj h
          refine ⟨c, tail, run.rest, isDigit, grammar, fun x mem => ?_, rfl, ?_⟩
          · exact (isWhiteSpace_ascii (ascii x (by simp [mem]))).mp
              (List.all_eq_true.mp white x mem)
          · rw [← continued_zero, same]
            rfl
        · cases h

theorem eq_malformed_of_readDigits {e : NumeralError} (ascii : ∀ x ∈ cs, x.toNat < 0x80)
    (short : (digitsIn cs).length ≤ maxDigits) (h : readDigits cs = .error e) : e = .malformed := by
  cases cs with
  | nil => exact (Except.error.inj h).symm
  | cons c cs =>
    rw [readDigits] at h
    split at h
    · exact (Except.error.inj h).symm
    · rename_i run going
      obtain ⟨-, tail, -, rfl, same⟩ := exists_run ascii going
      split at h
      · rename_i long
        have count : run.digits = 0 + (digitsIn (c :: tail)).length := congrArg DigitRun.digits same
        rw [← List.cons_append, digitsIn_append, List.length_append] at short
        omega
      · split at h
        · cases h
        · exact (Except.error.inj h).symm

/-! ## Integers -/

theorem dropWhile_padding (padding : ∀ c ∈ cs, IsPadding c)
    (ended : ∀ c ∈ rest.head?, isWhiteSpace c = false) :
    (cs ++ rest).dropWhile isWhiteSpace = rest := by
  rw [List.dropWhile_append_of_pos fun c mem => (padding c mem).isWhiteSpace]
  cases rest with
  | nil => rfl
  | cons c rest => exact List.dropWhile_cons_of_neg (by simp [ended c rfl])

theorem isWhiteSpace_of_isDigit (h : c.isDigit = true) : isWhiteSpace c = false := by
  have bounds := isDigit_iff.mp h
  rw [← Bool.not_eq_true, isWhiteSpace_ascii (by omega), IsPadding]
  omega

theorem negated_eq (x : Except NumeralError Nat) :
    Except.map (fun n : Int => -n) (x >>= fun n => pure (n : Int)) = x.map Sign.minus.of := by
  cases x <;> rfl

theorem readInteger_signed {before : List Char} (padding : ∀ c ∈ before, IsPadding c) (sign : Sign)
    (isDigit : c.isDigit = true) :
    readInteger (before ++ (sign.chars ++ c :: cs)) = (readDigits (c :: cs)).map sign.of := by
  have start : (before ++ (sign.chars ++ c :: cs)).dropWhile isWhiteSpace =
      sign.chars ++ c :: cs := by
    refine dropWhile_padding padding fun x first => ?_
    cases sign with
    | none =>
      obtain rfl := Option.some.inj first
      exact isWhiteSpace_of_isDigit isDigit
    | plus | minus =>
      obtain rfl := Option.some.inj first
      rfl
  cases sign with
  | none =>
    have unsigned : (before ++ (Sign.none.chars ++ c :: cs)).dropWhile isWhiteSpace = c :: cs :=
      start
    rw [readInteger, unsigned]
    split
    · rename_i same
      obtain ⟨rfl, -⟩ := List.cons.inj same
      cases isDigit
    · rename_i same
      obtain ⟨rfl, -⟩ := List.cons.inj same
      cases isDigit
    · rfl
  | plus =>
    rw [readInteger, start]
    rfl
  | minus =>
    rw [readInteger, start]
    exact negated_eq _

theorem exists_signed (ascii : ∀ x ∈ cs, x.toNat < 0x80) :
    ∃ before sign rest, (∀ x ∈ before, IsPadding x) ∧ cs = before ++ (Sign.chars sign ++ rest) ∧
      readInteger cs = (readDigits rest).map sign.of := by
  have padding : ∀ x ∈ cs.takeWhile isWhiteSpace, IsPadding x := fun x mem =>
    (isWhiteSpace_ascii (ascii x ((List.takeWhile_sublist _).subset mem))).mp
      (List.mem_takeWhile_imp mem)
  have parts : cs.takeWhile isWhiteSpace ++ cs.dropWhile isWhiteSpace = cs :=
    List.takeWhile_append_dropWhile
  rw [readInteger]
  split
  · rename_i rest start
    exact ⟨_, .minus, rest, padding, parts.symm.trans (by rw [start]; rfl), negated_eq _⟩
  · rename_i rest start
    exact ⟨_, .plus, rest, padding, parts.symm.trans (by rw [start]; rfl), rfl⟩
  · exact ⟨_, .none, _, padding, parts.symm, rfl⟩

theorem Spelling.readInteger (x : Spelling) (short : (digitsIn x.body).length ≤ maxDigits) :
    Text.readInteger x.chars = .ok x.value := by
  rw [chars, body, List.cons_append, readInteger_signed x.padding_before x.sign x.digit_first,
    ← List.cons_append, readDigits_of_digitTail x.digit_first x.digits_tail x.padding_after short]
  rfl

theorem Spelling.length_digits_le (x : Spelling) :
    (digitsIn x.body).length ≤ (digitsIn x.chars).length := by
  simp only [chars, digitsIn_append, List.length_append]
  omega

/-- What is read as an integer is a spelling of it. -/
theorem exists_spelling {n : Int} (ascii : ∀ x ∈ cs, x.toNat < 0x80)
    (h : readInteger cs = .ok n) : ∃ x : Spelling, x.chars = cs ∧ x.value = n := by
  obtain ⟨before, sign, rest, padding, rfl, signed⟩ := exists_signed ascii
  rw [signed] at h
  cases read : readDigits rest with
  | error e =>
    rw [read] at h
    cases h
  | ok m =>
    rw [read] at h
    obtain rfl := Except.ok.inj h
    obtain ⟨c, tail, after, isDigit, grammar, white, rfl, rfl⟩ :=
      exists_digits (fun x mem => ascii x (by simp [mem])) read
    exact ⟨⟨before, sign, c, tail, after, padding, isDigit, grammar, white⟩, rfl, rfl⟩

theorem readInteger_eq_malformed (ascii : ∀ x ∈ cs, x.toNat < 0x80)
    (short : (digitsIn cs).length ≤ maxDigits) (unspelled : ¬ ∃ x : Spelling, x.chars = cs) :
    readInteger cs = .error .malformed := by
  cases read : readInteger cs with
  | ok n =>
    obtain ⟨x, same, -⟩ := exists_spelling ascii read
    exact absurd ⟨x, same⟩ unspelled
  | error e =>
    obtain ⟨before, sign, rest, -, rfl, signed⟩ := exists_signed ascii
    rw [signed] at read
    cases last : readDigits rest with
    | ok m =>
      rw [last] at read
      cases read
    | error e' =>
      rw [last] at read
      rw [digitsIn_append, digitsIn_append, List.length_append, List.length_append] at short
      rw [← Except.error.inj read,
        eq_malformed_of_readDigits (fun x mem => ascii x (by simp [mem])) (by omega) last]

end CanaryRelease.Text
