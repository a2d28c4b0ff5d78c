import CanaryRelease.Proofs.JsonTexts
import CanaryRelease.Proofs.Places

/-!
# Canonical texts can be read in one way

The canonical text of a value is a chunk: a word, a quoted text, or a list or an object of chunks. A
chunk that is followed by a comma, a closing bracket or nothing ends where it says
(`Chunk.reads`). So the texts of two lists are the same only if those of their items are
(`listText_inj`), and the texts of two objects only if those of their fields are
(`objectText_inj`).
-/

namespace CanaryRelease

namespace Text

/-! ## Chunks -/

/-- The text of a list. -/
def listText (items : List (List Char)) : List Char := '[' :: commaSeparated items ++ [']']

/-- A field of an object: its key and the text of its value. -/
def memberText (member : List Char × List Char) : List Char :=
  jsonText member.1 ++ ':' :: member.2

/-- The text of an object. -/
def objectText (members : List (List Char × List Char)) : List Char :=
  '\x7b' :: commaSeparated (members.map memberText) ++ ['\x7d']

/-- What canonical texts are made of. -/
inductive Chunk : List Char → Prop where
  | word {w : List Char} (hne : w ≠ []) (hw : ∀ c ∈ w, isWordChar c = true) : Chunk w
  | text (cs : List Char) : Chunk (jsonText cs)
  | list {items : List (List Char)} (h : ∀ item ∈ items, Chunk item) : Chunk (listText items)
  | object {members : List (List Char × List Char)} (h : ∀ member ∈ members, Chunk member.2) :
      Chunk (objectText members)

/-- What comes after a value inside others: nothing, a comma, or the end of a list or an object. -/
def Closing (rest : List Char) : Prop :=
  ∀ c tail, rest = c :: tail → c = ',' ∨ c = ']' ∨ c = '\x7d'

theorem closing_comma (rest : List Char) : Closing (',' :: rest) := by
  rintro _ _ ⟨⟩
  exact .inl rfl

theorem Closing.not_isWordChar {rest : List Char} (h : Closing rest) :
    ∀ c tail, rest = c :: tail → isWordChar c = false := by
  intro c tail start
  rcases h c tail start with rfl | rfl | rfl
  all_goals decide

theorem Chunk.head {x : List Char} (h : Chunk x) :
    ∃ c tail, x = c :: tail ∧ (isWordChar c = true ∨ c = '"' ∨ c = '[' ∨ c = '\x7b') := by
  cases h with
  | word hne hw =>
    cases x with
    | nil => exact absurd rfl hne
    | cons c tail => exact ⟨c, tail, rfl, .inl (hw c List.mem_cons_self)⟩
  | text cs => exact ⟨'"', _, rfl, .inr (.inl rfl)⟩
  | list => exact ⟨'[', _, rfl, .inr (.inr (.inl rfl))⟩
  | object => exact ⟨'\x7b', _, rfl, .inr (.inr (.inr rfl))⟩

/-! ## Sequences of chunks -/

/-- A text ends where it says, whatever closes it, if it is compared with others of a kind. -/
def Reads (P : List Char → Prop) (x : List Char) : Prop :=
  ∀ y r s, P y → Closing r → Closing s → x ++ r = y ++ s → x = y ∧ r = s

/-- What follows the first item of a sequence. -/
def afterFirst (items : List (List Char)) (rest : List Char) : List Char :=
  if items.isEmpty then rest else ',' :: commaSeparated items ++ rest

theorem commaSeparated_cons (x : List Char) (xs : List (List Char)) (rest : List Char) :
    commaSeparated (x :: xs) ++ rest = x ++ afterFirst xs rest := by
  cases xs with
  | nil => simp [commaSeparated, afterFirst]
  | cons y ys => simp [commaSeparated, afterFirst, List.intercalate_cons_cons]

theorem closing_afterFirst {items : List (List Char)} {rest : List Char} (h : Closing rest) :
    Closing (afterFirst items rest) := by
  unfold afterFirst
  split
  · exact h
  · exact closing_comma _

/-- A sequence of texts that end where they say can be read in one way. -/
theorem commaSeparated_inj {P : List Char → Prop} {close : Char} {xs ys : List (List Char)}
    {r s : List Char} (hc : close = ']' ∨ close = '\x7d')
    (reads : ∀ x ∈ xs, Reads P x) (hx : ∀ x ∈ xs, ∃ c tail, x = c :: tail ∧ c ≠ close)
    (hP : ∀ y ∈ ys, P y) (hy : ∀ y ∈ ys, ∃ c tail, y = c :: tail ∧ c ≠ close)
    (h : commaSeparated xs ++ close :: r = commaSeparated ys ++ close :: s) : xs = ys ∧ r = s := by
  have closing (rest : List Char) : Closing (close :: rest) := by
    rintro c tail ⟨⟩
    exact .inr hc
  -- by induction on one sequence: its first text ends where it says, so the other one starts alike
  induction xs generalizing ys with
  | nil =>
    cases ys with
    | nil => exact ⟨rfl, (List.cons.inj h).2⟩
    | cons y ys =>
      obtain ⟨c, tail, rfl, other⟩ := hy y List.mem_cons_self
      rw [commaSeparated_cons] at h
      exact absurd (List.cons.inj h).1.symm other
  | cons x xs ih =>
    cases ys with
    | nil =>
      obtain ⟨c, tail, rfl, other⟩ := hx x List.mem_cons_self
      rw [commaSeparated_cons] at h
      exact absurd (List.cons.inj h).1 other
    | cons y ys =>
      rw [commaSeparated_cons, commaSeparated_cons] at h
      obtain ⟨rfl, after⟩ := reads x List.mem_cons_self y _ _ (hP y List.mem_cons_self)
        (closing_afterFirst (closing r)) (closing_afterFirst (closing s)) h
      have comma : close ≠ ',' := by
        rcases hc with rfl | rfl
        all_goals decide
      cases xs with
      | nil =>
        cases ys with
        | nil => exact ⟨rfl, (List.cons.inj after).2⟩
        | cons z zs => exact absurd (List.cons.inj after).1 comma
      | cons z zs =>
        cases ys with
        | nil => exact absurd (List.cons.inj after).1.symm comma
        | cons w ws =>
          obtain ⟨tails, rests⟩ := ih (fun x hx => reads x (List.mem_cons_of_mem _ hx))
            (fun x h => hx x (List.mem_cons_of_mem _ h)) (fun y h => hP y (List.mem_cons_of_mem _ h))
            (fun y h => hy y (List.mem_cons_of_mem _ h)) (List.cons.inj after).2
          exact ⟨by rw [tails], rests⟩

/-- The text of a field whose value is a chunk. -/
def IsMember (x : List Char) : Prop := ∃ member, x = memberText member ∧ Chunk member.2

theorem reads_memberText {m : List Char × List Char} (hm : Reads Chunk m.2) :
    Reads IsMember (memberText m) := by
  rintro _ r s ⟨n, rfl, hn⟩ hr hs h
  have texts : jsonText m.1 ++ (':' :: m.2 ++ r) = jsonText n.1 ++ (':' :: n.2 ++ s) := by
    simpa [memberText] using h
  obtain ⟨keys, after⟩ := jsonText_append_inj texts
  obtain ⟨values, rests⟩ := hm n.2 r s hn hr hs (List.cons.inj after).2
  exact ⟨congrArg memberText (Prod.ext keys values), rests⟩

theorem memberText_inj {m n : List Char × List Char} (h : memberText m = memberText n) : m = n := by
  obtain ⟨keys, values⟩ := jsonText_append_inj h
  exact Prod.ext keys (List.cons.inj values).2

theorem Chunk.head_ne {x : List Char} (h : Chunk x) {close : Char}
    (hc : close = ']' ∨ close = '\x7d') : ∃ c tail, x = c :: tail ∧ c ≠ close := by
  obtain ⟨c, tail, rfl, kind⟩ := h.head
  refine ⟨c, tail, rfl, ?_⟩
  rintro rfl
  rcases hc with rfl | rfl
  all_goals exact absurd kind (by decide)

theorem word_append_ne {w : List Char} (hne : w ≠ []) (hw : ∀ c ∈ w, isWordChar c = true) {d : Char}
    (hd : isWordChar d = false) (tail r : List Char) : w ++ r ≠ d :: tail := by
  cases w with
  | nil => exact absurd rfl hne
  | cons c w =>
    intro eq
    have start := hw c List.mem_cons_self
    rw [(List.cons.inj eq).1, hd] at start
    cases start

theorem reads_word {w : List Char} (hne : w ≠ []) (hw : ∀ c ∈ w, isWordChar c = true) :
    Reads Chunk w := by
  intro y r s hy hr hs eq
  cases hy with
  | word _ hw' => exact word_append_inj hw hw' hr.not_isWordChar hs.not_isWordChar eq
  | text => exact absurd eq (word_append_ne hne hw (by decide) _ _)
  | list => exact absurd eq (word_append_ne hne hw (by decide) _ _)
  | object => exact absurd eq (word_append_ne hne hw (by decide) _ _)

theorem reads_jsonText (cs : List Char) : Reads Chunk (jsonText cs) := by
  intro y r s hy hr hs eq
  cases hy with
  | word hne hw => exact absurd eq.symm (word_append_ne hne hw (by decide) _ _)
  | text ds =>
    obtain ⟨rfl, rests⟩ := jsonText_append_inj eq
    exact ⟨rfl, rests⟩
  | list => exact absurd (List.cons.inj eq).1 (by decide)
  | object => exact absurd (List.cons.inj eq).1 (by decide)

theorem reads_listText {items : List (List Char)} (h : ∀ item ∈ items, Chunk item)
    (reads : ∀ item ∈ items, Reads Chunk item) : Reads Chunk (listText items) := by
  intro y r s hy hr hs eq
  cases hy with
  | word hne hw => exact absurd eq.symm (word_append_ne hne hw (by decide) _ _)
  | text => exact absurd (List.cons.inj eq).1 (by decide)
  | @list others h' =>
    have inner : commaSeparated items ++ ']' :: r = commaSeparated others ++ ']' :: s := by
      simpa [listText] using eq
    obtain ⟨rfl, rests⟩ := commaSeparated_inj (.inl rfl) reads
      (fun x hx => (h x hx).head_ne (.inl rfl)) h' (fun y hy => (h' y hy).head_ne (.inl rfl)) inner
    exact ⟨rfl, rests⟩
  | object => exact absurd (List.cons.inj eq).1 (by decide)

theorem members_inj {ms ns : List (List Char × List Char)} {r s : List Char}
    (reads : ∀ m ∈ ms, Reads Chunk m.2) (hn : ∀ n ∈ ns, Chunk n.2)
    (h : commaSeparated (ms.map memberText) ++ '\x7d' :: r =
      commaSeparated (ns.map memberText) ++ '\x7d' :: s) : ms = ns ∧ r = s := by
  have start (ms : List (List Char × List Char)) :
      ∀ x ∈ ms.map memberText, ∃ c tail, x = c :: tail ∧ c ≠ '\x7d' := by
    intro x hx
    obtain ⟨m, -, rfl⟩ := List.mem_map.mp hx
    exact ⟨'"', _, rfl, by decide⟩
  have reads_member : ∀ x ∈ ms.map memberText, Reads IsMember x := by
    intro x hx
    obtain ⟨m, hm, rfl⟩ := List.mem_map.mp hx
    exact reads_memberText (reads m hm)
  have members_of : ∀ y ∈ ns.map memberText, IsMember y := by
    intro y hy
    obtain ⟨n, mem, rfl⟩ := List.mem_map.mp hy
    exact ⟨n, rfl, hn n mem⟩
  obtain ⟨same, rests⟩ :=
    commaSeparated_inj (.inr rfl) reads_member (start ms) members_of (start ns) h
  exact ⟨(List.map_inj_right fun _ _ => memberText_inj).mp same, rests⟩

theorem reads_objectText {members : List (List Char × List Char)}
    (reads : ∀ member ∈ members, Reads Chunk member.2) : Reads Chunk (objectText members) := by
  intro y r s hy hr hs eq
  cases hy with
  | word hne hw => exact absurd eq.symm (word_append_ne hne hw (by decide) _ _)
  | text => exact absurd (List.cons.inj eq).1 (by decide)
  | list => exact absurd (List.cons.inj eq).1 (by decide)
  | @object others h' =>
    have inner : commaSeparated (members.map memberText) ++ '\x7d' :: r =
        commaSeparated (others.map memberText) ++ '\x7d' :: s := by
      simpa [objectText] using eq
    obtain ⟨rfl, rests⟩ := members_inj reads h' inner
    exact ⟨rfl, rests⟩

/-- A chunk ends where it says. -/
theorem Chunk.reads {x : List Char} (h : Chunk x) : Reads Chunk x := by
  induction h with
  | word hne hw => exact reads_word hne hw
  | text cs => exact reads_jsonText cs
  | list h ih => exact reads_listText h ih
  | object h ih => exact reads_objectText ih

theorem listText_inj {xs ys : List (List Char)} (hx : ∀ x ∈ xs, Chunk x) (hy : ∀ y ∈ ys, Chunk y)
    (h : listText xs = listText ys) : xs = ys := by
  have inner : commaSeparated xs ++ ']' :: [] = commaSeparated ys ++ ']' :: [] :=
    (List.cons.inj h).2
  exact (commaSeparated_inj (.inl rfl) (fun x h => (hx x h).reads)
    (fun x h => (hx x h).head_ne (.inl rfl)) hy (fun y h => (hy y h).head_ne (.inl rfl)) inner).1

theorem objectText_inj {ms ns : List (List Char × List Char)} (hm : ∀ m ∈ ms, Chunk m.2)
    (hn : ∀ n ∈ ns, Chunk n.2) (h : objectText ms = objectText ns) : ms = ns := by
  have inner : commaSeparated (ms.map memberText) ++ '\x7d' :: [] =
      commaSeparated (ns.map memberText) ++ '\x7d' :: [] := (List.cons.inj h).2
  exact (members_inj (fun m mem => (hm m mem).reads) hn inner).1

end Text

/-! ## Canonical texts -/

open Text

theorem Binary64.Decimal.isNumberChar_text (d : Binary64.Decimal) :
    ∀ c ∈ d.text, isNumberChar c = true := by
  have digits (n : Nat) : ∀ c ∈ Nat.toDigits 10 n, isNumberChar c = true := fun _ =>
    isNumberChar_toDigits
  have zeros (n : Nat) : ∀ c ∈ List.replicate n '0', isNumberChar c = true := by
    intro c hc
    rw [List.eq_of_mem_replicate hc]
    decide
  unfold Binary64.Decimal.text
  dsimp only
  split
  · split
    · simp only [List.cons_append, List.forall_mem_cons, List.forall_mem_append]
      exact ⟨by decide, by decide, zeros _, digits _⟩
    · split
      · simp only [List.forall_mem_append, List.forall_mem_cons]
        exact ⟨⟨digits _, zeros _⟩, by decide, by decide, nofun⟩
      · simp only [List.forall_mem_append, List.forall_mem_cons]
        exact ⟨fun c hc => digits _ c (List.mem_of_mem_take hc), by decide,
          fun c hc => digits _ c (List.mem_of_mem_drop hc)⟩
  · simp only [List.forall_mem_append, List.forall_mem_cons]
    refine ⟨⟨?_, by decide, ?_, zeros _⟩, digits _⟩
    · have all := digits d.digits
      split
      · rename_i first second more eq
        rw [eq] at all
        simp only [List.forall_mem_cons] at all ⊢
        exact ⟨all.1, by decide, all.2⟩
      · exact all
    · split
      · decide
      · decide

theorem Binary64.Decimal.text_ne_nil (d : Binary64.Decimal) : d.text ≠ [] := by
  unfold Binary64.Decimal.text
  dsimp only
  split
  · split
    · nofun
    · split
      · simp
      · simp
  · simp

theorem Binary64.isNumberChar_text (x : Binary64) : ∀ c ∈ x.text jsonWords, isNumberChar c = true := by
  have zero : ∀ c ∈ ['0', '.', '0'], isNumberChar c = true :=
    List.all_eq_true.mp (by decide)
  cases x with
  | nan => exact List.all_eq_true.mp (by decide)
  | infinite negative =>
    cases negative with
    | true => exact List.all_eq_true.mp (by decide)
    | false => exact List.all_eq_true.mp (by decide)
  | finite negative m e =>
    have size : ∀ c ∈ (if m = 0 then ['0', '.', '0'] else (shortest m e).text),
        isNumberChar c = true := by
      split
      · exact zero
      · exact Decimal.isNumberChar_text _
    unfold Binary64.text
    dsimp only
    split
    · exact List.forall_mem_cons.mpr ⟨by decide, size⟩
    · exact size

theorem Binary64.text_ne_nil (x : Binary64) : x.text jsonWords ≠ [] := by
  cases x with
  | nan => nofun
  | infinite negative =>
    cases negative with
    | true => nofun
    | false => nofun
  | finite negative m e =>
    unfold Binary64.text
    dsimp only
    split
    · nofun
    · split
      · nofun
      · exact Decimal.text_ne_nil _

theorem Binary64.Decimal.point_or_exponent (d : Binary64.Decimal) : '.' ∈ d.text ∨ 'e' ∈ d.text := by
  unfold Binary64.Decimal.text
  dsimp only
  split
  · left
    split
    · simp
    · split
      · simp
      · simp
  · right
    simp

theorem Binary64.text_ne_decimalDigits (x : Binary64) (n : Int) :
    x.text jsonWords ≠ decimalDigits n := by
  have mark : ∃ c ∈ x.text jsonWords, c.isDigit = false ∧ c ≠ '-' := by
    cases x with
    | nan => exact ⟨'N', by decide, by decide, by decide⟩
    | infinite negative =>
      refine ⟨'I', ?_, by decide, by decide⟩
      cases negative with
      | true => decide
      | false => decide
    | finite negative m e =>
      have size : ∃ c ∈ if m = 0 then ['0', '.', '0'] else (shortest m e).text,
          c.isDigit = false ∧ c ≠ '-' := by
        split
        · exact ⟨'.', by decide, by decide, by decide⟩
        · rcases Decimal.point_or_exponent (shortest m e) with h | h
          · exact ⟨'.', h, by decide, by decide⟩
          · exact ⟨'e', h, by decide, by decide⟩
      obtain ⟨c, hc, other⟩ := size
      refine ⟨c, ?_, other⟩
      unfold Binary64.text
      dsimp only
      split
      · exact List.mem_cons_of_mem _ hc
      · exact hc
  intro same
  obtain ⟨c, hc, no_digit, no_sign⟩ := mark
  rw [same] at hc
  rcases mem_decimalDigits hc with digit | sign
  · rw [digit] at no_digit
    cases no_digit
  · exact no_sign sign

namespace Value

theorem canonical_object (fields : Fields) :
    (object fields).canonical =
      objectText ((sortedByKey (canonicalFields fields)).map fun field =>
        (field.1.word, field.2)) := by
  rw [canonical, objectText, List.map_map]
  rfl

mutual

theorem chunk_canonical : ∀ v : Value, Chunk v.canonical
  | .null => .word nofun (List.all_eq_true.mp (by decide))
  | .bool true => .word nofun (List.all_eq_true.mp (by decide))
  | .bool false => .word nofun (List.all_eq_true.mp (by decide))
  | .int n => .word (decimalDigits_ne_nil n) fun _ hc =>
    isWordChar_of_isNumberChar (isNumberChar_decimalDigits hc)
  | .float x => .word (Binary64.text_ne_nil x) fun c hc =>
    isWordChar_of_isNumberChar (Binary64.isNumberChar_text x c hc)
  | .text s => .text _
  | .time t => .text _
  | .list items => .list (chunk_canonicalItems items)
  | .object fields => by
    rw [canonical_object]
    refine .object fun member hm => ?_
    obtain ⟨field, hf, rfl⟩ := List.mem_map.mp hm
    exact chunk_canonicalFields fields field (List.mem_mergeSort.mp hf)

theorem chunk_canonicalItems : ∀ items : List Value, ∀ x ∈ canonicalItems items, Chunk x
  | [] => nofun
  | v :: items => by
    rw [canonicalItems, List.forall_mem_cons]
    exact ⟨chunk_canonical v, chunk_canonicalItems items⟩

theorem chunk_canonicalFields :
    ∀ fields : List (Key × Value), ∀ field ∈ canonicalFields fields, Chunk field.2
  | [] => fun _ hf => absurd hf List.not_mem_nil
  | (_, v) :: fields => by
    rw [canonicalFields, List.forall_mem_cons]
    exact ⟨chunk_canonical v, chunk_canonicalFields fields⟩

end

end Value

end CanaryRelease
