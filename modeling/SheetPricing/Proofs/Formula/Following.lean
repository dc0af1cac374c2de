import SheetPricing.Proofs.Formula.Scanning
import SheetPricing.Proofs.Text.Locality

/-! What may follow a token. A token stays what it is when the text behind it is written with other
blanks, although some lexemes look far ahead: to the parenthesis of a call, over the digits of a row
and past the colon of a range. -/
namespace SheetPricing.Formula
open Text (isBlank isDigit isPlainLetter isPlainWord)
open Text.Lexeme

/-- The characters that a kind of token can begin with. -/
def TokenKind.opening (kind : TokenKind) (c : Char) : Bool :=
  match kind with
  | .number => isDigit c || c == '.'
  | .reference | .range => c == '$' || isPlainLetter c
  | .function => isPlainLetter c || c == '_'
  | .boolean => isLetter 'T' c || isLetter 'F' c
  | .operator => isOperator c
  | .leftParenthesis => c == '('
  | .rightParenthesis => c == ')'
  | .separator => c == ',' || c == ';'

/-- The characters that a lexeme can begin with. -/
def opening : Option TokenKind → Char → Bool
  | none => isBlank
  | some kind => kind.opening

section
variable {cs taken rest other : List Char} {c : Char} {kind : TokenKind}

theorem of_isLetter {P : Char → Prop} {letter : Char} (found : isLetter letter c = true)
    (itself : P letter) (plain : ∀ n < 128, isPlainLetter (Char.ofNat n) = true → P (Char.ofNat n))
    (foreign : ∀ entry ∈ Text.foreignCapitals, P (Char.ofNat entry.1)) : P c := by
  rw [isLetter, Text.capitals] at found
  split at found
  · next small =>
    have letter : isPlainLetter c = true := by simp [isPlainLetter, small]
    exact of_plain (P := fun c => isPlainLetter c = true → P c) plain (.inl letter) letter
  · split at found
    · next letters listed =>
      obtain ⟨before, behind, entries, _⟩ := List.lookup_eq_some_iff.mp listed
      have here := foreign (c.toNat, letters) (by simp [entries])
      rwa [Char.ofNat_toNat] at here
    · rw [← List.singleton_inj.mp (beq_iff_eq.mp found)] at itself
      exact itself

theorem begins_column : column.Begins fun c => c == '$' || isPlainLetter c :=
  begins_optional_append begins_one (begins_append begins_oneAndUpTo)

theorem plain_of_isLetter {letter : Char} (listed : letter ∈ "TRUEFAL".toList)
    (found : isLetter letter c = true) : isPlainLetter c = true := by
  have itself : ∀ letter ∈ "TRUEFAL".toList, isPlainLetter letter = true :=
    List.all_eq_true.mp (by decide)
  have foreign : ∀ letter ∈ "TRUEFAL".toList, ∀ entry ∈ Text.foreignCapitals,
      isLetter letter (Char.ofNat entry.1) = true → isPlainLetter (Char.ofNat entry.1) = true :=
    forall_mem_of_all (by decide)
  exact of_isLetter (P := fun c => isLetter letter c = true → isPlainLetter c = true) found
    (fun _ => itself letter listed) (fun _ _ plain _ => plain) (foreign letter listed) found

theorem solid_of_isLetter {letter : Char} (listed : letter ∈ "TRUEFALSE".toList)
    (found : isLetter letter c = true) : isBlank c = false ∧ isDigit c = false ∧ c ≠ '$' := by
  have itself : ∀ letter ∈ "TRUEFALSE".toList,
      isBlank letter = false ∧ isDigit letter = false ∧ letter ≠ '$' := forall_mem_of_all (by decide)
  exact of_isLetter (P := fun c => isBlank c = false ∧ isDigit c = false ∧ c ≠ '$') found
    (itself letter listed) (by decide) (by decide +kernel)

theorem begins_of_mem_lexemes {entry : Option TokenKind × Text.Lexeme} (listed : entry ∈ lexemes) :
    entry.2.Begins (opening entry.1) := by
  simp only [lexemes, List.mem_cons, List.not_mem_nil, or_false] at listed
  rcases listed with rfl | rfl | rfl | rfl | rfl | rfl | rfl | rfl | rfl | rfl
  · exact begins_append begins_one
  · exact begins_before (begins_append begins_one)
  · exact begins_append (begins_append begins_column)
  · exact begins_append begins_column
  · exact begins_append
      (begins_either (begins_append (begins_append begins_one)) (begins_append begins_one))
  · exact begins_either (begins_before (begins_append begins_one))
      (begins_before (begins_append begins_one))
  · refine (begins_either (begins_append begins_one)
      (begins_either (begins_append begins_one) begins_one)).mono fun c found => ?_
    simp only [Bool.or_eq_true, beq_iff_eq] at found
    rcases found with rfl | rfl | found
    · rfl
    · rfl
    · exact found
  · exact begins_one
  · exact begins_one
  · exact begins_one

/-- The lexemes that are tried before a kind. -/
def earlier (kind : Option TokenKind) : List (Option TokenKind × Text.Lexeme) :=
  lexemes.takeWhile (·.1 != kind)

theorem head_of_next? {kind : Option TokenKind} (found : next? cs = some (kind, taken, rest)) :
    ∃ c others, taken = c :: others ∧ opening kind c = true := by
  obtain ⟨lexeme, listed, took⟩ := mem_of_next? found
  obtain ⟨c, others, rfl⟩ := List.exists_cons_of_ne_nil (nonempty_of_mem_lexemes listed took)
  obtain ⟨d, here, opens⟩ := (begins_of_mem_lexemes listed).head took
  rw [lexeme.splits took] at here
  cases here
  exact ⟨c, others, rfl, opens⟩

theorem fails_of_next? {kind : Option TokenKind} (found : next? cs = some (kind, taken, rest)) :
    ∀ entry ∈ earlier kind, entry.2.take? cs = none := by
  obtain ⟨before, ⟨same, lexeme⟩, after, split, took, fails⟩ := List.findSome?_eq_some_iff.mp found
  simp only [Option.map_eq_some_iff, Prod.mk.injEq] at took
  obtain ⟨pair, took, rfl, rfl⟩ := took
  intro entry inside
  have front : earlier same <+: before := by
    rw [earlier, split, List.takeWhile_append]
    split
    · simp
    · exact List.takeWhile_prefix _
  exact Option.map_eq_none_iff.mp (fails entry (front.subset inside))

theorem next?_of_earlier {kind : Option TokenKind} {lexeme : Text.Lexeme}
    (listed : (kind, lexeme) ∈ lexemes) (fails : ∀ entry ∈ earlier kind, entry.2.take? cs = none)
    (took : lexeme.take? cs = some (taken, rest)) : next? cs = some (kind, taken, rest) := by
  have split : ∃ after, lexemes = earlier kind ++ (kind, lexeme) :: after := by
    simp only [lexemes, List.mem_cons, List.not_mem_nil, or_false, Prod.mk.injEq] at listed
    rcases listed with ⟨rfl, rfl⟩ | ⟨rfl, rfl⟩ | ⟨rfl, rfl⟩ | ⟨rfl, rfl⟩ | ⟨rfl, rfl⟩ | ⟨rfl, rfl⟩ |
      ⟨rfl, rfl⟩ | ⟨rfl, rfl⟩ | ⟨rfl, rfl⟩ | ⟨rfl, rfl⟩ <;> exact ⟨_, rfl⟩
  obtain ⟨after, split⟩ := split
  exact next?_of_take? (earlier kind) split fails took

theorem fails_of_opening {kind : Option TokenKind} (rest : List Char)
    (apart : ((earlier kind).map (·.1)).all fun earlier => !opening earlier c) :
    ∀ entry ∈ earlier kind, entry.2.take? (c :: rest) = none := by
  intro entry inside
  have outside := List.all_eq_true.mp apart entry.1 (List.mem_map_of_mem inside)
  rw [Bool.not_eq_true'] at outside
  exact begins_of_mem_lexemes (List.takeWhile_subset _ inside) (ceases_cons outside)

/-- Whether a kind of token begins with a letter or with the mark of a column. -/
def TokenKind.isWord : TokenKind → Bool
  | .function | .range | .reference | .boolean => true
  | _ => false

/-- Numbers, operators, parentheses and separators begin as nothing does that is tried before them. -/
theorem apart_of_opening (other : kind.isWord = false) (opens : kind.opening c = true) :
    ((earlier (some kind)).map (·.1)).all fun earlier => !opening earlier c := by
  cases kind with
  | number =>
    rcases Bool.or_eq_true_iff.mp opens with digit | point
    · exact of_isDigit (P := fun c => ((earlier (some .number)).map (·.1)).all
        fun earlier => !opening earlier c) (by decide +kernel) digit
    · rw [eq_of_beq point]
      decide
  | operator =>
    have each : ∀ c ∈ "-+*/^%=<>".toList, ((earlier (some .operator)).map (·.1)).all
        fun earlier => !opening earlier c := List.all_eq_true.mp (by decide)
    exact each c (List.contains_iff_mem.mp opens)
  | leftParenthesis =>
    rw [eq_of_beq opens]
    decide
  | rightParenthesis =>
    rw [eq_of_beq opens]
    decide
  | separator =>
    exact of_beq_or_beq (P := fun c => ((earlier (some .separator)).map (·.1)).all
      fun earlier => !opening earlier c) opens (by decide) (by decide)
  | function => cases other
  | range => cases other
  | reference => cases other
  | boolean => cases other

/-- Whether a name may go on with a character. -/
def inName (c : Char) : Bool := isPlainWord c || c == '.'

/-- The part of a range behind its first corner. -/
def span : Text.Lexeme := zeroOrMore isBlank ++ (char ':' ++ (zeroOrMore isBlank ++ corner))

/-- What a text may be replaced with behind a token: it starts with the same character or with a
blank, and what a lexeme looks for farther behind is not there if it was not there before. -/
structure Follows (rest other : List Char) : Prop where
  starts : Alike (fun c => !isBlank c) rest other
  scaled : exponent.take? rest = none → exponent.take? other = none
  opens : opens other = opens rest
  called : Formula.opens (other.dropWhile inName) = true → Formula.opens (rest.dropWhile inName) = true
  spans : span.take? rest = none → span.take? other = none

theorem Follows.alike {p : Char → Bool} (follows : Follows rest other)
    (solid : ∀ c, p c = true → isBlank c = false) : Alike p rest other :=
  follows.starts.mono fun c inside => by rw [solid c inside]; rfl

theorem solid_of_isDigit (digit : isDigit c = true) : isBlank c = false :=
  of_isDigit (P := fun c => isBlank c = false) (by decide +kernel) digit

theorem solid_of_isPlainWord (word : isPlainWord c = true) : isBlank c = false := by
  rw [isPlainWord, Bool.or_eq_true, Bool.or_eq_true, beq_iff_eq] at word
  rcases word with plain | rfl
  · exact of_plain (P := fun c => isPlainLetter c = true ∨ Text.isPlainDigit c = true → isBlank c = false)
      (by decide) plain plain
  · decide

theorem solid_of_inName (inside : inName c = true) : isBlank c = false :=
  of_or_beq (P := fun c => isBlank c = false) inside solid_of_isPlainWord (by decide)

/-- Before a parenthesis there are blanks only. -/
theorem ceases_of_opens {p : Char → Bool} (solid : ∀ c, p c = true → isBlank c = false)
    (closed : p '(' = false) (opens : opens rest = true) : Ceases p rest := by
  cases rest with
  | nil => exact ceases_nil
  | cons c more =>
    refine ceases_cons (Bool.eq_false_iff.mpr fun inside => ?_)
    rw [Formula.opens, List.dropWhile_cons, solid c inside, if_neg Bool.false_ne_true,
      List.head?_cons, beq_iff_eq] at opens
    rw [Option.some.inj opens] at inside
    exact absurd inside (Bool.eq_false_iff.mp closed)

/-- What begins with a blank, or is empty, follows whatever opens the same. -/
theorem Follows.of_ended (ended : Ceases (fun c => !isBlank c) other)
    (opens : Formula.opens other = Formula.opens rest)
    (spans : span.take? rest = none → span.take? other = none) : Follows rest other := by
  have ceases {p : Char → Bool} (solid : ∀ c, p c = true → isBlank c = false) : Ceases p other :=
    ended.mono fun c inside => by rw [solid c inside]; rfl
  refine ⟨.inr ended, fun _ => ?_, opens, fun called => ?_, spans⟩
  · refine begins_append begins_one (ceases fun c mark => ?_)
    exact of_beq_or_beq (P := fun c => isBlank c = false) mark (by decide) (by decide)
  · -- Where a parenthesis comes next, no name goes on before it.
    have called : Formula.opens rest = true := by
      rw [dropWhile_of_ceases (ceases fun _ => solid_of_inName)] at called
      exact opens.symm.trans called
    rw [dropWhile_of_ceases (ceases_of_opens (fun _ => solid_of_inName) (by decide) called), called]

theorem take?_span_of_head (other : (cs.dropWhile isBlank).head? ≠ some ':') : span.take? cs = none := by
  have colon : Ceases (· == ':') (cs.dropWhile isBlank) := fun c here =>
    beq_eq_false_iff_ne.mpr fun same => other (same ▸ here)
  exact take?_append_of_right (rfl : (zeroOrMore isBlank).take? cs = some (_, _))
    (take?_append_of_left (take?_one_of_ceases colon))

theorem local_plainNumber : plainNumber.Local fun c => isDigit c || c == '.' := by
  have digit (c : Char) (inside : isDigit c = true) : (isDigit c || c == '.') = true := by simp [inside]
  have point (c : Char) (inside : (c == '.') = true) : (isDigit c || c == '.') = true := by simp [inside]
  have digits := local_oneOrMore.mono digit
  have whole := local_append digits
    (local_append (local_optional_one.mono point) (local_zeroOrMore.mono digit))
  refine local_either whole (local_append local_one digits) fun taken rest other took _ _ => ?_
  -- What begins with the point begins with no digit.
  obtain ⟨c, more, rfl⟩ := List.exists_cons_of_ne_nil
    (nonempty_append_left (nonempty_one _) took)
  obtain ⟨d, here, point⟩ := (begins_append (begins_one (p := (· == '.')))).head took
  cases here
  have first : isDigit c = false := by
    rw [eq_of_beq point]
    decide
  exact begins_append (begins_append begins_one) (ceases_cons first)

theorem local_exponent : exponent.Local isDigit :=
  local_append_of_nonempty (nonempty_append_right (nonempty_oneOrMore _)) (local_one (q := isDigit))
    (local_append_of_nonempty (nonempty_oneOrMore _) local_optional_one local_oneOrMore)

theorem Follows.take?_number (follows : Follows rest other)
    (took : number.take? (taken ++ rest) = some (taken, rest)) :
    number.take? (taken ++ other) = some (taken, other) := by
  have digit (c : Char) : isDigit c = true → isBlank c = false := solid_of_isDigit
  have numeral (c : Char) (inside : (isDigit c || c == '.') = true) : isBlank c = false :=
    of_or_beq (P := fun c => isBlank c = false) inside (digit c) (by decide)
  obtain ⟨plain, scale, rfl, front, back⟩ := exists_append_of_take?_append took
  rw [List.append_assoc]
  refine take?_append (local_plainNumber front (follows.alike numeral).append) ?_
  rcases take?_of_take?_optional back with there | ⟨none, rfl, _⟩
  · exact take?_optional (local_exponent there (follows.alike digit))
  · exact take?_optional_of_none (follows.scaled none)

theorem fails_pair {p q r : Char → Bool} {more : List Char} (alike : Alike r rest other)
    (le : ∀ c, q c = true → r c = true)
    (fails : (Text.Lexeme.one p ++ Text.Lexeme.one q).take? (c :: (more ++ rest)) = none) :
    (Text.Lexeme.one p ++ Text.Lexeme.one q).take? (c :: (more ++ other)) = none := by
  cases first : p c with
  | false => exact take?_append_of_left (take?_one_of_ceases (ceases_cons first))
  | true =>
    have second : (Text.Lexeme.one q).take? (more ++ rest) = none :=
      Option.eq_none_iff_forall_ne_some.mpr fun found fits =>
        nomatch fails.symm.trans (take?_append (take?_one first) fits)
    exact take?_append_of_right (take?_one first)
      (take?_one_of_ceases (alike.append.ceases (ceases_of_take?_one second) le))

theorem local_operator : operator.Local fun c => c == '=' || c == '>' := by
  have pair (p q : Char → Bool) :
      (Text.Lexeme.one p ++ Text.Lexeme.one q).Local fun c => c == '=' || c == '>' :=
    local_append local_one local_one
  refine local_either (pair _ _) (local_either (pair _ _) local_one ?_) ?_
  · intro taken rest other took fails alike
    obtain ⟨c, more, rfl⟩ := List.exists_cons_of_ne_nil (nonempty_one _ took)
    exact fails_pair alike (fun c same => by rw [eq_of_beq same]; rfl) fails
  · intro taken rest other took fails alike
    obtain ⟨c, more, rfl⟩ := List.exists_cons_of_ne_nil
      (nonempty_either (nonempty_append_left (nonempty_one _)) (nonempty_one _) took)
    exact fails_pair alike (fun c => id) fails

theorem endsWord_iff : endsWord rest = true ↔ Ceases isPlainWord rest := by
  cases rest with
  | nil => exact ⟨fun _ => ceases_nil, fun _ => rfl⟩
  | cons c more =>
    rw [endsWord, Bool.not_eq_true']
    exact ⟨ceases_cons, fun ceases => ceases c rfl⟩

theorem local_boolean : boolean.Local isPlainWord := by
  have still ⦃rest other : List Char⦄ (ends : endsWord rest = true)
      (alike : Alike isPlainWord rest other) : endsWord other = true :=
    endsWord_iff.mpr (alike.ceases (endsWord_iff.mp ends) fun _ => id)
  have whole (first : Char) (others : String) : (word first others).Local isPlainWord :=
    local_before (local_append local_one (local_word _)) still
  refine local_either (whole _ _) (whole _ _) fun taken rest other took _ _ => ?_
  -- A word has one first letter.
  obtain ⟨front, _⟩ := of_take?_before took
  obtain ⟨before, after, rfl, first, _⟩ := exists_append_of_take?_append front
  obtain ⟨c, letter, rfl⟩ := exists_of_take?_one first
  have apart : isLetter 'T' c = false := by
    rw [isLetter, eq_of_beq letter]
    decide
  exact begins_before (begins_append begins_one) (ceases_cons apart)

/-- A truth value is three plain letters and some more characters, none of them a digit or a mark. -/
theorem letters_of_take?_boolean (took : boolean.take? cs = some (taken, rest)) :
    (∀ c ∈ taken, isBlank c = false) ∧ ∃ letters d more, taken = letters ++ d :: more ∧
      letters.length = 3 ∧ (∀ c ∈ letters, isPlainLetter c = true) ∧ isDigit d = false ∧ d ≠ '$' := by
  have word {first : Char} {others : String} (took : (word first others).take? cs = some (taken, rest)) :
      ∃ c after middle, taken = c :: after ∧ isLetter first c = true ∧
        (Text.Lexeme.word (others.toList.map isLetter)).take? middle = some (after, rest) := by
    obtain ⟨_, middle, after, front, back, rfl⟩ := exists_of_take?_append (of_take?_before took).1
    obtain ⟨c, inside, rfl⟩ := exists_of_take?_one front
    exact ⟨c, after, middle, rfl, inside, back⟩
  have last {after middle : List Char} (took : (Text.Lexeme.word []).take? middle = some (after, rest)) :
      after = [] := by
    cases took
    rfl
  rcases take?_or_of_take?_either took with truth | falsity
  · obtain ⟨t, _, _, rfl, isT, took⟩ := word truth
    obtain ⟨r, _, _, rfl, isR, took⟩ := exists_cons_of_take?_word took
    obtain ⟨u, _, _, rfl, isU, took⟩ := exists_cons_of_take?_word took
    obtain ⟨e, _, _, rfl, isE, took⟩ := exists_cons_of_take?_word took
    obtain rfl := last took
    have solid := solid_of_isLetter (c := e) (by decide) isE
    refine ⟨?_, [t, r, u], e, [], rfl, rfl, ?_, solid.2⟩
    · simp [solid.1, (solid_of_isLetter (by decide) isT).1, (solid_of_isLetter (by decide) isR).1,
        (solid_of_isLetter (by decide) isU).1]
    · simp [plain_of_isLetter (by decide) isT, plain_of_isLetter (by decide) isR,
        plain_of_isLetter (by decide) isU]
  · obtain ⟨f, _, _, rfl, isF, took⟩ := word falsity
    obtain ⟨a, _, _, rfl, isA, took⟩ := exists_cons_of_take?_word took
    obtain ⟨l, _, _, rfl, isL, took⟩ := exists_cons_of_take?_word took
    obtain ⟨s, _, _, rfl, isS, took⟩ := exists_cons_of_take?_word took
    obtain ⟨e, _, _, rfl, isE, took⟩ := exists_cons_of_take?_word took
    obtain rfl := last took
    have solid := solid_of_isLetter (c := s) (by decide) isS
    refine ⟨?_, [f, a, l], s, [e], rfl, rfl, ?_, solid.2⟩
    · simp [solid.1, (solid_of_isLetter (by decide) isF).1, (solid_of_isLetter (by decide) isA).1,
        (solid_of_isLetter (by decide) isL).1, (solid_of_isLetter (by decide) isE).1]
    · simp [plain_of_isLetter (by decide) isF, plain_of_isLetter (by decide) isA,
        plain_of_isLetter (by decide) isL]

/-- A column has no more than three letters, so no row begins behind more. -/
theorem take?_column_of_letters {letters more : List Char} {d : Char} (three : letters.length = 3)
    (plain : ∀ c ∈ letters, isPlainLetter c = true) (unmarked : d ≠ '$') :
    column.take? (letters ++ d :: more) = some (letters, d :: more) := by
  obtain ⟨a, b, c, rfl⟩ := List.length_eq_three.mp three
  have first : Ceases (· == '$') (a :: b :: c :: d :: more) :=
    ceases_cons (of_plain (P := fun c => isPlainLetter c = true → (c == '$') = false) (by decide)
      (.inl (plain a (by simp))) (plain a (by simp)))
  have behind : Ceases (· == '$') (d :: more) := ceases_cons (by simp [unmarked])
  have one {e : Char} (inside : e ∈ [a, b, c]) (rest : List Char) :
      (Text.Lexeme.one isPlainLetter).take? (e :: rest) = some ([e], rest) := take?_one (plain e inside)
  have middle : (oneAndUpTo isPlainLetter 2).take? (a :: b :: c :: d :: more)
      = some ([a, b, c], d :: more) :=
    take?_append (one (by simp) _) (take?_optional (take?_append (one (by simp) _)
      (take?_optional (one (by simp) _))))
  exact take?_append (take?_optional_char first) (take?_append middle (take?_optional_char behind))

theorem Follows.opens_dropWhile (follows : Follows rest other) (solid : ∀ c ∈ cs, isBlank c = false)
    (closed : Formula.opens ((cs ++ rest).dropWhile inName) = false) :
    Formula.opens ((cs ++ other).dropWhile inName) = false := by
  induction cs with
  | nil =>
    exact Bool.eq_false_iff.mpr fun called => Bool.eq_false_iff.mp closed (follows.called called)
  | cons c more ih =>
    rw [List.cons_append, List.dropWhile_cons] at closed ⊢
    split
    · next inside =>
      rw [if_pos inside] at closed
      exact ih (fun d within => solid d (List.mem_cons_of_mem _ within)) closed
    · next outside =>
      rw [if_neg outside] at closed
      simpa [Formula.opens, solid c List.mem_cons_self] using closed

theorem Follows.take?_functionName (follows : Follows rest other) (some : taken ≠ [])
    (solid : ∀ c ∈ taken, isBlank c = false) (fails : functionName.take? (taken ++ rest) = none) :
    functionName.take? (taken ++ other) = none := by
  obtain ⟨c, more, rfl⟩ := List.exists_cons_of_ne_nil some
  have name (cs : List Char) (first : (isPlainLetter c || c == '_') = true) :
      name.take? (c :: cs) = Option.some (c :: cs.takeWhile inName, cs.dropWhile inName) :=
    take?_append (take?_one first) rfl
  cases first : isPlainLetter c || c == '_' with
  | false => exact begins_before (begins_append begins_one) (ceases_cons first)
  | true =>
    refine take?_before_of_not (name (more ++ other) first) ?_
    refine follows.opens_dropWhile (fun d inside => solid d (List.mem_cons_of_mem _ inside)) ?_
    exact Bool.eq_false_iff.mpr fun called => nomatch fails.symm.trans
      (take?_before (name (more ++ rest) first) called)

theorem referenceText_of_take?_column {digits middle : List Char}
    (took : column.take? cs = some (taken, middle)) (some : digits ≠ [])
    (all : ∀ c ∈ digits, isDigit c = true) : ReferenceText (taken ++ digits) := by
  have mark {cs taken rest : List Char}
      (took : (optional (char '$')).take? cs = Option.some (taken, rest)) : taken = [] ∨ taken = ['$'] := by
    rcases eq_nil_or_of_take?_optional took with none | there
    · exact .inl none
    · exact .inr (eq_of_take?_char there)
  obtain ⟨fixColumn, _, _, first, back, rfl⟩ := exists_of_take?_append took
  obtain ⟨letters, _, fixRow, middle, last, rfl⟩ := exists_of_take?_append back
  rw [← List.append_assoc]
  exact .intro (mark first) (nonempty_oneAndUpTo _ 2 middle) (length_le_of_take?_oneAndUpTo middle)
    (within_oneAndUpTo (fun _ => id) 2 middle) (mark last) some all

theorem referenceText_of_take?_corner (took : corner.take? cs = some (taken, rest)) :
    ReferenceText taken ∧ Ceases isDigit rest := by
  obtain ⟨front, middle, digits, column, row, rfl⟩ := exists_of_take?_append took
  obtain ⟨some, all⟩ := digits_of_take?_oneOrMore row
  exact ⟨referenceText_of_take?_column column some all, ceases_of_take?_oneOrMore row⟩

/-- A range as it is written: two references with a colon and perhaps blanks between them. -/
structure WrittenRange where
  first : List Char
  /-- The blanks before the colon. -/
  before : List Char
  /-- The blanks behind the colon. -/
  behind : List Char
  last : List Char
  start : ReferenceText first
  blank : ∀ c ∈ before ++ behind, isBlank c = true
  stop : ReferenceText last

def WrittenRange.text (range : WrittenRange) : List Char :=
  range.first ++ (range.before ++ ':' :: (range.behind ++ range.last))

theorem exists_written_of_take?_range (took : range.take? cs = some (taken, rest)) :
    Ceases isDigit rest ∧ ∃ written : WrittenRange, written.text = taken := by
  obtain ⟨first, _, _, front, gap, rfl⟩ := exists_of_take?_append took
  obtain ⟨before, _, _, left, middle, rfl⟩ := exists_of_take?_append gap
  obtain ⟨colon, _, _, mark, back, rfl⟩ := exists_of_take?_append middle
  obtain ⟨behind, _, last, right, final, rfl⟩ := exists_of_take?_append back
  obtain rfl := eq_of_take?_char mark
  obtain ⟨stop, ceases⟩ := referenceText_of_take?_corner final
  have blank : ∀ c ∈ before ++ behind, isBlank c = true := List.forall_mem_append.mpr
    ⟨within_zeroOrMore (fun _ => id) left, within_zeroOrMore (fun _ => id) right⟩
  exact ⟨ceases, ⟨first, before, behind, last, (referenceText_of_take?_corner front).1, blank, stop⟩, rfl⟩

theorem ceases_of_blank {p : Char → Bool} (blank : ∀ c ∈ cs, isBlank c = true)
    (solid : ∀ c, p c = true → isBlank c = false) (ceases : Ceases p rest) : Ceases p (cs ++ rest) := by
  cases cs with
  | nil => exact ceases
  | cons c more =>
    refine ceases_cons (Bool.eq_false_iff.mpr fun inside => ?_)
    exact absurd (blank c List.mem_cons_self) (Bool.eq_false_iff.mp (solid c inside))

theorem opens_blank (blank : ∀ c ∈ cs, isBlank c = true) (rest : List Char) :
    opens (cs ++ rest) = opens rest := by
  rw [opens, opens, List.dropWhile_append_of_pos blank]

/-- A range is the next token wherever it is written, if no digit follows. -/
theorem WrittenRange.next? (written : WrittenRange) (ceases : Ceases isDigit rest) :
    next? (written.text ++ rest) = some (some .range, written.text, rest) := by
  obtain ⟨first, before, behind, last, start, blank, stop⟩ := written
  obtain ⟨blankBefore, blankBehind⟩ := List.forall_mem_append.mp blank
  let tail := behind ++ (last ++ rest)
  have digits : Ceases isDigit (before ++ ':' :: tail) :=
    ceases_of_blank blankBefore (fun _ => solid_of_isDigit) (ceases_cons (by decide))
  have colon : Ceases isBlank (':' :: tail) := ceases_cons (by decide)
  have named : Ceases inName (before ++ ':' :: tail) :=
    ceases_of_blank blankBefore (fun _ => solid_of_inName) (ceases_cons (by decide))
  have here : range.take? (first ++ (before ++ ':' :: tail))
      = some (first ++ (before ++ (':' :: (behind ++ last))), rest) :=
    take?_append (start.take?_corner digits) (take?_append (take?_zeroOrMore blankBefore colon)
      (take?_append (take?_one (by decide)) (take?_append
        (take?_zeroOrMore blankBehind (stop.ceases rest)) (stop.take?_corner ceases))))
  have closed : opens (before ++ ':' :: tail) = false := by
    rw [opens_blank blankBefore]
    rfl
  have text : first ++ (before ++ ':' :: (behind ++ last)) ++ rest = first ++ (before ++ ':' :: tail) := by
    simp [tail]
  rw [WrittenRange.text, text]
  refine next?_of_earlier (by simp [lexemes]) ?_ here
  rintro entry (_ | ⟨_, _ | ⟨_, ⟨⟩⟩⟩)
  · exact take?_oneOrMore_of_ceases (start.ceases _)
  · exact start.take?_functionName named closed

theorem referenceText_of_take?_reference (took : reference.take? cs = some (taken, rest)) :
    ReferenceText taken ∧ Ceases isPlainWord rest := by
  obtain ⟨front, middle, digits, column, row, rfl⟩ := exists_of_take?_append took
  exact ⟨referenceText_of_take?_column column (nonempty_oneOrMoreBefore _ _ row)
    (within_oneOrMoreBefore (fun _ => id) row), endsWord_iff.mp (ends_of_take?_oneOrMoreBefore row)⟩

theorem ReferenceText.take?_reference (text : ReferenceText cs) (ceases : Ceases isDigit rest)
    (ends : Ceases isPlainWord rest) : reference.take? (cs ++ rest) = some (cs, rest) := by
  obtain ⟨front, digits, rfl, column, some, all⟩ := text.take?_column rest
  exact take?_append column (take?_oneOrMoreBefore some all ceases (endsWord_iff.mpr ends))

/-- A reference that is no corner of a range is not followed by the rest of one. -/
theorem ReferenceText.take?_span (text : ReferenceText taken)
    (fails : range.take? (taken ++ rest) = none) : span.take? rest = none := by
  cases rest with
  | nil => rfl
  | cons c more =>
    cases digit : isDigit c with
    | false =>
      have start : corner.take? (taken ++ c :: more) = some (taken, c :: more) :=
        text.take?_corner (ceases_cons digit)
      refine Option.eq_none_iff_forall_ne_some.mpr fun found fits => ?_
      have whole : range.take? (taken ++ c :: more) = some (_, _) := take?_append start fits
      exact nomatch fails.symm.trans whole
    | true =>
      have colon : (c == ':') = false :=
        of_isDigit (P := fun c => (c == ':') = false) (by decide +kernel) digit
      exact take?_append_of_right
        (take?_zeroOrMore_of_ceases (ceases_cons (solid_of_isDigit digit)))
        (take?_append_of_left (take?_one_of_ceases (ceases_cons colon)))

theorem Follows.next?_reference (follows : Follows rest other) (ceases : Ceases isDigit other)
    (found : next? (taken ++ rest) = some (some .reference, taken, rest)) :
    Formula.next? (taken ++ other) = some (some .reference, taken, other) := by
  obtain ⟨lexeme, listed, took⟩ := mem_of_next? found
  obtain rfl : lexeme = reference := by simpa [lexemes] using listed
  have fails := fails_of_next? found
  obtain ⟨text, ends⟩ := referenceText_of_take?_reference took
  have endsToo : Ceases isPlainWord other :=
    (follows.alike fun _ => solid_of_isPlainWord).ceases ends fun _ => id
  refine next?_of_earlier listed ?_ (text.take?_reference ceases endsToo)
  rintro entry (_ | ⟨_, _ | ⟨_, _ | ⟨_, ⟨⟩⟩⟩⟩)
  · exact take?_oneOrMore_of_ceases (text.ceases other)
  · exact follows.take?_functionName text.ne_nil (fun c inside => (text.apart c inside).1)
      (fails (some .function, functionName) (.tail _ (.head _)))
  · exact take?_append_of_right (text.take?_corner ceases)
      (follows.spans (text.take?_span (fails (some .range, range) (.tail _ (.tail _ (.head _))))))

theorem Follows.next?_boolean (follows : Follows rest other)
    (found : next? (taken ++ rest) = some (some .boolean, taken, rest)) :
    Formula.next? (taken ++ other) = some (some .boolean, taken, other) := by
  obtain ⟨lexeme, listed, took⟩ := mem_of_next? found
  obtain rfl : lexeme = boolean := by simpa [lexemes] using listed
  have fails := fails_of_next? found
  refine next?_of_earlier listed ?_ (local_boolean took (follows.alike fun _ => solid_of_isPlainWord))
  obtain ⟨solid, letters, d, more, rfl, three, plain, undigited, unmarked⟩ := letters_of_take?_boolean took
  -- A column would take three of the letters, and no row begins with the next one.
  have column : column.take? (letters ++ d :: more ++ other) = some (letters, d :: (more ++ other)) := by
    rw [List.append_assoc]
    exact take?_column_of_letters three plain unmarked
  have noRow : Ceases isDigit (d :: (more ++ other)) := ceases_cons undigited
  obtain ⟨c, others, rfl⟩ := List.exists_cons_of_ne_nil (List.ne_nil_of_length_eq_add_one three)
  have noNumber : (TokenKind.number.opening c) = false :=
    of_plain (P := fun c => isPlainLetter c = true → TokenKind.number.opening c = false) (by decide)
      (.inl (plain c List.mem_cons_self)) (plain c List.mem_cons_self)
  rintro entry (_ | ⟨_, _ | ⟨_, _ | ⟨_, _ | ⟨_, _ | ⟨_, ⟨⟩⟩⟩⟩⟩⟩)
  · exact take?_oneOrMore_of_ceases (ceases_cons (solid c List.mem_cons_self))
  · exact follows.take?_functionName (List.cons_ne_nil _ _) solid
      (fails (some .function, functionName) (.tail _ (.head _)))
  · exact take?_append_of_left (take?_append_of_right column (take?_oneOrMore_of_ceases noRow))
  · exact take?_append_of_right column (begins_oneOrMoreBefore noRow)
  · have listed : (some .number, number) ∈ lexemes := by simp [lexemes]
    exact begins_of_mem_lexemes listed (ceases_cons noNumber)

theorem Follows.next?_function (follows : Follows rest other)
    (found : next? (taken ++ rest) = some (some .function, taken, rest)) :
    Formula.next? (taken ++ other) = some (some .function, taken, other) := by
  obtain ⟨lexeme, listed, took⟩ := mem_of_next? found
  obtain rfl : lexeme = functionName := by simpa [lexemes] using listed
  obtain ⟨front, holds⟩ := of_take?_before took
  have near : name.Local inName := local_append local_one local_zeroOrMore
  have here : name.take? (taken ++ other) = _ := near front (follows.alike fun _ => solid_of_inName)
  refine next?_of_earlier listed ?_ (take?_before here (follows.opens.trans holds))
  obtain ⟨c, others, rfl, first⟩ := head_of_next? found
  rintro entry (_ | ⟨_, ⟨⟩⟩)
  refine take?_oneOrMore_of_ceases (ceases_cons ?_)
  exact of_or_beq (P := fun c => isBlank c = false) first
    (fun letter => solid_of_isPlainWord (by simp [isPlainWord, letter])) (by decide)

/-- A token stays the next one when what follows it is replaced, but a reference must not go on with a
digit then. -/
theorem Follows.next? (follows : Follows rest other)
    (whole : kind = .reference → Ceases isDigit other)
    (found : next? (taken ++ rest) = some (some kind, taken, rest)) :
    Formula.next? (taken ++ other) = some (some kind, taken, other) := by
  obtain ⟨lexeme, listed, took⟩ := mem_of_next? found
  obtain ⟨c, others, rfl, opens⟩ := head_of_next? found
  -- Where nothing that is tried earlier can begin, only the lexeme itself is of interest.
  have alone (plain : kind.isWord = false)
      (here : lexeme.take? (c :: others ++ other) = some (c :: others, other)) :
      Formula.next? (c :: others ++ other) = some (some kind, c :: others, other) :=
    next?_of_earlier listed (fails_of_opening _ (apart_of_opening plain opens)) here
  have single {p : Char → Bool} :
      (Text.Lexeme.one p).take? (c :: others ++ rest) = some (c :: others, rest) →
      (Text.Lexeme.one p).take? (c :: others ++ other) = some (c :: others, other) :=
    fun took => local_one took follows.starts
  cases kind with
  | number =>
    obtain rfl : lexeme = number := by simpa [lexemes] using listed
    exact alone rfl (follows.take?_number took)
  | reference => exact follows.next?_reference (whole rfl) found
  | range =>
    obtain rfl : lexeme = range := by simpa [lexemes] using listed
    obtain ⟨ceases, written, text⟩ := exists_written_of_take?_range took
    rw [← text]
    exact written.next? ((follows.alike fun _ => solid_of_isDigit).ceases ceases fun _ => id)
  | function => exact follows.next?_function found
  | boolean => exact follows.next?_boolean found
  | operator =>
    obtain rfl : lexeme = operator := by simpa [lexemes] using listed
    refine alone rfl (local_operator took (follows.alike fun c sign => ?_))
    exact of_beq_or_beq (P := fun c => isBlank c = false) sign (by decide) (by decide)
  | leftParenthesis =>
    obtain rfl : lexeme = char '(' := by simpa [lexemes] using listed
    exact alone rfl (single took)
  | rightParenthesis =>
    obtain rfl : lexeme = char ')' := by simpa [lexemes] using listed
    exact alone rfl (single took)
  | separator =>
    obtain rfl : lexeme = separator := by simpa [lexemes] using listed
    exact alone rfl (single took)

end
end SheetPricing.Formula
