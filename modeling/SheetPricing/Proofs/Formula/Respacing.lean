import SheetPricing.Proofs.Formula.Following

/-! Texts with other blanks. Between two tokens there may be blanks or none, and where there are some
there may be others. Behind a token the one text may follow instead of the other. -/
namespace SheetPricing.Formula
open Text (isBlank isDigit isPlainLetter isPlainWord)
open Text.Lexeme

/-- Blanks in place of other blanks, at least one where there was one. -/
structure Widens (gap other : List Char) : Prop where
  blank : ∀ c ∈ gap, isBlank c = true
  blankToo : ∀ c ∈ other, isBlank c = true
  some : other = [] → gap = []

/-- The same range with other blanks by its colon; only blanks of a class are put in or left out. -/
structure WrittenRange.Respaces (free : Char → Bool) (written other : WrittenRange) : Prop where
  first : other.first = written.first
  last : other.last = written.last
  before : other.before.filter (!free ·) = written.before.filter (!free ·)
  behind : other.behind.filter (!free ·) = written.behind.filter (!free ·)

/-- The same text with other blanks before its tokens and behind them. By the colon of a range only
blanks of a class are put in or left out. -/
inductive Respaced (free : Char → Bool) : List Char → List Char → Prop
  | stop {gap other cs} (blanks : Widens gap other) (ends : next? cs = none) :
      Respaced free (gap ++ cs) (other ++ cs)
  | token {gap other taken rest more kind} (blanks : Widens gap other) (plain : kind ≠ .range)
      (found : next? (taken ++ rest) = some (some kind, taken, rest))
      (behind : Respaced free rest more) :
      Respaced free (gap ++ (taken ++ rest)) (other ++ (taken ++ more))
  | range {gap other rest more written twin} (blanks : Widens gap other)
      (range : WrittenRange.Respaces free written twin) (ends : Ceases isDigit rest)
      (behind : Respaced free rest more) :
      Respaced free (gap ++ (written.text ++ rest)) (other ++ (twin.text ++ more))

section
variable {free : Char → Bool} {cs ds gap other taken rest more : List Char} {c : Char} {kind : TokenKind}

theorem Widens.append {behind more : List Char} (front : Widens gap other) (back : Widens behind more) :
    Widens (gap ++ behind) (other ++ more) where
  blank := List.forall_mem_append.mpr ⟨front.blank, back.blank⟩
  blankToo := List.forall_mem_append.mpr ⟨front.blankToo, back.blankToo⟩
  some empty := by
    obtain ⟨none, noneToo⟩ := List.append_eq_nil_iff.mp empty
    rw [front.some none, back.some noneToo, List.append_nil]

theorem Respaced.of_gap (respaced : Respaced free rest more) (blanks : Widens gap other) :
    Respaced free (gap ++ rest) (other ++ more) := by
  cases respaced with
  | stop behind ends =>
    simpa only [List.append_assoc] using Respaced.stop (blanks.append behind) ends
  | token behind plain found rest =>
    simpa only [List.append_assoc] using Respaced.token (blanks.append behind) plain found rest
  | range behind range ends rest =>
    simpa only [List.append_assoc] using Respaced.range (blanks.append behind) range ends rest

theorem Respaced.refl (cs : List Char) : Respaced free cs cs := by
  have none : Widens [] [] := ⟨nofun, nofun, fun _ => rfl⟩
  induction (0 : Nat), cs using scan.induct with
  | case1 _ cs empty =>
    obtain rfl := List.isEmpty_iff.mp empty
    exact .stop none rfl
  | case2 _ cs filled fails => exact .stop none fails
  | case3 _ cs filled taken rest found ih =>
    have blank := blank_of_next? found
    rw [splits_of_next? found]
    exact ih.of_gap ⟨blank, blank, id⟩
  | case4 _ cs filled kind taken rest found ih =>
    obtain rfl := splits_of_next? found
    by_cases plain : kind = .range
    · obtain ⟨lexeme, listed, took⟩ := mem_of_next? found
      obtain rfl : lexeme = Formula.range := by simpa [lexemes, plain] using listed
      obtain ⟨ceases, written, rfl⟩ := exists_written_of_take?_range took
      exact .range none ⟨rfl, rfl, rfl, rfl⟩ ceases ih
    · exact .token none plain found ih

theorem Follows.refl (cs : List Char) : Follows cs cs := ⟨.inl rfl, id, rfl, id, id⟩

theorem take?_span_blank (blank : ∀ c ∈ gap, isBlank c = true) (rest : List Char) :
    span.take? (gap ++ rest) = none ↔ span.take? rest = none := by
  have fails (cs : List Char) : span.take? cs = none ↔
      (char ':' ++ (zeroOrMore isBlank ++ corner)).take? (cs.dropWhile isBlank) = none := by
    constructor
    · intro fails
      exact Option.eq_none_iff_forall_ne_some.mpr fun found fits =>
        nomatch fails.symm.trans (take?_append (rfl : (zeroOrMore isBlank).take? cs = some (_, _)) fits)
    · exact take?_append_of_right (rfl : (zeroOrMore isBlank).take? cs = some (_, _))
  rw [fails, fails, List.dropWhile_append_of_pos blank]

theorem Follows.of_gap (follows : Follows rest more) (blanks : Widens gap other) :
    Follows (gap ++ rest) (other ++ more) := by
  cases other with
  | nil =>
    rw [blanks.some rfl]
    exact follows
  | cons c others =>
    refine .of_ended (ceases_cons ?_) ?_ fun fails => ?_
    · rw [blanks.blankToo c List.mem_cons_self]
      rfl
    · rw [opens_blank blanks.blankToo, opens_blank blanks.blank, follows.opens]
    · exact (take?_span_blank blanks.blankToo more).mpr
        (follows.spans ((take?_span_blank blanks.blank rest).mp fails))

theorem within_number : number.Within (!isBlank ·) := by
  have solid {p : Char → Bool} (apart : ∀ c, p c = true → isBlank c = false) :
      ∀ c, p c = true → (!isBlank c) = true := fun c inside => by rw [apart c inside]; rfl
  have point : ∀ c, (c == '.') = true → (!isBlank c) = true := fun c same => by
    rw [eq_of_beq same]
    decide
  have digit := solid fun _ => solid_of_isDigit
  have mark : ∀ c, (c == 'e' || c == 'E') = true → (!isBlank c) = true := fun c either =>
    of_beq_or_beq (P := fun c => (!isBlank c) = true) either (by decide) (by decide)
  have sign : ∀ c, (c == '+' || c == '-') = true → (!isBlank c) = true := fun c either =>
    of_beq_or_beq (P := fun c => (!isBlank c) = true) either (by decide) (by decide)
  refine within_append (within_either ?_ ?_) (within_optional ?_)
  · exact within_append (within_oneOrMore digit)
      (within_append (within_optional (within_one point)) (within_zeroOrMore digit))
  · exact within_append (within_one point) (within_oneOrMore digit)
  · exact within_append (within_one mark)
      (within_append (within_optional (within_one sign)) (within_oneOrMore digit))

theorem within_name : name.Within inName := by
  refine within_append (within_one fun c first => ?_) (within_zeroOrMore fun _ => id)
  exact of_or_beq (P := fun c => inName c = true) first
    (fun letter => by simp [inName, isPlainWord, letter]) (by decide)

/-- A token that may go on a name has no blanks in it, but for a range. -/
theorem solid_of_token (found : next? (c :: cs) = some (some kind, taken, rest)) (plain : kind ≠ .range)
    (named : inName c = true) : ∀ c ∈ taken, isBlank c = false := by
  obtain ⟨lexeme, listed, took⟩ := mem_of_next? found
  obtain ⟨d, others, rfl, opens⟩ := head_of_next? found
  obtain ⟨rfl, -⟩ := List.cons.inj (splits_of_next? found)
  cases kind with
  | number =>
    obtain rfl : lexeme = number := by simpa [lexemes] using listed
    exact fun c inside => (Bool.not_eq_true' _).mp (within_number took c inside)
  | reference =>
    obtain rfl : lexeme = reference := by simpa [lexemes] using listed
    exact fun c inside => ((referenceText_of_take?_reference took).1.apart c inside).1
  | range => exact absurd rfl plain
  | function =>
    obtain rfl : lexeme = functionName := by simpa [lexemes] using listed
    exact fun c inside => solid_of_inName (within_name (of_take?_before took).1 c inside)
  | boolean =>
    obtain rfl : lexeme = boolean := by simpa [lexemes] using listed
    exact (letters_of_take?_boolean took).1
  | operator =>
    have apart : ∀ c ∈ "-+*/^%=<>".toList, inName c = false := eq_false_of_any (by decide)
    exact absurd named (Bool.eq_false_iff.mp (apart c (List.contains_iff_mem.mp opens)))
  | leftParenthesis =>
    rw [eq_of_beq opens] at named
    exact absurd named (by decide)
  | rightParenthesis =>
    rw [eq_of_beq opens] at named
    exact absurd named (by decide)
  | separator =>
    have apart : inName c = false :=
      of_beq_or_beq (P := fun c => inName c = false) opens (by decide) (by decide)
    exact absurd named (Bool.eq_false_iff.mp apart)

theorem Follows.called_of_token (follows : Follows rest more) (plain : kind ≠ .range)
    (found : Formula.next? (taken ++ rest) = some (some kind, taken, rest))
    (called : Formula.opens ((taken ++ more).dropWhile inName) = true) :
    Formula.opens ((taken ++ rest).dropWhile inName) = true := by
  obtain ⟨c, others, rfl, _⟩ := head_of_next? found
  have solid := solid_of_next? found
  cases named : inName c with
  | false =>
    rw [List.cons_append, List.dropWhile_cons_of_neg (Bool.eq_false_iff.mp named)] at called ⊢
    simpa [Formula.opens, solid] using called
  | true =>
    refine (Bool.not_eq_false _).mp fun closed => ?_
    have closed := follows.opens_dropWhile (solid_of_token found plain named) closed
    exact absurd called (Bool.eq_false_iff.mp closed)

theorem begins_exponent : exponent.Begins fun c => c == 'e' || c == 'E' := begins_append begins_one

/-- Behind its mark an exponent has a digit or a sign. -/
theorem take?_exponent_cons (apart : Ceases (fun c => (c == '+' || c == '-') || isDigit c) rest) :
    exponent.take? (c :: rest) = none := by
  cases mark : c == 'e' || c == 'E' with
  | false => exact begins_exponent (ceases_cons mark)
  | true =>
    refine take?_append_of_right (take?_one mark) ?_
    exact begins_optional_append begins_one (begins_append begins_one) apart

theorem ceases_of_take?_exponent {d : Char} (mark : (c == 'e' || c == 'E') = true)
    (signless : (d == '+' || d == '-') = false) (fails : exponent.take? (c :: d :: rest) = none) :
    isDigit d = false := by
  refine Bool.eq_false_iff.mpr fun digit => ?_
  have digits : (oneOrMore isDigit).take? (d :: rest) = some (_, _) := take?_append (take?_one digit) rfl
  have unsigned : (optional (Text.Lexeme.one fun c => c == '+' || c == '-')).take? (d :: rest)
      = some ([], d :: rest) := take?_optional_of_none (take?_one_of_ceases (ceases_cons signless))
  exact nomatch fails.symm.trans (take?_append (take?_one mark) (take?_append unsigned digits))

/-- Whether an exponent stands first is decided by two characters, if the second is no sign. -/
theorem take?_exponent_append {front : List Char} {d : Char} (signless : (d == '+' || d == '-') = false)
    (fails : exponent.take? (c :: d :: front ++ rest) = none) :
    exponent.take? (c :: d :: front ++ more) = none := by
  cases mark : c == 'e' || c == 'E' with
  | false => exact begins_exponent (ceases_cons mark)
  | true =>
    have digit := ceases_of_take?_exponent mark signless fails
    exact take?_exponent_cons (ceases_cons (by simp only [signless, digit, Bool.or_self]))

theorem signless_of_inName (named : inName c = true) : (c == '+' || c == '-') = false := by
  refine Bool.eq_false_iff.mpr fun sign => ?_
  have apart : inName c = false :=
    of_beq_or_beq (P := fun c => inName c = false) sign (by decide) (by decide)
  exact absurd named (Bool.eq_false_iff.mp apart)

theorem ReferenceText.exists_cons_cons (text : ReferenceText cs) :
    ∃ c d front, cs = c :: d :: front ∧ (d == '+' || d == '-') = false := by
  have signless := text.forall_mem (P := fun c => (c == '+' || c == '-') = false) (by decide)
    (by decide) (by decide +kernel)
  have long : 2 ≤ cs.length := by
    obtain ⟨columnMark, any, few, plain, rowMark, some, numbered⟩ := text
    have := List.length_pos_iff.mpr any
    have := List.length_pos_iff.mpr some
    simp only [List.length_append]
    omega
  obtain ⟨c, d, front, rfl⟩ : ∃ c d front, cs = c :: d :: front := by
    match cs, long with
    | c :: d :: front, _ => exact ⟨c, d, front, rfl⟩
  exact ⟨c, d, front, rfl, signless d (by simp)⟩

theorem Follows.scaled_of_token (follows : Follows rest more) (plain : kind ≠ .range)
    (found : Formula.next? (taken ++ rest) = some (some kind, taken, rest))
    (fails : exponent.take? (taken ++ rest) = none) : exponent.take? (taken ++ more) = none := by
  obtain ⟨lexeme, listed, took⟩ := mem_of_next? found
  obtain ⟨c, others, rfl, opens⟩ := head_of_next? found
  cases mark : c == 'e' || c == 'E' with
  | false => exact begins_exponent (ceases_cons mark)
  | true =>
    -- Of the tokens only names and references can begin with the mark of an exponent.
    have none (apart : ['e', 'E'].any kind.opening = false) :
        exponent.take? (c :: others ++ more) = none := by
      have listed : c ∈ ['e', 'E'] := by simpa using mark
      exact absurd opens (Bool.eq_false_iff.mp (eq_false_of_any apart c listed))
    cases kind with
    | function =>
      obtain rfl : lexeme = functionName := by simpa [lexemes] using listed
      obtain ⟨named, called⟩ := of_take?_before took
      cases others with
      | nil =>
        refine take?_exponent_cons (ceases_of_opens (fun c inside => ?_) (by decide)
          (follows.opens.trans called))
        rcases Bool.or_eq_true_iff.mp inside with sign | digit
        · exact of_beq_or_beq (P := fun c => isBlank c = false) sign (by decide) (by decide)
        · exact solid_of_isDigit digit
      | cons d front =>
        exact take?_exponent_append (signless_of_inName (within_name named d (by simp))) fails
    | reference =>
      obtain rfl : lexeme = reference := by simpa [lexemes] using listed
      obtain ⟨c, d, front, same, signless⟩ := (referenceText_of_take?_reference took).1.exists_cons_cons
      rw [same] at fails ⊢
      exact take?_exponent_append signless fails
    | range => exact absurd rfl plain
    | number => exact none (by decide)
    | boolean => exact none (by decide)
    | operator => exact none (by decide)
    | leftParenthesis => exact none (by decide)
    | rightParenthesis => exact none (by decide)
    | separator => exact none (by decide)

theorem head_dropWhile_of_solid (solid : isBlank c = false) (cs : List Char) :
    ((c :: cs).dropWhile isBlank).head? = some c := by
  rw [List.dropWhile_cons_of_neg (Bool.eq_false_iff.mp solid), List.head?_cons]

theorem opens_of_solid (solid : isBlank c = false) (cs : List Char) : opens (c :: cs) = (c == '(') := by
  rw [opens, head_dropWhile_of_solid solid]
  rfl

theorem Follows.of_token (follows : Follows rest more) (plain : kind ≠ .range)
    (found : Formula.next? (taken ++ rest) = some (some kind, taken, rest)) :
    Follows (taken ++ rest) (taken ++ more) where
  starts := alike_append fun empty => by
    obtain ⟨c, others, some, _⟩ := head_of_next? found
    exact nomatch empty.symm.trans some
  scaled := follows.scaled_of_token plain found
  opens := by
    obtain ⟨c, others, rfl, _⟩ := head_of_next? found
    have solid := solid_of_next? found
    rw [List.cons_append, List.cons_append, opens_of_solid solid, opens_of_solid solid]
  called := follows.called_of_token plain found
  spans _ := by
    obtain ⟨c, others, rfl, opens⟩ := head_of_next? found
    have solid := solid_of_next? found
    refine take?_span_of_head ?_
    rw [List.cons_append, head_dropWhile_of_solid solid]
    rintro ⟨⟩
    cases kind <;> exact absurd opens (by decide)

/-- No name is called behind characters of a reference if no parenthesis follows them. -/
theorem ReferenceText.opens_dropWhile (text : ReferenceText cs) (ceases : Ceases inName rest)
    (closed : opens rest = false) : opens ((cs ++ rest).dropWhile inName) = false := by
  have apart := text.apart
  clear text
  induction cs with
  | nil => rwa [List.nil_append, dropWhile_of_ceases ceases]
  | cons c others ih =>
    rw [List.cons_append, List.dropWhile_cons]
    split
    · exact ih fun d inside => apart d (List.mem_cons_of_mem _ inside)
    · obtain ⟨solid, other, _⟩ := apart c List.mem_cons_self
      rw [opens_of_solid solid]
      exact beq_eq_false_iff_ne.mpr other

theorem WrittenRange.opens_dropWhile (written : WrittenRange) (rest : List Char) :
    opens ((written.text ++ rest).dropWhile inName) = false := by
  have blank := (List.forall_mem_append.mp written.blank).1
  have colon : Ceases inName (':' :: (written.behind ++ written.last ++ rest)) := ceases_cons (by decide)
  have text : written.text ++ rest
      = written.first ++ (written.before ++ ':' :: (written.behind ++ written.last ++ rest)) := by
    simp [WrittenRange.text]
  rw [text]
  refine written.start.opens_dropWhile (ceases_of_blank blank (fun _ => solid_of_inName) colon) ?_
  rw [opens_blank blank]
  rfl

/-- What follows a range may be a range with the same first corner. -/
theorem WrittenRange.follows {written twin : WrittenRange} (same : twin.first = written.first)
    (rest more : List Char) : Follows (written.text ++ rest) (twin.text ++ more) := by
  obtain ⟨c, d, front, first, signless⟩ := written.start.exists_cons_cons
  obtain ⟨solid, _, colon, _⟩ := written.start.apart c (first ▸ List.mem_cons_self)
  have text (range : WrittenRange) (same : range.first = written.first) (rest : List Char) :
      ∃ behind, range.text ++ rest = c :: d :: front ++ behind := by
    rw [WrittenRange.text, same, first, List.append_assoc]
    exact ⟨_, rfl⟩
  obtain ⟨behind, here⟩ := text written rfl rest
  obtain ⟨other, there⟩ := text twin same more
  refine ⟨.inl (by rw [here, there]; rfl), fun fails => ?_, ?_, fun called => ?_, fun _ => ?_⟩
  · rw [here] at fails
    rw [there]
    exact take?_exponent_append signless fails
  · rw [here, there]
    exact (opens_of_solid solid _).trans (opens_of_solid solid _).symm
  · exact absurd called (Bool.eq_false_iff.mp (twin.opens_dropWhile more))
  · refine take?_span_of_head ?_
    rw [there, List.cons_append, head_dropWhile_of_solid solid]
    exact fun same => colon (Option.some.inj same)

theorem Respaced.follows (respaced : Respaced free cs ds) : Follows cs ds := by
  -- From behind: what stands behind a token may follow it in place of the other text.
  induction respaced with
  | stop blanks ends => exact (Follows.refl _).of_gap blanks
  | token blanks plain found behind ih => exact (ih.of_token plain found).of_gap blanks
  | range blanks range ends behind ih => exact (WrittenRange.follows range.first _ _).of_gap blanks

theorem Respaced.head (respaced : Respaced free cs ds) :
    (ds.dropWhile isBlank).head? = (cs.dropWhile isBlank).head? := by
  cases respaced with
  | stop blanks ends =>
    rw [List.dropWhile_append_of_pos blanks.blank, List.dropWhile_append_of_pos blanks.blankToo]
  | token blanks plain found behind =>
    rw [List.dropWhile_append_of_pos blanks.blank, List.dropWhile_append_of_pos blanks.blankToo]
    obtain ⟨c, others, rfl, _⟩ := head_of_next? found
    have solid := solid_of_next? found
    exact (head_dropWhile_of_solid solid _).trans (head_dropWhile_of_solid solid _).symm
  | @range _ _ _ _ written twin blanks range ends behind =>
    rw [List.dropWhile_append_of_pos blanks.blank, List.dropWhile_append_of_pos blanks.blankToo]
    obtain ⟨c, d, front, same, _⟩ := written.start.exists_cons_cons
    have solid := (written.start.apart c (same ▸ List.mem_cons_self)).1
    rw [WrittenRange.text, WrittenRange.text, range.first, same]
    exact (head_dropWhile_of_solid solid _).trans (head_dropWhile_of_solid solid _).symm

end
end SheetPricing.Formula
