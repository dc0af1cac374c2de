import Mathlib.Data.List.Chain
import SheetPricing.Proofs.Formula.Derivation
import SheetPricing.Proofs.Formula.Likeness
import SheetPricing.Proofs.Formula.Respacing

/-! References that are cut off. Between two operands of an expression there is always an operator, a
separator or a parenthesis, so no operand stands right behind a reference. A reference leaves digits to
what follows it where a word goes on behind them; with other blanks it may be cut off elsewhere, but then
neither text is a formula. In every other case a respaced text has tokens that mean the same. -/
namespace SheetPricing.Formula
open Text (isBlank isDigit isPlainWord)
open Text.Lexeme

/-- The kinds of tokens that begin an operand. -/
def TokenKind.isOperand : TokenKind → Bool
  | .number | .reference | .range | .function | .boolean => true
  | _ => false

/-- That a token may stand before another: no operand stands right behind a reference. -/
def Parted (token next : Token) : Prop := token.kind = .reference → next.kind.isOperand = false

theorem isChain_parted_append {tokens others : List Token} {token : Token}
    (left : tokens.IsChain Parted) (between : token.kind.isOperand = false)
    (right : others.IsChain Parted) : (tokens ++ token :: others).IsChain Parted := by
  refine left.append (List.isChain_cons.mpr ⟨fun next _ reference => ?_, right⟩) ?_
  · rw [reference] at between
    cases between
  · rintro last _ _ ⟨⟩ _
    exact between

theorem isOperand_of_isOperator {token : Token} {symbol : String} (operator : token.IsOperator symbol) :
    token.kind.isOperand = false := by
  rw [operator.1]
  rfl

theorem Separated.isChain_parted {pieces : List (List Token)} {tokens : List Token}
    (separated : Separated pieces tokens) (each : ∀ piece ∈ pieces, piece.IsChain Parted) :
    tokens.IsChain Parted := by
  induction separated with
  | none => exact .nil
  | one piece => exact each piece List.mem_cons_self
  | more piece separates rest ih =>
    have behind := ih fun next inside => each next (List.mem_cons_of_mem _ inside)
    exact isChain_parted_append (each piece List.mem_cons_self) (by rw [separates]; rfl) behind

/-- In the tokens of an expression no operand stands right behind a reference. -/
theorem Derives.isChain_parted {level : Level} {tokens : List Token} {e : Expr}
    (derived : Derives level tokens e) : tokens.IsChain Parted := by
  induction derived with
  | tighter _ _ ih => exact ih
  | row _ _ between _ _ left right | compared _ between _ left right =>
    exact isChain_parted_append left (isOperand_of_isOperator between) right
  | sign _ before _ ih => exact isChain_parted_append .nil (isOperand_of_isOperator before) ih
  | percent _ behind ih => exact isChain_parted_append ih (isOperand_of_isOperator behind) .nil
  | number => exact .singleton _
  | truth => exact .singleton _
  | cell => exact .singleton _
  | range => exact .singleton _
  | call pieces kind opens _ separated closes ih =>
    refine List.isChain_cons_cons.mpr ⟨fun reference => (nomatch kind.symm.trans reference), ?_⟩
    have inner := separated.isChain_parted fun piece inside => by
      obtain ⟨pair, among, rfl⟩ := List.mem_map.mp inside
      exact ih pair among
    exact isChain_parted_append .nil (by rw [opens]; rfl)
      (isChain_parted_append inner (by rw [closes]; rfl) .nil)
  | group opens _ closes ih =>
    exact isChain_parted_append .nil (by rw [opens]; rfl)
      (isChain_parted_append ih (by rw [closes]; rfl) .nil)

section
variable {free : Char → Bool} {cs ds gap taken rest more : List Char} {c : Char} {kind : TokenKind}

/-- That the tokens of a text, if it has any, are no formula: an operand stands right behind a
reference. -/
def Broken (cs : List Char) : Prop :=
  ∀ ⦃position tokens⦄, scan position cs = .ok tokens → ¬tokens.IsChain Parted

theorem Broken.of_gap (broken : Broken cs) (blank : ∀ c ∈ gap, isBlank c = true) :
    Broken (gap ++ cs) := fun position _ ok =>
  broken ((scan_append_of_blank blank cs position).symm.trans ok)

theorem Broken.of_token (broken : Broken rest) (found : next? cs = some (some kind, taken, rest)) :
    Broken cs := by
  intro position tokens ok chain
  rw [scan_of_token found] at ok
  obtain ⟨others, behind, rfl⟩ := exists_of_map ok
  exact broken behind chain.tail

theorem isOperand_of_opening (word : (isDigit c || isPlainWord c) = true) (opens : kind.opening c = true) :
    kind.isOperand = true := by
  have apart : ∀ c ∈ "-+*/^%=<>(),;".toList, (isDigit c || isPlainWord c) = false :=
    eq_false_of_any (by decide)
  have other (listed : c ∈ "-+*/^%=<>(),;".toList) : kind.isOperand = true :=
    absurd word (Bool.eq_false_iff.mp (apart c listed))
  cases kind with
  | operator =>
    have listed : ∀ c ∈ "-+*/^%=<>".toList, c ∈ "-+*/^%=<>(),;".toList :=
      forall_mem_of_all (by decide)
    exact other (listed c (List.contains_iff_mem.mp opens))
  | leftParenthesis =>
    exact other (by rw [eq_of_beq opens]; decide)
  | rightParenthesis =>
    exact other (by rw [eq_of_beq opens]; decide)
  | separator =>
    exact other (of_beq_or_beq (P := (· ∈ "-+*/^%=<>(),;".toList)) opens (by decide) (by decide))
  | _ => rfl

/-- A reference before a text that begins with a letter or a digit, but for blanks, breaks a formula. -/
theorem broken_of_reference (found : next? cs = some (some .reference, taken, rest))
    (here : (rest.dropWhile isBlank).head? = some c) (word : (isDigit c || isPlainWord c) = true) :
    Broken cs := by
  intro position tokens ok chain
  rw [scan_of_token found] at ok
  obtain ⟨others, behind, rfl⟩ := exists_of_map ok
  obtain ⟨more, shape⟩ := List.head?_eq_some_iff.mp here
  rw [scan_dropWhile, shape] at behind
  cases next : next? (c :: more) with
  | none =>
    rw [scan_of_none next (List.cons_ne_nil c more)] at behind
    cases behind
  | some found =>
    obtain ⟨_ | kind, taken, left⟩ := found
    · obtain ⟨d, _, rfl, blank⟩ := head_of_next? next
      obtain ⟨rfl, -⟩ := List.cons.inj (splits_of_next? next)
      have solid : isBlank c = false := by
        rcases Bool.or_eq_true_iff.mp word with digit | plain
        · exact solid_of_isDigit digit
        · exact solid_of_isPlainWord plain
      exact absurd blank (Bool.eq_false_iff.mp solid)
    · obtain ⟨d, _, rfl, opens⟩ := head_of_next? next
      obtain ⟨rfl, -⟩ := List.cons.inj (splits_of_next? next)
      rw [scan_of_token next] at behind
      obtain ⟨_, _, rfl⟩ := exists_of_map behind
      have parted := (List.isChain_cons_cons.mp chain).1 rfl
      exact absurd (isOperand_of_opening word opens) (Bool.eq_false_iff.mp parted)

theorem exists_digits_of_take?_number (took : number.take? (c :: cs) = some (taken, rest))
    (digit : isDigit c = true) : ∃ digits behind, taken = digits ++ behind ∧ digits ≠ [] ∧
      (∀ d ∈ digits, isDigit d = true) ∧ Ceases isDigit (behind ++ rest) := by
  obtain ⟨plain, middle, scale, front, back, rfl⟩ := exists_of_take?_append took
  rcases take?_or_of_take?_either front with whole | pointed
  · obtain ⟨digits, left, point, here, there, rfl⟩ := exists_of_take?_append whole
    obtain ⟨some, all⟩ := digits_of_take?_oneOrMore here
    obtain rfl := (optional exponent).splits back
    have split := Text.Lexeme.splits _ there
    refine ⟨digits, point ++ scale, List.append_assoc .., some, all, ?_⟩
    rw [List.append_assoc, ← split]
    exact ceases_of_take?_oneOrMore here
  · obtain ⟨d, here, point⟩ := (begins_append (begins_one (p := (· == '.')))).head pointed
    cases here
    rw [eq_of_beq point] at digit
    exact absurd digit (by decide)

theorem exists_next?_of_isDigit (digit : isDigit c = true) (cs : List Char) :
    ∃ taken rest, next? (c :: cs) = some (some .number, taken, rest) := by
  have front : (oneOrMore isDigit).take? (c :: cs) = some (_, _) := take?_append (take?_one digit) rfl
  obtain ⟨point, left, there⟩ := exists_take?_optional (char '.') (cs.dropWhile isDigit)
  have digits : (zeroOrMore isDigit).take? left = some (_, _) := rfl
  have plain := take?_append front (take?_append there digits)
  obtain ⟨scale, rest, last⟩ := exists_take?_optional exponent (left.dropWhile isDigit)
  have opens : TokenKind.number.opening c = true := by simp [TokenKind.opening, digit]
  have here : number.take? (c :: cs) = some (_, _) := take?_append (take?_either_of_left plain) last
  exact ⟨_, _, next?_of_earlier (by simp [lexemes]) (fails_of_opening _ (apart_of_opening rfl opens)) here⟩

theorem ReferenceText.append {digits : List Char} (text : ReferenceText cs)
    (all : ∀ c ∈ digits, isDigit c = true) : ReferenceText (cs ++ digits) := by
  obtain ⟨columnMark, any, few, plain, rowMark, some, numbered⟩ := text
  rw [List.append_assoc]
  have whole := List.forall_mem_append.mpr ⟨numbered, all⟩
  exact .intro columnMark any few plain rowMark (by simp [some]) whole

/-- A reference that could take more digits does not, because a word goes on behind them. -/
theorem ReferenceText.exists_word {digits : List Char} (text : ReferenceText taken) (some : digits ≠ [])
    (all : ∀ c ∈ digits, isDigit c = true) (ceases : Ceases isDigit rest)
    (took : reference.take? (taken ++ (digits ++ rest)) = Option.some (taken, digits ++ rest)) :
    ∃ c behind, rest = c :: behind ∧ isPlainWord c = true := by
  have longer (ends : Ceases isPlainWord rest) : False := by
    have whole := (text.append all).take?_reference ceases ends
    rw [List.append_assoc] at whole
    have same := (Prod.mk.inj (Option.some.inj (whole.symm.trans took))).1
    exact some (List.append_right_eq_self.mp same)
  cases rest with
  | nil => exact (longer ceases_nil).elim
  | cons c behind =>
    exact ⟨c, behind, rfl, (Bool.not_eq_false _).mp fun outside => longer (ceases_cons outside)⟩

/-- Before digits a reference is found, perhaps with some of them. -/
theorem ReferenceText.exists_reference {digits : List Char} (text : ReferenceText taken)
    (all : ∀ c ∈ digits, isDigit c = true) (ends : Ceases isPlainWord (digits ++ rest))
    (ceases : Ceases isDigit rest) : ∃ front left,
      reference.take? (taken ++ (digits ++ rest)) = some (front, left ++ rest) ∧
      ∀ c ∈ left, isDigit c = true := by
  obtain ⟨front, row, rfl, column, some, numbered⟩ := text.take?_column (digits ++ rest)
  obtain ⟨more, behind, took⟩ := exists_take?_oneOrMoreBefore some numbered (endsWord_iff.mpr ends)
  have within := within_oneOrMoreBefore (fun _ => id) took
  have split : row ++ digits ++ rest = more ++ behind :=
    (List.append_assoc ..).trans ((oneOrMoreBefore isDigit endsWord).splits took)
  have here := take?_append column took
  rcases List.append_eq_append_iff.mp split with ⟨extra, rfl, shape⟩ | ⟨left, shape, rfl⟩
  · -- Behind the last digit there is nothing more to take.
    cases extra with
    | nil =>
      obtain rfl : rest = behind := shape
      exact ⟨_, [], here, nofun⟩
    | cons c others =>
      have digit := within c (List.mem_append_right _ List.mem_cons_self)
      exact absurd digit (Bool.eq_false_iff.mp (ceases c (by rw [shape]; rfl)))
  · refine ⟨_, left, here, fun c inside => ?_⟩
    have listed : c ∈ row ++ digits := shape ▸ List.mem_append_right _ inside
    exact (List.mem_append.mp listed).elim (numbered c) (all c)

/-- A reference is the next token also where digits follow it, if no range goes on behind them. -/
theorem Follows.exists_reference {digits : List Char} (follows : Follows rest (digits ++ more))
    (found : Formula.next? (taken ++ rest) = some (some .reference, taken, rest))
    (all : ∀ c ∈ digits, isDigit c = true) (ceases : Ceases isDigit more)
    (unspanned : span.take? more = none) : ∃ front left,
      Formula.next? (taken ++ (digits ++ more)) = some (some .reference, front, left ++ more) ∧
      ∀ c ∈ left, isDigit c = true := by
  obtain ⟨lexeme, listed, took⟩ := mem_of_next? found
  obtain rfl : lexeme = reference := by simpa [lexemes] using listed
  obtain ⟨text, ends⟩ := referenceText_of_take?_reference took
  have ends := (follows.alike fun _ => solid_of_isPlainWord).ceases ends fun _ => id
  obtain ⟨front, left, here, numbered⟩ := text.exists_reference all ends ceases
  refine ⟨front, left, next?_of_earlier listed ?_ here, numbered⟩
  rintro entry (_ | ⟨_, _ | ⟨_, _ | ⟨_, ⟨⟩⟩⟩⟩)
  · exact take?_oneOrMore_of_ceases (text.ceases _)
  · exact follows.take?_functionName text.ne_nil (fun c inside => (text.apart c inside).1)
      (fails_of_next? found (some .function, functionName) (.tail _ (.head _)))
  · have corner := (text.append all).take?_corner ceases
    rw [List.append_assoc] at corner
    exact take?_append_of_right corner unspanned

theorem exists_cons_of_not_ceases {p : Char → Bool} (cut : ¬Ceases p cs) :
    ∃ c others, cs = c :: others ∧ p c = true := by
  cases cs with
  | nil => exact absurd ceases_nil cut
  | cons c others =>
    exact ⟨c, others, rfl, (Bool.not_eq_false _).mp fun outside => cut (ceases_cons outside)⟩

/-- Where a respaced text begins with a digit both texts begin with the same number. -/
theorem Respaced.exists_number (respaced : Respaced free cs ds) (cut : ¬Ceases isDigit ds) :
    ∃ c others rest more, isDigit c = true ∧ cs = c :: others ++ rest ∧ ds = c :: others ++ more ∧
      next? cs = some (some .number, c :: others, rest) ∧ Respaced free rest more := by
  -- Blanks that are put in would stand before the digit.
  have near {gap other cs : List Char} (blanks : Widens gap other) (cut : ¬Ceases isDigit (other ++ cs)) :
      gap = [] ∧ other = [] := by
    cases other with
    | nil => exact ⟨blanks.some rfl, rfl⟩
    | cons c others =>
      refine absurd (ceases_cons (Bool.eq_false_iff.mpr fun digit => ?_)) cut
      exact absurd (blanks.blankToo c List.mem_cons_self) (Bool.eq_false_iff.mp (solid_of_isDigit digit))
  cases respaced with
  | stop blanks ends =>
    obtain ⟨rfl, rfl⟩ := near blanks cut
    obtain ⟨c, others, rfl, digit⟩ := exists_cons_of_not_ceases cut
    obtain ⟨taken, rest, found⟩ := exists_next?_of_isDigit digit others
    exact nomatch ends.symm.trans found
  | @token _ _ taken rest more kind blanks plain found behind =>
    obtain ⟨rfl, rfl⟩ := near blanks cut
    obtain ⟨c, others, rfl, _⟩ := head_of_next? found
    obtain ⟨_, _, same, digit⟩ := exists_cons_of_not_ceases cut
    obtain ⟨rfl, -⟩ := List.cons.inj same
    obtain ⟨_, _, number⟩ := exists_next?_of_isDigit digit (others ++ rest)
    cases found.symm.trans number
    exact ⟨c, others, rest, more, digit, rfl, rfl, found, behind⟩
  | @range _ _ rest more written twin blanks range ends behind =>
    obtain ⟨rfl, rfl⟩ := near blanks cut
    obtain ⟨c, d, front, first, _⟩ := written.start.exists_cons_cons
    rw [List.nil_append, WrittenRange.text, range.first, first] at cut
    obtain ⟨_, _, same, digit⟩ := exists_cons_of_not_ceases cut
    obtain ⟨rfl, -⟩ := List.cons.inj same
    have found := written.next? ends
    rw [WrittenRange.text, first] at found
    obtain ⟨_, _, number⟩ := exists_next?_of_isDigit digit _
    cases found.symm.trans number

/-- Where a reference is cut off because a word goes on behind the digits that follow it, no formula is
written, with other blanks neither. -/
theorem Respaced.broken_of_cut (respaced : Respaced free rest more)
    (found : next? (taken ++ rest) = some (some .reference, taken, rest))
    (cut : ¬Ceases isDigit more) : Broken (taken ++ rest) ∧ Broken (taken ++ more) := by
  have follows := respaced.follows
  obtain ⟨c, others, after, later, digit, rfl, rfl, number, behind⟩ := respaced.exists_number cut
  refine ⟨broken_of_reference (c := c) found (head_dropWhile_of_solid (solid_of_isDigit digit) _)
    (by simp [digit]), ?_⟩
  obtain ⟨lexeme, listed, took⟩ := mem_of_next? number
  obtain rfl : lexeme = Formula.number := by simpa [lexemes] using listed
  obtain ⟨digits, scale, split, some, all, ceases⟩ := exists_digits_of_take?_number took digit
  rw [split, List.append_assoc] at found
  rw [split, List.append_assoc, List.append_assoc] at follows
  rw [split, List.append_assoc]
  -- The word that cuts the reference off comes next behind the digits, perhaps after blanks.
  obtain ⟨lexeme, listed, took⟩ := mem_of_next? found
  obtain rfl : lexeme = reference := by simpa [lexemes] using listed
  obtain ⟨x, word, shape, plain⟩ :=
    (referenceText_of_take?_reference took).1.exists_word some all ceases took
  have solid := solid_of_isPlainWord plain
  have next : ((scale ++ later).dropWhile isBlank).head? = Option.some x := by
    cases scale with
    | nil =>
      rw [List.nil_append] at shape ⊢
      rw [behind.head, shape, head_dropWhile_of_solid solid]
    | cons y others =>
      obtain ⟨rfl, -⟩ := List.cons.inj shape
      exact head_dropWhile_of_solid solid _
  have ceases : Ceases isDigit (scale ++ later) :=
    (behind.follows.alike fun _ => solid_of_isDigit).append.ceases ceases fun _ => id
  have unspanned : span.take? (scale ++ later) = none := by
    refine take?_span_of_head fun colon => ?_
    rw [next] at colon
    rw [Option.some.inj colon] at plain
    exact absurd plain (by decide)
  obtain ⟨front, left, token, numbered⟩ := follows.exists_reference found all ceases unspanned
  cases left with
  | nil => exact broken_of_reference (c := x) token next (by simp [plain])
  | cons d others =>
    have digit := numbered d List.mem_cons_self
    exact broken_of_reference (c := d) token (head_dropWhile_of_solid (solid_of_isDigit digit) _)
      (by simp [digit])

/-- A respaced text has tokens that mean the same, or else neither text is a formula. -/
theorem Respaced.agree_scan {change : Range → Range}
    (ranges : ∀ written twin : WrittenRange, written.Respaces free twin →
      change (cleanRange (String.ofList written.text)) = change (cleanRange (String.ofList twin.text)))
    (respaced : Respaced free cs ds) (position place : Nat) :
    Agree (SameAll change) (scan position cs) (scan place ds) ∨ Broken cs ∧ Broken ds := by
  induction respaced generalizing position place with
  | @stop gap other cs blanks ends =>
    rw [scan_append_of_blank blanks.blank, scan_append_of_blank blanks.blankToo]
    cases cs with
    | nil =>
      have none (position : Nat) : scan position [] = .ok [] := by rw [scan]; rfl
      rw [none, none]
      exact .inl (.ok .nil)
    | cons c others =>
      rw [scan_of_none ends (List.cons_ne_nil c others), scan_of_none ends (List.cons_ne_nil c others)]
      exact .inl (.error _ _)
  | @token gap other taken rest more kind blanks plain found behind ih =>
    -- Only a reference before digits can be another token when other blanks follow.
    by_cases cut : kind = .reference ∧ ¬Ceases isDigit more
    · obtain ⟨rfl, cut⟩ := cut
      obtain ⟨first, second⟩ := behind.broken_of_cut found cut
      exact .inr ⟨first.of_gap blanks.blank, second.of_gap blanks.blankToo⟩
    · have whole (reference : kind = .reference) : Ceases isDigit more :=
        Classical.not_not.mp fun ceases => cut ⟨reference, ceases⟩
      have token := behind.follows.next? whole found
      rw [scan_append_of_blank blanks.blank, scan_append_of_blank blanks.blankToo, scan_of_token found,
        scan_of_token token]
      rcases ih _ _ with agree | ⟨first, second⟩
      · refine .inl (agree.map fun tokens others same => .cons ⟨rfl, fun _ => rfl, ?_⟩ same)
        exact fun range => absurd range plain
      · exact .inr ⟨(first.of_token found).of_gap blanks.blank,
          (second.of_token token).of_gap blanks.blankToo⟩
  | @range gap other rest more written twin blanks range ends behind ih =>
    have found := written.next? ends
    have token := twin.next? ((behind.follows.alike fun _ => solid_of_isDigit).ceases ends fun _ => id)
    rw [scan_append_of_blank blanks.blank, scan_append_of_blank blanks.blankToo, scan_of_token found,
      scan_of_token token]
    rcases ih _ _ with agree | ⟨first, second⟩
    · refine .inl (agree.map fun tokens others same => .cons ⟨rfl, fun other => absurd rfl other, ?_⟩ same)
      exact fun _ => ranges written twin range
    · exact .inr ⟨(first.of_token found).of_gap blanks.blank,
        (second.of_token token).of_gap blanks.blankToo⟩

theorem Broken.exists_error (broken : Broken cs) (limit position : Nat) :
    ∃ reason, (scan position cs).bind (Expr.ofTokens limit) = .error reason := by
  cases scanned : scan position cs with
  | error reason => exact ⟨reason, rfl⟩
  | ok tokens =>
    change ∃ reason, Expr.ofTokens limit tokens = .error reason
    cases read : Expr.ofTokens limit tokens with
    | error reason => exact ⟨reason, rfl⟩
    | ok e => exact absurd (derives_of_ofTokens read).isChain_parted (broken scanned)

end
end SheetPricing.Formula
