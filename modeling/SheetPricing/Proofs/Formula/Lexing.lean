import SheetPricing.Proofs.Decimal.Writing
import SheetPricing.Proofs.Text.Lexeme

/-! The lexemes of what is written. Where the text of a number, a cell, a range, a name or an operator
is followed by what may follow it in a formula, it is the next lexeme, although the ten kinds overlap. -/
namespace SheetPricing.Formula
open Text (isBlank isDigit isPlainDigit isPlainLetter isPlainWord)
open Text.Lexeme
open Address (isCapital)
open Numeral (Exponent Spells)

/-- What an operand is followed by: nothing, an operator, a closing parenthesis or a comma. -/
def Ends (rest : List Char) : Prop := ∀ c ∈ rest.head?, c ∈ "-+*/^%=<>),".toList

section
variable {p : Char → Bool} {cs taken rest letters digits mark : List Char} {c : Char}
  {kind : Option TokenKind} {lexeme : Text.Lexeme}

theorem Ends.ceases (ends : Ends rest) (outside : "-+*/^%=<>),".toList.any p = false) :
    Ceases p rest := fun c here => eq_false_of_any outside c (ends c here)

theorem next?_of_take? (before : List (Option TokenKind × Text.Lexeme))
    {after : List (Option TokenKind × Text.Lexeme)}
    (split : lexemes = before ++ (kind, lexeme) :: after)
    (fails : ∀ entry ∈ before, entry.2.take? cs = none)
    (took : lexeme.take? cs = some (taken, rest)) : next? cs = some (kind, taken, rest) := by
  have first : next? cs = lexemes.findSome? fun entry => (entry.2.take? cs).map (entry.1, ·) := rfl
  have none : before.findSome? (fun entry => (entry.2.take? cs).map (entry.1, ·)) = none :=
    List.findSome?_eq_none_iff.mpr fun entry inside =>
      Option.map_eq_none_iff.mpr (fails entry inside)
  rw [first, split, List.findSome?_append, none, Option.none_or, List.findSome?_cons, took]
  rfl

theorem take?_optional_char {c : Char} (ceases : Ceases (· == c) rest) :
    (optional (char c)).take? rest = some ([], rest) :=
  take?_optional_of_none (take?_one_of_ceases ceases)

/-- What stands first is no letter and no mark, so no column is there. -/
theorem take?_column_of_ceases (ceases : Ceases (fun c => isPlainLetter c || c == '$') rest) :
    column.take? rest = none :=
  take?_append_of_right (take?_optional_char (ceases.mono fun c mark => by simp [mark]))
    (take?_append_of_left (take?_oneAndUpTo_of_ceases (ceases.mono fun c letter => by simp [letter])))

theorem take?_mark (fixes : mark = [] ∨ mark = ['$']) (ceases : Ceases (· == '$') rest) :
    (optional (char '$')).take? (mark ++ rest) = some (mark, rest) := by
  rcases fixes with rfl | rfl
  · exact take?_optional_char ceases
  · exact take?_optional (take?_one (by decide))

/-- The text of a cell: one to three capitals, then plain digits. -/
inductive PlainCell : List Char → Prop where
  | intro {letters digits : List Char} (any : letters ≠ []) (few : letters.length ≤ 3)
      (capital : ∀ c ∈ letters, isCapital c = true) (some : digits ≠ [])
      (numbered : ∀ c ∈ digits, isPlainDigit c = true) : PlainCell (letters ++ digits)

/-- The text of a cell: one to three capitals, then digits of any script. -/
inductive CellText : List Char → Prop where
  | intro {letters digits : List Char} (any : letters ≠ []) (few : letters.length ≤ 3)
      (capital : ∀ c ∈ letters, isCapital c = true) (some : digits ≠ [])
      (numbered : ∀ c ∈ digits, isDigit c = true) : CellText (letters ++ digits)

/-- The text of a reference: a cell in letters of either case, with marks that fix the column and the
row. -/
inductive ReferenceText : List Char → Prop where
  | intro {fixColumn letters fixRow digits : List Char}
      (columnMark : fixColumn = [] ∨ fixColumn = ['$']) (any : letters ≠ [])
      (few : letters.length ≤ 3) (plain : ∀ c ∈ letters, isPlainLetter c = true)
      (rowMark : fixRow = [] ∨ fixRow = ['$']) (some : digits ≠ [])
      (numbered : ∀ c ∈ digits, isDigit c = true) :
      ReferenceText (fixColumn ++ letters ++ fixRow ++ digits)

theorem PlainCell.cellText (cell : PlainCell cs) : CellText cs := by
  obtain ⟨any, few, capital, some, numbered⟩ := cell
  exact .intro any few capital some (isDigit_of_plain numbered)

theorem isPlainLetter_of_capital (capital : isCapital c = true) : isPlainLetter c = true := by
  rw [isPlainLetter, Bool.or_eq_true]
  exact .inl capital

theorem of_capital {P : Char → Prop}
    (each : ∀ n < 128, isCapital (Char.ofNat n) = true → P (Char.ofNat n))
    (capital : isCapital c = true) : P c :=
  of_plain (P := fun c => isCapital c = true → P c) each (.inl (isPlainLetter_of_capital capital))
    capital

theorem of_digit {P : Char → Prop}
    (each : ∀ n < 128, isPlainDigit (Char.ofNat n) = true → P (Char.ofNat n))
    (digit : isPlainDigit c = true) : P c :=
  of_plain (P := fun c => isPlainDigit c = true → P c) each (.inr digit) digit

theorem CellText.referenceText (cell : CellText cs) : ReferenceText cs := by
  obtain ⟨any, few, capital, some, numbered⟩ := cell
  next letters digits =>
  have text : ReferenceText ([] ++ letters ++ [] ++ digits) :=
    .intro (.inl rfl) any few (fun c inside => isPlainLetter_of_capital (capital c inside)) (.inl rfl)
      some numbered
  rwa [List.append_nil, List.nil_append] at text

theorem ReferenceText.forall_mem {P : Char → Prop} (text : ReferenceText cs) (mark : P '$')
    (letter : ∀ n < 128, isPlainLetter (Char.ofNat n) = true → P (Char.ofNat n))
    (digit : ∀ start ∈ Text.digitZeros.toList, ∀ value < 10, P (Char.ofNat (start + value))) :
    ∀ c ∈ cs, P c := by
  obtain ⟨columnMark, any, few, plain, rowMark, some, numbered⟩ := text
  have marked {fix : List Char} (shape : fix = [] ∨ fix = ['$']) : ∀ c ∈ fix, P c := by
    rcases shape with rfl | rfl
    · exact nofun
    · exact List.forall_mem_singleton.mpr mark
  have lettered : ∀ c, isPlainLetter c = true → P c := fun c inside =>
    of_plain (P := fun c => isPlainLetter c = true → P c) letter (.inl inside) inside
  refine List.forall_mem_append.mpr ⟨List.forall_mem_append.mpr ⟨List.forall_mem_append.mpr ⟨?_, ?_⟩, ?_⟩, ?_⟩
  · exact marked columnMark
  · exact fun c inside => lettered c (plain c inside)
  · exact marked rowMark
  · exact fun c inside => of_isDigit digit (numbered c inside)

theorem ReferenceText.ne_nil (text : ReferenceText cs) : cs ≠ [] := by
  obtain ⟨columnMark, any, few, plain, rowMark, some, numbered⟩ := text
  simp [some]

/-- No character of a reference is a blank, a parenthesis or a colon. -/
theorem ReferenceText.apart (text : ReferenceText cs) :
    ∀ c ∈ cs, isBlank c = false ∧ c ≠ '(' ∧ c ≠ ':' ∧ c ≠ '=' ∧ c ≠ '>' :=
  text.forall_mem (by decide) (by decide) (by decide +kernel)

theorem ReferenceText.ceases (text : ReferenceText cs) (rest : List Char) :
    Ceases isBlank (cs ++ rest) := by
  obtain ⟨c, others, rfl⟩ := List.exists_cons_of_ne_nil text.ne_nil
  exact ceases_cons (text.apart c List.mem_cons_self).1

theorem ReferenceText.take?_column (text : ReferenceText cs) (rest : List Char) :
    ∃ front digits, cs = front ++ digits ∧
      column.take? (cs ++ rest) = some (front, digits ++ rest) ∧
      digits ≠ [] ∧ ∀ c ∈ digits, isDigit c = true := by
  obtain ⟨columnMark, any, few, plain, rowMark, some, numbered⟩ := text
  next fixColumn letters fixRow digits =>
  have digit : Ceases (fun c => isPlainLetter c || c == '$') (digits ++ rest) := by
    obtain ⟨c, others, rfl⟩ := List.exists_cons_of_ne_nil some
    exact ceases_cons (of_isDigit (P := fun c => (isPlainLetter c || c == '$') = false)
      (by decide +kernel) (numbered c List.mem_cons_self))
  have letter : Ceases isPlainLetter (fixRow ++ (digits ++ rest)) := by
    rcases rowMark with rfl | rfl
    · exact digit.mono fun c letter => by simp [letter]
    · exact ceases_cons (by decide)
  have mark : Ceases (· == '$') (letters ++ (fixRow ++ (digits ++ rest))) := by
    obtain ⟨c, others, rfl⟩ := List.exists_cons_of_ne_nil any
    refine ceases_cons (beq_eq_false_iff_ne.mpr ?_)
    rintro rfl
    exact absurd (plain '$' List.mem_cons_self) (by decide)
  refine ⟨fixColumn ++ letters ++ fixRow, digits, rfl, ?_, some, numbered⟩
  simp only [List.append_assoc]
  exact take?_append (take?_mark columnMark mark) (take?_append (take?_oneAndUpTo any few plain letter)
    (take?_mark rowMark (digit.mono fun c mark => by simp [mark])))

theorem ReferenceText.take?_corner (text : ReferenceText cs) (ceases : Ceases isDigit rest) :
    corner.take? (cs ++ rest) = some (cs, rest) := by
  obtain ⟨front, digits, rfl, column, some, all⟩ := text.take?_column rest
  exact take?_append column (take?_oneOrMore some all ceases)

/-- A character that may stand in a name in capitals. -/
def isNameChar (c : Char) : Bool := isCapital c || isPlainDigit c || c == '_' || c == '.'

theorem of_nameChar {P : Char → Prop}
    (each : ∀ n < 128, isNameChar (Char.ofNat n) = true → P (Char.ofNat n))
    (named : isNameChar c = true) : P c := by
  have kinds := named
  simp only [isNameChar, Bool.or_eq_true, beq_iff_eq] at kinds
  rcases kinds with ((capital | digit) | rfl) | rfl
  · exact of_plain (P := fun c => isNameChar c = true → P c) each
      (.inl (isPlainLetter_of_capital capital)) named
  · exact of_plain (P := fun c => isNameChar c = true → P c) each (.inr digit) named
  · exact each '_'.toNat (by decide) (by decide)
  · exact each '.'.toNat (by decide) (by decide)

inductive PlainName : List Char → Prop where
  | intro {first : Char} {others : List Char} (head : isCapital first = true ∨ first = '_')
      (tail : ∀ c ∈ others, isNameChar c = true) : PlainName (first :: others)

theorem PlainName.nameChar (named : PlainName cs) : ∀ c ∈ cs, isNameChar c = true := by
  obtain ⟨head, tail⟩ := named
  rintro c (_ | ⟨_, inside⟩)
  · rcases head with capital | rfl
    · simp [isNameChar, capital]
    · decide
  · exact tail c inside

theorem PlainCell.plainName (cell : PlainCell cs) : PlainName cs := by
  obtain ⟨any, few, capital, some, numbered⟩ := cell
  next letters digits =>
  obtain ⟨first, others, rfl⟩ := List.exists_cons_of_ne_nil any
  refine .intro (.inl (capital first List.mem_cons_self)) fun c inside => ?_
  rcases List.mem_append.mp inside with letter | digit
  · simp [isNameChar, capital c (List.mem_cons_of_mem _ letter)]
  · simp [isNameChar, numbered c digit]

theorem PlainName.take?_name (named : PlainName cs)
    (ceases : Ceases (fun c => isPlainWord c || c == '.') rest) :
    name.take? (cs ++ rest) = some (cs, rest) := by
  obtain ⟨head, tail⟩ := named
  next first others =>
  have here : (isPlainLetter first || first == '_') = true := by
    rcases head with capital | rfl
    · exact of_capital (P := fun c => (isPlainLetter c || c == '_') = true) (by decide) capital
    · decide
  exact take?_append (take?_one here) (take?_zeroOrMore (fun c inside =>
    of_nameChar (P := fun c => (isPlainWord c || c == '.') = true) (by decide) (tail c inside)) ceases)

theorem PlainName.ceases (named : PlainName cs) (rest : List Char) : Ceases isBlank (cs ++ rest) := by
  have first := named.nameChar
  obtain ⟨head, tail⟩ := named
  exact ceases_cons (of_nameChar (P := fun c => isBlank c = false) (by decide)
    (first _ List.mem_cons_self))

theorem PlainName.take?_blanks (named : PlainName cs) : blanks.take? (cs ++ rest) = none :=
  take?_oneOrMore_of_ceases (named.ceases rest)

theorem PlainName.next? (named : PlainName cs) (rest : List Char) :
    next? (cs ++ '(' :: rest) = some (some .function, cs, '(' :: rest) := by
  have name : name.take? (cs ++ '(' :: rest) = _ := named.take?_name (ceases_cons (by decide))
  refine next?_of_take? [(none, blanks)] rfl ?_ (take?_before name (by rfl))
  rintro entry (_ | ⟨_, ⟨⟩⟩)
  exact named.take?_blanks

theorem Ends.opens (ends : Ends rest) : opens rest = false := by
  cases rest with
  | nil => rfl
  | cons c rest =>
    have solid : Ceases isBlank (c :: rest) := ends.ceases (by decide)
    have other : Ceases (· == '(') (c :: rest) := ends.ceases (by decide)
    simp [Formula.opens, solid c rfl, beq_eq_false_iff_ne.mp (other c rfl)]

theorem ReferenceText.take?_range (text : ReferenceText cs) (ends : Ends rest) :
    range.take? (cs ++ rest) = none := by
  have colon : (char ':').take? rest = none := take?_one_of_ceases (ends.ceases (by decide))
  have ceases : Ceases isDigit rest := ends.ceases (by decide)
  refine take?_append_of_right (text.take?_corner ceases) ?_
  exact take?_append_of_right (take?_zeroOrMore_of_ceases (ends.ceases (by decide)))
    (take?_append_of_left colon)

/-- A name may end among the characters of a reference, but no parenthesis follows there. -/
theorem ReferenceText.take?_functionName (text : ReferenceText cs)
    (ceases : Ceases (fun c => isPlainWord c || c == '.') rest) (closed : opens rest = false) :
    functionName.take? (cs ++ rest) = none := by
  have apart := text.apart
  obtain ⟨c, others, rfl⟩ := List.exists_cons_of_ne_nil text.ne_nil
  let inName (c : Char) : Bool := isPlainWord c || c == '.'
  by_cases first : (isPlainLetter c || c == '_') = true
  · have name : name.take? (c :: (others ++ rest)) = some (c :: (others ++ rest).takeWhile inName,
        (others ++ rest).dropWhile inName) := take?_append (take?_one first) rfl
    refine take?_before_of_not name ?_
    rw [List.dropWhile_append]
    split
    · have whole : ([] ++ rest).dropWhile inName = rest := dropWhile_append_of_ceases nofun ceases
      rwa [← List.nil_append rest, whole]
    · next some =>
      cases behind : others.dropWhile inName with
      | nil => exact absurd (behind ▸ rfl) some
      | cons d more =>
        have inside : d ∈ others := (List.dropWhile_suffix inName).subset (behind ▸ List.mem_cons_self)
        obtain ⟨solid, plain, _⟩ := apart d (List.mem_cons_of_mem _ inside)
        simp [opens, solid, plain]
  · exact take?_before_of_none (take?_append_of_left (take?_one_of_ceases
      (ceases_cons (Bool.eq_false_iff.mpr first))))

/-- A reference, unless it is the corner of a range or the name of a function. -/
theorem ReferenceText.next? (text : ReferenceText cs) (ends : Ends rest) :
    next? (cs ++ rest) = some (some .reference, cs, rest) := by
  have range := text.take?_range ends
  have here : reference.take? (cs ++ rest) = some (cs, rest) := by
    obtain ⟨front, digits, rfl, column, some, all⟩ := text.take?_column rest
    have ended : endsWord rest = true := by
      cases rest with
      | nil => rfl
      | cons c rest => rw [endsWord, ends.ceases (p := isPlainWord) (by decide) c rfl]; rfl
    exact take?_append column (take?_oneOrMoreBefore some all (ends.ceases (by decide)) ended)
  -- It also begins a range and is spelled like a function, but no colon and no parenthesis follows.
  refine next?_of_take? [(none, blanks), (some .function, functionName),
    (some .range, Formula.range)] rfl ?_ here
  rintro entry (_ | ⟨_, _ | ⟨_, _ | ⟨_, ⟨⟩⟩⟩⟩)
  · exact take?_oneOrMore_of_ceases (text.ceases rest)
  · exact text.take?_functionName (ends.ceases (by decide)) ends.opens
  · exact range

theorem ReferenceText.next?_range {first last : List Char} (text : ReferenceText first)
    (textToo : ReferenceText last) (ends : Ends rest) :
    Formula.next? (first ++ ':' :: last ++ rest)
      = some (some .range, first ++ ':' :: last, rest) := by
  rw [List.append_assoc, List.cons_append]
  have gap (cs : List Char) (ceases : Ceases isBlank cs) :
      (zeroOrMore isBlank).take? cs = some ([], cs) := take?_zeroOrMore_of_ceases ceases
  have here : range.take? (first ++ ':' :: (last ++ rest)) = some (first ++ ':' :: last, rest) :=
    take?_append (text.take?_corner (ceases_cons (by decide)))
      (take?_append (gap _ (ceases_cons (by decide)))
        (take?_append (take?_one (by decide))
          (take?_append (gap _ (textToo.ceases rest)) (textToo.take?_corner (ends.ceases (by decide))))))
  refine next?_of_take? [(none, blanks), (some .function, functionName)] rfl ?_ here
  rintro entry (_ | ⟨_, _ | ⟨_, ⟨⟩⟩⟩)
  · exact take?_oneOrMore_of_ceases (text.ceases _)
  · exact text.take?_functionName (ceases_cons (by decide)) (by rfl)

/-- What begins with a digit is no blank, no name and no column. -/
theorem fails_of_digit (digit : isPlainDigit c = true) (rest : List Char) :
    ∀ entry ∈ [(none, blanks), (some TokenKind.function, functionName), (some .range, range),
      (some .reference, reference)], entry.2.take? (c :: rest) = none := by
  have noName : Ceases (fun c => isPlainLetter c || c == '_') (c :: rest) := ceases_cons
    (of_digit (P := fun c => (isPlainLetter c || c == '_') = false) (by decide) digit)
  have noColumn : column.take? (c :: rest) = none := take?_column_of_ceases (ceases_cons
    (of_digit (P := fun c => (isPlainLetter c || c == '$') = false) (by decide) digit))
  have solid : Ceases isBlank (c :: rest) :=
    ceases_cons (of_digit (P := fun c => isBlank c = false) (by decide) digit)
  rintro entry (_ | ⟨_, _ | ⟨_, _ | ⟨_, _ | ⟨_, ⟨⟩⟩⟩⟩⟩)
  · exact take?_oneOrMore_of_ceases solid
  · exact take?_before_of_none (take?_append_of_left (take?_one_of_ceases noName))
  · exact take?_append_of_left (take?_append_of_left noColumn)
  · exact take?_append_of_left noColumn

theorem take?_exponent {scale : List Char} {value : Int} (scaled : Exponent scale value)
    (ends : Ends rest) : (optional exponent).take? (scale ++ rest) = some (scale, rest) := by
  cases scaled with
  | none =>
    exact take?_optional_of_none (take?_append_of_left
      (take?_one_of_ceases (ends.ceases (by decide))))
  | above any all =>
    have digits := take?_oneOrMore any (isDigit_of_plain all) (ends.ceases (by decide))
    exact take?_optional (take?_append (take?_one (by decide))
      (take?_append (take?_optional (take?_one (by decide))) digits))
  | below any all =>
    have digits := take?_oneOrMore any (isDigit_of_plain all) (ends.ceases (by decide))
    exact take?_optional (take?_append (take?_one (by decide))
      (take?_append (take?_optional (take?_one (by decide))) digits))

theorem ceases_scale {scale : List Char} {value : Int} (scaled : Exponent scale value)
    (ends : Ends rest) : Ceases (fun c => isDigit c || c == '.') (scale ++ rest) := by
  cases scaled with
  | none => exact ends.ceases (by decide)
  | above => exact ceases_cons (by decide)
  | below => exact ceases_cons (by decide)

theorem next?_number {d : Decimal} (spells : Spells cs d) (ends : Ends rest) :
    next? (cs ++ rest) = some (some .number, cs, rest) := by
  have here : number.take? (cs ++ rest) = some (cs, rest) := by
    cases spells with
    | @whole digits scale _ any all scaled =>
      have ceases := ceases_scale scaled ends
      have noDigit : Ceases isDigit (scale ++ rest) := ceases.mono fun c digit => by simp [digit]
      have noPoint : Ceases (· == '.') (scale ++ rest) := ceases.mono fun c point => by simp [point]
      have front := take?_oneOrMore any (isDigit_of_plain all) noDigit
      have plain := take?_append front
        (take?_append (take?_optional_char noPoint) (take?_zeroOrMore_of_ceases noDigit))
      rw [List.append_nil, List.append_nil] at plain
      rw [List.append_assoc]
      exact take?_append (take?_either_of_left plain) (take?_exponent scaled ends)
    | @pointed before after scale _ any left right scaled =>
      have ceases := ceases_scale scaled ends
      have noDigit : Ceases isDigit (scale ++ rest) := ceases.mono fun c digit => by simp [digit]
      have front : (oneOrMore isDigit).take? (before ++ '.' :: (after ++ (scale ++ rest))) = _ :=
        take?_oneOrMore any (isDigit_of_plain left) (ceases_cons (by decide))
      have point (cs : List Char) : (optional (char '.')).take? ('.' :: cs) = some (['.'], cs) :=
        take?_optional (take?_one (by decide))
      have plain := take?_append front (take?_append (point _)
        (take?_zeroOrMore (isDigit_of_plain right) noDigit))
      have all : number.take? (before ++ '.' :: (after ++ (scale ++ rest))) = _ :=
        take?_append (take?_either_of_left plain) (take?_exponent scaled ends)
      simpa using all
  obtain ⟨c, others, rfl, digit⟩ := spells.head
  exact next?_of_take? _ rfl (fails_of_digit digit (others ++ rest)) here

theorem next?_leftParenthesis (rest : List Char) :
    next? ('(' :: rest) = some (some .leftParenthesis, ['('], rest) := by
  rfl

theorem next?_rightParenthesis (rest : List Char) :
    next? (')' :: rest) = some (some .rightParenthesis, [')'], rest) := by
  rfl

theorem next?_comma (rest : List Char) :
    next? (',' :: rest) = some (some .separator, [','], rest) := by
  rfl

theorem next?_percent (rest : List Char) :
    next? ('%' :: rest) = some (some .operator, ['%'], rest) := by
  rfl

/-- An operator is taken as a whole, and no more, if no comparison goes on behind it. -/
theorem next?_symbol (operator : BinaryOperator) (equal : c ≠ '=') (greater : c ≠ '>') :
    next? (operator.symbol.toList ++ c :: rest)
      = some (some .operator, operator.symbol.toList, c :: rest) := by
  have one : Ceases (fun c => c == '=' || c == '>') (c :: rest) :=
    ceases_cons (by simp [equal, greater])
  have other : Ceases (· == '=') (c :: rest) := ceases_cons (by simp [equal])
  have single (first : Char) (operates : isOperator first = true)
      (alone : (char '<' ++ Text.Lexeme.one fun c => c == '=' || c == '>').take?
          (first :: c :: rest) = none ∧
        (char '>' ++ char '=').take? (first :: c :: rest) = none) :
      Formula.operator.take? (first :: c :: rest) = some ([first], c :: rest) := by
    refine (take?_either_of_right alone.1).trans ?_
    exact (take?_either_of_right alone.2).trans (take?_one operates)
  have less := single '<' (by decide) ⟨take?_append_of_right (take?_one (by decide))
    (take?_one_of_ceases one), take?_append_of_left (by rfl)⟩
  have more := single '>' (by decide) ⟨take?_append_of_left (by rfl),
    take?_append_of_right (take?_one (by decide)) (take?_one_of_ceases other)⟩
  -- Only the signs for less and for greater begin other operators.
  rcases operator with (_ | _ | _ | _ | _) | (_ | _ | _ | _ | _ | _)
  case comparison.less =>
    refine next?_of_take? (lexemes.take 6) rfl ?_ less
    rintro entry (_ | ⟨_, _ | ⟨_, _ | ⟨_, _ | ⟨_, _ | ⟨_, _ | ⟨_, ⟨⟩⟩⟩⟩⟩⟩⟩) <;> rfl
  case comparison.greater =>
    refine next?_of_take? (lexemes.take 6) rfl ?_ more
    rintro entry (_ | ⟨_, _ | ⟨_, _ | ⟨_, _ | ⟨_, _ | ⟨_, _ | ⟨_, ⟨⟩⟩⟩⟩⟩⟩⟩) <;> rfl
  all_goals rfl

end
end SheetPricing.Formula
