import SheetPricing.Proofs.Formula.Grammar
import SheetPricing.Proofs.Formula.Lexing

/-! Texts that are scanned to the tokens of an expression, wherever they stand and whatever follows.
The text of an expression is put together from the texts of its parts in the same way as the tokens. -/
namespace SheetPricing.Formula
open Text (isBlank)
open Text.Lexeme

section
variable {position : Nat} {text more rest : List Char} {tokens others : List Token} {level : Level}
  {e : Expr}

theorem ne_nil_of_next? {cs taken rest : List Char} {kind : Option TokenKind}
    (found : next? cs = some (kind, taken, rest)) : cs ≠ [] := by
  rintro rfl
  cases found

theorem scan_of_none {cs : List Char} (none : next? cs = none) (some : cs ≠ []) (position : Nat) :
    scan position cs = .error (.unsupported position (String.ofList (cs.take excerptLength))) := by
  rw [scan, if_neg (by simpa using some)]
  split
  · rfl
  · next found => cases none.symm.trans found
  · next found => cases none.symm.trans found

theorem scan_of_blanks {cs taken rest : List Char} (found : next? cs = some (none, taken, rest))
    (position : Nat) : scan position cs = scan (position + taken.length) rest := by
  rw [scan, if_neg (by simpa using ne_nil_of_next? found)]
  split
  · next none => cases found.symm.trans none
  · next same =>
    cases found.symm.trans same
    rfl
  · next other => cases found.symm.trans other

theorem scan_of_token {cs taken rest : List Char} {kind : TokenKind}
    (found : next? cs = some (some kind, taken, rest)) (position : Nat) :
    scan position cs = (scan (position + taken.length) rest).map
      (⟨kind, String.ofList taken, position, promises_of_next? found⟩ :: ·) := by
  rw [scan, if_neg (by simpa using ne_nil_of_next? found)]
  split
  · next none => cases found.symm.trans none
  · next other => cases found.symm.trans other
  · next same =>
    cases found.symm.trans same
    rfl

theorem next?_of_blank {c : Char} (blank : isBlank c = true) (cs : List Char) :
    next? (c :: cs) = some (none, c :: cs.takeWhile isBlank, cs.dropWhile isBlank) :=
  next?_of_take? [] rfl nofun (take?_append (take?_one blank) rfl)

theorem blank_of_next? {cs taken rest : List Char} (found : next? cs = some (none, taken, rest)) :
    ∀ c ∈ taken, isBlank c = true := by
  obtain ⟨lexeme, listed, took⟩ := mem_of_next? found
  obtain rfl : lexeme = blanks := by simpa [lexemes] using listed
  exact within_oneOrMore (fun _ => id) took

/-- A token begins with no blank. -/
theorem solid_of_next? {c : Char} {cs taken rest : List Char} {kind : TokenKind}
    (found : next? (c :: cs) = some (some kind, taken, rest)) : isBlank c = false :=
  Bool.eq_false_iff.mpr fun blank => nomatch found.symm.trans (next?_of_blank blank cs)

theorem scan_dropWhile (cs : List Char) (position : Nat) : scan position cs
    = scan (position + (cs.takeWhile isBlank).length) (cs.dropWhile isBlank) := by
  cases cs with
  | nil => rfl
  | cons c more =>
    by_cases blank : isBlank c = true
    · rw [scan_of_blanks (next?_of_blank blank more), List.takeWhile_cons_of_pos blank,
        List.dropWhile_cons_of_pos blank]
    · rw [List.takeWhile_cons_of_neg blank, List.dropWhile_cons_of_neg blank]
      rfl

/-- Blanks only move what is behind them. -/
theorem scan_append_of_blank {blanks : List Char} (blank : ∀ c ∈ blanks, isBlank c = true)
    (cs : List Char) (position : Nat) :
    scan position (blanks ++ cs) = scan (position + blanks.length) cs := by
  rw [scan_dropWhile, scan_dropWhile cs, List.takeWhile_append_of_pos blank,
    List.dropWhile_append_of_pos blank, List.length_append, Nat.add_assoc]

/-- That a text is scanned to some tokens, whatever the rest is scanned to. -/
def Yields (position : Nat) (text rest : List Char) (tokens : List Token) : Prop :=
  scan position (text ++ rest) = (scan (position + text.length) rest).map (tokens ++ ·)

theorem Yields.append (first : Yields position text (more ++ rest) tokens)
    (second : Yields (position + text.length) more rest others) :
    Yields position (text ++ more) rest (tokens ++ others) := by
  rw [Yields, List.append_assoc, first, second, List.length_append, Nat.add_assoc]
  cases scan (position + (text.length + more.length)) rest <;> simp [Except.map]

theorem exists_token (text : List Char) {kind : TokenKind}
    (next : next? (text ++ rest) = some (some kind, text, rest))
    (position : Nat) : ∃ token : Token, token.kind = kind ∧ token.text = String.ofList text ∧
      Yields position text rest [token] :=
  ⟨⟨kind, String.ofList text, position, promises_of_next? next⟩, rfl, rfl, scan_of_token next position⟩

theorem Derives.of_primary (derived : Derives .primary tokens e) (level : Level) :
    Derives level tokens e := by
  have percent : Derives .percent tokens e := .tighter rfl derived
  have signed : Derives .signed tokens e := .tighter rfl percent
  have power : Derives .power tokens e := .tighter rfl signed
  have product : Derives .product tokens e := .tighter rfl power
  have sum : Derives .sum tokens e := .tighter rfl product
  cases level with
  | comparison => exact .tighter rfl sum
  | sum => exact sum
  | product => exact product
  | power => exact power
  | signed => exact signed
  | percent => exact percent
  | primary => exact derived

theorem Derives.comparison (derived : Derives level tokens e) : Derives .comparison tokens e := by
  have of_sum {tokens : List Token} (sum : Derives .sum tokens e) : Derives .comparison tokens e :=
    .tighter rfl sum
  have of_product {tokens : List Token} (product : Derives .product tokens e) :
      Derives .comparison tokens e := of_sum (.tighter rfl product)
  have of_power {tokens : List Token} (power : Derives .power tokens e) :
      Derives .comparison tokens e := of_product (.tighter rfl power)
  have of_signed {tokens : List Token} (signed : Derives .signed tokens e) :
      Derives .comparison tokens e := of_power (.tighter rfl signed)
  cases level with
  | comparison => exact derived
  | sum => exact of_sum derived
  | product => exact of_product derived
  | power => exact of_power derived
  | signed => exact of_signed derived
  | percent => exact of_signed (.tighter rfl derived)
  | primary => exact derived.of_primary .comparison

/-- That a text is scanned to tokens of an expression, wherever it stands and whatever follows it that
may follow an operand. -/
structure Scans (level : Level) (text : List Char) (e : Expr) : Prop where
  starts : ∃ c others, text = c :: others ∧ c ≠ '=' ∧ c ≠ '>'
  solid : ∀ c ∈ text, isBlank c = false
  derives : ∀ position rest, Ends rest →
    ∃ tokens, Yields position text rest tokens ∧ Derives level tokens e

theorem Scans.comparison (scans : Scans level text e) : Scans .comparison text e where
  starts := scans.starts
  solid := scans.solid
  derives position rest ends := by
    obtain ⟨tokens, yields, derived⟩ := scans.derives position rest ends
    exact ⟨tokens, yields, derived.comparison⟩

theorem ends_cons {c : Char} (member : c ∈ "-+*/^%=<>),".toList) (rest : List Char) :
    Ends (c :: rest) := by
  rintro _ ⟨⟩
  exact member

theorem solid_enclosed (solid : ∀ c ∈ text, isBlank c = false) :
    ∀ c ∈ '(' :: (text ++ [')']), isBlank c = false :=
  List.forall_mem_cons.mpr ⟨by decide,
    List.forall_mem_append.mpr ⟨solid, List.forall_mem_singleton.mpr (by decide)⟩⟩

theorem Scans.enclosed (scans : Scans level text e) :
    Scans .primary ('(' :: (text ++ [')'])) e where
  starts := ⟨'(', _, rfl, by decide, by decide⟩
  solid := solid_enclosed scans.solid
  derives position rest ends := by
    obtain ⟨opening, opens, _, first⟩ := exists_token ['(']
      (next?_leftParenthesis (text ++ [')'] ++ rest)) position
    obtain ⟨tokens, inner, derived⟩ := scans.derives (position + 1) (')' :: rest)
      (ends_cons (by decide) rest)
    obtain ⟨closing, closes, _, last⟩ := exists_token [')']
      (next?_rightParenthesis rest) (position + 1 + text.length)
    refine ⟨opening :: (tokens ++ [closing]), ?_, .group opens derived.comparison closes⟩
    exact Yields.append first (Yields.append inner last)

theorem scans_token {kind : TokenKind} (starts : ∃ c others, text = c :: others ∧ c ≠ '=' ∧ c ≠ '>')
    (solid : ∀ c ∈ text, isBlank c = false)
    (next : ∀ rest, Ends rest → next? (text ++ rest) = some (some kind, text, rest))
    (derived : ∀ token : Token, token.kind = kind → token.text = String.ofList text →
      Derives .primary [token] e) : Scans .primary text e := by
  refine ⟨starts, solid, fun position rest ends => ?_⟩
  obtain ⟨token, same, spelled, yields⟩ := exists_token text (next rest ends) position
  exact ⟨[token], yields, derived token same spelled⟩

theorem scans_number (units : Nat) (fits : Binary64.Representable units) :
    Scans .primary (Binary64.finite false units fits).text.toList
      (.number (.finite false units fits)) := by
  obtain ⟨d, spells, value⟩ := Binary64.spells_text units fits
  refine scans_token ?_ (fun c inside => ?_) (fun rest ends => next?_number spells ends)
    fun token kind spelled => ?_
  · obtain ⟨c, others, shape, digit⟩ := spells.head
    have apart : c ≠ '=' ∧ c ≠ '>' := of_digit (P := fun c => c ≠ '=' ∧ c ≠ '>') (by decide) digit
    exact ⟨c, others, shape, apart⟩
  · rcases spells.mem_or_digit inside with mark | digit
    · have each : ['.', 'e', '+', '-'].any isBlank = false := by decide
      exact Text.Lexeme.eq_false_of_any each c mark
    · exact of_digit (P := fun c => isBlank c = false) (by decide) digit
  · refine .number kind ?_
    rw [spelled, spells.read?, value]

theorem CellText.cleanAddress (cell : CellText text) :
    cleanAddress text = String.ofList text := by
  obtain ⟨any, few, capital, some, numbered⟩ := cell
  next letters digits =>
  have plain : ∀ c ∈ letters, Text.isPlainLetter c = true := fun c inside =>
    isPlainLetter_of_capital (capital c inside)
  have upper : letters.map Char.toUpper = letters := by
    refine (List.map_congr_left fun c inside => ?_).trans (List.map_id letters)
    exact of_capital (P := fun c => c.toUpper = id c) (by decide) (capital c inside)
  have clean : Formula.cleanAddress ([] ++ letters ++ [] ++ digits) = _ :=
    cleanAddress_spelled plain numbered nofun
  rwa [upper, List.nil_append, List.append_nil] at clean

theorem PlainName.solid (named : PlainName text) : ∀ c ∈ text, isBlank c = false := fun c inside =>
  of_nameChar (P := fun c => isBlank c = false) (by decide) (named.nameChar c inside)

theorem PlainName.capitalize {name : String} (named : PlainName name.toList) :
    Text.capitalize name = name := by
  have each : ∀ c ∈ name.toList, Text.capitals c = [c] := fun c inside =>
    of_nameChar (P := fun c => Text.capitals c = [c]) (by decide) (named.nameChar c inside)
  rw [Text.capitalize, List.flatMap_congr each, List.flatMap_singleton', String.ofList_toList]

theorem PlainName.starts (named : PlainName text) (more : List Char) :
    ∃ c others, text ++ more = c :: others ∧ c ≠ '=' ∧ c ≠ '>' := by
  have first := named.nameChar
  obtain ⟨head, tail⟩ := named
  next c others =>
  exact ⟨c, _, rfl, of_nameChar (P := fun c => c ≠ '=' ∧ c ≠ '>') (by decide)
    (first c List.mem_cons_self)⟩

theorem ReferenceText.starts (spelled : ReferenceText text) (more : List Char) :
    ∃ c others, text ++ more = c :: others ∧ c ≠ '=' ∧ c ≠ '>' := by
  have apart := spelled.apart
  obtain ⟨c, others, rfl⟩ := List.exists_cons_of_ne_nil spelled.ne_nil
  obtain ⟨_, _, _, equal, greater⟩ := apart c List.mem_cons_self
  exact ⟨c, others ++ more, rfl, equal, greater⟩

theorem ReferenceText.solid (spelled : ReferenceText text) : ∀ c ∈ text, isBlank c = false :=
  fun c inside => (spelled.apart c inside).1

theorem scans_reference (spelled : ReferenceText text) :
    Scans .primary text (.reference (cleanAddress text)) := by
  have starts := spelled.starts []
  rw [List.append_nil] at starts
  refine scans_token starts spelled.solid (fun rest ends => spelled.next? ends)
    fun token kind same => ?_
  have derived := Derives.cell kind
  rwa [same, String.toList_ofList] at derived

theorem cleanRange_of_apart {first last : List Char} (apart : ∀ c ∈ first, c ≠ ':') :
    cleanRange (String.ofList (first ++ ':' :: last)) = ⟨cleanAddress first, cleanAddress last⟩ := by
  have within : ∀ c ∈ first, (c != ':') = true := fun c inside => bne_iff_ne.mpr (apart c inside)
  have ceases : Text.Lexeme.Ceases (· != ':') (':' :: last) := Text.Lexeme.ceases_cons (by decide)
  rw [cleanRange, String.toList_ofList, Text.Lexeme.takeWhile_append_of_ceases within ceases,
    Text.Lexeme.dropWhile_append_of_ceases within ceases, List.drop_one, List.tail_cons]

theorem cleanRange_corners {first last : List Char} (spelled : ReferenceText first) :
    cleanRange (String.ofList (first ++ ':' :: last)) = ⟨cleanAddress first, cleanAddress last⟩ :=
  cleanRange_of_apart fun c inside => (spelled.apart c inside).2.2.1

theorem scans_range {first last : List Char} (spelled : ReferenceText first)
    (spelledToo : ReferenceText last) :
    Scans .primary (first ++ ':' :: last) (.range ⟨cleanAddress first, cleanAddress last⟩) := by
  have solid : ∀ c ∈ first ++ ':' :: last, isBlank c = false :=
    List.forall_mem_append.mpr ⟨spelled.solid,
      List.forall_mem_cons.mpr ⟨by decide, spelledToo.solid⟩⟩
  refine scans_token (spelled.starts _) solid
    (fun rest ends => spelled.next?_range spelledToo ends) fun token kind same => ?_
  have derived := Derives.range kind
  rwa [same, cleanRange_corners spelled] at derived

theorem scans_signed {operator : UnaryOperator} (listed : operator ∈ [UnaryOperator.plus, .minus])
    (scans : Scans .primary text e) :
    Scans .comparison (operator.symbol.toList ++ text) (.unary operator e) := by
  have sign (rest : List Char) : next? (operator.symbol.toList ++ rest)
      = some (some .operator, operator.symbol.toList, rest) := by
    rcases listed with _ | ⟨_, _ | ⟨_, ⟨⟩⟩⟩ <;> rfl
  have marks : (∃ c, operator.symbol.toList = [c] ∧ c ≠ '=' ∧ c ≠ '>') ∧
      operator.symbol.toList.any isBlank = false := by
    rcases listed with _ | ⟨_, _ | ⟨_, ⟨⟩⟩⟩
    · exact ⟨⟨'+', rfl, by decide, by decide⟩, by decide⟩
    · exact ⟨⟨'-', rfl, by decide, by decide⟩, by decide⟩
  obtain ⟨⟨c, symbol, apart⟩, solid⟩ := marks
  refine ⟨⟨c, text, by rw [symbol]; rfl, apart⟩, ?_, fun position rest ends => ?_⟩
  · exact List.forall_mem_append.mpr ⟨Text.Lexeme.eq_false_of_any solid, scans.solid⟩
  · obtain ⟨token, kind, spelled, first⟩ :=
      exists_token operator.symbol.toList (sign (text ++ rest)) position
    obtain ⟨tokens, inner, derived⟩ := scans.derives
      (position + operator.symbol.toList.length) rest ends
    have before : token.IsOperator operator.symbol := ⟨kind, by rw [spelled, String.ofList_toList]⟩
    refine ⟨token :: tokens, first.append inner, ?_⟩
    exact (Derives.sign listed before (derived.of_primary .signed)).comparison

theorem scans_percent (scans : Scans .primary text e) :
    Scans .comparison (text ++ ['%']) (.unary .percent e) := by
  obtain ⟨c, others, rfl, apart⟩ := scans.starts
  refine ⟨⟨c, _, rfl, apart⟩, ?_, fun position rest ends => ?_⟩
  · exact List.forall_mem_append.mpr ⟨scans.solid, List.forall_mem_singleton.mpr (by decide)⟩
  · obtain ⟨tokens, inner, derived⟩ := scans.derives position ('%' :: rest)
      (ends_cons (by decide) rest)
    obtain ⟨token, kind, spelled, last⟩ := exists_token ['%'] (next?_percent rest)
      (position + (c :: others).length)
    have behind : token.IsOperator UnaryOperator.percent.symbol := ⟨kind, spelled⟩
    refine ⟨tokens ++ [token], Yields.append inner last, ?_⟩
    exact (Derives.percent (derived.of_primary .percent) behind).comparison

theorem derives_binary {token : Token} {right : Expr} (operator : BinaryOperator)
    (first : Derives .primary tokens e) (between : token.IsOperator operator.symbol)
    (second : Derives .primary others right) :
    Derives .comparison (tokens ++ token :: others) (.binary operator e right) := by
  rcases operator with operator | operator
  · have row (level : Level) {next : Level} (listed : operator ∈ level.operators)
        (below : level.tighter? = some next) :
        Derives .comparison (tokens ++ token :: others) (.binary (.arithmetic operator) e right) :=
      (Derives.row (first.of_primary level) listed between below (second.of_primary next)).comparison
    cases operator with
    | add => exact row .sum (by decide) rfl
    | subtract => exact row .sum (by decide) rfl
    | multiply => exact row .product (by decide) rfl
    | divide => exact row .product (by decide) rfl
    | power => exact row .power (by decide) rfl
  · exact .compared (first.of_primary .sum) between (second.of_primary .sum)

theorem scans_binary (operator : BinaryOperator) {right : Expr} (scans : Scans .primary text e)
    (scansToo : Scans .primary more right) :
    Scans .comparison (text ++ (operator.symbol.toList ++ more)) (.binary operator e right) := by
  have marks : (∃ c others, operator.symbol.toList = c :: others ∧ c ∈ "-+*/^%=<>),".toList) ∧
      operator.symbol.toList.any isBlank = false := by
    rcases operator with (_ | _ | _ | _ | _) | (_ | _ | _ | _ | _ | _) <;>
      exact ⟨⟨_, _, rfl, by decide⟩, by decide⟩
  obtain ⟨⟨mark, marked, symbol, member⟩, solid⟩ := marks
  obtain ⟨next, following, shape, equal, greater⟩ := scansToo.starts
  obtain ⟨c, others, rfl, apart⟩ := scans.starts
  refine ⟨⟨c, _, rfl, apart⟩, ?_, fun position rest ends => ?_⟩
  · exact List.forall_mem_append.mpr ⟨scans.solid,
      List.forall_mem_append.mpr ⟨Text.Lexeme.eq_false_of_any solid, scansToo.solid⟩⟩
  · -- The operator ends the left side, and the right side begins with nothing that belongs to it.
    have between : Ends (operator.symbol.toList ++ more ++ rest) := by
      rw [symbol]
      exact ends_cons member _
    have taken : next? (operator.symbol.toList ++ (more ++ rest))
        = some (some .operator, operator.symbol.toList, more ++ rest) := by
      rw [shape]
      exact next?_symbol operator equal greater
    obtain ⟨tokens, first, left⟩ := scans.derives position _ between
    obtain ⟨token, kind, spelled, operates⟩ := exists_token operator.symbol.toList taken
      (position + (c :: others).length)
    obtain ⟨more, second, right⟩ := scansToo.derives _ rest ends
    refine ⟨tokens ++ ([token] ++ more), first.append (operates.append second), ?_⟩
    exact derives_binary operator left ⟨kind, by rw [spelled, String.ofList_toList]⟩ right

/-- What the text of some arguments is scanned to. -/
structure ScansAll (text : List Char) (arguments : List Expr) : Prop where
  solid : ∀ c ∈ text, isBlank c = false
  derives : ∀ position rest, Ends rest → ∃ (pieces : List (List Token × Expr)) (tokens : List Token),
    Yields position text rest tokens ∧ pieces.map Prod.snd = arguments ∧
      (∀ piece ∈ pieces, Derives .comparison piece.1 piece.2) ∧
      Separated (pieces.map Prod.fst) tokens

theorem yields_nil (position : Nat) (rest : List Char) : Yields position [] rest [] := by
  change scan position rest = (scan position rest).map id
  cases scan position rest <;> rfl

theorem scans_call {name : String} {text : List Char} {arguments : List Expr}
    (named : PlainName name.toList) (scans : ScansAll text arguments) :
    Scans .primary (name.toList ++ '(' :: (text ++ [')'])) (.call name arguments) := by
  have capital := named.capitalize
  refine ⟨named.starts _, ?_, fun position rest ends => ?_⟩
  · exact List.forall_mem_append.mpr ⟨named.solid, solid_enclosed scans.solid⟩
  · obtain ⟨function, kind, spelled, first⟩ := exists_token name.toList
      (named.next? (text ++ [')'] ++ rest)) position
    obtain ⟨opening, opens, _, second⟩ := exists_token ['(']
      (next?_leftParenthesis (text ++ [')'] ++ rest)) (position + name.toList.length)
    obtain ⟨pieces, tokens, rows, same, all, separated⟩ := scans.derives _ (')' :: rest)
      (ends_cons (by decide) rest)
    obtain ⟨closing, closes, _, last⟩ := exists_token [')'] (next?_rightParenthesis rest) _
    have yields := Yields.append first (Yields.append second (Yields.append rows last))
    refine ⟨_, yields, ?_⟩
    have derived : Derives .primary (function :: opening :: (tokens ++ [closing])) _ :=
      .call pieces kind opens all separated closes
    rwa [spelled, String.ofList_toList, capital, same] at derived

end
end SheetPricing.Formula
