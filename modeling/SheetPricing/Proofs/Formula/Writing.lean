import SheetPricing.Formula.Reading
import SheetPricing.Proofs.Formula.Completeness
import SheetPricing.Proofs.Formula.Scanning
import SheetPricing.Proofs.Outcome

/-! Expressions that are written and read again. An operand that is composed of others is written in
parentheses, whatever else is; then the text of every expression is read as that expression. Only signs in
a row are no use without a limit: each takes one level of the nesting that it allows, and parentheses
between them take more, so no text is read as an expression with as many signs in a row as the limit
allows levels. -/
namespace SheetPricing.Formula
open Text (isBlank)

/-- How many signs an expression has before its operand, one behind the other. -/
def Expr.signs : Expr → Nat
  | .unary .plus operand => operand.signs + 1
  | .unary .minus operand => operand.signs + 1
  | _ => 0

/-- A reader that reads expressions with fewer signs than given. -/
def SignsBelow (bound : Nat) (reader : Reader Expr) : Prop :=
  ∀ tokens taken, reader tokens = .ok taken → taken.value.signs < bound

section
variable {bound : Nat} {reader : Reader Expr}

theorem signs_extendRow {operators : List Arithmetic} {left : Expr} (tokens : List Token)
    {row : Kept Expr tokens} (few : left.signs < bound)
    (read : extendRow operators reader left tokens = .ok row) : row.value.signs < bound := by
  induction size : tokens.length using Nat.strongRecOn generalizing left tokens row with
  | ind size' ih =>
    subst size
    match tokens with
    | [] =>
      rw [extendRow] at read
      obtain rfl := Except.ok.inj read
      exact few
    | token :: rest =>
      rw [extendRow] at read
      split at read
      · obtain rfl := Except.ok.inj read
        exact few
      · next operator found =>
        obtain ⟨right, taken, read⟩ := ok_of_bind read
        obtain ⟨more, extended, read⟩ := ok_of_bind read
        obtain rfl := Except.ok.inj read
        -- What was read so far is now the left side of an operator and begins with no sign.
        have none : (Expr.binary (.arithmetic operator) left right.value).signs < bound :=
          Nat.zero_lt_of_lt few
        exact ih _ (Nat.lt_succ_of_lt right.fewer) right.rest none extended rfl

theorem signsBelow_readRow (below : SignsBelow bound reader) (operators : List Arithmetic) :
    SignsBelow bound (readRow operators reader) := by
  intro tokens taken read
  obtain ⟨first, here, read⟩ := ok_of_bind read
  obtain ⟨row, extended, read⟩ := ok_of_bind read
  obtain rfl := Except.ok.inj read
  exact signs_extendRow _ (below tokens first here) extended

theorem signsBelow_readComparison (below : SignsBelow bound reader) :
    SignsBelow bound (readComparison reader) := by
  have sums : SignsBelow bound (readSum reader) :=
    signsBelow_readRow (signsBelow_readRow (signsBelow_readRow below _) _) _
  intro tokens taken read
  obtain ⟨left, first, read⟩ := ok_of_bind read
  have few := sums tokens left first
  split at read
  · obtain rfl := Except.ok.inj read
    exact few
  · split at read
    · obtain rfl := Except.ok.inj read
      exact few
    · obtain ⟨right, second, read⟩ := ok_of_bind read
      obtain rfl := Except.ok.inj read
      exact Nat.zero_lt_of_lt few

theorem signs_readPercents {operand : Expr} (few : operand.signs < bound) (tokens : List Token) :
    (readPercents operand tokens).value.signs < bound := by
  induction tokens generalizing operand with
  | nil => exact few
  | cons token rest ih =>
    rw [readPercents]
    split
    · exact ih (Nat.zero_lt_of_lt few)
    · exact few

theorem signsBelow_readUnsigned (below : SignsBelow bound reader) :
    SignsBelow (bound + 1) (readUnsigned reader) := by
  intro tokens taken read
  obtain ⟨operand, first, read⟩ := ok_of_bind read
  obtain rfl := Except.ok.inj read
  refine signs_readPercents ?_ _
  match tokens with
  | [] => exact absurd first nofun
  | token :: tokens =>
    unfold readPrimary at first
    dsimp only at first
    split at first
    · obtain rfl := Except.ok.inj first
      exact Nat.succ_pos _
    · obtain rfl := Except.ok.inj first
      exact Nat.succ_pos _
    · obtain rfl := Except.ok.inj first
      exact Nat.succ_pos _
    · obtain rfl := Except.ok.inj first
      exact Nat.succ_pos _
    · obtain ⟨call, called, first⟩ := ok_of_bind first
      obtain rfl := Except.ok.inj first
      obtain ⟨opened, _, called⟩ := ok_of_bind called
      obtain ⟨arguments, _, called⟩ := ok_of_bind called
      obtain rfl := Except.ok.inj called
      exact Nat.succ_pos _
    · obtain ⟨inner, grouped, first⟩ := ok_of_bind first
      obtain ⟨closed, _, first⟩ := ok_of_bind first
      obtain rfl := Except.ok.inj first
      exact Nat.lt_succ_of_lt (below _ inner grouped)
    · exact absurd first nofun

theorem signsBelow_readSigned (depth : Nat) : SignsBelow depth (readSigned depth) := by
  induction depth with
  | zero => exact fun tokens taken read => by cases tokens <;> exact absurd read nofun
  | succ depth ih =>
    intro tokens taken read
    match tokens with
    | [] => exact absurd read nofun
    | token :: tokens =>
      rw [readSigned] at read
      split at read
      · exact signsBelow_readUnsigned (signsBelow_readComparison ih) _ taken read
      · next sign found =>
        obtain ⟨operand, signed, read⟩ := ok_of_bind read
        obtain rfl := Except.ok.inj read
        have fewer := Nat.succ_lt_succ (ih tokens operand signed)
        cases sign with
        | plus => exact fewer
        | minus => exact fewer
        | percent => exact Nat.succ_pos _

end

/-- What is read within a limit has fewer signs in a row. -/
theorem signs_lt_of_read {limit : Nat} {formula : String} {e : Expr}
    (read : Expr.read limit formula = .ok e) : e.signs < limit := by
  obtain ⟨tokens, _, read⟩ := ok_of_bind read
  unfold Expr.ofTokens at read
  split at read
  · cases read
  · obtain ⟨whole, taken, read⟩ := ok_of_bind read
    have few := signsBelow_readComparison (signsBelow_readSigned limit) tokens whole taken
    split at read
    · obtain rfl := Except.ok.inj read
      exact few
    · cases read

/-- Which operands and arguments are written in parentheses. -/
structure Style where
  operand : Expr → Bool
  argument : Expr → Bool
  unary : ∀ operator e, operand (.unary operator e) = true
  binary : ∀ operator left right, operand (.binary operator left right) = true

def enclosed (needed : Bool) (text : String) : String := if needed then "(" ++ text ++ ")" else text

mutual

def Expr.write (style : Style) : Expr → String
  | .number value => value.text
  | .reference address => address
  | .range corners => corners.text
  | .unary .percent operand => enclosed (style.operand operand) (operand.write style) ++ "%"
  | .unary operator operand =>
    operator.symbol ++ enclosed (style.operand operand) (operand.write style)
  | .binary operator left right =>
    enclosed (style.operand left) (left.write style) ++ operator.symbol
      ++ enclosed (style.operand right) (right.write style)
  | .call name arguments => name ++ "(" ++ writeArguments style arguments ++ ")"

def writeArguments (style : Style) : List Expr → String
  | [] => ""
  | [last] => enclosed (style.argument last) (last.write style)
  | first :: next :: others =>
    enclosed (style.argument first) (first.write style) ++ ","
      ++ writeArguments style (next :: others)

end

/-- The level that an expression is on when it is written without parentheses around it. -/
def Expr.level : Expr → Level
  | .unary _ _ => .comparison
  | .binary _ _ _ => .comparison
  | _ => .primary

/-- An expression whose numbers are finite and have no sign, whose cells are spelled with capitals and
plain digits and whose functions have names in capitals. -/
inductive Expr.Plain : Expr → Prop where
  | number (units : Nat) (fits : Binary64.Representable units) :
      Plain (.number (.finite false units fits))
  | reference {address : Address} (cell : PlainCell address.toList) : Plain (.reference address)
  | range {corners : Range} (first : PlainCell corners.first.toList)
      (last : PlainCell corners.last.toList) : Plain (.range corners)
  | unary (operator : UnaryOperator) {operand : Expr} (plain : Plain operand) :
      Plain (.unary operator operand)
  | binary (operator : BinaryOperator) {left right : Expr} (first : Plain left)
      (second : Plain right) : Plain (.binary operator left right)
  | call {name : String} {arguments : List Expr} (named : PlainName name.toList)
      (each : ∀ argument ∈ arguments, Plain argument) : Plain (.call name arguments)

/-- The text of an expression as a formula, perhaps with an equals sign before it. -/
def Expr.formula (style : Style) (equals : Bool) (e : Expr) : String :=
  if equals then "=" ++ e.write style else e.write style

section
variable {position : Nat} {tokens : List Token} {level : Level} {e : Expr}

theorem toList_enclosed (text : String) :
    (enclosed true text).toList = '(' :: (text.toList ++ [')']) := by
  simp [Formula.enclosed]

theorem scans_operand {text : String} {needed : Bool} (scans : Scans level text.toList e)
    (alone : needed = false → level = .primary) : Scans .primary (enclosed needed text).toList e := by
  cases needed with
  | true =>
    rw [toList_enclosed]
    exact scans.enclosed
  | false => exact alone rfl ▸ scans

theorem scans_argument {text : String} (needed : Bool) (scans : Scans level text.toList e) :
    Scans .comparison (enclosed needed text).toList e := by
  cases needed with
  | true =>
    rw [toList_enclosed]
    exact scans.enclosed.comparison
  | false => exact scans.comparison

theorem scansAll_writeArguments (style : Style) {arguments : List Expr}
    (each : ∀ argument ∈ arguments, Scans .comparison
      (enclosed (style.argument argument) (argument.write style)).toList argument) :
    ScansAll (writeArguments style arguments).toList arguments := by
  induction arguments with
  | nil =>
    rw [writeArguments]
    exact ⟨nofun, fun position rest _ => ⟨[], [], yields_nil position rest, rfl, nofun, .none⟩⟩
  | cons first others ih =>
    have here := each first List.mem_cons_self
    cases others with
    | nil =>
      rw [writeArguments]
      refine ⟨here.solid, fun position rest ends => ?_⟩
      obtain ⟨tokens, yields, derived⟩ := here.derives position rest ends
      exact ⟨[(tokens, first)], tokens, yields, rfl, by simpa using derived, .one tokens⟩
    | cons next others =>
      have there := ih fun argument inside => each argument (List.mem_cons_of_mem _ inside)
      rw [writeArguments, String.toList_append, String.toList_append]
      have comma : ∀ c ∈ ",".toList, isBlank c = false :=
        List.forall_mem_singleton.mpr (by decide)
      refine ⟨?_, fun position rest ends => ?_⟩
      · exact List.forall_mem_append.mpr
          ⟨List.forall_mem_append.mpr ⟨here.solid, comma⟩, there.solid⟩
      · rw [List.append_assoc]
        obtain ⟨piece, first, derived⟩ := here.derives position
          (",".toList ++ (writeArguments style (next :: others)).toList ++ rest)
          (ends_cons (by decide) _)
        obtain ⟨separator, separates, _, comma⟩ := exists_token [','] (next?_comma _) _
        obtain ⟨pieces, tokens, rows, same, all, separated⟩ := there.derives _ rest ends
        obtain ⟨second, more, rfl⟩ : ∃ second more, pieces = second :: more := by
          cases pieces with
          | nil => cases same
          | cons second more => exact ⟨second, more, rfl⟩
        refine ⟨(piece, _) :: second :: more, piece ++ ([separator] ++ tokens),
          first.append (comma.append rows), congrArg _ same, ?_, .more piece separates separated⟩
        intro found inside
        rcases List.mem_cons.mp inside with rfl | inside
        · exact derived
        · exact all found inside

theorem Style.level_of_operand {style : Style} (alone : style.operand e = false) :
    e.level = .primary := by
  cases e with
  | unary operator operand => cases (style.unary operator operand).symm.trans alone
  | binary operator left right => cases (style.binary operator left right).symm.trans alone
  | _ => rfl

/-- A plain expression is scanned to tokens of itself. -/
theorem Expr.Plain.scans_write (plain : e.Plain) (style : Style) :
    Scans e.level (e.write style).toList e := by
  induction plain with
  | number units fits =>
    rw [Expr.write]
    exact scans_number units fits
  | @reference address cell =>
    have scans := scans_reference cell.cellText.referenceText
    rwa [cell.cellText.cleanAddress, String.ofList_toList] at scans
  | @range corners first last =>
    have scans := scans_range first.cellText.referenceText last.cellText.referenceText
    rw [first.cellText.cleanAddress, last.cellText.cleanAddress, String.ofList_toList,
      String.ofList_toList] at scans
    have text : (Expr.write style (.range corners)).toList
        = corners.first.toList ++ ':' :: corners.last.toList := by
      simp [Expr.write, Range.text]
    rw [text]
    exact scans
  | unary operator plain ih =>
    have operand := scans_operand ih style.level_of_operand
    cases operator with
    | plus =>
      rw [Expr.write, String.toList_append]
      exact scans_signed (by decide) operand
      nofun
    | minus =>
      rw [Expr.write, String.toList_append]
      exact scans_signed (by decide) operand
      nofun
    | percent =>
      rw [Expr.write, String.toList_append]
      exact scans_percent operand
  | binary operator first second ih ihToo =>
    have left := scans_operand ih style.level_of_operand
    have right := scans_operand ihToo style.level_of_operand
    rw [Expr.write, String.toList_append, String.toList_append, List.append_assoc]
    exact scans_binary operator left right
  | @call name arguments named each ih =>
    have scans := scansAll_writeArguments style fun argument inside =>
      scans_argument (style.argument argument) (ih argument inside)
    have text : (Expr.write style (.call name arguments)).toList
        = name.toList ++ '(' :: ((writeArguments style arguments).toList ++ [')']) := by
      simp [Expr.write]
    rw [text]
    exact scans_call named scans

theorem length_le_of_scan {cs : List Char} (ok : scan position cs = .ok tokens) :
    tokens.length ≤ cs.length := by
  induction size : cs.length using Nat.strongRecOn generalizing position cs tokens with
  | ind n ih =>
    subst size
    rw [scan] at ok
    split at ok
    · obtain rfl := Except.ok.inj ok
      exact Nat.zero_le _
    · split at ok
      · cases ok
      · next taken rest found =>
        have fewer := length_lt_of_next? found
        exact (ih _ fewer ok rfl).trans fewer.le
      · next kind taken rest found =>
        have fewer := length_lt_of_next? found
        obtain ⟨others, inner, rfl⟩ := exists_of_map ok
        exact (Nat.succ_le_succ (ih _ fewer inner rfl)).trans fewer

theorem body_of_solid {text : String} (starts : ∃ c others, text.toList = c :: others ∧ c ≠ '=' ∧ c ≠ '>')
    (solid : ∀ c ∈ text.toList, isBlank c = false) :
    body text = text ∧ body ("=" ++ text) = text := by
  obtain ⟨c, others, shape, equal, _⟩ := starts
  have trimmed : Text.trim text = text := by
    rw [Text.trim, Text.trimList_eq_self solid, String.ofList_toList]
  have trimmedToo : Text.trim ("=" ++ text) = "=" ++ text := by
    rw [Text.trim, Text.trimList_eq_self, String.ofList_toList]
    rw [String.toList_append]
    exact List.forall_mem_append.mpr ⟨List.forall_mem_singleton.mpr (by decide), solid⟩
  constructor
  · rw [body, trimmed]
    split
    · next rest same => exact absurd (List.cons.inj (shape.symm.trans same)).1 equal
    · exact String.ofList_toList
  · rw [body, trimmedToo]
    split
    · next rest same =>
      rw [String.toList_append] at same
      rw [← (List.cons.inj same).2]
      exact String.ofList_toList
    · next other => exact absurd (String.toList_append ..) (other _)

theorem body_of_scans {text : String} (scans : Scans level text.toList e) :
    body text = text ∧ body ("=" ++ text) = text := body_of_solid scans.starts scans.solid

theorem tokenize_of_yields {text : String} (yields : Yields 0 text.toList [] tokens) :
    tokenize text = .ok tokens := by
  have whole : scan 0 (text.toList ++ []) = _ := yields
  rw [List.append_nil] at whole
  rw [tokenize, whole, scan, List.isEmpty_nil, if_pos rfl]
  simp [Except.map]

/-- The text of a plain expression is tokens of itself, however deep it is nested. -/
theorem Expr.Plain.exists_tokens (plain : e.Plain) (style : Style) (equals : Bool) :
    ∃ tokens, Derives .comparison tokens e ∧ tokens.length ≤ (e.formula style equals).length ∧
      ∀ limit, Expr.read limit (e.formula style equals) = Expr.ofTokens limit tokens := by
  have scans := plain.scans_write style
  obtain ⟨tokens, yields, derived⟩ := scans.derives 0 [] nofun
  have tokenized := tokenize_of_yields yields
  have longer : (e.write style).length ≤ (e.formula style equals).length := by
    cases equals with
    | true => simp [Expr.formula]
    | false => exact Nat.le_refl _
  have body : body (e.formula style equals) = e.write style := by
    cases equals with
    | true => exact (body_of_scans scans).2
    | false => exact (body_of_scans scans).1
  have few : tokens.length ≤ (e.write style).length := length_le_of_scan tokenized
  refine ⟨tokens, derived.comparison, few.trans longer, fun limit => ?_⟩
  rw [Expr.read, body, tokenized]
  rfl

theorem Expr.Plain.read_of_length_lt (plain : e.Plain) (style : Style) (equals : Bool) {limit : Nat}
    (enough : (e.formula style equals).length < limit) :
    Expr.read limit (e.formula style equals) = .ok e := by
  obtain ⟨tokens, derived, few, reads⟩ := plain.exists_tokens style equals
  rw [reads]
  exact ofTokens_of_derives derived (few.trans_lt enough)

/-- A plain expression is read back from its text, whatever else stands in parentheses, unless the
limit of nesting stops the reading; a limit above the length of the text does not. -/
theorem read_formula (plain : e.Plain) (style : Style) (equals : Bool) (limit : Nat) :
    ((e.formula style equals).length < limit → Expr.read limit (e.formula style equals) = .ok e) ∧
      (Expr.read limit (e.formula style equals) ≠ .error .nestedTooDeep →
        Expr.read limit (e.formula style equals) = .ok e) := by
  refine ⟨plain.read_of_length_lt style equals, fun shallow => ?_⟩
  obtain ⟨tokens, derived, _, reads⟩ := plain.exists_tokens style equals
  rw [reads] at shallow ⊢
  exact (ofTokens_eq_ok_iff shallow e).mpr derived

end

/-- Parentheses stand only where they must. -/
def Style.sparse : Style where
  operand
    | .unary _ _ => true
    | .binary _ _ _ => true
    | _ => false
  argument _ := false
  unary _ _ := rfl
  binary _ _ _ := rfl

/-- A call in which cells, names, truth values and exponents are alike. -/
def alikeTree : Expr :=
  .call "MAX" [.unary .minus (.unary .percent (.reference "E5")),
    .binary (.comparison .less)
      (.number (.finite false (10 ^ 16 * Binary64.unitsOfOne) (by decide +kernel)))
      (.unary .plus (.number (.finite false 1 (by decide +kernel)))),
    .range ⟨"E1", "ABC05"⟩, .call "TRUE" [], .call "E5" [.reference "TRU1"]]

theorem plainCell_of_all (letters digits : List Char) (spelled : letters ≠ [] ∧ letters.length ≤ 3 ∧
    letters.all Address.isCapital = true ∧ digits ≠ [] ∧ digits.all Text.isPlainDigit = true) :
    PlainCell (letters ++ digits) := by
  obtain ⟨any, few, capital, some, numbered⟩ := spelled
  exact .intro any few (List.all_eq_true.mp capital) some (List.all_eq_true.mp numbered)

theorem plain_alikeTree : alikeTree.Plain := by
  have e5 : PlainCell "E5".toList := plainCell_of_all ['E'] ['5'] (by decide)
  have e1 : PlainCell "E1".toList := plainCell_of_all ['E'] ['1'] (by decide)
  have abc05 : PlainCell "ABC05".toList := plainCell_of_all ['A', 'B', 'C'] ['0', '5'] (by decide)
  have tru1 : PlainCell "TRU1".toList := plainCell_of_all ['T', 'R', 'U'] ['1'] (by decide)
  have max : PlainName "MAX".toList := .intro (.inl (by decide)) (List.all_eq_true.mp (by decide))
  have truth : PlainName "TRUE".toList := .intro (.inl (by decide)) (List.all_eq_true.mp (by decide))
  refine .call max ?_
  rintro argument (_ | ⟨_, _ | ⟨_, _ | ⟨_, _ | ⟨_, _ | ⟨_, ⟨⟩⟩⟩⟩⟩⟩)
  · exact .unary _ (.unary _ (.reference e5))
  · exact .binary _ (.number _ _) (.unary _ (.number _ _))
  · exact .range e1 abc05
  · exact .call truth nofun
  · refine .call e5.plainName ?_
    rintro argument (_ | ⟨_, ⟨⟩⟩)
    exact .reference tru1

theorem read_formula_of_alikeTree :
    alikeTree.formula .sparse true = "=MAX(-(E5%),1e+16<(+5e-324),E1:ABC05,TRUE(),E5(TRU1))" ∧
      Expr.read depthLimit "=MAX(-(E5%),1e+16<(+5e-324),E1:ABC05,TRUE(),E5(TRU1))"
        = .ok alikeTree := by
  have text : alikeTree.formula .sparse true
      = "=MAX(-(E5%),1e+16<(+5e-324),E1:ABC05,TRUE(),E5(TRU1))" := by decide +kernel
  refine ⟨text, ?_⟩
  rw [← text]
  refine (read_formula plain_alikeTree .sparse true depthLimit).1 ?_
  rw [text]
  decide

/-- With as many signs in a row as the limit allows levels, the text is read with more levels only. -/
theorem read_formula_of_le_signs {e : Expr} (plain : e.Plain) (style : Style) (equals : Bool)
    {limit : Nat} (deep : limit ≤ e.signs) :
    Expr.read limit (e.formula style equals) = .error .nestedTooDeep := by
  obtain ⟨tokens, derived, _, reads⟩ := plain.exists_tokens style equals
  by_contra shallow
  rw [reads] at shallow
  have read := (reads limit).trans ((ofTokens_eq_ok_iff shallow e).mpr derived)
  exact absurd (signs_lt_of_read read) (Nat.not_lt.mpr deep)

/-- A cell behind so many minus signs. -/
def negated (count : Nat) : Expr := Nat.repeat (.unary .minus) count (.reference "A1")

theorem signs_negated (count : Nat) : (negated count).signs = count := by
  induction count with
  | zero => rfl
  | succ count ih => exact congrArg Nat.succ ih

theorem plain_negated (count : Nat) : (negated count).Plain := by
  induction count with
  | zero => exact .reference (plainCell_of_all ['A'] ['1'] (by decide))
  | succ count ih => exact .unary .minus ih

/-- Two expressions that are not read back: one is nested too deeply, and zero with a sign is written
like a sign before zero. -/
theorem not_read_back : (negated 2000).Plain ∧
    Expr.read depthLimit ((negated 2000).formula .sparse true) = .error .nestedTooDeep ∧
    Expr.read depthLimit ((Expr.number (.signedZero true)).formula .sparse true)
      = .ok (.unary .minus (.number (.signedZero false))) := by
  have deep : depthLimit ≤ (negated 2000).signs := by
    rw [signs_negated]
    decide
  refine ⟨plain_negated 2000, read_formula_of_le_signs (plain_negated 2000) .sparse true deep, ?_⟩
  have plain : (Expr.unary .minus (.number (.signedZero false))).Plain := .unary .minus (.number 0 _)
  exact plain.read_of_length_lt .sparse true (by decide)

end SheetPricing.Formula
