import SheetPricing.Formula.Reading

/-! The grammar of formulas, apart from any way to read them:

    comparison = sum [("=" | "<>" | "<" | ">" | "<=" | ">=") sum]
    sum        = product {("+" | "-") product}
    product    = power {("*" | "/") power}
    power      = signed {"^" signed}
    signed     = ("+" | "-") signed | percent
    percent    = primary {"%"}
    primary    = number | truth value | cell | range | name "(" arguments ")" | "(" comparison ")"

Arguments are none, or comparisons with a separator between each two. Rows of operators group from
the left, and so do percents. -/
namespace SheetPricing.Formula

/-- The levels of the grammar, from the loosest to the tightest. -/
inductive Level where
  | comparison
  | sum
  | product
  | power
  | signed
  | percent
  | primary
  deriving DecidableEq, Repr

namespace Level

def tighter? : Level → Option Level
  | comparison => some sum
  | sum => some product
  | product => some power
  | power => some signed
  | signed => some percent
  | percent => some primary
  | primary => none

/-- The operators that stand between two operands of the next level. -/
def operators : Level → List Arithmetic
  | sum => [.add, .subtract]
  | product => [.multiply, .divide]
  | power => [.power]
  | _ => []

end Level

def Token.IsOperator (token : Token) (symbol : String) : Prop :=
  token.kind = .operator ∧ token.text = symbol

instance (token : Token) (symbol : String) : Decidable (token.IsOperator symbol) :=
  inferInstanceAs (Decidable (_ ∧ _))

/-- Pieces of a list of tokens with a separator between each two. -/
inductive Separated : List (List Token) → List Token → Prop
  | none : Separated [] []
  | one (piece) : Separated [piece] piece
  | more (piece) {next others separator tokens} (separates : separator.kind = .separator)
      (rest : Separated (next :: others) tokens) :
      Separated (piece :: next :: others) (piece ++ separator :: tokens)

/-- That some tokens make an expression of a level. -/
inductive Derives : Level → List Token → Expr → Prop
  | tighter {level next tokens e} (below : level.tighter? = some next)
      (same : Derives next tokens e) : Derives level tokens e
  | row {level next tokens others token left right} {operator : Arithmetic}
      (first : Derives level tokens left) (listed : operator ∈ level.operators)
      (between : token.IsOperator operator.symbol) (below : level.tighter? = some next)
      (second : Derives next others right) :
      Derives level (tokens ++ token :: others) (.binary (.arithmetic operator) left right)
  | compared {tokens others token left right} {operator : Comparison}
      (first : Derives .sum tokens left) (between : token.IsOperator operator.symbol)
      (second : Derives .sum others right) :
      Derives .comparison (tokens ++ token :: others) (.binary (.comparison operator) left right)
  | sign {tokens token operand} {operator : UnaryOperator}
      (listed : operator ∈ [UnaryOperator.plus, .minus])
      (before : token.IsOperator operator.symbol) (rest : Derives .signed tokens operand) :
      Derives .signed (token :: tokens) (.unary operator operand)
  | percent {tokens token operand} (first : Derives .percent tokens operand)
      (behind : token.IsOperator UnaryOperator.percent.symbol) :
      Derives .percent (tokens ++ [token]) (.unary .percent operand)
  | number {token value} (kind : token.kind = .number)
      (read : Numeral.read? token.text = some value) : Derives .primary [token] (.number value)
  | truth {token} (kind : token.kind = .boolean) :
      Derives .primary [token] (.number (truthValue token.text))
  | cell {token} (kind : token.kind = .reference) :
      Derives .primary [token] (.reference (cleanAddress token.text.toList))
  | range {token} (kind : token.kind = .range) :
      Derives .primary [token] (.range (cleanRange token.text))
  | call {name opening closing tokens} (pieces : List (List Token × Expr))
      (kind : name.kind = .function) (opens : opening.kind = .leftParenthesis)
      (each : ∀ piece ∈ pieces, Derives .comparison piece.1 piece.2)
      (separated : Separated (pieces.map Prod.fst) tokens)
      (closes : closing.kind = .rightParenthesis) :
      Derives .primary (name :: opening :: (tokens ++ [closing]))
        (.call (Text.capitalize name.text) (pieces.map Prod.snd))
  | group {opening closing tokens e} (opens : opening.kind = .leftParenthesis)
      (inner : Derives .comparison tokens e) (closes : closing.kind = .rightParenthesis) :
      Derives .primary (opening :: (tokens ++ [closing])) e

theorem Arithmetic.symbol_injective {a b : Arithmetic} (same : a.symbol = b.symbol) : a = b := by
  cases a <;> cases b <;> first | rfl | exact absurd same (by decide)

theorem Comparison.symbol_injective {a b : Comparison} (same : a.symbol = b.symbol) : a = b := by
  cases a <;> cases b <;> first | rfl | exact absurd same (by decide)

private theorem find?_symbol_iff {α : Type} {symbol : α → String}
    (injective : ∀ {a b}, symbol a = symbol b → a = b) {xs : List α} {text : String} {x : α} :
    xs.find? (fun a => symbol a = text) = some x ↔ x ∈ xs ∧ symbol x = text := by
  constructor
  · intro found
    exact ⟨List.mem_of_find?_eq_some found, by simpa using List.find?_some found⟩
  · rintro ⟨listed, same⟩
    rcases found : xs.find? (fun a => symbol a = text) with _ | other
    · have := List.find?_eq_none.mp found x listed
      simp [same] at this
    · have text : symbol other = text := by simpa using List.find?_some found
      rw [injective (text.trans same.symm)]

theorem Token.among_eq_some_iff {operators : List Arithmetic} {token : Token}
    {operator : Arithmetic} : token.among operators = some operator ↔
      operator ∈ operators ∧ token.IsOperator operator.symbol := by
  unfold Token.among Token.IsOperator
  by_cases kind : token.kind = .operator
  · rw [if_pos kind, find?_symbol_iff Arithmetic.symbol_injective]
    simp [kind, eq_comm]
  · simp [kind]

theorem Token.comparison?_eq_some_iff {token : Token} {operator : Comparison} :
    token.comparison? = some operator ↔ token.IsOperator operator.symbol := by
  have listed : operator ∈ comparisons := by cases operator <;> decide
  unfold Token.comparison? Token.IsOperator
  by_cases kind : token.kind = .operator
  · rw [if_pos kind, find?_symbol_iff Comparison.symbol_injective]
    simp [kind, listed, eq_comm]
  · simp [kind]

theorem Token.sign?_eq_some_iff {token : Token} {operator : UnaryOperator} :
    token.sign? = some operator ↔
      operator ∈ [UnaryOperator.plus, .minus] ∧ token.IsOperator operator.symbol := by
  unfold Token.sign? Token.IsOperator
  by_cases kind : token.kind = .operator
  · by_cases plus : token.text = "+"
    · cases operator <;> simp [kind, plus, UnaryOperator.symbol]
    · by_cases minus : token.text = "-"
      · cases operator <;> simp [kind, minus, UnaryOperator.symbol]
      · cases operator <;> simp [kind, plus, minus, UnaryOperator.symbol]
  · simp [kind]

theorem Token.isPercent_iff {token : Token} :
    token.isPercent = true ↔ token.IsOperator UnaryOperator.percent.symbol := by
  simp [Token.isPercent, Token.IsOperator, UnaryOperator.symbol]

end SheetPricing.Formula
