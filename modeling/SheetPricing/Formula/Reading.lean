import SheetPricing.Decimal.Numeral
import SheetPricing.Formula.Expr
import SheetPricing.Formula.Token

/-!
# Reading expressions

From the loosest to the tightest an expression is: at most one comparison, sums, products, powers,
signs, percents, and what stands alone. Operators of one row are taken from left to right, powers
too. Each reader says that it leaves fewer tokens than it was given, so rows of operators end by the
count of tokens; only nesting is bounded, by a depth.
-/
namespace SheetPricing.Formula

/-- A value read from the front of some tokens, with the tokens that are left. -/
structure Taken (α : Type) (tokens : List Token) where
  value : α
  rest : List Token
  fewer : rest.length < tokens.length

/-- A value with tokens that are left, perhaps all of them. -/
structure Kept (α : Type) (tokens : List Token) where
  value : α
  rest : List Token
  within : rest.length ≤ tokens.length

abbrev Reader (α : Type) := (tokens : List Token) → Except Malformation (Taken α tokens)

/-- The sign that an operator token can be. -/
def Token.sign? (token : Token) : Option UnaryOperator :=
  if token.kind ≠ .operator then none
  else if token.text = "+" then some .plus
  else if token.text = "-" then some .minus
  else none

def Token.isPercent (token : Token) : Bool := token.kind == .operator && token.text == "%"

/-- The operator of a list that a token is. -/
def Token.among (operators : List Arithmetic) (token : Token) : Option Arithmetic :=
  if token.kind = .operator then operators.find? (·.symbol = token.text) else none

def comparisons : List Comparison :=
  [.equal, .notEqual, .less, .greater, .lessOrEqual, .greaterOrEqual]

def Token.comparison? (token : Token) : Option Comparison :=
  if token.kind = .operator then comparisons.find? (·.symbol = token.text) else none

/-- Go on with a row of operators, each taking what was read so far as its left side. -/
def extendRow (operators : List Arithmetic) (operand : Reader Expr) (left : Expr)
    (tokens : List Token) : Except Malformation (Kept Expr tokens) :=
  match tokens with
  | [] => .ok ⟨left, [], Nat.le_refl _⟩
  | token :: rest =>
    match token.among operators with
    | none => .ok ⟨left, token :: rest, Nat.le_refl _⟩
    | some operator => do
      let right ← operand rest
      let row ← extendRow operators operand (.binary (.arithmetic operator) left right.value)
        right.rest
      return ⟨row.value, row.rest, by
        have := row.within; have := right.fewer; simp only [List.length_cons]; omega⟩
termination_by tokens.length
decreasing_by have := right.fewer; simp only [List.length_cons]; omega

/-- A row of operands with operators of one rank between them. -/
def readRow (operators : List Arithmetic) (operand : Reader Expr) : Reader Expr := fun tokens => do
  let first ← operand tokens
  let row ← extendRow operators operand first.value first.rest
  return ⟨row.value, row.rest, by have := row.within; have := first.fewer; omega⟩

def readPower (signed : Reader Expr) : Reader Expr := readRow [.power] signed

def readProduct (signed : Reader Expr) : Reader Expr :=
  readRow [.multiply, .divide] (readPower signed)

def readSum (signed : Reader Expr) : Reader Expr :=
  readRow [.add, .subtract] (readProduct signed)

/-- An expression, given how its signed parts are read: a sum, or two sums compared. -/
def readComparison (signed : Reader Expr) : Reader Expr := fun tokens => do
  let left ← readSum signed tokens
  match shape : left.rest with
  | [] => return left
  | token :: rest =>
    match token.comparison? with
    | none => return left
    | some operator =>
      let right ← readSum signed rest
      return ⟨.binary (.comparison operator) left.value right.value, right.rest, by
        have := right.fewer; have := left.fewer; rw [shape, List.length_cons] at this; omega⟩

/-- The percent signs behind an operand. -/
def readPercents (operand : Expr) : (tokens : List Token) → Kept Expr tokens
  | [] => ⟨operand, [], Nat.le_refl _⟩
  | token :: rest =>
    if token.isPercent then
      let percents := readPercents (.unary .percent operand) rest
      ⟨percents.value, percents.rest, Nat.le_succ_of_le percents.within⟩
    else ⟨operand, token :: rest, Nat.le_refl _⟩

def readToken (kind : TokenKind) : Reader Token
  | [] => .error .unexpectedEnd
  | token :: rest =>
    if token.kind = kind then .ok ⟨token, rest, Nat.lt_succ_self _⟩
    else .error (.expected kind token)

/-- Arguments up to the closing parenthesis; there is at least one. -/
def readArguments (argument : Reader Expr) (function : String) (tokens : List Token) :
    Except Malformation (Taken (List Expr) tokens) := do
  let first ← argument tokens
  match shape : first.rest with
  | [] => throw .unexpectedEnd
  | token :: rest =>
    have := first.fewer
    if token.kind = .rightParenthesis then
      return ⟨[first.value], rest, by rw [shape, List.length_cons] at this; omega⟩
    else if token.kind = .separator then
      let more ← readArguments argument function rest
      return ⟨first.value :: more.value, more.rest, by
        have := more.fewer; rw [shape, List.length_cons] at *; omega⟩
    else throw (.badArguments function token)
termination_by tokens.length
decreasing_by rw [shape, List.length_cons] at this; omega

/-- Arguments up to the closing parenthesis, perhaps none. -/
def readArgumentList (argument : Reader Expr) (function : String) : Reader (List Expr)
  | token :: rest =>
    if token.kind = .rightParenthesis then .ok ⟨[], rest, Nat.lt_succ_self _⟩
    else readArguments argument function (token :: rest)
  | [] => readArguments argument function []

/-- The arguments of a call behind the function's name. -/
def readCall (argument : Reader Expr) (function : String) : Reader Expr := fun tokens => do
  let opened ← readToken .leftParenthesis tokens
  let arguments ← readArgumentList argument function opened.rest
  return ⟨.call function arguments.value, arguments.rest,
    Nat.lt_trans arguments.fewer opened.fewer⟩

/-- The address that a token writes: fixing marks, spaces and the case of letters do not count. -/
def cleanAddress (cs : List Char) : Address :=
  Text.capitalize (String.ofList (cs.filter fun c => c != '$' && c != ' '))

/-- The range that a token writes: two corners with a colon between them. -/
def cleanRange (s : String) : Range :=
  let cs := s.toList
  ⟨cleanAddress (cs.takeWhile (· != ':')), cleanAddress ((cs.dropWhile (· != ':')).drop 1)⟩

/-- The number that a token writes. -/
def Token.number (token : Token) : Binary64 := (Numeral.read? token.text).getD .nan

theorem Token.read?_text {token : Token} (kind : token.kind = .number) :
    Numeral.read? token.text = some token.number := by
  have kept := token.kept
  rw [kind] at kept
  obtain ⟨value, read⟩ := Option.isSome_iff_exists.mp kept
  simp [Token.number, read]

/-- The truth value that a token writes. -/
def truthValue (s : String) : Binary64 := if Text.capitalize s = "TRUE" then 1 else 0

/-- What stands alone: a number, a cell, a range, a call, or an expression in parentheses. -/
def readPrimary (inner : Reader Expr) : Reader Expr
  | [] => .error .unexpectedEnd
  | token :: rest =>
    let alone (value : Expr) : Except Malformation (Taken Expr (token :: rest)) :=
      .ok ⟨value, rest, Nat.lt_succ_self _⟩
    match token.kind with
    | .number => alone (.number token.number)
    | .boolean => alone (.number (truthValue token.text))
    | .reference => alone (.reference (cleanAddress token.text.toList))
    | .range => alone (.range (cleanRange token.text))
    | .function => do
      let call ← readCall inner (Text.capitalize token.text) rest
      return ⟨call.value, call.rest, Nat.lt_succ_of_lt call.fewer⟩
    | .leftParenthesis => do
      let value ← inner rest
      let closed ← readToken .rightParenthesis value.rest
      return ⟨value.value, closed.rest, by
        have := value.fewer; have := closed.fewer; simp only [List.length_cons]; omega⟩
    | _ => .error (.unexpected token)

/-- An operand with its percents behind it. -/
def readUnsigned (inner : Reader Expr) : Reader Expr := fun tokens => do
  let operand ← readPrimary inner tokens
  let percents := readPercents operand.value operand.rest
  return ⟨percents.value, percents.rest, Nat.lt_of_le_of_lt percents.within operand.fewer⟩

/-- An operand with its signs before it, nested no deeper than given. -/
def readSigned : (depth : Nat) → Reader Expr
  | 0, _ => .error .nestedTooDeep
  | _ + 1, [] => .error .unexpectedEnd
  | depth + 1, token :: rest =>
    match token.sign? with
    | none => readUnsigned (readComparison (readSigned depth)) (token :: rest)
    | some sign => do
      let operand ← readSigned depth rest
      return ⟨.unary sign operand.value, operand.rest, Nat.lt_succ_of_lt operand.fewer⟩

/-- The expression of a whole row of tokens. -/
def Expr.ofTokens (depth : Nat) (tokens : List Token) : Except Malformation Expr :=
  if tokens.isEmpty then .error .empty
  else do
    let whole ← readComparison (readSigned depth) tokens
    match whole.rest with
    | [] => return whole.value
    | token :: _ => throw (.unexpected token)

/-- Formulas may be nested this deep. -/
def depthLimit : Nat := 480

/-- The text of a formula without the blanks around it and one equals sign before it. -/
def body (formula : String) : String :=
  match (Text.trim formula).toList with
  | '=' :: rest => String.ofList rest
  | cs => String.ofList cs

/-- The expression that a formula writes, nested no deeper than given. -/
def Expr.read (limit : Nat) (formula : String) : Except Malformation Expr :=
  (tokenize (body formula)).bind (Expr.ofTokens limit)

end SheetPricing.Formula
