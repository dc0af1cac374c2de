import SheetPricing.Decimal.Layout
import SheetPricing.Workbook.Address

/-!
# Expressions

The tree of a formula. Operators that compute and operators that compare are told apart.
-/
namespace SheetPricing.Formula

inductive UnaryOperator where
  | plus
  | minus
  | percent
  deriving DecidableEq, Repr

def UnaryOperator.symbol : UnaryOperator → String
  | .plus => "+"
  | .minus => "-"
  | .percent => "%"

inductive Arithmetic where
  | add
  | subtract
  | multiply
  | divide
  | power
  deriving DecidableEq, Repr

def Arithmetic.symbol : Arithmetic → String
  | .add => "+"
  | .subtract => "-"
  | .multiply => "*"
  | .divide => "/"
  | .power => "^"

inductive Comparison where
  | equal
  | notEqual
  | less
  | greater
  | lessOrEqual
  | greaterOrEqual
  deriving DecidableEq, Repr

def Comparison.symbol : Comparison → String
  | .equal => "="
  | .notEqual => "<>"
  | .less => "<"
  | .greater => ">"
  | .lessOrEqual => "<="
  | .greaterOrEqual => ">="

inductive BinaryOperator where
  | arithmetic (operator : Arithmetic)
  | comparison (operator : Comparison)
  deriving DecidableEq, Repr

def BinaryOperator.symbol : BinaryOperator → String
  | .arithmetic operator => operator.symbol
  | .comparison operator => operator.symbol

/-- Two corners of a range, as they are written but for case, blanks and fixing marks. -/
structure Range where
  first : Address
  last : Address
  deriving DecidableEq, Repr

def Range.text (range : Range) : String := range.first ++ ":" ++ range.last

inductive Expr where
  | number (value : Binary64)
  | reference (address : Address)
  | range (range : Range)
  | unary (operator : UnaryOperator) (operand : Expr)
  | binary (operator : BinaryOperator) (left right : Expr)
  | call (name : String) (arguments : List Expr)
  deriving Inhabited

namespace Expr

mutual

/-- The items of an expression with every operator before its operands, in front of other items. -/
def itemsBefore : Expr → List String → List String
  | .number value, after => value.text :: after
  | .reference address, after => address :: after
  | .range corners, after => ("[" ++ corners.text ++ "]") :: after
  | .unary operator operand, after =>
    ("(u" ++ operator.symbol) :: itemsBefore operand (")" :: after)
  | .binary operator left right, after =>
    ("(" ++ operator.symbol) :: itemsBefore left (itemsBefore right (")" :: after))
  | .call name arguments, after =>
    ("(" ++ name ++ "()") :: argumentItemsBefore arguments (")" :: after)

def argumentItemsBefore : List Expr → List String → List String
  | [], after => after
  | argument :: rest, after => itemsBefore argument (argumentItemsBefore rest after)

end

/-- An expression written with every operator before its operands. -/
def outline (e : Expr) : String := " ".intercalate (itemsBefore e [])

end Expr
end SheetPricing.Formula
