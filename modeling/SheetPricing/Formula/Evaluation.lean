import SheetPricing.Formula.Failure
import SheetPricing.Workbook.Basic

/-!
# Evaluation, one layer

The meaning of each kind of expression in terms of the values of its parts and of the cells it
reads. How parts are evaluated and cells are read is a parameter, so that one meaning
serves every evaluator.
-/
namespace SheetPricing.Formula

/-- The functions that a formula can call. -/
inductive Function where
  | choose
  | sum
  | max
  | min
  | abs
  | round
  deriving DecidableEq, Repr

def Function.name : Function → String
  | .choose => "IF"
  | .sum => "SUM"
  | .max => "MAX"
  | .min => "MIN"
  | .abs => "ABS"
  | .round => "ROUND"

def Function.named? (name : String) : Option Function :=
  [Function.choose, .sum, .max, .min, .abs, .round].find? (·.name = name)

def UnaryOperator.apply : UnaryOperator → Binary64 → Binary64
  | .plus, x => x
  | .minus, x => -x
  | .percent, x => x / 100

def Comparison.holds : Comparison → Binary64 → Binary64 → Bool
  | .equal, x, y => x.equals y
  | .notEqual, x, y => !x.equals y
  | .less, x, y => x.lt y
  | .greater, x, y => y.lt x
  | .lessOrEqual, x, y => x.le y
  | .greaterOrEqual, x, y => y.le x

def powerFailure (base exponent : Binary64) : Binary64.PowerFailure → Failure
  | .zeroToNegative => .divisionByZero
  | .overflow => .powerOverflow
  | .notReal => .noRealPower base exponent

def Arithmetic.apply : Arithmetic → Binary64 → Binary64 → Except Failure Binary64
  | .add, x, y => .ok (x + y)
  | .subtract, x, y => .ok (x - y)
  | .multiply, x, y => .ok (x * y)
  | .divide, x, y => if y.isZero then .error .divisionByZero else .ok (x / y)
  | .power, x, y => (x.pow y).mapError (powerFailure x y)

/-- A truth value as a number. -/
def ofBool (b : Bool) : Binary64 := if b then 1 else 0

def BinaryOperator.apply : BinaryOperator → Binary64 → Binary64 → Except Failure Binary64
  | .arithmetic operator, x, y => operator.apply x y
  | .comparison operator, x, y => .ok (ofBool (operator.holds x y))

/-- The first of the greatest values; nothing has none greater than zero. -/
def greatest : List Binary64 → Binary64
  | [] => 0
  | first :: rest => rest.foldl (fun best x => if best.lt x then x else best) first

/-- The first of the least values. -/
def least : List Binary64 → Binary64
  | [] => 0
  | first :: rest => rest.foldl (fun best x => if x.lt best then x else best) first

def requireFinite (formula : String) (value : Binary64) : Except Failure Binary64 :=
  if value.isFinite then .ok value else .error (.notFinite value formula)

/-- A value rounded to a count of places, which loses its fraction first. -/
def roundTo (value digits : Binary64) : Except Failure Binary64 := do
  let digits ← requireFinite Function.round.name digits
  let value ← requireFinite Function.round.name value
  let places := digits.truncate?.getD 0
  (value.roundPlaces places).mapError fun amount => .cannotRound amount places

/-- Whether a member of a range counts: blank cells and those that hold no number do not. -/
def counts (sheet : Worksheet) (address : Address) : Bool :=
  match sheet.cell? address with
  | none => false
  | some (.other raw) => raw.numeral?.isSome
  | some _ => true

/-- The members of a range that count. -/
def members (sheet : Worksheet) (range : Range) : Except Failure (List Address) :=
  match range.addresses with
  | .error problem => .error (.ofRange range problem)
  | .ok addresses => .ok (addresses.filter (counts sheet))

/-- What a cell without a formula counts for when it is referred to: its number, or zero. -/
def plainValue (sheet : Worksheet) (address : Address) : Binary64 :=
  match sheet.cell? address with
  | some (.number value) => value
  | _ => ((sheet.numeric? address).filter fun value => !value.isZero).getD 0

section
variable {m : Type → Type} [Monad m] [MonadExceptOf Failure m]

/-- Fail where a computation without effects fails. -/
def orThrow {α : Type} : Except Failure α → m α
  | .ok value => pure value
  | .error failure => throw failure

/-- The values of the arguments of an aggregate, a range giving one for each member that counts. -/
def collect (sheet : Worksheet) (part : Expr → m Binary64) (read : Address → m Binary64) :
    List Expr → m (List Binary64)
  | [] => pure []
  | .range corners :: rest => do
    let addresses ← orThrow (members sheet corners)
    let values ← addresses.mapM read
    let others ← collect sheet part read rest
    return values ++ others
  | e :: rest => do
    let value ← part e
    let others ← collect sheet part read rest
    return value :: others

def callValue (sheet : Worksheet) (part : Expr → m Binary64) (read : Address → m Binary64) :
    Function → List Expr → m Binary64
  | .choose, [condition, chosen] => do
    let test ← part condition
    if test.equals 0 then pure 0 else part chosen
  | .choose, [condition, chosen, otherwise] => do
    let test ← part condition
    if test.equals 0 then part otherwise else part chosen
  | .choose, arguments => throw (.argumentCount "IF" "2 or 3 arguments" arguments.length)
  | .sum, arguments => do
    let values ← collect sheet part read arguments
    orThrow ((Binary64.sum values).mapError fun failure => .fault (.sum failure))
  | .max, arguments => do
    let values ← collect sheet part read arguments
    return greatest values
  | .min, arguments => do
    let values ← collect sheet part read arguments
    return least values
  | .abs, [argument] => do
    let value ← part argument
    return value.abs
  | .abs, arguments => throw (.argumentCount "ABS" "1 argument" arguments.length)
  | .round, [argument, places] => do
    let value ← part argument
    let digits ← part places
    orThrow (roundTo value digits)
  | .round, arguments => throw (.argumentCount "ROUND" "2 arguments" arguments.length)

/-- The value of an expression, given how its parts are evaluated and cells are read. -/
def Expr.step (sheet : Worksheet) (part : Expr → m Binary64) (read : Address → m Binary64) :
    Expr → m Binary64
  | .number value => pure value
  | .reference address => read address
  | .range corners => throw (.loneRange corners)
  | .unary operator operand => do
    let value ← part operand
    return operator.apply value
  | .binary operator left right => do
    let x ← part left
    let y ← part right
    orThrow (operator.apply x y)
  | .call name arguments =>
    match Function.named? name with
    | none => throw (.unknownFunction name)
    | some function => callValue sheet part read function arguments

/-- The value of a cell, given how a formula is read and how its expression is evaluated. -/
def cellValue (sheet : Worksheet) (read : String → Except Failure Expr)
    (evaluate : Expr → m Binary64) (address : Address) : m Binary64 :=
  match sheet.cell? address with
  | some (.formula text _) => do
    let tree ← orThrow (read text)
    let value ← evaluate tree
    orThrow (requireFinite text value)
  | _ => pure (plainValue sheet address)

end

end SheetPricing.Formula
