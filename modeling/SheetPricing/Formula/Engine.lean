import SheetPricing.Action
import SheetPricing.Formula.Evaluation
import SheetPricing.Formula.Reading

/-!
# The formula engine

A formula is evaluated against one worksheet. The value of each cell that is read is kept in a
trace, in the order in which the values became known; a cell in the trace is not evaluated again.
The cells whose formulas are being evaluated form the path: a reference back into the path is
circular. The trace survives failures, the path does not. Nesting is limited, in reading and in
evaluation alike.
-/
namespace SheetPricing.Formula

/-- The cells read so far, with their values. -/
abbrev Trace := Table Address Binary64

abbrev EvalM := Action Failure Trace

/-- The expression of a formula, nested no deeper than given. -/
def readWithin (limit : Nat) (formula : String) : Except Failure Expr :=
  (Expr.read limit formula).mapError (.ofMalformation (body formula))

def readFormula (formula : String) : Except Failure Expr := readWithin depthLimit formula

/-- The value of the cell at an address, given how a formula is read and how an expression is
evaluated on a longer path. -/
def resolve (sheet : Worksheet) (read : String → Except Failure Expr)
    (evaluateOn : List Address → Expr → EvalM Binary64)
    (path : List Address) (address : Address) : EvalM Binary64 := do
  match (← get).get? address with
  | some value => return value
  | none =>
    if address ∈ path then throw (.circular address)
    let value ← cellValue sheet read (evaluateOn (address :: path)) address
    modify (·.put address value)
    return value

/-- The value of an expression on a path of cells, nested no deeper than given; the formulas of
cells are nested no deeper than the limit. -/
def evaluate (sheet : Worksheet) (limit : Nat) :
    (depth : Nat) → List Address → Expr → EvalM Binary64
  | 0, _, _ => throw .nestedTooDeep
  | depth + 1, path, e =>
    e.step sheet (evaluate sheet limit depth path)
      (resolve sheet (readWithin limit) (evaluate sheet limit depth) path)

/-- The finite value of a formula, with a limit for nesting. -/
def evaluateFormula (sheet : Worksheet) (limit : Nat) (formula : String) : EvalM Binary64 := do
  let tree ← orThrow (readWithin limit formula)
  let value ← evaluate sheet limit limit [] tree
  orThrow (requireFinite formula value)

/-- The outcome of a formula on a worksheet, with the trace that it leaves. -/
def run (sheet : Worksheet) (formula : String) (trace : Trace) :
    Except Failure Binary64 × Trace :=
  (evaluateFormula sheet depthLimit formula).on trace

/-- The outcome of a formula as it is told: its value, or the message that it has none. A fault is
not told. -/
def told (formula : String) : Except Failure Binary64 → Except Fault (Except String Binary64)
  | .ok value => .ok (.ok value)
  | .error failure => (failure.report formula).map .error

/-- What is collected from several formulas: the messages and the cells that were read. -/
structure Collected where
  errors : List String
  references : Table Address Binary64
  deriving DecidableEq

/-- The value of a formula, if it has one; otherwise its message is collected. -/
def evaluateCollecting (sheet : Worksheet) (formula : String) :
    Action Fault Collected (Option Binary64) := do
  let (outcome, trace) := run sheet formula .empty
  modify fun collected =>
    { collected with references := collected.references.putAll trace.entries }
  match ← Action.ofExcept (told formula outcome) with
  | .ok value => return some value
  | .error message =>
    modify fun collected => { collected with errors := collected.errors ++ [message] }
    return none

end SheetPricing.Formula
