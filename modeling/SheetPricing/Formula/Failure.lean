import SheetPricing.Binary64.Power
import SheetPricing.Binary64.Sum
import SheetPricing.Decimal.Rounding
import SheetPricing.Formula.Range
import SheetPricing.Formula.Token

/-!
# Failures

Why a formula has no value. Most failures are reported as text next to a missing value; a fault is
not, it ends the whole calculation.
-/
namespace SheetPricing.Formula

/-- What ends a calculation without a report. -/
inductive Fault where
  | sum (failure : Binary64.SumFailure)
  | countTooLong
  deriving DecidableEq, Repr

/-- Counts with more digits than this are not written. -/
def maxCountDigits : Nat := 4300

def Fault.message : Fault → String
  | .sum .overflow => "intermediate overflow in fsum"
  | .sum .oppositeInfinities => "-inf + inf in fsum"
  | .countTooLong =>
    s!"Exceeds the limit ({maxCountDigits} digits) for integer string conversion; "
      ++ "use sys.set_int_max_str_digits() to increase the limit"

inductive Failure where
  | malformed (formula : String) (reason : Malformation)
  | loneRange (range : Range)
  | unknownFunction (name : String)
  | argumentCount (name expected : String) (given : Nat)
  | divisionByZero
  | powerOverflow
  | noRealPower (base exponent : Binary64)
  | circular (address : Address)
  | invalidRange (range : Range)
  | rangeTooLarge (range : Range) (count : Int)
  | notFinite (value : Binary64) (formula : String)
  | cannotRound (value : Amount) (places : Int)
  | nestedTooDeep
  | fault (cause : Fault)
  deriving DecidableEq

namespace Failure

/-- The message about an amount that cannot be rounded. -/
def roundingMessage (value : Amount) (places : Int) : String :=
  s!"Cannot round {value.text} to {Decimal.limitPlaces places} digits"

def message : Failure → String
  | .malformed _ reason => reason.message
  | .loneRange range => s!"Range {range.text} is only allowed inside SUM, MAX or MIN"
  | .unknownFunction name => s!"Unsupported function {name}()"
  | .argumentCount name expected given => s!"{name}() takes {expected}, got {given}"
  | .divisionByZero => "#DIV/0! division by zero"
  | .powerOverflow => "Numeric overflow in '^'"
  | .noRealPower base exponent => s!"#NUM! {base.text} ^ {exponent.text} has no real result"
  | .circular address => s!"Circular reference through {address}"
  | .invalidRange range => s!"Invalid range {range.text}"
  | .rangeTooLarge range count => s!"Range {range.text} is too large ({count} cells)"
  | .notFinite value _ => s!"Formula produced a non-finite value: {value.text}"
  | .cannotRound value places => roundingMessage value places
  | .nestedTooDeep => "Nested too deeply"
  | .fault cause => cause.message

/-- The formula that a failure names besides its message. -/
def formula? : Failure → Option String
  | .malformed formula _ => some formula
  | .notFinite _ formula => some formula
  | _ => none

/-- The failure of a formula that cannot be read. -/
def ofMalformation (formula : String) : Malformation → Failure
  | .nestedTooDeep => .nestedTooDeep
  | reason => .malformed formula reason

/-- The failure of a range that cannot be listed. A count that is too long to be written is a
fault. -/
def ofRange (range : Range) : Range.Problem → Failure
  | .invalid => .invalidRange range
  | .tooLarge count =>
    if maxCountDigits < digitCount count.natAbs then .fault .countTooLong
    else .rangeTooLarge range count

/-- The report about a formula that has no value, or the fault that ends the calculation. -/
def report (formula : String) : Failure → Except Fault String
  | .fault cause => .error cause
  | .nestedTooDeep => .ok s!"Formula {Text.quoted formula} is nested too deeply to evaluate"
  | failure => .ok s!"Formula {Text.quoted formula} could not be evaluated: {failure.message}"

end Failure
end SheetPricing.Formula
