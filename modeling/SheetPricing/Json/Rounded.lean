import SheetPricing.Decimal.Rounding
import SheetPricing.Json.Shown

/-!
# Rounding any value

Only numbers can be rounded, to a whole count of places. Any other value is refused as it is shown;
a count of places that cannot be compared with the limits, or that is a fraction, is told first.
-/
namespace SheetPricing

/-- Why a value is not rounded. -/
inductive RoundFault where
  | refused (value places : String)
  | notComparable (kind : String)
  | fractionalPlaces
  deriving DecidableEq, Repr

def RoundFault.message : RoundFault → String
  | .refused value places => s!"Cannot round {value} to {places} digits"
  | .notComparable kind => s!"'<' not supported between instances of '{kind}' and 'int'"
  | .fractionalPlaces => "conversion from float to Decimal is not supported"

namespace Json

/-- A count of places within the limits. -/
def places : Json → Except RoundFault Int
  | .integer count => .ok (Decimal.limitPlaces count)
  | .bool value => .ok (if value then 1 else 0)
  | .real count =>
    if !count.lt (Binary64.ofInt Decimal.placesLimit) then .ok Decimal.placesLimit
    else if !(Binary64.ofInt (-Decimal.placesLimit)).lt count then .ok (-Decimal.placesLimit)
    else .error .fractionalPlaces
  | value => .error (.notComparable value.kindName)

/-- The places in a message: a truth value stays one. -/
def placesText (given : Json) (count : Int) : String :=
  match given with
  | .bool value => (Json.bool value).shown
  | _ => toString count

/-- The number that a value is. -/
def amount? : Json → Option Amount
  | .integer value => some (.whole value)
  | .real value => some (.real value)
  | _ => none

/-- Round a value to a count of places. -/
def round (value given : Json) : Except RoundFault Binary64 := do
  let count ← given.places
  match value.amount?.bind fun amount => (amount.round count).toOption with
  | some rounded => return rounded
  | none => throw (.refused value.message (given.placesText count))

end Json
end SheetPricing
