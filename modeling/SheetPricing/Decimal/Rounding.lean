import SheetPricing.Decimal.Layout

/-!
# Rounding to decimal places

A number is rounded as it is written: its shortest decimal goes to the nearest multiple of the
decimal place, an exact half away from zero, and the result is read back.
-/
namespace SheetPricing

/-- What can be rounded: an integer of any size, or a binary number. -/
inductive Amount where
  | whole (value : Int)
  | real (value : Binary64)
  deriving DecidableEq

namespace Amount

def text : Amount → String
  | .whole value => toString value
  | .real value => value.text

/-- The decimal that is written for a finite amount. -/
def written? : Amount → Option Decimal
  | .whole value => some ⟨decide (value < 0), value.natAbs, 0⟩
  | .real (.finite negative units _) => some (Binary64.shortest negative units)
  | .real _ => none

end Amount

namespace Decimal

/-- Beyond this many places on either side a binary number has no digits left to round. -/
def placesLimit : Int := 340

/-- A rounded decimal has at most this many digits. -/
def precision : Nat := 1000

/-- A count of places, limited to both sides. -/
def limitPlaces (places : Int) : Int := max (-placesLimit) (min placesLimit places)

end Decimal

/-- Round an amount to a count of decimal places, an exact half going away from zero. What is not
a number stays so; an infinite amount, or one with too many digits, is the error. -/
def Amount.round (value : Amount) (places : Int) : Except Amount Binary64 :=
  let places := Decimal.limitPlaces places
  match value with
  | .real .nan => .ok .nan
  | _ =>
    match value.written? with
    | none => .error value
    | some decimal =>
      let rounded := decimal.roundTo places
      if Decimal.precision < digitCount rounded.coefficient then .error value
      else .ok rounded.toBinary64

/-- Round a binary number to a count of decimal places, an exact half going away from zero. -/
def Binary64.roundPlaces (value : Binary64) (places : Int) : Except Amount Binary64 :=
  (Amount.real value).round places

end SheetPricing
