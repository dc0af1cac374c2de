import SheetPricing.Decimal.Layout

/-!
# Numbers in a given style

A number with a fixed count of places, with an exponent, or in whichever of the two is shorter. The
digits are those of the exact value, rounded once, an exact half going to the even neighbour.
-/
namespace SheetPricing

/-- How a number is laid out. -/
inductive NumberStyle where
  | fixed
  | scientific
  /-- With an exponent if it is far from one, else with a fixed count of places; zeros that end the
  digits are left out. -/
  | general
  deriving DecidableEq, Repr

namespace Binary64

/-- The multiple of `10 ^ place` nearest to a count of units. -/
def nearestMultiple (units : Nat) (place : Int) : Nat :=
  let (one, scale) := gridPoint 1 place
  roundHalfEven (units * scale) one

/-- The given count of digits nearest to a count of units, and the place of the first one. -/
def leadingDigits (units digits : Nat) : Nat × Int :=
  if units = 0 then (0, 0)
  else
    let first := leadingPlace units
    let multiple := nearestMultiple units (first - digits + 1)
    if 10 ^ digits ≤ multiple then (multiple / 10, first + 1) else (multiple, first)

end Binary64

namespace NumberStyle

/-- The digits of a number, zeros in front up to the given count of them. -/
def padded (count n : Nat) : List Char :=
  let digits := (toString n).toList
  List.replicate (count - digits.length) '0' ++ digits

/-- Digits of which the last `places` stand behind a point. A point that nothing follows is written
only where it is asked for. -/
def pointed (keepPoint : Bool) (digits : List Char) (places : Nat) : List Char :=
  let whole := digits.take (digits.length - places)
  let fraction := digits.drop (digits.length - places)
  whole ++ (if fraction.isEmpty && !keepPoint then [] else ['.']) ++ fraction

/-- Digits behind a point without the zeros that end them, and how many are left. -/
def withoutZeros (digits : List Char) (places : Nat) : List Char × Nat :=
  let zeros := ((digits.drop (digits.length - places)).reverse.takeWhile (· == '0')).length
  (digits.take (digits.length - zeros), places - zeros)

/-- Digits with a point after the first, then the exponent. -/
def withExponent (keepPoint : Bool) (digits : List Char) (exponent : Int) : List Char :=
  pointed keepPoint digits (digits.length - 1) ++ (NumberLayout.amount.exponentText exponent).toList

/-- A count of units with `precision` places, or as many digits in the general style. -/
def digits (keepZeros : Bool) (precision units : Nat) : NumberStyle → List Char
  | .fixed =>
    pointed keepZeros (padded (precision + 1) (Binary64.nearestMultiple units (-precision)))
      precision
  | .scientific =>
    let (coefficient, exponent) := Binary64.leadingDigits units (precision + 1)
    withExponent keepZeros (padded (precision + 1) coefficient) exponent
  | .general =>
    let count := max 1 precision
    let (coefficient, exponent) := Binary64.leadingDigits units count
    let digits := padded count coefficient
    if exponent < -4 ∨ (count : Int) ≤ exponent then
      let kept := if keepZeros then digits else (withoutZeros digits (count - 1)).1
      withExponent keepZeros kept exponent
    else
      let places := (count - 1 - exponent).toNat
      let digits := padded (places + 1) coefficient
      let (kept, places) := if keepZeros then (digits, places) else withoutZeros digits places
      pointed keepZeros kept places

/-- A number without its sign. -/
def size (style : NumberStyle) (keepZeros : Bool) (precision : Nat) : Binary64 → List Char
  | .nan => "nan".toList
  | .infinity _ => "inf".toList
  | .finite _ units _ => style.digits keepZeros precision units

end NumberStyle
end SheetPricing
