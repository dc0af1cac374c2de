import SheetPricing.Binary64.Basic

/-!
# Decimal numbers

A sign, a coefficient and a power of ten, exactly as written: `1.50` and `1.5` differ. A decimal
is turned into a binary number by one rounding of its exact value, and rounded to a decimal place by
one division of its coefficient.
-/
namespace SheetPricing

/-- The number `coefficient * 10 ^ exponent` with a sign that a zero has too. -/
structure Decimal where
  negative : Bool
  coefficient : Nat
  exponent : Int
  deriving DecidableEq, Repr

/-- The value of decimal digits, the first one counting most. -/
def ofDigits (digits : List Nat) : Nat := digits.foldl (fun value digit => 10 * value + digit) 0

/-- How many decimal digits a number is written with. -/
def digitCount (n : Nat) : Nat := if n < 10 then 1 else digitCount (n / 10) + 1
termination_by n
decreasing_by omega

namespace Decimal

/-- The least power of ten above every finite binary number. -/
def overflowPlace : Int := 309

/-- A power of ten of which half the smallest binary number is still more. -/
def underflowPlace : Int := -324

/-- The binary number nearest to a decimal. Decimals far out of range are settled by their size
alone, so that no huge power of ten is computed. -/
def toBinary64 (d : Decimal) : Binary64 :=
  let place := d.exponent + digitCount d.coefficient
  if d.coefficient = 0 then .signedZero d.negative
  else if overflowPlace < place then .infinity d.negative
  else if place ≤ underflowPlace then .signedZero d.negative
  else if 0 ≤ d.exponent then
    .ofQuotient d.negative (d.coefficient * 10 ^ d.exponent.toNat * Binary64.unitsOfOne) 1
  else
    .ofQuotient d.negative (d.coefficient * Binary64.unitsOfOne) (10 ^ (-d.exponent).toNat)

/-- The integer nearest to `n / d`, an exact half going up. -/
def roundHalfUp (n d : Nat) : Nat := (2 * n + d) / (2 * d)

/-- The multiple of `10 ^ -places` nearest to a decimal, an exact half going away from zero. -/
def roundTo (d : Decimal) (places : Int) : Decimal :=
  let shift := d.exponent + places
  let coefficient :=
    if 0 ≤ shift then d.coefficient * 10 ^ shift.toNat
    else roundHalfUp d.coefficient (10 ^ (-shift).toNat)
  ⟨d.negative, coefficient, -places⟩

/-- A decimal without the zeros that end its coefficient. -/
def trimmed (negative : Bool) (coefficient : Nat) (exponent : Int) : Decimal :=
  if coefficient = 0 then ⟨negative, 0, exponent⟩
  else if coefficient % 10 = 0 then trimmed negative (coefficient / 10) (exponent + 1)
  else ⟨negative, coefficient, exponent⟩
termination_by coefficient
decreasing_by omega

end Decimal
end SheetPricing
