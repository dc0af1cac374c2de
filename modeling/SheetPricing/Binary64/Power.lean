import SheetPricing.Binary64.Bits

/-!
# Powers

The cases that have an exact answer are decided here, by the parity of the exponent and by
comparing the base with zero and one. What is left is a positive finite base and a finite exponent;
there the power function of the floating point unit answers.
-/
namespace SheetPricing.Binary64

/-- Why a power is not a real number in range. -/
inductive PowerFailure where
  | zeroToNegative
  | overflow
  | notReal
  deriving DecidableEq, Repr

/-- The power of a positive finite base other than one and a finite exponent. -/
def powPositive (base exponent : Binary64) : Binary64 :=
  ofBits ((Float.ofBits base.toBits).pow (Float.ofBits exponent.toBits)).toBits

/-- A power with an infinite exponent: only whether the base lies inside the unit interval counts.
-/
def powInfinite (base : Binary64) (negative : Bool) : Binary64 :=
  let size := base.abs
  if equals size 1 then 1
  else if negative = lt size 1 then .infinity false
  else 0

/-- The power of a finite nonzero base and a finite nonzero exponent. -/
def powFinite (base exponent : Binary64) : Except PowerFailure Binary64 :=
  let size := base.abs
  if base.isNegative && !exponent.isInteger then
    if powPositive size exponent = .infinity false then .error .overflow else .error .notReal
  else
    let negative := base.isNegative && exponent.isOdd
    let magnitude := if equals size 1 then 1 else powPositive size exponent
    match magnitude with
    | .infinity _ => .error .overflow
    | value => .ok (if negative then -value else value)

/-- The power of two numbers. Every number to the power zero is one, and one to every power. -/
def pow (base exponent : Binary64) : Except PowerFailure Binary64 :=
  if exponent.isZero then .ok 1
  else match base, exponent with
    | .nan, _ => .ok .nan
    | _, .nan => .ok (if equals base 1 then 1 else .nan)
    | _, .infinity negative => .ok (powInfinite base negative)
    | .infinity negative, _ =>
      let sign := negative && exponent.isOdd
      .ok (if exponent.isNegative then signedZero sign else .infinity sign)
    | .finite .., .finite .. =>
      if base.isZero then
        if exponent.isNegative then .error .zeroToNegative
        else .ok (signedZero (base.isNegative && exponent.isOdd))
      else powFinite base exponent

end SheetPricing.Binary64
