import SheetPricing.Binary64.Basic

/-!
# The 64-bit encoding

The sign bit, eleven bits of exponent and fifty-two of fraction. The numbers below `2 ^ 52`
units are their own encoding.
-/
namespace SheetPricing.Binary64

/-- The encoding of a count of units. -/
def magnitudeBits (units : Nat) : Nat :=
  if units < 2 ^ (52 : Nat) then units
  else
    let shift := units.log2 - 52
    (shift + 1) * 2 ^ (52 : Nat) + (units / 2 ^ shift - 2 ^ (52 : Nat))

/-- The count of units of an exponent field and a fraction. -/
def unitsOfFields (exponent fraction : Nat) : Nat :=
  if exponent = 0 then fraction else (2 ^ (52 : Nat) + fraction) * 2 ^ (exponent - 1)

def toBits : Binary64 → UInt64
  | .nan => 0x7ff8000000000000
  | .infinity negative => if negative then 0xfff0000000000000 else 0x7ff0000000000000
  | .finite negative units _ =>
    UInt64.ofNat ((if negative then 2 ^ (63 : Nat) else 0) + magnitudeBits units)

def ofBits (bits : UInt64) : Binary64 :=
  let word := bits.toNat
  let negative := decide (2 ^ (63 : Nat) ≤ word)
  let exponent := word / 2 ^ (52 : Nat) % 2 ^ (11 : Nat)
  let fraction := word % 2 ^ (52 : Nat)
  if exponent = 2047 then
    if fraction = 0 then .infinity negative else .nan
  else ofQuotient negative (unitsOfFields exponent fraction) 1

end SheetPricing.Binary64
