import SheetPricing.Decimal.Shortest

/-!
# Numbers as text

How a number is written: the fewest digits that read back, positional for moderate sizes and with
an exponent otherwise.
-/
namespace SheetPricing

/-- The decisions of a number format. -/
structure NumberLayout where
  /-- The least leading place that is written positionally. -/
  leastPlace : Int
  /-- The first leading place that is too large for it. -/
  placeLimit : Int
  /-- The least count of digits of an exponent. -/
  exponentWidth : Nat
  /-- What a whole number is given after its digits. -/
  wholeMark : String
  deriving Repr

namespace NumberLayout

/-- Amounts are written positionally from `0.0001` up to sixteen digits before the point, with a
fraction `.0` when they are whole, and exponents have at least two digits. -/
def amount : NumberLayout := ⟨-4, 16, 2, ".0"⟩

def zeros (count : Nat) : String := String.ofList (List.replicate count '0')

/-- The exponent with its sign. -/
def exponentText (layout : NumberLayout) (place : Int) : String :=
  let size := toString place.natAbs
  (if place < 0 then "e-" else "e+") ++ zeros (layout.exponentWidth - size.length) ++ size

/-- Digits with a point after the first `whole` of them; digits are added on either side where the
point stands outside them. -/
def positional (layout : NumberLayout) (digits : List Char) (whole : Int) : String :=
  if whole ≤ 0 then
    "0." ++ zeros whole.natAbs ++ String.ofList digits
  else
    let before := digits.take whole.toNat
    let after := digits.drop whole.toNat
    let padding := zeros (whole.toNat - digits.length)
    let fraction := if after.isEmpty then layout.wholeMark else "." ++ String.ofList after
    String.ofList before ++ padding ++ fraction

/-- Digits with a point after the first, then the exponent. -/
def scientific (layout : NumberLayout) (digits : List Char) (place : Int) : String :=
  let fraction := match digits.drop 1 with
    | [] => ""
    | rest => "." ++ String.ofList rest
  String.ofList (digits.take 1) ++ fraction ++ layout.exponentText place

/-- The text of a decimal whose coefficient ends in no zero. -/
def write (layout : NumberLayout) (d : Decimal) : String :=
  let digits := (toString d.coefficient).toList
  let place := if d.coefficient = 0 then 0 else d.exponent + digits.length - 1
  let size :=
    if layout.leastPlace ≤ place ∧ place < layout.placeLimit then
      layout.positional digits (place + 1)
    else layout.scientific digits place
  if d.negative then "-" ++ size else size

end NumberLayout

/-- The text of a number: its shortest decimal, or a word. -/
def Binary64.text : Binary64 → String
  | .nan => "nan"
  | .infinity negative => if negative then "-inf" else "inf"
  | .finite negative units _ => NumberLayout.amount.write (shortest negative units)

end SheetPricing
