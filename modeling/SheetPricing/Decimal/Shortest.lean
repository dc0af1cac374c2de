import SheetPricing.Decimal.Basic

/-!
# The shortest decimal of a binary number

Of the decimals that read back as a given number, those with the fewest digits, and of these the
one nearest to the number. The reals that read back form an interval around the number; on each
grid of decimals only the two neighbours of the number need a look.
-/
namespace SheetPricing.Binary64

/-- The reals that round to a positive count of units, in quarters of a unit: the ends belong to it
when the last bit of the number is even. -/
structure Interval where
  low : Nat
  high : Nat
  closed : Bool
  deriving DecidableEq, Repr

/-- At a power of two the step below is half the step above, except at the smallest steps. -/
def interval (units : Nat) : Interval :=
  let step := spacing units
  let below := if units = 2 ^ units.log2 ∧ 1 < step then step else 2 * step
  ⟨4 * units - below, 4 * units + 2 * step, units / step % 2 == 0⟩

/-- Whether `n / d` units, given as a fraction, lie in an interval. -/
def Interval.contains (i : Interval) (n d : Nat) : Bool :=
  if i.closed then i.low * d ≤ 4 * n && 4 * n ≤ i.high * d
  else i.low * d < 4 * n && 4 * n < i.high * d

/-- The power of ten at or below a positive count of units. -/
def leadingPlace (units : Nat) : Int :=
  (digitCount (units * 10 ^ (400 : Nat) / unitsOfOne) : Int) - 401

/-- A multiple of `10 ^ place`, as a fraction of units. -/
def gridPoint (multiple : Nat) (place : Int) : Nat × Nat :=
  if 0 ≤ place then (multiple * 10 ^ place.toNat * unitsOfOne, 1)
  else (multiple * unitsOfOne, 10 ^ (-place).toNat)

/-- The multiple of `10 ^ place` nearest to a count of units among its two neighbours in the
interval; between two equally near ones the even one. -/
def gridHit (units : Nat) (place : Int) : Option Nat :=
  let (one, scale) := gridPoint 1 place
  let below := units * scale / one
  let contained (multiple : Nat) : Bool :=
    let (n, d) := gridPoint multiple place
    (interval units).contains n d
  match contained below, contained (below + 1) with
  | true, true => some (roundHalfEven (units * scale) one)
  | true, false => some below
  | false, true => some (below + 1)
  | false, false => none

/-- Search the grids of one digit, two digits, and so on; seventeen digits always suffice. -/
def shortestFrom (units : Nat) (place : Int) : Nat → Nat × Int
  | 0 => ((gridHit units place).getD 0, place)
  | more + 1 =>
    match gridHit units place with
    | some multiple => (multiple, place)
    | none => shortestFrom units (place - 1) more

/-- The shortest decimal of a finite number. -/
def shortest (negative : Bool) (units : Nat) : Decimal :=
  if units = 0 then ⟨negative, 0, 0⟩
  else
    let (coefficient, exponent) := shortestFrom units (leadingPlace units) 16
    Decimal.trimmed negative coefficient exponent

end SheetPricing.Binary64
