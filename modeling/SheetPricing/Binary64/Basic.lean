import SheetPricing.Power

/-!
# Binary floating point numbers of 64 bits

A finite number is a sign and a whole number of units of `2 ^ -1074`, the smallest positive
number. Every operation is the exact result, rounded once to the nearest representable
number, an exact half going to the even neighbour.

Main statements: `representable_roundUnits` (rounding lands on a representable number),
`roundUnits_of_representable` (a representable number is its own rounding).
-/
namespace SheetPricing

/-- The integer nearest to `n / d`, an exact half going to the even neighbour. -/
def roundHalfEven (n d : Nat) : Nat :=
  let q := n / d
  let r := n % d
  if 2 * r < d then q
  else if d < 2 * r then q + 1
  else q + q % 2

theorem div_le_roundHalfEven (n d : Nat) : n / d ≤ roundHalfEven n d := by
  unfold roundHalfEven
  dsimp only
  split
  · exact Nat.le_refl _
  · split <;> omega

theorem roundHalfEven_le (n d : Nat) : roundHalfEven n d ≤ n / d + 1 := by
  unfold roundHalfEven
  dsimp only
  split
  · omega
  · split <;> omega

theorem roundHalfEven_of_dvd {n d : Nat} (positive : 0 < d) (whole : d ∣ n) :
    roundHalfEven n d = n / d := by
  simp [roundHalfEven, Nat.mod_eq_zero_of_dvd whole, positive]

namespace Binary64

/-- One, counted in the smallest units. -/
def unitsOfOne : Nat := 2 ^ (1074 : Nat)

/-- The first power of two that is out of range, in units. -/
def unitsLimit : Nat := 2 ^ (2098 : Nat)

/-- A count of units that a finite number can hold: at most 53 significant bits, below the limit. -/
def Representable (units : Nat) : Prop :=
  2 ^ (units.log2 - 52) ∣ units ∧ units < unitsLimit

instance (units : Nat) : Decidable (Representable units) :=
  inferInstanceAs (Decidable (_ ∧ _))

/-- How far apart the representable numbers stand around a count of units. -/
def spacing (units : Nat) : Nat := 2 ^ (units.log2 - 52)

/-- The count of units with 53 significant bits that is nearest to `n / d`. -/
def roundUnits (n d : Nat) : Nat :=
  let step := spacing (n / d)
  roundHalfEven n (d * step) * step

private theorem log2_two_pow_mul {m s : Nat} (positive : m ≠ 0) :
    (m * 2 ^ s).log2 = m.log2 + s := by
  have low : 2 ^ (m.log2 + s) ≤ m * 2 ^ s := by
    rw [Nat.pow_add]
    exact Nat.mul_le_mul_right _ (Nat.log2_self_le positive)
  have high : m * 2 ^ s < 2 ^ (m.log2 + s + 1) := by
    have : 2 ^ (m.log2 + s + 1) = 2 ^ (m.log2 + 1) * 2 ^ s := by
      rw [← Nat.pow_add]; congr 1; omega
    rw [this]
    exact Nat.mul_lt_mul_of_pos_right Nat.lt_log2_self (Nat.two_pow_pos s)
  have nonzero : m * 2 ^ s ≠ 0 :=
    Nat.mul_ne_zero positive (Nat.pos_iff_ne_zero.mp (Nat.two_pow_pos s))
  apply Nat.le_antisymm
  · have := (Nat.log2_lt nonzero).mpr high
    omega
  · exact (Nat.le_log2 nonzero).mpr low

/-- Fifty-three bits shifted by any amount have the step of their size as a factor. -/
theorem spacing_dvd_of_le {m s : Nat} (small : m ≤ 2 ^ (53 : Nat)) :
    2 ^ ((m * 2 ^ s).log2 - 52) ∣ m * 2 ^ s := by
  by_cases zero : m = 0
  · simp [zero]
  rw [log2_two_pow_mul zero]
  by_cases top : m = 2 ^ (53 : Nat)
  · subst top
    rw [Nat.log2_two_pow, ← Nat.pow_add]
    exact Nat.pow_dvd_pow 2 (by omega)
  · have bound : m.log2 < 53 := (Nat.log2_lt zero).mpr (by omega)
    exact Nat.dvd_trans (Nat.pow_dvd_pow 2 (by omega)) (Nat.dvd_mul_left _ _)

theorem div_spacing_lt (q : Nat) : q / spacing q < 2 ^ (53 : Nat) := by
  unfold spacing
  rw [Nat.div_lt_iff_lt_mul (Nat.two_pow_pos _), ← Nat.pow_add]
  have := Nat.lt_log2_self (n := q)
  exact Nat.lt_of_lt_of_le this (Nat.pow_le_pow_right (by decide) (by omega))

/-- Rounding keeps at most 53 significant bits. -/
theorem spacing_dvd_roundUnits (n d : Nat) :
    2 ^ ((roundUnits n d).log2 - 52) ∣ roundUnits n d := by
  unfold roundUnits
  dsimp only
  have below : n / (d * spacing (n / d)) < 2 ^ (53 : Nat) := by
    rw [← Nat.div_div_eq_div_mul]
    exact div_spacing_lt _
  have := roundHalfEven_le n (d * spacing (n / d))
  exact spacing_dvd_of_le (by omega)

theorem representable_roundUnits {n d : Nat} (inside : roundUnits n d < unitsLimit) :
    Representable (roundUnits n d) :=
  ⟨spacing_dvd_roundUnits n d, inside⟩

/-- A representable count of units is its own rounding. -/
theorem roundUnits_of_representable {units : Nat} (fits : Representable units) :
    roundUnits units 1 = units := by
  have whole : spacing units ∣ units := fits.1
  have positive : 0 < spacing units := Nat.two_pow_pos _
  simp only [roundUnits, Nat.div_one, Nat.one_mul]
  rw [roundHalfEven_of_dvd positive whole, Nat.div_mul_cancel whole]

theorem representable_zero : Representable 0 := by
  constructor
  · simp
  · unfold unitsLimit
    exact Nat.two_pow_pos 2098

end Binary64

/-- A number of the 64-bit binary format; all that is not a number is one value without a sign. -/
inductive Binary64 where
  | nan
  | infinity (negative : Bool)
  | finite (negative : Bool) (units : Nat) (fits : Binary64.Representable units)
  deriving DecidableEq

namespace Binary64

def signedZero (negative : Bool) : Binary64 := .finite negative 0 representable_zero

instance : Inhabited Binary64 := ⟨signedZero false⟩

def signed (negative : Bool) (units : Nat) : Int := if negative then -units else units

/-- The number nearest to `n / d` units with the given sign, infinite past the largest finite one.
-/
def ofQuotient (negative : Bool) (n d : Nat) : Binary64 :=
  if inside : roundUnits n d < unitsLimit then
    .finite negative (roundUnits n d) (representable_roundUnits inside)
  else .infinity negative

/-- The number nearest to a signed count of units; an exact zero is positive. -/
def ofUnits (units : Int) : Binary64 := ofQuotient (decide (units < 0)) units.natAbs 1

/-- The number nearest to an integer. -/
def ofInt (i : Int) : Binary64 := ofQuotient (decide (i < 0)) (i.natAbs * unitsOfOne) 1

instance (n : Nat) : OfNat Binary64 n := ⟨ofInt n⟩

/-- The signed count of units of a finite number. -/
def units? : Binary64 → Option Int
  | .finite negative units _ => some (signed negative units)
  | _ => none

def isFinite : Binary64 → Bool
  | .finite .. => true
  | _ => false

def isNan : Binary64 → Bool
  | .nan => true
  | _ => false

def isZero : Binary64 → Bool
  | .finite _ units _ => units == 0
  | _ => false

/-- The sign as written, also of a zero; what is not a number has none. -/
def isNegative : Binary64 → Bool
  | .nan => false
  | .infinity negative => negative
  | .finite negative _ _ => negative

def neg : Binary64 → Binary64
  | .nan => .nan
  | .infinity negative => .infinity (!negative)
  | .finite negative units fits => .finite (!negative) units fits

instance : Neg Binary64 := ⟨neg⟩

def abs : Binary64 → Binary64
  | .nan => .nan
  | .infinity _ => .infinity false
  | .finite _ units fits => .finite false units fits

/-- Sum of the exact values, rounded; a zero is negative only as the sum of two negative zeros. -/
def add : Binary64 → Binary64 → Binary64
  | .nan, _ => .nan
  | _, .nan => .nan
  | .infinity s, .infinity t => if s = t then .infinity s else .nan
  | .infinity s, .finite .. => .infinity s
  | .finite .., .infinity t => .infinity t
  | .finite s m _, .finite t n _ =>
    let total := signed s m + signed t n
    if total = 0 then signedZero (s && t) else ofUnits total

instance : Add Binary64 := ⟨add⟩

def sub (x y : Binary64) : Binary64 := x + -y

instance : Sub Binary64 := ⟨sub⟩

def mul : Binary64 → Binary64 → Binary64
  | .nan, _ => .nan
  | _, .nan => .nan
  | .infinity s, .infinity t => .infinity (s != t)
  | .infinity s, .finite t n _ => if n = 0 then .nan else .infinity (s != t)
  | .finite s m _, .infinity t => if m = 0 then .nan else .infinity (s != t)
  | .finite s m _, .finite t n _ => ofQuotient (s != t) (m * n) unitsOfOne

instance : Mul Binary64 := ⟨mul⟩

/-- Quotient of the exact values, rounded. A divisor of zero gives what is not a number; whoever
must report it asks `isZero` first. -/
def div : Binary64 → Binary64 → Binary64
  | .nan, _ => .nan
  | _, .nan => .nan
  | .infinity _, .infinity _ => .nan
  | .infinity s, .finite t n _ => if n = 0 then .nan else .infinity (s != t)
  | .finite s _ _, .infinity t => signedZero (s != t)
  | .finite s m _, .finite t n _ => if n = 0 then .nan else ofQuotient (s != t) (m * unitsOfOne) n

instance : Div Binary64 := ⟨div⟩

/-- The order of the values; what is not a number is below nothing and above nothing. -/
def lt : Binary64 → Binary64 → Bool
  | .nan, _ => false
  | _, .nan => false
  | .infinity s, .infinity t => s && !t
  | .infinity s, .finite .. => s
  | .finite .., .infinity t => !t
  | .finite s m _, .finite t n _ =>
    decide (signed s m < signed t n)

/-- Equality of the values: both zeros are equal, and what is not a number equals nothing. -/
def equals : Binary64 → Binary64 → Bool
  | .nan, _ => false
  | _, .nan => false
  | .infinity s, .infinity t => s == t
  | .infinity _, .finite .. => false
  | .finite .., .infinity _ => false
  | .finite s m _, .finite t n _ =>
    decide (signed s m = signed t n)

def le (x y : Binary64) : Bool := lt x y || equals x y

/-- The integer between the number and zero that is nearest to the number. -/
def truncate? : Binary64 → Option Int
  | .finite negative units _ =>
    some (signed negative (units / unitsOfOne))
  | _ => none

/-- Whether a finite number is an integer. -/
def isInteger : Binary64 → Bool
  | .finite _ units _ => units % unitsOfOne == 0
  | _ => false

/-- Whether a finite number is an odd integer. -/
def isOdd : Binary64 → Bool
  | .finite _ units _ => units % unitsOfOne == 0 && units / unitsOfOne % 2 == 1
  | _ => false

end Binary64
end SheetPricing
