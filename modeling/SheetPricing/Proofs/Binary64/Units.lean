import SheetPricing.Proofs.Binary64.Nearest

/-! Finite numbers by their signed counts of units, in which they are compared and added exactly. With the
infinities behind all of them, the comparison of two numbers is that of their places. -/
namespace SheetPricing.Binary64

theorem zero_eq : (0 : Binary64) = signedZero false := by decide +kernel

section
variable {negative : Bool} {units : Nat}

theorem signed_eq_zero_iff : signed negative units = 0 ↔ units = 0 := by
  unfold signed
  split <;> omega

theorem signed_neg_iff : signed negative units < 0 ↔ negative = true ∧ 0 < units := by
  unfold signed
  constructor
  · intro below
    split at below
    · next sign => exact ⟨sign, by omega⟩
    · omega
  · rintro ⟨sign, positive⟩
    rw [if_pos sign]
    omega

theorem natAbs_signed : (signed negative units).natAbs = units := by
  unfold signed
  split <;> omega

theorem ofUnits_signed (fits : Representable units) (positive : 0 < units) :
    ofUnits (signed negative units) = .finite negative units fits := by
  have sign : decide (signed negative units < 0) = negative := by
    rw [Bool.eq_iff_iff, decide_eq_true_iff, signed_neg_iff]
    exact and_iff_left positive
  have rounded : RoundsTo ((units : ℚ) / (1 : Nat)) units := by
    rw [Nat.cast_one, div_one]
    exact roundsTo_self fits.1
  rw [ofUnits, natAbs_signed, sign, ofQuotient_of_roundsTo Nat.one_pos rounded, dif_pos fits]

theorem ofUnits_zero : ofUnits 0 = signedZero false := by decide +kernel

end

/-- The place of a number among all numbers: its units, or beyond all of them. -/
def rank : Binary64 → Int
  | .nan => 0
  | .infinity negative => signed negative unitsLimit
  | .finite negative units _ => signed negative units

section
attribute [local irreducible] unitsLimit
variable {x y : Binary64}

theorem signed_bounds {units : Nat} (negative : Bool) (fits : Representable units) :
    -(unitsLimit : Int) < signed negative units ∧ signed negative units < unitsLimit := by
  have below := fits.2
  unfold signed
  split <;> omega

theorem unitsLimit_pos : (0 : Int) < unitsLimit := by
  exact_mod_cast representable_zero.2

theorem lt_iff_rank : x.lt y = true ↔ x ≠ .nan ∧ y ≠ .nan ∧ x.rank < y.rank := by
  have positive := unitsLimit_pos
  cases x with
  | nan => simp [lt]
  | infinity s =>
    cases y with
    | nan => simp [lt]
    | infinity t =>
      cases s <;> cases t <;> simp [lt, rank, signed]
      omega
    | finite t n fits =>
      have := signed_bounds t fits
      cases s <;> simp [lt, rank] <;> simp [signed] at * <;> omega
  | finite s m fits =>
    have := signed_bounds s fits
    cases y with
    | nan => simp [lt]
    | infinity t => cases t <;> simp [lt, rank] <;> simp [signed] at * <;> omega
    | finite t n fits => simp [lt, rank]

theorem equals_of_rank (number : x ≠ .nan) (other : y ≠ .nan) (same : x.rank = y.rank) :
    x.equals y = true := by
  have positive := unitsLimit_pos
  cases x with
  | nan => exact absurd rfl number
  | infinity s =>
    cases y with
    | nan => exact absurd rfl other
    | infinity t => cases s <;> cases t <;> simp [equals, rank, signed] at * <;> omega
    | finite t n fits =>
      have := signed_bounds t fits
      cases s <;> simp [rank] at same <;> simp [signed] at * <;> omega
  | finite s m fits =>
    have := signed_bounds s fits
    cases y with
    | nan => exact absurd rfl other
    | infinity t => cases t <;> simp [rank] at same <;> simp [signed] at * <;> omega
    | finite t n fits => simpa [equals, rank] using same

end

end SheetPricing.Binary64
