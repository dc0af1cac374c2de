import SheetPricing.Proofs.Binary64.Closest
import SheetPricing.Proofs.Decimal.Rounding

/-! Rounding to decimal places is exact. A number goes to the multiple of the decimal place nearest to
what is written for it, an exact half away from zero, and the result is the number nearest to that
multiple. However many places there are, their limit and the limit of the digits change nothing. -/
namespace SheetPricing

/-- A multiple of a step is nearest to a value; of two as near it is the one farther from zero. -/
structure NearestAway (step x q : ℚ) : Prop where
  multiple : ∃ k : ℤ, q = k * step
  nearest : ∀ k : ℤ, |q - x| ≤ |k * step - x|
  away : ∀ k : ℤ, |k * step - x| = |q - x| → |k * step| ≤ |q|

theorem NearestAway.neg {step x q : ℚ} (near : NearestAway step x q) : NearestAway step (-x) (-q) := by
  have turned (k : ℤ) : |k * step - -x| = |(-k : ℤ) * step - x| := by
    rw [← abs_neg]
    push_cast
    ring_nf
  have same : |-q - -x| = |q - x| := by
    rw [← abs_neg]
    ring_nf
  obtain ⟨⟨k, rfl⟩, nearest, away⟩ := near
  refine ⟨⟨-k, by push_cast; ring⟩, fun j => ?_, fun j tie => ?_⟩
  · rw [same, turned]
    exact nearest (-j)
  · rw [same, turned] at tie
    have := away (-j) tie
    rwa [Int.cast_neg, neg_mul, abs_neg, ← abs_neg (k * step)] at this

theorem NearestUp.nearestAway {step x : ℚ} {k : Nat} (positive : 0 < step) (least : 0 ≤ x)
    (near : NearestUp step x k) : NearestAway step x (k * step) := by
  obtain ⟨below, above⟩ := near
  have half : |k * step - x| ≤ step / 2 := abs_le.mpr ⟨by linarith, by linarith⟩
  -- the multiples on either side are at least half a step away, those above by more
  have lower {j : ℤ} (less : j < k) : step / 2 ≤ |j * step - x| := by
    have : ((j + 1 : ℤ) : ℚ) * step ≤ (k : ℤ) * step :=
      mul_le_mul_of_nonneg_right (by exact_mod_cast less) positive.le
    push_cast at this
    exact le_abs.mpr (.inr (by linarith))
  have upper {j : ℤ} (more : k < j) : step / 2 < |j * step - x| := by
    have : ((k + 1 : ℤ) : ℚ) * step ≤ j * step :=
      mul_le_mul_of_nonneg_right (by exact_mod_cast more) positive.le
    push_cast at this
    exact lt_abs.mpr (.inl (by linarith))
  refine ⟨⟨k, by push_cast; rfl⟩, fun j => ?_, fun j tie => ?_⟩
  · rcases lt_trichotomy j k with less | rfl | more
    · exact half.trans (lower less)
    · exact_mod_cast le_rfl
    · exact half.trans (upper more).le
  · have most : j ≤ k := by
      by_contra! more
      exact (upper more).not_ge (tie.trans_le half)
    have most : (j : ℚ) * step ≤ (k : ℤ) * step :=
      mul_le_mul_of_nonneg_right (by exact_mod_cast most) positive.le
    have nonneg : (0 : ℚ) ≤ k * step := by positivity
    have reach : x - j * step ≤ k * step + x := calc
      x - j * step ≤ |j * step - x| := by linarith [neg_le_abs (j * step - x)]
      _ = |k * step - x| := tie
      _ ≤ k * step + x := abs_le.mpr ⟨by linarith, by linarith⟩
    rw [abs_of_nonneg nonneg]
    exact abs_le.mpr ⟨by linarith, by exact_mod_cast most⟩

theorem NearestUp.div {step x unit : ℚ} {k : Nat} (positive : 0 < unit) (near : NearestUp step x k) :
    NearestUp (step / unit) (x / unit) k := by
  have double (y : ℚ) : 2 * (y / unit) = 2 * y / unit := mul_div_assoc 2 y unit |>.symm
  obtain ⟨below, above⟩ := near
  refine ⟨?_, ?_⟩
  · rw [mul_div_assoc' (k : ℚ), double, double, ← sub_div]
    exact div_le_div_of_nonneg_right below positive.le
  · rw [mul_div_assoc' (k : ℚ), double, double, ← add_div]
    exact div_lt_div_of_pos_right above positive

namespace Decimal
open Binary64

/-- The value of a decimal. -/
def value (d : Decimal) : ℚ := factor d.negative * (d.coefficient * 10 ^ d.exponent)

attribute [local irreducible] unitsOfOne unitsLimit

theorem size_div_unitsOfOne (c : Nat) (e : Int) : size c e / unitsOfOne = c * 10 ^ e :=
  mul_div_cancel_right₀ _ unitsOfOne_pos.ne'

/-- Reading a decimal gives the number nearest to its value. -/
theorem isNearest_toBinary64 (d : Decimal) : IsNearest d.value d.toBinary64 := by
  rw [toBinary64_eq_nearest, value, ← size_div_unitsOfOne]
  exact isNearest_nearest d.negative size_nonneg

theorem isNegative_toBinary64 (d : Decimal) : d.toBinary64.isNegative = d.negative := by
  rw [toBinary64_eq_nearest]
  obtain ⟨units, rounded⟩ := exists_roundsTo (size_nonneg (c := d.coefficient) (e := d.exponent))
  rw [nearest_of_roundsTo size_nonneg rounded]
  split <;> rfl

/-- Rounding a decimal gives the nearest multiple of the decimal place. -/
theorem nearestAway_roundTo (d : Decimal) (places : Int) :
    NearestAway (10 ^ (-places)) d.value (d.roundTo places).value := by
  have near := (nearestUp_roundTo d places).div unitsOfOne_pos
  rw [size_div_unitsOfOne, size_div_unitsOfOne, Nat.cast_one, one_mul] at near
  have near := near.nearestAway (by positivity) (by positivity)
  rw [value, value]
  change NearestAway _ _ (factor d.negative * ((d.roundTo places).coefficient * 10 ^ (-places)))
  unfold factor
  split
  · rw [neg_one_mul, neg_one_mul]
    exact near.neg
  · rw [one_mul, one_mul]
    exact near

end Decimal

namespace Binary64
open Decimal

section
variable (negative : Bool) {units : Nat} (fits : Representable units) (places : Int)
include fits

theorem roundPlaces_eq_roundTo : (Binary64.finite negative units fits).roundPlaces places
    = .ok ((shortest negative units).roundTo places).toBinary64 := by
  have near := nearestUp_roundTo (shortest negative units) places
  obtain ⟨c, e, written, _⟩ := exists_shortest negative fits
  rw [roundPlaces_eq negative fits near, toBinary64_eq_nearest]
  simp only [roundTo, written]

theorem digitCount_roundTo_le :
    digitCount ((shortest negative units).roundTo (limitPlaces places)).coefficient ≤ precision :=
  digitCount_of_nearestUp negative fits (nearestUp_roundTo _ _)

/-- Rounding to decimal places is exact: what is written for a number goes to the multiple of the decimal
place nearest to it, an exact half away from zero, and that to the number nearest to it. Neither the limit
of the places nor that of the digits makes a difference. -/
theorem roundPlaces_exact :
    ∃ q rounded, NearestAway (10 ^ (-places)) (shortest negative units).value q ∧
      (Binary64.finite negative units fits).roundPlaces places = .ok rounded ∧
      IsNearest q rounded ∧ rounded.isNegative = negative ∧
      rounded = ((shortest negative units).roundTo places).toBinary64 ∧
      digitCount ((shortest negative units).roundTo (limitPlaces places)).coefficient ≤ precision := by
  refine ⟨((shortest negative units).roundTo places).value, _, nearestAway_roundTo _ places,
    roundPlaces_eq_roundTo negative fits places, isNearest_toBinary64 _, ?_, rfl,
    digitCount_roundTo_le negative fits places⟩
  obtain ⟨c, e, written, _⟩ := exists_shortest negative fits
  rw [isNegative_toBinary64, written]
  rfl

end

theorem roundPlaces_exact_of_half :
    ∃ fits : Representable (0x15666666666666 * 2 ^ (1023 : Nat)),
      (Binary64.finite true _ fits).roundPlaces 2 = .ok (Decimal.toBinary64 ⟨true, 268, -2⟩) ∧
      ∃ q, NearestAway (10 ^ (-2 : Int)) (Decimal.value ⟨true, 2675, -3⟩) q ∧
        IsNearest q (Decimal.toBinary64 ⟨true, 268, -2⟩) := by
  have fits : Representable (0x15666666666666 * 2 ^ (1023 : Nat)) := by decide +kernel
  have written : shortest true (0x15666666666666 * 2 ^ (1023 : Nat)) = ⟨true, 2675, -3⟩ := by
    decide +kernel
  obtain ⟨q, rounded, near, ok, closest, _, same, _⟩ := roundPlaces_exact true fits 2
  have place : Decimal.roundTo ⟨true, 2675, -3⟩ 2 = ⟨true, 268, -2⟩ := by decide +kernel
  rw [written] at near same
  rw [place] at same
  subst same
  exact ⟨fits, ok, q, near, closest⟩

end Binary64
end SheetPricing
