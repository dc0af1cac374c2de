import Mathlib.Algebra.Order.Ring.Abs
import SheetPricing.Proofs.Binary64.Units
import SheetPricing.Proofs.Decimal.Value

/-! What rounding to the nearest number means. No finite number is nearer to a value than the one that it
is rounded to; where another is as near, the number that is taken has an even last bit. A value from half
a step above the greatest finite number on is rounded to an infinity. -/
namespace SheetPricing.Binary64

section
variable {x : ℚ} {units other e k : Nat}

theorem add_le_of_dvd {step lower upper : Nat} (low : step ∣ lower) (high : step ∣ upper)
    (less : lower < upper) : lower + step ≤ upper := by
  have := Nat.le_of_dvd (Nat.sub_pos_of_lt less) (Nat.dvd_sub high low)
  omega

theorem two_mul_spacing_le (coarser : other.log2 - 52 < e) : 2 * spacing other ≤ 2 ^ e := by
  rw [spacing, ← Nat.pow_succ']
  exact Nat.pow_le_pow_right (by decide) coarser

/-- Among the numbers that a step leaves 53 significant bits, the next one is a step above. -/
theorem add_step_le_of_lt (whole : spacing other ∣ other) (coarse : e = 0 ∨ 2 ^ 52 * 2 ^ e ≤ x)
    (above : x ≤ other) (less : k * 2 ^ e < other) : k * 2 ^ e + 2 ^ e ≤ other := by
  rcases le_or_gt e (other.log2 - 52) with finer | coarser
  · exact add_le_of_dvd (Nat.dvd_mul_left _ _) ((Nat.pow_dvd_pow 2 finer).trans whole) less
  · have low := (coarse.resolve_left (by omega)).trans above
    have low : 2 ^ (52 : Nat) * 2 ^ e ≤ other := by exact_mod_cast low
    have high := lt_spacing other
    have half := two_mul_spacing_le coarser
    omega

theorem add_step_le_of_gt (whole : spacing other ∣ other) (coarse : e = 0 ∨ 2 ^ 52 * 2 ^ e ≤ x)
    (below : x < (k * 2 ^ e : Nat)) (less : other < k * 2 ^ e) : other + 2 ^ e ≤ k * 2 ^ e := by
  rcases le_or_gt e (other.log2 - 52) with finer | coarser
  · exact add_le_of_dvd ((Nat.pow_dvd_pow 2 finer).trans whole) (Nat.dvd_mul_left _ _) less
  · have low := (coarse.resolve_left (by omega)).trans_lt below
    have low : 2 ^ (52 : Nat) * 2 ^ e < k * 2 ^ e := by exact_mod_cast low
    have many : 2 ^ (52 : Nat) + 1 ≤ k := Nat.lt_of_mul_lt_mul_right low
    have top := Nat.mul_le_mul_right (2 ^ e) many
    have high := lt_spacing other
    have half := two_mul_spacing_le coarser
    rw [Nat.add_mul, Nat.one_mul] at top
    omega

/-- An even multiple of the step has an even last bit. -/
theorem even_significand (few : k ≤ 2 ^ (53 : Nat)) (many : e = 0 ∨ 2 ^ (52 : Nat) ≤ k)
    (even : k % 2 = 0) : k * 2 ^ e / spacing (k * 2 ^ e) % 2 = 0 := by
  have positive (f : Nat) : 0 < 2 ^ f := Nat.two_pow_pos f
  rcases few.lt_or_eq with less | rfl
  · have step : spacing (k * 2 ^ e) = 2 ^ e :=
      spacing_eq (Nat.mul_lt_mul_of_pos_right less (positive e))
        (many.imp id fun many => Nat.mul_le_mul_right _ many)
    rw [step, Nat.mul_div_cancel _ (positive e)]
    exact even
  · have double : 2 ^ (53 : Nat) * 2 ^ e = 2 ^ (52 : Nat) * 2 ^ (e + 1) := by
      rw [Nat.pow_succ 2 e, Nat.mul_comm (2 ^ e) 2, ← Nat.mul_assoc]
    rw [double, spacing_eq (Nat.mul_lt_mul_of_pos_right (by decide) (positive _)) (.inr (Nat.le_refl _)),
      Nat.mul_div_cancel _ (positive _)]

/-- No number is nearer than the rounded one, and where another is as near, its last bit is even. -/
theorem RoundsTo.nearest (rounded : RoundsTo x units) (whole : spacing other ∣ other) :
    |(units : ℚ) - x| ≤ |(other : ℚ) - x| ∧
      (other ≠ units → |(units : ℚ) - x| = |(other : ℚ) - x| → units / spacing units % 2 = 0) := by
  rcases eq_or_ne other units with rfl | apart
  · exact ⟨le_rfl, fun apart => absurd rfl apart⟩
  obtain ⟨e, k, high, low, near, rfl⟩ := rounded
  have rounded : RoundsTo x (k * 2 ^ e) := ⟨e, k, high, low, near, rfl⟩
  have step : (0 : ℚ) < 2 ^ e := by positivity
  have even (odd : k % 2 ≠ 1) : k * 2 ^ e / spacing (k * 2 ^ e) % 2 = 0 := by
    refine even_significand (near.le_of_le step (by exact_mod_cast high.le))
      (low.imp id fun low => near.le_of_ge step (by exact_mod_cast low)) (by omega)
  obtain ⟨half, halfToo, inside⟩ := near
  rcases le_total (other : ℚ) x with below | above
  · have less : other < k * 2 ^ e := lt_of_le_of_ne ((roundsTo_self whole).le rounded below) apart
    have lessToo : (other : ℚ) < k * 2 ^ e := by exact_mod_cast less
    rw [abs_of_nonpos (sub_nonpos.mpr below)]
    rcases le_or_gt ((k * 2 ^ e : Nat) : ℚ) x with lower | higher
    · rw [abs_of_nonpos (sub_nonpos.mpr lower)]
      push_cast
      exact ⟨by linarith, fun _ tie => absurd tie (by linarith)⟩
    · have gap : (other : ℚ) + 2 ^ e ≤ k * 2 ^ e := by
        exact_mod_cast add_step_le_of_gt whole low higher less
      rw [abs_of_pos (sub_pos.mpr higher)]
      push_cast
      refine ⟨by linarith, fun _ tie => even fun odd => ?_⟩
      have := (inside odd).1
      linarith
  · have less : k * 2 ^ e < other := lt_of_le_of_ne (rounded.le (roundsTo_self whole) above) apart.symm
    have lessToo : (k : ℚ) * 2 ^ e < other := by exact_mod_cast less
    rw [abs_of_nonneg (sub_nonneg.mpr above)]
    rcases le_or_gt x ((k * 2 ^ e : Nat) : ℚ) with higher | lower
    · rw [abs_of_nonneg (sub_nonneg.mpr higher)]
      push_cast
      exact ⟨by linarith, fun _ tie => absurd tie (by linarith)⟩
    · have gap : (k : ℚ) * 2 ^ e + 2 ^ e ≤ other := by
        exact_mod_cast add_step_le_of_lt whole low above less
      rw [abs_of_neg (sub_neg.mpr lower)]
      push_cast
      refine ⟨by linarith, fun _ tie => even fun odd => ?_⟩
      have := (inside odd).2
      linarith

/-- A value is rounded to a power of two or more from half a step below it on. -/
theorem RoundsTo.le_iff (rounded : RoundsTo x units) (e : Nat) :
    2 ^ (53 : Nat) * 2 ^ e ≤ units ↔ (2 ^ 54 - 1) * 2 ^ e ≤ 2 * x := by
  have step : (0 : ℚ) < 2 ^ e := by positivity
  constructor
  · intro large
    obtain ⟨f, k, high, low, near, rfl⟩ := rounded
    have grid : (0 : ℚ) < 2 ^ f := by positivity
    have few : k ≤ 2 ^ (53 : Nat) := near.le_of_le grid (by exact_mod_cast high.le)
    have least : 2 ^ e ≤ 2 ^ f := by
      have := large.trans (Nat.mul_le_mul_right _ few)
      exact Nat.le_of_mul_le_mul_left this (by decide)
    rcases ((Nat.pow_le_pow_iff_right (by decide)).mp least).eq_or_lt with rfl | finer
    · have all : 2 ^ (53 : Nat) ≤ k := Nat.le_of_mul_le_mul_right large (Nat.two_pow_pos e)
      obtain rfl := Nat.le_antisymm few all
      have := near.below
      push_cast at this
      linarith
    · have double : (2 : ℚ) * 2 ^ e ≤ 2 ^ f := by
        rw [← pow_succ']
        exact pow_le_pow_right₀ (by norm_num) finer
      have := low.resolve_left (by omega)
      linarith
  · intro large
    have middle : RoundsTo ((2 ^ 54 - 1) * 2 ^ e / 2) (2 ^ (53 : Nat) * 2 ^ e) := by
      refine ⟨e, 2 ^ (53 : Nat), by linarith, .inr (by linarith), ⟨?_, ?_, fun odd => ?_⟩, rfl⟩
      · push_cast
        linarith
      · push_cast
        linarith
      · exact absurd odd (by decide)
    exact middle.le rounded (by linarith)

end

/-- A sign as a factor. -/
def factor (negative : Bool) : ℚ := if negative then -1 else 1

/-- The value of a finite number. -/
def toRat : Binary64 → ℚ
  | .finite negative units _ => factor negative * (units / unitsOfOne)
  | _ => 0

/-- That a number is the one nearest to a value. -/
inductive IsNearest (q : ℚ) : Binary64 → Prop
  | finite {negative : Bool} {units : Nat} (fits : Representable units)
      (inside : |q| < (2 ^ 54 - 1) * 2 ^ 970)
      (nearest : ∀ other : Binary64, other.isFinite = true →
        |(Binary64.finite negative units fits).toRat - q| ≤ |other.toRat - q|)
      (even : ∀ other : Binary64, other.isFinite = true →
        other.toRat ≠ (Binary64.finite negative units fits).toRat →
        |(Binary64.finite negative units fits).toRat - q| = |other.toRat - q| →
        units / spacing units % 2 = 0) : IsNearest q (.finite negative units fits)
  | infinity {negative : Bool} (outside : (2 ^ 54 - 1) * 2 ^ 970 ≤ |q|)
      (sign : negative = decide (q < 0)) : IsNearest q (.infinity negative)

section
variable {x y : ℚ}

theorem abs_factor_mul (negative : Bool) (x : ℚ) : |factor negative * x| = |x| := by
  cases negative
  · rw [factor, if_neg (by decide), one_mul]
  · rw [factor, if_pos rfl, neg_one_mul, abs_neg]

theorem factor_mul_neg_iff (negative : Bool) (positive : 0 < x) :
    factor negative * x < 0 ↔ negative = true := by
  cases negative
  · rw [factor, if_neg (by decide), one_mul]
    exact iff_of_false positive.not_gt (by decide)
  · rw [factor, if_pos rfl, neg_one_mul, neg_lt_zero]
    exact iff_of_true positive rfl

/-- Of two signs the equal one is the nearer one. -/
theorem abs_factor_mul_sub (negative sign : Bool) (x y : ℚ) :
    |factor sign * x - factor negative * y| = if sign = negative then |x - y| else |x + y| := by
  split
  · next same => rw [same, ← mul_sub, abs_factor_mul]
  · next apart =>
    obtain rfl : sign = !negative := by
      cases sign <;> cases negative <;> first | rfl | exact absurd rfl apart
    have opposite : factor (!negative) * x - factor negative * y = factor (!negative) * (x + y) := by
      cases negative <;> simp [factor]
      ring
    rw [opposite, abs_factor_mul]

attribute [local irreducible] unitsOfOne unitsLimit

open Decimal (unitsOfOne_pos)

theorem RoundsTo.unitsLimit_le_iff {units : Nat} (rounded : RoundsTo x units) :
    unitsLimit ≤ units ↔ (2 ^ 54 - 1) * 2 ^ 970 ≤ x / unitsOfOne := by
  have limit : unitsLimit = 2 ^ (53 : Nat) * 2 ^ (2045 : Nat) := by decide +kernel
  have power (e : Nat) : ((2 ^ e : Nat) : ℚ) = 2 ^ e := Nat.cast_pow 2 e
  have one : (unitsOfOne : ℚ) = 2 ^ (1074 : Nat) := by
    unfold unitsOfOne
    exact power 1074
  have half : (2 : ℚ) ^ 2045 = 2 * (2 ^ 970 * 2 ^ (1074 : Nat)) := by rw [← pow_add, ← pow_succ']
  rw [limit, le_div_iff₀ unitsOfOne_pos, one, mul_assoc]
  refine (rounded.le_iff 2045).trans ?_
  rw [half, mul_left_comm]
  exact mul_le_mul_iff_right₀ two_pos

/-- How far a number is from a value, by their signs and their counts of units. -/
theorem distance_eq (least : 0 ≤ x) {negative sign : Bool} {units : Nat} (fits : Representable units) :
    |(Binary64.finite sign units fits).toRat - factor negative * (x / unitsOfOne)|
      = (if sign = negative then |(units : ℚ) - x| else units + x) / unitsOfOne := by
  have both : (0 : ℚ) ≤ units / unitsOfOne + x / unitsOfOne := by
    have := unitsOfOne_pos
    positivity
  rw [toRat, abs_factor_mul_sub]
  split
  · rw [← sub_div, abs_div, abs_of_pos unitsOfOne_pos]
  · rw [abs_of_nonneg both, ← add_div]

theorem isNearest_nearest (negative : Bool) (least : 0 ≤ x) :
    IsNearest (factor negative * (x / unitsOfOne)) (nearest negative x) := by
  obtain ⟨units, rounded⟩ := exists_roundsTo least
  have size : |factor negative * (x / unitsOfOne)| = x / unitsOfOne := by
    have := unitsOfOne_pos
    rw [abs_factor_mul, abs_of_nonneg (by positivity)]
  -- with the other sign a number is only farther away
  have farther (sign : Bool) (count : Nat) :
      |(count : ℚ) - x| ≤ if sign = negative then |(count : ℚ) - x| else count + x := by
    have : (0 : ℚ) ≤ count := count.cast_nonneg
    split
    · exact le_rfl
    · exact abs_le.mpr ⟨by linarith, by linarith⟩
  rw [nearest_of_roundsTo least rounded]
  split
  · next fits =>
    refine .finite fits ?_ ?_ ?_
    · rw [size, ← not_le, ← rounded.unitsLimit_le_iff]
      exact Nat.not_le.mpr fits.2
    · intro other finite
      cases other with
      | nan => cases finite
      | infinity => cases finite
      | finite sign count also =>
        rw [distance_eq least, distance_eq least, if_pos rfl,
          div_le_div_iff_of_pos_right unitsOfOne_pos]
        exact (rounded.nearest also.1).1.trans (farther sign count)
    · intro other finite apart tie
      cases other with
      | nan => cases finite
      | infinity => cases finite
      | finite sign count also =>
        rw [distance_eq least, distance_eq least, if_pos rfl, div_left_inj' unitsOfOne_pos.ne'] at tie
        obtain ⟨near, even⟩ := rounded.nearest also.1
        rcases eq_or_ne count units with rfl | unequal
        · rw [if_neg fun same => apart (by rw [same])] at tie
          have : count = 0 := by
            rcases abs_choice ((count : ℚ) - x) with below | above
            · obtain rfl : x = 0 := by linarith
              exact rounded.unique (by exact_mod_cast roundsTo_self (Nat.dvd_zero (spacing 0)))
            · have : (count : ℚ) = 0 := by linarith
              exact_mod_cast this
          rw [this, Nat.zero_div]
        · exact even unequal (near.antisymm ((farther sign count).trans_eq tie.symm))
  · next large =>
    have outside : unitsLimit ≤ units := by
      by_contra! inside
      exact large (representable_of_roundsTo least rounded inside)
    have outside := rounded.unitsLimit_le_iff.mp outside
    have positive : 0 < x / unitsOfOne := lt_of_lt_of_le (by norm_num) outside
    refine .infinity (by rwa [size]) ?_
    rw [Bool.eq_iff_iff, decide_eq_true_iff]
    exact (factor_mul_neg_iff negative positive).symm

end
end SheetPricing.Binary64
