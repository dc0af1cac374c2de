import Mathlib.Algebra.Order.Field.Power
import Mathlib.Tactic.FieldSimp
import SheetPricing.Proofs.Binary64.Interval

/-! The value of a decimal, counted in the smallest units of the binary numbers. A decimal is read
by one rounding of it; the cases that are settled by size alone make no difference. -/
namespace SheetPricing

theorem lt_pow_digitCount (n : Nat) : n < 10 ^ digitCount n := by
  induction n using digitCount.induct with
  | case1 n small =>
    rw [digitCount, if_pos small]
    exact small
  | case2 n large ih =>
    rw [digitCount, if_neg large, Nat.pow_succ]
    omega

theorem pow_digitCount_le {n : Nat} (positive : 0 < n) : 10 ^ digitCount n ≤ 10 * n := by
  induction n using digitCount.induct with
  | case1 n small =>
    rw [digitCount, if_pos small]
    omega
  | case2 n large ih =>
    rw [digitCount, if_neg large, Nat.pow_succ]
    have := ih (by omega)
    omega

namespace Decimal

theorem unitsOfOne_pos : (0 : ℚ) < Binary64.unitsOfOne := by
  refine Nat.cast_pos.mpr ?_
  unfold Binary64.unitsOfOne
  exact Nat.two_pow_pos 1074

-- these counts are too large for a simplifier to compute
attribute [local irreducible] Binary64.unitsOfOne Binary64.unitsLimit

/-- The value of a decimal without its sign, in units. -/
def size (coefficient : Nat) (exponent : Int) : ℚ :=
  coefficient * 10 ^ exponent * Binary64.unitsOfOne

section
variable {c m : Nat} {e f : Int}

theorem size_nonneg : 0 ≤ size c e := by
  have := unitsOfOne_pos
  unfold size
  positivity

theorem size_pos (positive : 0 < c) : 0 < size c e := by
  have := unitsOfOne_pos
  have : (0 : ℚ) < c := by exact_mod_cast positive
  unfold size
  positivity

theorem size_le_size (le : c ≤ m) : size c e ≤ size m e := by
  have := unitsOfOne_pos
  have : (c : ℚ) ≤ m := by exact_mod_cast le
  unfold size
  gcongr

theorem size_eq_mul : size c e = c * size 1 e := by
  unfold size
  rw [Nat.cast_one, one_mul, mul_assoc]

theorem size_mul_pow (c k : Nat) (e : Int) : size (c * 10 ^ k) e = size c (e + k) := by
  unfold size
  rw [zpow_add₀ (by norm_num), zpow_natCast]
  push_cast
  ring

theorem size_one_add (e : Int) (k : Nat) : size 1 (e + k) = (10 ^ k : Nat) * size 1 e := by
  rw [← size_mul_pow, one_mul, size_eq_mul]

theorem size_one_succ (e : Int) : size 1 (e + 1) = 10 * size 1 e := by
  exact_mod_cast size_one_add e 1

theorem size_one_mono (le : e ≤ f) : size 1 e ≤ size 1 f := by
  have := unitsOfOne_pos
  unfold size
  gcongr
  norm_num

theorem size_natCast (c k : Nat) : size c k = (c * 10 ^ k * Binary64.unitsOfOne : Nat) := by
  unfold size
  rw [zpow_natCast]
  push_cast
  rfl

theorem pow_mul_size_neg (c k : Nat) :
    (10 ^ k : Nat) * size c (-(k : Int)) = (c * Binary64.unitsOfOne : Nat) := by
  unfold size
  rw [zpow_neg, zpow_natCast]
  push_cast
  field_simp

/-- Between powers of ten by the count of digits. -/
theorem size_lt (c : Nat) (e : Int) : size c e < size 1 (e + digitCount c) := by
  rw [size_one_add, size_eq_mul]
  have := lt_pow_digitCount c
  exact mul_lt_mul_of_pos_right (by exact_mod_cast this) (size_pos (by decide))

theorem le_size (positive : 0 < c) : size 1 (e + digitCount c) ≤ 10 * size c e := by
  rw [size_one_add, size_eq_mul (c := c), ← mul_assoc]
  have := pow_digitCount_le positive
  exact mul_le_mul_of_nonneg_right (by exact_mod_cast this) size_nonneg

end

open Binary64

theorem gridPoint_pos (m : Nat) (p : Int) : 0 < (gridPoint m p).2 := by
  unfold gridPoint
  split
  · exact Nat.one_pos
  · exact Nat.pow_pos (by decide)

theorem gridPoint_value (m : Nat) (p : Int) :
    ((gridPoint m p).1 : ℚ) / (gridPoint m p).2 = size m p := by
  unfold gridPoint size
  split
  · next least =>
    obtain ⟨k, rfl⟩ := Int.eq_ofNat_of_zero_le least
    simp
  · next negative =>
    obtain ⟨k, rfl⟩ : ∃ k : Nat, p = -(k : Int) := ⟨(-p).toNat, by omega⟩
    rw [zpow_neg, zpow_natCast, Int.neg_neg, Int.toNat_natCast]
    push_cast
    ring

theorem nearest_zero (negative : Bool) : nearest negative 0 = signedZero negative := by
  refine (nearest_eq_finite_iff (le_refl 0)).mpr ⟨rfl, ?_⟩
  exact_mod_cast roundsTo_self (Nat.dvd_zero (spacing 0))

theorem nearest_of_large {negative : Bool} {x : ℚ} (large : unitsLimit ≤ x) :
    nearest negative x = .infinity negative := by
  have least : 0 ≤ x := le_trans (Nat.cast_nonneg _) large
  obtain ⟨units, rounded⟩ := exists_roundsTo least
  have whole : spacing unitsLimit ∣ unitsLimit := by decide +kernel
  have outside := (roundsTo_self whole).le rounded large
  rw [nearest_of_roundsTo least rounded, dif_neg fun fits => Nat.not_lt.mpr outside fits.2]

theorem nearest_of_small {negative : Bool} {x : ℚ} (least : 0 ≤ x) (small : 2 * x ≤ 1) :
    nearest negative x = signedZero negative := by
  refine (nearest_eq_finite_iff least).mpr ⟨rfl, 0, 0, ?_, .inl rfl, ⟨?_, ?_, by simp⟩, rfl⟩
  · linarith
  · simp; linarith
  · simp; linarith

theorem two_mul_size_underflowPlace : 2 * size 1 underflowPlace ≤ 1 := by
  rw [show underflowPlace = -((324 : Nat) : Int) from rfl]
  have few : 2 * (1 * unitsOfOne) ≤ 10 ^ (324 : Nat) := by decide +kernel
  have few : ((2 * (1 * unitsOfOne) : Nat) : ℚ) ≤ (10 ^ (324 : Nat) : Nat) := Nat.cast_le.mpr few
  rw [Nat.cast_mul, Nat.cast_ofNat, ← pow_mul_size_neg, mul_left_comm] at few
  have positive (k : Nat) : (0 : ℚ) < (10 ^ k : Nat) := by positivity
  exact le_of_mul_le_mul_left (few.trans_eq (mul_one _).symm) (positive 324)

theorem ten_mul_unitsLimit_le : 10 * (unitsLimit : ℚ) ≤ size 1 (overflowPlace + 1) := by
  rw [show overflowPlace + 1 = ((310 : Nat) : Int) from rfl, size_natCast,
    show 10 * (unitsLimit : ℚ) = (10 * unitsLimit : Nat) by push_cast; rfl]
  exact Nat.cast_le.mpr (by decide +kernel)

/-- Reading a decimal rounds its value once. -/
theorem toBinary64_eq_nearest (d : Decimal) :
    d.toBinary64 = nearest d.negative (size d.coefficient d.exponent) := by
  unfold toBinary64
  dsimp only
  split
  · next zero => simp [zero, size, nearest_zero]
  next nonzero =>
  have positive : 0 < d.coefficient := Nat.pos_of_ne_zero nonzero
  split
  · next huge =>
    refine (nearest_of_large ?_).symm
    have low := le_size (e := d.exponent) positive
    have far := size_one_mono (Int.add_one_le_of_lt huge)
    have limit := ten_mul_unitsLimit_le
    linarith
  split
  · next tiny =>
    refine (nearest_of_small size_nonneg ?_).symm
    have high := size_lt d.coefficient d.exponent
    have near := size_one_mono tiny
    have limit := two_mul_size_underflowPlace
    linarith
  rw [← gridPoint_value, ← ofQuotient_eq_nearest (gridPoint_pos _ _), gridPoint]
  split <;> rfl

end Decimal
end SheetPricing
