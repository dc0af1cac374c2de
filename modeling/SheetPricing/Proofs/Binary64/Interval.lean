import SheetPricing.Decimal.Shortest
import SheetPricing.Proofs.Binary64.Nearest

/-! The interval of a number holds just the values that round to it. -/
namespace SheetPricing.Binary64

/-- That a count of units lies in an interval. -/
structure Interval.Holds (i : Interval) (x : ℚ) : Prop where
  low : i.low ≤ 4 * x
  high : 4 * x ≤ i.high
  inside : i.closed = false → i.low < 4 * x ∧ 4 * x < i.high

theorem Interval.contains_iff {i : Interval} {n d : Nat} (positive : 0 < d) :
    i.contains n d = true ↔ i.Holds (n / d) := by
  have positive' : (0 : ℚ) < d := by exact_mod_cast positive
  have low : i.low * d ≤ 4 * n ↔ (i.low : ℚ) ≤ 4 * (n / d) := by
    rw [← mul_div_assoc, le_div_iff₀ positive']
    exact_mod_cast Iff.rfl
  have high : 4 * n ≤ i.high * d ↔ 4 * ((n : ℚ) / d) ≤ i.high := by
    rw [← mul_div_assoc, div_le_iff₀ positive']
    exact_mod_cast Iff.rfl
  have above : i.low * d < 4 * n ↔ (i.low : ℚ) < 4 * (n / d) := by
    rw [← mul_div_assoc, lt_div_iff₀ positive']
    exact_mod_cast Iff.rfl
  have below : 4 * n < i.high * d ↔ 4 * ((n : ℚ) / d) < i.high := by
    rw [← mul_div_assoc, div_lt_iff₀ positive']
    exact_mod_cast Iff.rfl
  unfold Interval.contains
  cases closed : i.closed with
  | true =>
    simp only [if_true, Bool.and_eq_true, decide_eq_true_eq, low, high]
    exact ⟨fun ⟨low, high⟩ => ⟨low, high, by simp [closed]⟩, fun holds => ⟨holds.low, holds.high⟩⟩
  | false =>
    simp only [Bool.false_eq_true, if_false, Bool.and_eq_true, decide_eq_true_eq, above, below]
    exact ⟨fun ⟨low, high⟩ => ⟨low.le, high.le, fun _ => ⟨low, high⟩⟩,
      fun holds => holds.inside closed⟩

/-- What lies between two members of an interval is a member. -/
theorem Interval.Holds.between {i : Interval} {x y z : ℚ} (first : i.Holds x) (last : i.Holds z)
    (above : x ≤ y) (below : y ≤ z) : i.Holds y := by
  have low := first.low
  have high := last.high
  refine ⟨by linarith, by linarith, fun opened => ?_⟩
  have low := (first.inside opened).1
  have high := (last.inside opened).2
  exact ⟨by linarith, by linarith⟩

section
variable {units e k : Nat} {x : ℚ}

/-- A number whose step below is half the step above. -/
theorem boundary_iff (step : spacing units = 2 ^ e) :
    (units = 2 ^ units.log2 ∧ 1 < spacing units) ↔ units = 2 ^ (52 : Nat) * 2 ^ e ∧ e ≠ 0 := by
  have exponent : units.log2 - 52 = e := Nat.pow_right_injective (le_refl 2) step
  have coarse : 1 < spacing units ↔ e ≠ 0 := by
    rw [step]
    constructor
    · rintro large rfl
      simp at large
    · intro nonzero
      exact Nat.one_lt_two_pow nonzero
  rw [coarse]
  refine and_congr_left fun nonzero => ?_
  rw [← Nat.pow_add, show units.log2 = 52 + e by omega]

theorem high_interval (step : spacing units = 2 ^ e) :
    ((interval units).high : ℚ) = 4 * units + 2 * 2 ^ e := by
  rw [interval, step]
  push_cast
  rfl

theorem low_interval_of_boundary (step : spacing units = 2 ^ e)
    (boundary : units = 2 ^ (52 : Nat) * 2 ^ e ∧ e ≠ 0) :
    ((interval units).low : ℚ) = 4 * units - 2 ^ e := by
  have small : 2 ^ e ≤ 4 * units := by omega
  unfold interval
  dsimp only
  rw [if_pos ((boundary_iff step).mpr boundary), step, Nat.cast_sub small]
  push_cast
  rfl

theorem low_interval_of_regular (step : spacing units = 2 ^ e) (positive : 0 < units)
    (whole : spacing units ∣ units) (regular : ¬(units = 2 ^ (52 : Nat) * 2 ^ e ∧ e ≠ 0)) :
    ((interval units).low : ℚ) = 4 * units - 2 * 2 ^ e := by
  have small : 2 * 2 ^ e ≤ 4 * units := by
    have := Nat.le_of_dvd positive whole
    omega
  unfold interval
  dsimp only
  rw [if_neg (mt (boundary_iff step).mp regular), step, Nat.cast_sub small]
  push_cast
  rfl

theorem closed_interval (step : spacing units = 2 ^ e) (split : units = k * 2 ^ e) :
    (interval units).closed = false ↔ k % 2 = 1 := by
  have quotient : units / 2 ^ e = k := by
    rw [split, Nat.mul_div_cancel _ (Nat.two_pow_pos e)]
  unfold interval
  dsimp only
  rw [step, quotient, beq_eq_false_iff_ne]
  omega

/-- In the regular case the interval reaches half a step to both sides. -/
theorem holds_interval_iff_of_regular (step : spacing units = 2 ^ e) (split : units = k * 2 ^ e)
    (positive : 0 < units) (regular : ¬(units = 2 ^ (52 : Nat) * 2 ^ e ∧ e ≠ 0)) :
    (interval units).Holds x ↔ NearestMultiple (2 ^ e) x k := by
  have whole : spacing units ∣ units := ⟨k, by rw [step, split, Nat.mul_comm]⟩
  have low := low_interval_of_regular step positive whole regular
  have high := high_interval step
  have value : (units : ℚ) = k * 2 ^ e := by rw [split]; push_cast; rfl
  rw [value] at low high
  constructor
  · rintro ⟨below, above, inside⟩
    refine ⟨by linarith, by linarith, fun odd => ?_⟩
    have := inside ((closed_interval step split).mpr odd)
    constructor <;> linarith [this.1, this.2]
  · rintro ⟨below, above, inside⟩
    refine ⟨by linarith, by linarith, fun opened => ?_⟩
    have := inside ((closed_interval step split).mp opened)
    constructor <;> linarith [this.1, this.2]

/-- At a boundary the interval is closed and reaches a quarter of the step above to below. -/
theorem holds_interval_iff_of_boundary (step : spacing units = 2 ^ e)
    (boundary : units = 2 ^ (52 : Nat) * 2 ^ e ∧ e ≠ 0) :
    (interval units).Holds x ↔ 4 * (units : ℚ) - 2 ^ e ≤ 4 * x ∧ 4 * x ≤ 4 * units + 2 * 2 ^ e := by
  have low := low_interval_of_boundary step boundary
  have high := high_interval step
  rw [← low, ← high]
  constructor
  · exact fun holds => ⟨holds.low, holds.high⟩
  · rintro ⟨below, above⟩
    refine ⟨below, above, fun opened => ?_⟩
    rw [closed_interval step boundary.1] at opened
    cases opened

theorem holds_interval_of_roundsTo (positive : 0 < units) (rounded : RoundsTo x units) :
    (interval units).Holds x := by
  obtain ⟨e, k, high, low, near, split⟩ := rounded
  have value : (units : ℚ) = k * 2 ^ e := by rw [split]; push_cast; rfl
  have size : (0 : ℚ) < 2 ^ e := by positivity
  have top : k ≤ 2 ^ (53 : Nat) := near.le_of_le size (by exact_mod_cast high.le)
  rcases Nat.lt_or_eq_of_le top with below | rfl
  · have step : spacing units = 2 ^ e := by
      refine spacing_eq (by rw [split]; exact Nat.mul_lt_mul_of_pos_right below (by positivity)) ?_
      refine low.imp_right fun low => ?_
      rw [split]
      exact Nat.mul_le_mul_right _ (near.le_of_ge size (by exact_mod_cast low))
    by_cases boundary : units = 2 ^ (52 : Nat) * 2 ^ e ∧ e ≠ 0
    · have least := low.resolve_left boundary.2
      have value' : (units : ℚ) = 2 ^ 52 * 2 ^ e := by rw [boundary.1]; push_cast; rfl
      have above := near.above
      rw [holds_interval_iff_of_boundary step boundary]
      constructor <;> linarith
    · exact (holds_interval_iff_of_regular step split positive boundary).mpr near
  · -- the nearest multiple is the first number of the next coarser step
    have same : units = 2 ^ (52 : Nat) * 2 ^ (e + 1) := by
      rw [split, Nat.pow_succ' (n := e), ← Nat.mul_assoc]
    have step : spacing units = 2 ^ (e + 1) := by
      refine spacing_eq ?_ (.inr same.ge)
      rw [same]
      exact Nat.mul_lt_mul_of_pos_right (by decide) (by positivity)
    rw [holds_interval_iff_of_boundary step ⟨same, by omega⟩, pow_succ (2 : ℚ) e]
    have below := near.below
    push_cast at value below
    constructor <;> linarith

theorem roundsTo_of_boundary (step : spacing units = 2 ^ e)
    (boundary : units = 2 ^ (52 : Nat) * 2 ^ e ∧ e ≠ 0) (holds : (interval units).Holds x) :
    RoundsTo x units := by
  have value : (units : ℚ) = 2 ^ 52 * 2 ^ e := by rw [boundary.1]; push_cast; rfl
  have size : (0 : ℚ) < 2 ^ e := by positivity
  obtain ⟨low, high⟩ := (holds_interval_iff_of_boundary step boundary).mp holds
  obtain ⟨same, coarse⟩ := boundary
  rcases le_or_gt (units : ℚ) x with above | below
  · refine ⟨e, 2 ^ (52 : Nat), by linarith, .inr (by linarith), ⟨?_, ?_, by simp⟩, same⟩
    · push_cast
      linarith
    · push_cast
      linarith
  · -- below the number the step is finer
    obtain ⟨f, rfl⟩ := Nat.exists_eq_succ_of_ne_zero coarse
    rw [Nat.succ_eq_add_one, pow_succ (2 : ℚ) f] at *
    refine ⟨f, 2 ^ (53 : Nat), by linarith, .inr (by linarith), ⟨?_, ?_, by simp⟩, ?_⟩
    · push_cast
      linarith
    · push_cast
      linarith
    · rw [same, Nat.pow_succ' (n := f), ← Nat.mul_assoc]

theorem roundsTo_of_regular (step : spacing units = 2 ^ e) (split : units = k * 2 ^ e)
    (regular : ¬(units = 2 ^ (52 : Nat) * 2 ^ e ∧ e ≠ 0)) (near : NearestMultiple (2 ^ e) x k) :
    RoundsTo x units := by
  have size : (0 : ℚ) < 2 ^ e := by positivity
  have top : k + 1 ≤ 2 ^ (53 : Nat) := by
    have small := lt_spacing units
    rw [step, split] at small
    exact Nat.lt_of_mul_lt_mul_right small
  have top : ((k : ℚ) + 1) * 2 ^ e ≤ 2 ^ 53 * 2 ^ e :=
    mul_le_mul_of_nonneg_right (by exact_mod_cast top) size.le
  have above := near.above
  refine ⟨e, k, by linarith, ?_, near, split⟩
  by_cases fine : e = 0
  · exact .inl fine
  right
  have coarse : units.log2 - 52 ≠ 0 := by
    intro none
    rw [spacing, none] at step
    exact fine (Nat.pow_right_injective (le_refl 2) step).symm
  have bottom : 2 ^ (52 : Nat) + 1 ≤ k := by
    have least := spacing_le coarse
    rw [step, split] at least
    have least := Nat.le_of_mul_le_mul_right least (Nat.two_pow_pos e)
    rcases Nat.lt_or_eq_of_le least with more | same
    · exact more
    · rw [same] at regular
      exact absurd ⟨split, fine⟩ regular
  have bottom : ((2 : ℚ) ^ 52 + 1) * 2 ^ e ≤ k * 2 ^ e :=
    mul_le_mul_of_nonneg_right (by exact_mod_cast bottom) size.le
  have below := near.below
  linarith

/-- The interval of a number holds the values that round to it. -/
theorem holds_interval_iff (positive : 0 < units) (whole : spacing units ∣ units) :
    (interval units).Holds x ↔ RoundsTo x units := by
  refine ⟨fun holds => ?_, holds_interval_of_roundsTo positive⟩
  obtain ⟨k, split⟩ := whole
  generalize known : units.log2 - 52 = e
  have step : spacing units = 2 ^ e := by rw [spacing, known]
  rw [step, Nat.mul_comm] at split
  by_cases boundary : units = 2 ^ (52 : Nat) * 2 ^ e ∧ e ≠ 0
  · exact roundsTo_of_boundary step boundary holds
  · have near := (holds_interval_iff_of_regular step split positive boundary).mp holds
    exact roundsTo_of_regular step split boundary near

end
end SheetPricing.Binary64
