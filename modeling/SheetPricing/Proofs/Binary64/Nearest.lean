import Mathlib.Algebra.Order.Field.Rat
import Mathlib.Data.Rat.Cast.Order
import Mathlib.Tactic.Linarith
import Mathlib.Tactic.Positivity
import Mathlib.Tactic.Ring
import SheetPricing.Binary64.Basic

/-! Rounding to the nearest number as a relation on rational counts of units. The relation holds of
one number only and keeps the order, and what `roundUnits` computes is that number. -/
namespace SheetPricing

/-- A multiple of a step is nearest to a value; half way between two it is the even one. -/
structure NearestMultiple (step x : ℚ) (k : Nat) : Prop where
  below : 2 * (k * step) - step ≤ 2 * x
  above : 2 * x ≤ 2 * (k * step) + step
  inside : k % 2 = 1 → 2 * (k * step) - step < 2 * x ∧ 2 * x < 2 * (k * step) + step

namespace NearestMultiple

variable {step x y c : ℚ} {k m : Nat}

theorem exact (positive : 0 < step) (k : Nat) : NearestMultiple step (k * step) k :=
  ⟨by linarith, by linarith, fun _ => ⟨by linarith, by linarith⟩⟩

theorem scale (positive : 0 < c) (near : NearestMultiple step x k) :
    NearestMultiple (c * step) (c * x) k := by
  have double : 2 * (c * x) = c * (2 * x) := by ring
  have low : 2 * (k * (c * step)) - c * step = c * (2 * (k * step) - step) := by ring
  have high : 2 * (k * (c * step)) + c * step = c * (2 * (k * step) + step) := by ring
  refine ⟨?_, ?_, fun odd => ?_⟩ <;> rw [double]
  · rw [low]
    exact mul_le_mul_of_nonneg_left near.below positive.le
  · rw [high]
    exact mul_le_mul_of_nonneg_left near.above positive.le
  · rw [low, high]
    exact ⟨mul_lt_mul_of_pos_left (near.inside odd).1 positive,
      mul_lt_mul_of_pos_left (near.inside odd).2 positive⟩

/-- Of two values the smaller one has the smaller nearest multiple. -/
theorem le (positive : 0 < step) (near : NearestMultiple step x k)
    (other : NearestMultiple step y m) (ordered : x ≤ y) : k ≤ m := by
  by_contra! above
  have low := near.below
  have high := other.above
  rcases Nat.lt_or_ge (m + 1) k with far | close
  · have apart : ((m + 2 : Nat) : ℚ) * step ≤ k * step :=
      mul_le_mul_of_nonneg_right (by exact_mod_cast far) positive.le
    push_cast at apart
    linarith
  · obtain rfl : k = m + 1 := by omega
    push_cast at low
    rcases Nat.mod_two_eq_zero_or_one m with even | odd
    · have := (near.inside (by omega)).1
      push_cast at this
      linarith
    · have := (other.inside odd).2
      linarith

theorem le_of_le (positive : 0 < step) (near : NearestMultiple step x k) (le : x ≤ m * step) :
    k ≤ m := near.le positive (exact positive m) le

theorem le_of_ge (positive : 0 < step) (near : NearestMultiple step x k) (ge : m * step ≤ x) :
    m ≤ k := (exact positive m).le positive near ge

end NearestMultiple

theorem nearestMultiple_roundHalfEven (n : Nat) {d : Nat} (positive : 0 < d) :
    NearestMultiple d n (roundHalfEven n d) := by
  have split : (n : ℚ) = d * (n / d : Nat) + (n % d : Nat) := by
    exact_mod_cast (Nat.div_add_mod n d).symm
  have small : ((n % d : Nat) : ℚ) < d := by exact_mod_cast Nat.mod_lt n positive
  have least : (0 : ℚ) ≤ (n % d : Nat) := by positivity
  rw [split]
  unfold roundHalfEven
  generalize n / d = q at *
  generalize n % d = r at *
  dsimp only
  split_ifs with low high
  · have low : 2 * (r : ℚ) < d := by exact_mod_cast low
    exact ⟨by linarith, by linarith, fun _ => ⟨by linarith, by linarith⟩⟩
  · have high : (d : ℚ) < 2 * r := by exact_mod_cast high
    refine ⟨?_, ?_, fun _ => ⟨?_, ?_⟩⟩ <;> push_cast <;> linarith
  · have half : 2 * (r : ℚ) = d := by
      have : 2 * r = d := by omega
      exact_mod_cast this
    rcases Nat.mod_two_eq_zero_or_one q with even | odd
    · rw [even, Nat.add_zero]
      exact ⟨by linarith, by linarith, fun odd => by omega⟩
    · rw [odd]
      refine ⟨?_, ?_, fun odd => by omega⟩ <;> push_cast <;> linarith

namespace Binary64

theorem lt_spacing (q : Nat) : q < 2 ^ (53 : Nat) * spacing q := by
  rw [spacing, ← Nat.pow_add]
  exact Nat.lt_of_lt_of_le Nat.lt_log2_self (Nat.pow_le_pow_right (by decide) (by omega))

theorem spacing_le {q : Nat} (coarse : q.log2 - 52 ≠ 0) : 2 ^ (52 : Nat) * spacing q ≤ q := by
  have nonzero : q ≠ 0 := by
    rintro rfl
    simp at coarse
  rw [spacing, ← Nat.pow_add, show 52 + (q.log2 - 52) = q.log2 by omega]
  exact Nat.log2_self_le nonzero

/-- The step of a number is the power of two that leaves it 53 significant bits. -/
theorem spacing_eq {q e : Nat} (below : q < 2 ^ (53 : Nat) * 2 ^ e)
    (above : e = 0 ∨ 2 ^ (52 : Nat) * 2 ^ e ≤ q) : spacing q = 2 ^ e := by
  rw [spacing]
  congr 1
  rw [← Nat.pow_add] at below
  by_cases zero : q = 0
  · subst zero
    rcases above with none | above
    · simp [none]
    · have := Nat.two_pow_pos e
      omega
  have high : q.log2 < 53 + e := (Nat.log2_lt zero).mpr below
  rcases above with none | above
  · omega
  · rw [← Nat.pow_add] at above
    have low : 52 + e ≤ q.log2 := (Nat.le_log2 zero).mpr above
    omega

/-- That a count of units is the result of rounding: on the steps that leave 53 significant bits it
is the nearest multiple. -/
def RoundsTo (x : ℚ) (units : Nat) : Prop :=
  ∃ e k : Nat, x < 2 ^ 53 * 2 ^ e ∧ (e = 0 ∨ 2 ^ 52 * 2 ^ e ≤ x) ∧ NearestMultiple (2 ^ e) x k ∧
    units = k * 2 ^ e

theorem roundsTo_roundUnits (n : Nat) {d : Nat} (positive : 0 < d) :
    RoundsTo (n / d) (roundUnits n d) := by
  have positive' : (0 : ℚ) < d := by exact_mod_cast positive
  refine ⟨(n / d).log2 - 52, roundHalfEven n (d * spacing (n / d)), ?_, ?_, ?_, rfl⟩
  · rw [div_lt_iff₀ positive']
    have := lt_spacing (n / d)
    rw [Nat.div_lt_iff_lt_mul positive] at this
    exact_mod_cast this
  · by_cases fine : (n / d).log2 - 52 = 0
    · exact .inl fine
    · have := spacing_le fine
      rw [Nat.le_div_iff_mul_le positive] at this
      rw [le_div_iff₀ positive']
      exact .inr (by exact_mod_cast this)
  · have nearest := nearestMultiple_roundHalfEven n
      (Nat.mul_pos positive (Nat.two_pow_pos ((n / d).log2 - 52)))
    have scaled := nearest.scale (inv_pos.mpr positive')
    rw [Nat.cast_mul, Nat.cast_pow, Nat.cast_ofNat, inv_mul_cancel_left₀ positive'.ne',
      inv_mul_eq_div] at scaled
    exact scaled

section
variable {x y : ℚ} {units other : Nat}

/-- Of two values the smaller one rounds to the smaller number. -/
theorem RoundsTo.le (rounded : RoundsTo x units) (next : RoundsTo y other) (ordered : x ≤ y) :
    units ≤ other := by
  obtain ⟨e, k, high, low, near, rfl⟩ := rounded
  obtain ⟨f, m, high', low', near', rfl⟩ := next
  rcases Nat.lt_trichotomy e f with finer | rfl | coarser
  · have top : k ≤ 2 ^ (53 : Nat) := near.le_of_le (by positivity) (by exact_mod_cast high.le)
    have bottom : 2 ^ (52 : Nat) ≤ m :=
      near'.le_of_ge (by positivity) (by exact_mod_cast low'.resolve_left (by omega))
    have double : 2 * 2 ^ e ≤ 2 ^ f := by
      rw [← Nat.pow_succ']
      exact Nat.pow_le_pow_right (by decide) finer
    calc k * 2 ^ e ≤ 2 ^ (53 : Nat) * 2 ^ e := Nat.mul_le_mul_right _ top
      _ = 2 ^ (52 : Nat) * (2 * 2 ^ e) := by rw [← Nat.mul_assoc]
      _ ≤ m * 2 ^ f := Nat.mul_le_mul bottom double
  · exact Nat.mul_le_mul_right _ (near.le (by positivity) near' ordered)
  · have double : (2 : ℚ) * 2 ^ f ≤ 2 ^ e := by
      rw [← pow_succ']
      exact pow_le_pow_right₀ (by norm_num) coarser
    have := low.resolve_left (by omega)
    linarith

theorem RoundsTo.unique (rounded : RoundsTo x units) (also : RoundsTo x other) : units = other :=
  Nat.le_antisymm (rounded.le also (le_refl x)) (also.le rounded (le_refl x))

theorem roundUnits_eq_iff {n d : Nat} (positive : 0 < d) :
    roundUnits n d = units ↔ RoundsTo (n / d) units := by
  constructor
  · rintro rfl
    exact roundsTo_roundUnits n positive
  · exact (roundsTo_roundUnits n positive).unique

/-- A number with 53 significant bits rounds to itself. -/
theorem roundsTo_self (whole : spacing units ∣ units) : RoundsTo units units := by
  obtain ⟨k, split⟩ := whole
  refine ⟨units.log2 - 52, k, ?_, ?_, ?_, ?_⟩
  · exact_mod_cast lt_spacing units
  · by_cases fine : units.log2 - 52 = 0
    · exact .inl fine
    · exact .inr (by exact_mod_cast spacing_le fine)
  · have size : (0 : ℚ) < 2 ^ (units.log2 - 52) := by positivity
    have exact := NearestMultiple.exact size k
    have same : (units : ℚ) = k * 2 ^ (units.log2 - 52) := by
      rw [mul_comm]
      exact_mod_cast split
    rwa [← same] at exact
  · rw [mul_comm]
    exact split

end

/-- The number nearest to a rational count of units. -/
def nearest (negative : Bool) (x : ℚ) : Binary64 := ofQuotient negative x.num.natAbs x.den

section
variable {negative : Bool} {x y : ℚ} {units n d : Nat}

theorem natAbs_num_div_den (x : ℚ) (least : 0 ≤ x) : (x.num.natAbs : ℚ) / x.den = x := by
  rw [← Int.cast_natCast, Int.natAbs_of_nonneg (Rat.num_nonneg.mpr least), Rat.num_div_den]

theorem ofQuotient_of_roundsTo (positive : 0 < d) (rounded : RoundsTo (n / d) units) :
    ofQuotient negative n d =
      if fits : Representable units then .finite negative units fits else .infinity negative := by
  obtain rfl := (roundUnits_eq_iff positive).mpr rounded
  unfold ofQuotient
  by_cases inside : roundUnits n d < unitsLimit
  · rw [dif_pos inside, dif_pos (representable_roundUnits inside)]
  · rw [dif_neg inside, dif_neg fun fits => inside fits.2]

theorem nearest_of_roundsTo (least : 0 ≤ x) (rounded : RoundsTo x units) :
    nearest negative x =
      if fits : Representable units then .finite negative units fits else .infinity negative := by
  rw [← natAbs_num_div_den x least] at rounded
  exact ofQuotient_of_roundsTo x.den_pos rounded

theorem exists_roundsTo (least : 0 ≤ x) : ∃ units, RoundsTo x units := by
  refine ⟨roundUnits x.num.natAbs x.den, ?_⟩
  rw [← natAbs_num_div_den x least]
  simpa only [natAbs_num_div_den x least] using roundsTo_roundUnits x.num.natAbs x.den_pos

/-- A quotient only counts by its value. -/
theorem ofQuotient_eq_nearest (positive : 0 < d) :
    ofQuotient negative n d = nearest negative (n / d) := by
  have rounded := roundsTo_roundUnits n positive
  rw [ofQuotient_of_roundsTo positive rounded, nearest_of_roundsTo (by positivity) rounded]

theorem representable_of_roundsTo (least : 0 ≤ x) (rounded : RoundsTo x units)
    (inside : units < unitsLimit) : Representable units := by
  rw [← natAbs_num_div_den x least, ← roundUnits_eq_iff x.den_pos] at rounded
  subst rounded
  exact representable_roundUnits inside

/-- What is at most a number in range is rounded to a number in range. -/
theorem isFinite_nearest (least : 0 ≤ x) {most : Nat} (fits : Representable most) (le : x ≤ most) :
    (nearest negative x).isFinite = true := by
  obtain ⟨found, rounded⟩ := exists_roundsTo least
  have inside := (rounded.le (roundsTo_self fits.1) le).trans_lt fits.2
  rw [nearest_of_roundsTo least rounded, dif_pos (representable_of_roundsTo least rounded inside)]
  rfl

theorem nearest_eq_finite_iff (least : 0 ≤ x) {sign : Bool} {fits : Representable units} :
    nearest negative x = .finite sign units fits ↔ negative = sign ∧ RoundsTo x units := by
  obtain ⟨found, rounded⟩ := exists_roundsTo least
  rw [nearest_of_roundsTo least rounded]
  constructor
  · intro same
    split at same
    · obtain ⟨rfl, rfl⟩ := Binary64.finite.inj same
      exact ⟨rfl, rounded⟩
    · cases same
  · rintro ⟨rfl, also⟩
    obtain rfl := rounded.unique also
    rw [dif_pos fits]

end
end Binary64
end SheetPricing
