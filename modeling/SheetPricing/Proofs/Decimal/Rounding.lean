import SheetPricing.Decimal.Rounding
import SheetPricing.Proofs.Binary64.Shortest

/-! Rounding to decimal places. The rounded number is the one nearest to a multiple of the decimal
place, and rounding it again gives it back. -/
namespace SheetPricing

/-- A multiple of a step is nearest to a value; half way between two it is the upper one. -/
structure NearestUp (step x : ℚ) (k : Nat) : Prop where
  below : 2 * (k * step) - step ≤ 2 * x
  above : 2 * x < 2 * (k * step) + step

namespace NearestUp

variable {step x y : ℚ} {k m : Nat}

theorem exact (positive : 0 < step) (k : Nat) : NearestUp step (k * step) k :=
  ⟨by linarith, by linarith⟩

/-- Of two values the smaller one has the smaller nearest multiple. -/
theorem le (positive : 0 < step) (near : NearestUp step x k) (other : NearestUp step y m)
    (ordered : x ≤ y) : k ≤ m := by
  by_contra! above
  have apart : ((m + 1 : Nat) : ℚ) * step ≤ k * step :=
    mul_le_mul_of_nonneg_right (by exact_mod_cast above) positive.le
  have low := near.below
  have high := other.above
  push_cast at apart
  linarith

theorem of_small (least : 0 ≤ x) (small : 2 * x < step) : NearestUp step x 0 := by
  refine ⟨?_, ?_⟩
  · rw [Nat.cast_zero]
    linarith
  · rw [Nat.cast_zero]
    linarith

theorem unique (positive : 0 < step) (near : NearestUp step x k) (also : NearestUp step x m) :
    k = m :=
  Nat.le_antisymm (near.le positive also (le_refl x)) (also.le positive near (le_refl x))

end NearestUp

namespace Decimal

theorem roundHalfUp_bounds (n : Nat) {d : Nat} (positive : 0 < d) :
    roundHalfUp n d * (2 * d) ≤ 2 * n + d ∧ 2 * n + d < (roundHalfUp n d + 1) * (2 * d) :=
  ⟨Nat.div_mul_le_self _ _, Nat.lt_mul_of_div_lt (Nat.lt_succ_self _) (by omega)⟩

theorem nearestUp_size (c : Nat) (e : Int) : NearestUp (size 1 e) (size c e) c := by
  rw [size_eq_mul (c := c)]
  exact .exact (size_pos Nat.one_pos) c

/-- A decimal is a multiple of every lower power of ten. -/
theorem exists_size_eq (c : Nat) {e f : Int} (le : f ≤ e) : ∃ m, size m f = size c e := by
  obtain ⟨j, shift⟩ := Int.eq_ofNat_of_zero_le (Int.sub_nonneg_of_le le)
  refine ⟨c * 10 ^ j, ?_⟩
  rw [size_mul_pow, show f + (j : Int) = e by omega]

/-- A decimal is rounded to the nearest multiple of the decimal place. -/
theorem nearestUp_roundTo (d : Decimal) (places : Int) :
    NearestUp (size 1 (-places)) (size d.coefficient d.exponent)
      (d.roundTo places).coefficient := by
  unfold roundTo
  dsimp only
  split
  · next least =>
    obtain ⟨j, shift⟩ := Int.eq_ofNat_of_zero_le least
    have place : -places + (j : Int) = d.exponent := by omega
    rw [shift, Int.toNat_natCast, ← place, ← size_mul_pow]
    exact nearestUp_size _ _
  · next negative =>
    obtain ⟨j, shift⟩ := Int.eq_ofNat_of_zero_le (a := -(d.exponent + places)) (by omega)
    have place : d.exponent + (j : Int) = -places := by omega
    rw [shift, Int.toNat_natCast, ← place, size_one_add, size_eq_mul (c := d.coefficient)]
    have unit : 0 < size 1 d.exponent := size_pos Nat.one_pos
    have many_pos : 0 < 10 ^ j := Nat.pow_pos (by decide)
    obtain ⟨low, high⟩ := roundHalfUp_bounds d.coefficient many_pos
    generalize 10 ^ j = many at *
    generalize roundHalfUp d.coefficient many = k at *
    have low : (k : ℚ) * (2 * many) ≤ 2 * d.coefficient + many := by exact_mod_cast low
    have high : 2 * (d.coefficient : ℚ) + many < (k + 1) * (2 * many) := by exact_mod_cast high
    have low := mul_le_mul_of_nonneg_right low unit.le
    have high := mul_lt_mul_of_pos_right high unit
    constructor <;> linarith

end Decimal

namespace Binary64
open Decimal

attribute [local irreducible] unitsOfOne unitsLimit

theorem digitCount_le_of_lt {n j : Nat} (positive : 0 < j) (small : n < 10 ^ j) :
    digitCount n ≤ j := by
  rcases Nat.eq_zero_or_pos n with rfl | n_pos
  · rw [digitCount, if_pos (by decide)]
    exact positive
  · have least := pow_digitCount_le n_pos
    have below : 10 ^ digitCount n < 10 ^ (j + 1) := by
      rw [Nat.pow_succ]
      omega
    have := (Nat.pow_lt_pow_iff_right (by decide)).mp below
    omega

theorem size_lt_of_representable {units : Nat} (fits : Representable units) :
    (units : ℚ) < size 1 (overflowPlace + 1) := by
  have inside : (units : ℚ) < unitsLimit := by exact_mod_cast fits.2
  have limit := ten_mul_unitsLimit_le
  have least : (0 : ℚ) ≤ unitsLimit := Nat.cast_nonneg _
  linarith

/-- What the shortest decimal of a number is worth. -/
def shortestSize (negative : Bool) (units : Nat) : ℚ :=
  size (shortest negative units).coefficient (shortest negative units).exponent

theorem shortestSize_zero (negative : Bool) : shortestSize negative 0 = 0 := by
  rw [shortestSize, shortest, if_pos rfl, size_eq_mul, Nat.cast_zero, zero_mul]

section
variable (negative : Bool) {units : Nat} (fits : Representable units) {places : Int}
include fits

theorem two_mul_shortestSize_le : 2 * shortestSize negative units ≤ 3 * units := by
  rcases Nat.eq_zero_or_pos units with rfl | positive
  · rw [shortestSize_zero]
    simp
  · obtain ⟨c, e, written, reads, _⟩ := shortest_spec positive fits.1 negative
    rw [shortestSize, written]
    exact (bounds_of_holds_interval positive fits.1 reads).2

/-- No number is written to more places than the limit. -/
theorem exists_shortest : ∃ c e, shortest negative units = ⟨negative, c, e⟩ ∧ -placesLimit ≤ e := by
  rcases Nat.eq_zero_or_pos units with rfl | positive
  · exact ⟨0, 0, rfl, by decide⟩
  · obtain ⟨c, e, written, _, digits, _⟩ := shortest_spec positive fits.1 negative
    have least := underflowPlace_le_leadingPlace positive
    refine ⟨c, e, written, ?_⟩
    unfold underflowPlace at least
    unfold placesLimit
    omega

/-- Beyond the limit nothing is left of what is written. -/
theorem nearestUp_of_placesLimit_le {place : Int} (far : placesLimit ≤ place) :
    NearestUp (size 1 place) (shortestSize negative units) 0 := by
  have written := two_mul_shortestSize_le negative fits
  have range := size_lt_of_representable fits
  have top : size 1 (overflowPlace + 1 + 1) ≤ size 1 place :=
    size_one_mono (by unfold overflowPlace placesLimit at *; omega)
  have grid : 0 < size 1 (overflowPlace + 1) := size_pos Nat.one_pos
  rw [size_one_succ] at top
  exact .of_small size_nonneg (by linarith)

/-- Down to the limit and beyond nothing is lost of what is written. -/
theorem exists_nearestUp_of_le_placesLimit {place : Int} (far : place ≤ -placesLimit) :
    ∃ m, NearestUp (size 1 place) (shortestSize negative units) m ∧
      size m place = shortestSize negative units := by
  obtain ⟨c, e, written, digits⟩ := exists_shortest negative fits
  have value : shortestSize negative units = size c e := by rw [shortestSize, written]
  obtain ⟨m, same⟩ := exists_size_eq c (far.trans digits)
  rw [value, ← same]
  exact ⟨m, nearestUp_size m place, rfl⟩

/-- The limit of the places makes no difference. -/
theorem exists_nearestUp_of_limitPlaces {k : Nat}
    (near : NearestUp (size 1 (-limitPlaces places)) (shortestSize negative units) k) :
    ∃ m, NearestUp (size 1 (-places)) (shortestSize negative units) m ∧
      size m (-places) = size k (-limitPlaces places) := by
  have grid (p : Int) : 0 < size 1 p := size_pos Nat.one_pos
  rcases lt_trichotomy (limitPlaces places) places with more | same | fewer
  · have limited : limitPlaces places = placesLimit := by
      unfold limitPlaces placesLimit at *
      omega
    rw [limited] at near more ⊢
    obtain ⟨i, also, exact⟩ := exists_nearestUp_of_le_placesLimit negative fits (le_refl _)
    obtain ⟨m, found, finer⟩ :=
      exists_nearestUp_of_le_placesLimit negative fits (Int.neg_le_neg more.le)
    obtain rfl := near.unique (grid _) also
    exact ⟨m, found, finer.trans exact.symm⟩
  · rw [same] at near ⊢
    exact ⟨k, near, rfl⟩
  · have limited : limitPlaces places = -placesLimit := by
      unfold limitPlaces placesLimit at *
      omega
    rw [limited] at near fewer ⊢
    have zero {p : Int} (far : placesLimit ≤ p) := nearestUp_of_placesLimit_le negative fits far
    obtain rfl := near.unique (grid _) (zero (by omega))
    refine ⟨0, zero (by omega), ?_⟩
    rw [size_eq_mul, size_eq_mul (e := - -placesLimit), Nat.cast_zero, zero_mul, zero_mul]

/-- A rounded number has far less digits than the precision allows. -/
theorem digitCount_of_nearestUp {k : Nat}
    (near : NearestUp (size 1 (-limitPlaces places)) (shortestSize negative units) k) :
    digitCount k ≤ precision := by
  refine digitCount_le_of_lt (by decide) ?_
  have bounds : -340 ≤ limitPlaces places ∧ limitPlaces places ≤ 340 := by
    unfold limitPlaces placesLimit
    omega
  generalize limitPlaces places = places at *
  have range := size_lt_of_representable fits
  have written := two_mul_shortestSize_le negative fits
  have step : size 1 (-places) ≤ size 1 (340 : Int) := size_one_mono (by omega)
  have top : size 1 (overflowPlace + 1) ≤ size 1 (340 : Int) := size_one_mono (by decide)
  have least : size 1 (-340 : Int) ≤ size 1 (-places) := size_one_mono (by omega)
  have low := near.below
  by_contra! many
  have many : size (10 ^ precision) (-340) ≤ size k (-340) := size_le_size many
  rw [← Nat.one_mul (10 ^ precision), size_mul_pow, size_eq_mul (c := k)] at many
  have far : size 1 (340 + 1 : Int) ≤ size 1 (-340 + precision) := size_one_mono (by decide)
  have ten := size_one_succ 340
  have more := mul_le_mul_of_nonneg_left least (Nat.cast_nonneg k : (0 : ℚ) ≤ k)
  have positive : 0 < size 1 (340 : Int) := size_pos Nat.one_pos
  linarith

/-- Rounding to a decimal place gives the number nearest to the multiple that is nearest to what is
written. -/
theorem exists_roundPlaces (places : Int) :
    ∃ k, NearestUp (size 1 (-places)) (shortestSize negative units) k ∧
      (Binary64.finite negative units fits).roundPlaces places
        = .ok (nearest negative (size k (-places))) := by
  have near := nearestUp_roundTo (shortest negative units) (limitPlaces places)
  have fewDigits := digitCount_of_nearestUp negative fits near
  obtain ⟨c, e, written, _⟩ := exists_shortest negative fits
  obtain ⟨m, near, same⟩ := exists_nearestUp_of_limitPlaces negative fits near
  refine ⟨m, near, ?_⟩
  unfold roundPlaces Amount.round
  dsimp only
  simp only [Amount.written?]
  rw [if_neg (Nat.not_lt.mpr fewDigits), toBinary64_eq_nearest, same]
  simp only [roundTo, written]

theorem roundPlaces_eq {k : Nat}
    (near : NearestUp (size 1 (-places)) (shortestSize negative units) k) :
    (Binary64.finite negative units fits).roundPlaces places
      = .ok (nearest negative (size k (-places))) := by
  obtain ⟨m, also, rounded⟩ := exists_roundPlaces negative fits places
  obtain rfl := near.unique (size_pos Nat.one_pos) also
  exact rounded

/-- Where a multiple of the decimal place reads back and is nearest to what is written, a number is
rounded to itself. -/
theorem roundPlaces_eq_self (positive : 0 < units) {k : Nat} (reads : ReadsBack units (-places) k)
    (near : NearestUp (size 1 (-places)) (shortestSize negative units) k) :
    (Binary64.finite negative units fits).roundPlaces places
      = .ok (.finite negative units fits) := by
  rw [roundPlaces_eq negative fits near]
  congr 1
  exact (nearest_eq_finite_iff size_nonneg).mpr
    ⟨rfl, (holds_interval_iff positive fits.1).mp reads⟩

/-- What is written to no more places than it is rounded to stays as it is. -/
theorem roundPlaces_of_le {c : Nat} {e : Int} (positive : 0 < units)
    (written : shortest negative units = ⟨negative, c, e⟩) (reads : ReadsBack units e c)
    (le : -places ≤ e) :
    (Binary64.finite negative units fits).roundPlaces places
      = .ok (.finite negative units fits) := by
  obtain ⟨m, same⟩ := exists_size_eq c le
  refine roundPlaces_eq_self negative fits positive (k := m) ?_ ?_
  · rw [ReadsBack, same]
    exact reads
  · rw [shortestSize, written]
    dsimp only
    rw [← same]
    exact nearestUp_size _ _

/-- What a multiple of a decimal place was rounded to is rounded to itself. -/
theorem roundPlaces_of_readsBack {k : Nat} (positive : 0 < units)
    (reads : ReadsBack units (-places) k) :
    (Binary64.finite negative units fits).roundPlaces places
      = .ok (.finite negative units fits) := by
  obtain ⟨c, e, written, back, _, coarse, least⟩ := shortest_spec positive fits.1 negative
  rcases le_or_gt (-places) (leadingPlace units) with inside | outside
  · exact roundPlaces_of_le negative fits positive written back (coarse _ _ inside reads)
  · -- the number is less than one at the decimal place, where one reads back as the number
    obtain ⟨_, below⟩ := leadingPlace_bounds positive
    have self := holds_interval_self positive fits.1
    have bound {x : ℚ} := @bounds_of_holds_interval units x positive fits.1
    have k_pos : 0 < k := pos_of_readsBack positive fits.1 reads
    have one_le : size 1 (-places) ≤ size k (-places) := size_le_size k_pos
    have above : (units : ℚ) < size 1 (-places) :=
      below.trans_le (size_one_mono (by omega))
    have one : ReadsBack units (-places) 1 := self.between reads above.le one_le
    have place : -places = leadingPlace units + 1 := by
      by_contra! apart
      have far : size 1 (leadingPlace units + 1 + 1) ≤ size 1 (-places) :=
        size_one_mono (by omega)
      rw [size_one_succ] at far
      have := (bound one).2
      linarith
    have ten := size_one_succ (leadingPlace units)
    rw [← place] at ten
    refine roundPlaces_eq_self negative fits positive one ?_
    have low := (bound one).2
    have high := (bound back).2
    rw [shortestSize, written]
    constructor <;> push_cast <;> linarith

end

theorem roundPlaces_zero (negative : Bool) (places : Int) :
    (signedZero negative).roundPlaces places = .ok (signedZero negative) := by
  have step : 0 < size 1 (-places) := size_pos Nat.one_pos
  have near : NearestUp (size 1 (-places)) (shortestSize negative 0) 0 := by
    rw [shortestSize_zero]
    exact .of_small (le_refl 0) (by linarith)
  have rounded := roundPlaces_eq negative representable_zero near
  rw [size_eq_mul, Nat.cast_zero, zero_mul, nearest_zero] at rounded
  exact rounded

section
variable {value rounded : Binary64} {places : Int}

/-- Rounding a rounded number to the same place changes nothing. -/
theorem roundPlaces_roundPlaces (ok : value.roundPlaces places = .ok rounded)
    (finite : rounded.isFinite = true) : rounded.roundPlaces places = .ok rounded := by
  cases value with
  | nan =>
    obtain rfl := Except.ok.inj ok
    rfl
  | infinity negative => cases ok
  | finite negative units fits =>
    obtain ⟨k, _, result⟩ := exists_roundPlaces negative fits places
    rw [result] at ok
    cases rounded with
    | nan => cases finite
    | infinity => cases finite
    | finite sign after kept =>
      obtain ⟨rfl, rounds⟩ := (nearest_eq_finite_iff size_nonneg).mp (Except.ok.inj ok)
      rcases Nat.eq_zero_or_pos after with rfl | positive
      · exact roundPlaces_zero _ places
      · exact roundPlaces_of_readsBack _ kept positive
          ((holds_interval_iff positive kept.1).mpr rounds)

theorem isFinite_nearest_of_le {x : ℚ} (least : 0 ≤ x) (le : x ≤ size 1 (17 : Nat))
    (negative : Bool) : (nearest negative x).isFinite = true := by
  have fits : Representable (2 ^ (1200 : Nat)) := by decide +kernel
  have few : 1 * 10 ^ (17 : Nat) * unitsOfOne ≤ 2 ^ (1200 : Nat) := by decide +kernel
  rw [size_natCast] at le
  exact isFinite_nearest least fits (le.trans (Nat.cast_le.mpr few))

/-- Rounding to places behind the point leaves a number in range: it has no digits to lose, or it is
small. -/
theorem isFinite_of_roundPlaces (behind : 0 ≤ places) (finite : value.isFinite = true)
    (ok : value.roundPlaces places = .ok rounded) : rounded.isFinite = true := by
  cases value with
  | nan => cases finite
  | infinity negative => cases finite
  | finite negative units fits =>
    rcases Nat.eq_zero_or_pos units with rfl | positive
    · obtain rfl := Except.ok.inj ((roundPlaces_zero _ places).symm.trans ok)
      rfl
    obtain ⟨c, e, written, reads, digits, _⟩ := shortest_spec positive fits.1 negative
    rcases le_or_gt (-places) e with inside | outside
    · have same := roundPlaces_of_le negative fits positive written reads inside
      obtain rfl := Except.ok.inj (same.symm.trans ok)
      rfl
    · obtain ⟨k, near, result⟩ := exists_roundPlaces negative fits places
      obtain rfl := Except.ok.inj (result.symm.trans ok)
      refine isFinite_nearest_of_le size_nonneg ?_ negative
      have below := (leadingPlace_bounds positive).2
      have place : size 1 (leadingPlace units + 1) ≤ size 1 (16 : Int) := size_one_mono (by omega)
      have step : size 1 (-places) ≤ size 1 (16 : Int) := size_one_mono (by omega)
      have ten : size 1 (17 : Nat) = 10 * size 1 16 := size_one_succ 16
      have value := two_mul_shortestSize_le negative fits
      have low := near.below
      have grid : (0 : ℚ) < size 1 16 := size_pos Nat.one_pos
      rw [size_eq_mul, ten]
      linarith

end
end Binary64
end SheetPricing
