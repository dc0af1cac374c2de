import SheetPricing.Proofs.Decimal.Value

/-! The shortest decimal of a number reads back as the number. The search over the grids ends in its
range, and no grid above the one where it ends has a member of the interval. -/
namespace SheetPricing.Binary64
open Decimal

attribute [local irreducible] unitsOfOne unitsLimit

section
variable {units m k : Nat} {p q : Int} {x : ℚ}

theorem leadingPlace_bounds (positive : 0 < units) :
    size 1 (leadingPlace units) ≤ units ∧ (units : ℚ) < size 1 (leadingPlace units + 1) := by
  have one := unitsOfOne_pos
  have one' : 0 < unitsOfOne := Nat.cast_pos.mp one
  have grain : unitsOfOne ≤ 10 ^ (400 : Nat) := by decide +kernel
  have shift := size_one_add (leadingPlace units + 1) 400
  have place : leadingPlace units =
      (digitCount (units * 10 ^ (400 : Nat) / unitsOfOne) : Int) - 401 := rfl
  generalize 10 ^ (400 : Nat) = many at grain shift place
  generalize count : units * many / unitsOfOne = n at place
  have low : n * unitsOfOne ≤ units * many := by
    rw [← count]
    exact Nat.div_mul_le_self _ _
  have high : units * many < (n + 1) * unitsOfOne := by
    rw [← count]
    exact Nat.lt_mul_of_div_lt (Nat.lt_succ_self _) one'
  have n_pos : 0 < n := by
    rw [← count]
    exact Nat.div_pos (grain.trans (Nat.le_mul_of_pos_left _ positive)) one'
  have least := Nat.mul_le_mul_right unitsOfOne (pow_digitCount_le n_pos)
  have most := Nat.mul_le_mul_right unitsOfOne (lt_pow_digitCount n)
  have top := size_natCast 1 (digitCount n)
  rw [show ((digitCount n : Nat) : Int) = leadingPlace units + 1 + (400 : Nat) by omega, shift,
    size_one_succ, one_mul] at top
  generalize 10 ^ digitCount n * unitsOfOne = ten at least most top
  rw [Nat.mul_assoc] at least
  have below : ten ≤ 10 * (units * many) := by omega
  have below : (ten : ℚ) ≤ 10 * (units * many) := by exact_mod_cast below
  have above : (units * many : ℚ) < ten := by exact_mod_cast high.trans_le most
  have many_pos : (0 : ℚ) < many := one.trans_le (Nat.cast_le.mpr grain)
  rw [size_one_succ]
  constructor
  · refine le_of_mul_le_mul_left ?_ many_pos
    linarith
  · refine lt_of_mul_lt_mul_left ?_ many_pos.le
    linarith

/-- A positive number is above every power of ten that is rounded to zero. -/
theorem underflowPlace_le_leadingPlace (positive : 0 < units) :
    underflowPlace ≤ leadingPlace units := by
  by_contra! tiny
  have one : (1 : ℚ) ≤ units := by exact_mod_cast positive
  have above := (leadingPlace_bounds positive).2
  have below : size 1 (leadingPlace units + 1) ≤ size 1 underflowPlace := size_one_mono tiny
  have limit := two_mul_size_underflowPlace
  linarith

/-- That a multiple of a power of ten reads back as a count of units. -/
def ReadsBack (units : Nat) (place : Int) (multiple : Nat) : Prop :=
  (interval units).Holds (size multiple place)

theorem contains_gridPoint_iff :
    (interval units).contains (gridPoint m p).1 (gridPoint m p).2 = true ↔ ReadsBack units p m := by
  rw [Interval.contains_iff (gridPoint_pos m p), gridPoint_value, ReadsBack]

/-- The multiple of a power of ten at or below a count of units. -/
def multipleBelow (units : Nat) (place : Int) : Nat :=
  units * (gridPoint 1 place).2 / (gridPoint 1 place).1

theorem multipleBelow_bounds (units : Nat) (p : Int) :
    size (multipleBelow units p) p ≤ units ∧ (units : ℚ) < size (multipleBelow units p + 1) p := by
  have value := gridPoint_value 1 p
  have scale := gridPoint_pos 1 p
  have size_pos : 0 < size 1 p := size_pos Nat.one_pos
  rw [size_eq_mul, size_eq_mul (c := multipleBelow units p + 1), multipleBelow]
  generalize (gridPoint 1 p).1 = n at *
  generalize (gridPoint 1 p).2 = d at *
  have scale' : (0 : ℚ) < d := by exact_mod_cast scale
  rw [← value] at size_pos ⊢
  have grid : (0 : ℚ) < n := (div_pos_iff_of_pos_right scale').mp size_pos
  have grid : 0 < n := by exact_mod_cast grid
  have low : units * d / n * n ≤ units * d := Nat.div_mul_le_self _ _
  have high : units * d < (units * d / n + 1) * n := Nat.lt_mul_of_div_lt (Nat.lt_succ_self _) grid
  rw [← mul_div_assoc, ← mul_div_assoc, div_le_iff₀ scale', lt_div_iff₀ scale']
  exact ⟨by exact_mod_cast low, by exact_mod_cast high⟩

theorem gridHit_eq (units : Nat) (p : Int) :
    gridHit units p =
      let below := multipleBelow units p
      let contained (m : Nat) := (interval units).contains (gridPoint m p).1 (gridPoint m p).2
      match contained below, contained (below + 1) with
      | true, true => some (roundHalfEven (units * (gridPoint 1 p).2) (gridPoint 1 p).1)
      | true, false => some below
      | false, true => some (below + 1)
      | false, false => none := rfl

theorem roundHalfEven_eq_or (n d : Nat) :
    roundHalfEven n d = n / d ∨ roundHalfEven n d = n / d + 1 := by
  have low := div_le_roundHalfEven n d
  have high := roundHalfEven_le n d
  omega

/-- A multiple that is found reads back, and it is a neighbour of the number. -/
theorem readsBack_of_gridHit (hit : gridHit units p = some m) :
    ReadsBack units p m ∧ (m = multipleBelow units p ∨ m = multipleBelow units p + 1) := by
  rw [gridHit_eq] at hit
  dsimp only at hit
  split at hit
  · next low high =>
    rw [contains_gridPoint_iff] at low high
    obtain rfl := Option.some.inj hit
    have neighbours := roundHalfEven_eq_or (units * (gridPoint 1 p).2) (gridPoint 1 p).1
    refine ⟨?_, neighbours⟩
    rcases neighbours with below | above
    · rw [below]
      exact low
    · rw [above]
      exact high
  · next low _ =>
    rw [contains_gridPoint_iff] at low
    obtain rfl := Option.some.inj hit
    exact ⟨low, .inl rfl⟩
  · next _ high =>
    rw [contains_gridPoint_iff] at high
    obtain rfl := Option.some.inj hit
    exact ⟨high, .inr rfl⟩
  · cases hit

/-- Where a neighbour of the number reads back, a multiple is found. -/
theorem exists_gridHit_of_neighbour (reads : ReadsBack units p (multipleBelow units p) ∨
      ReadsBack units p (multipleBelow units p + 1)) : ∃ m, gridHit units p = some m := by
  rw [gridHit_eq]
  dsimp only
  split
  · exact ⟨_, rfl⟩
  · exact ⟨_, rfl⟩
  · exact ⟨_, rfl⟩
  · next low high =>
    rw [← Bool.not_eq_true, contains_gridPoint_iff] at low high
    exact absurd reads (not_or.mpr ⟨low, high⟩)

section
variable (positive : 0 < units) (whole : spacing units ∣ units)
include positive whole

theorem holds_interval_self : (interval units).Holds units :=
  (holds_interval_iff positive whole).mpr (roundsTo_self whole)

/-- Where any multiple reads back, a multiple is found. -/
theorem exists_gridHit (reads : ReadsBack units p k) : ∃ m, gridHit units p = some m := by
  have self := holds_interval_self positive whole
  have bounds := multipleBelow_bounds units p
  refine exists_gridHit_of_neighbour ?_
  rcases Nat.lt_or_ge (multipleBelow units p) k with above | below
  · have far : size (multipleBelow units p + 1) p ≤ size k p := size_le_size above
    exact .inr (self.between reads bounds.2.le far)
  · have far : size k p ≤ size (multipleBelow units p) p := size_le_size below
    exact .inl (reads.between self far bounds.1)

theorem holds_interval_of_above (above : units ≤ x) (near : 2 * (x - units) < spacing units) :
    (interval units).Holds x := by
  have self := holds_interval_self positive whole
  have step : spacing units = 2 ^ (units.log2 - 52) := rfl
  have high := high_interval step
  have size : (spacing units : ℚ) = 2 ^ (units.log2 - 52) := by
    rw [step]
    push_cast
    rfl
  rw [size] at near
  have low := self.low
  refine ⟨by linarith, by linarith, fun opened => ?_⟩
  have low := (self.inside opened).1
  exact ⟨by linarith, by linarith⟩

theorem holds_interval_of_below {e : Nat} (step : spacing units = 2 ^ e)
    (regular : ¬(units = 2 ^ (52 : Nat) * 2 ^ e ∧ e ≠ 0)) (below : x ≤ units)
    (near : 2 * (units - x) < 2 ^ e) : (interval units).Holds x := by
  have low := low_interval_of_regular step positive whole regular
  have high := high_interval step
  have least : (0 : ℚ) < 2 ^ e := by positivity
  exact ⟨by linarith, by linarith, fun _ => ⟨by linarith, by linarith⟩⟩

/-- Seventeen digits suffice: the grid is finer there than the step, so a neighbour is near. -/
theorem exists_gridHit_finest : ∃ m, gridHit units (leadingPlace units - (16 : Nat)) = some m := by
  have leading := (leadingPlace_bounds positive).1
  have shift := size_one_add (leadingPlace units - (16 : Nat)) 16
  rw [Int.sub_add_cancel] at shift
  rw [shift] at leading
  generalize leadingPlace units - (16 : Nat) = p at *
  obtain ⟨low, high⟩ := multipleBelow_bounds units p
  have next : size (multipleBelow units p + 1) p = size (multipleBelow units p) p + size 1 p := by
    rw [size_eq_mul, size_eq_mul (c := multipleBelow units p)]
    push_cast
    ring
  have grid : 0 < size 1 p := size_pos Nat.one_pos
  generalize known : units.log2 - 52 = e
  have step : spacing units = 2 ^ e := by rw [spacing, known]
  have step' : (spacing units : ℚ) = 2 ^ e := by
    rw [step]
    push_cast
    rfl
  have above := holds_interval_of_above (x := size (multipleBelow units p + 1) p) positive whole
    high.le
  refine exists_gridHit_of_neighbour ?_
  push_cast at leading
  by_cases boundary : units = 2 ^ (52 : Nat) * 2 ^ e ∧ e ≠ 0
  · have value : (units : ℚ) = 2 ^ 52 * 2 ^ e := by
      rw [boundary.1]
      push_cast
      rfl
    refine .inr (above ?_)
    rw [step']
    linarith
  · have small : (units : ℚ) < 2 ^ 53 * 2 ^ e := by
      rw [← step']
      exact_mod_cast lt_spacing units
    rcases le_or_gt (2 * (units - size (multipleBelow units p) p)) (size 1 p) with near | far
    · refine .inl (holds_interval_of_below positive whole step boundary low ?_)
      linarith
    · refine .inr (above ?_)
      rw [step']
      linarith

end

/-- The search ends with the first grid on which a multiple is found. -/
theorem shortestFrom_spec {count : Nat} (last : ∃ m, gridHit units (p - count) = some m) :
    gridHit units (shortestFrom units p count).2 = some (shortestFrom units p count).1 ∧
      p - count ≤ (shortestFrom units p count).2 ∧ (shortestFrom units p count).2 ≤ p ∧
      ∀ q, (shortestFrom units p count).2 < q → q ≤ p → gridHit units q = none := by
  induction count generalizing p with
  | zero =>
    obtain ⟨m, hit⟩ := last
    rw [Int.natCast_zero, Int.sub_zero] at hit
    rw [shortestFrom, hit]
    exact ⟨rfl, by omega, by omega, fun q above below => by omega⟩
  | succ count ih =>
    rw [shortestFrom]
    cases hit : gridHit units p with
    | some m =>
      dsimp only
      exact ⟨hit, by omega, by omega, fun q above below => by omega⟩
    | none =>
      dsimp only
      have shift : p - 1 - (count : Int) = p - (count + 1 : Nat) := by omega
      rw [← shift] at last
      obtain ⟨found, low, high, before⟩ := ih last
      refine ⟨found, by omega, by omega, fun q above below => ?_⟩
      by_cases top : q = p
      · rw [top]
        exact hit
      · exact before q above (by omega)

end
end SheetPricing.Binary64

namespace SheetPricing.Decimal

/-- Without the zeros at the end a decimal has the same value. -/
theorem trimmed_spec (negative : Bool) {c : Nat} (positive : 0 < c) (e : Int) :
    (trimmed negative c e).negative = negative ∧ 0 < (trimmed negative c e).coefficient ∧
      e ≤ (trimmed negative c e).exponent ∧
      size (trimmed negative c e).coefficient (trimmed negative c e).exponent = size c e := by
  induction c, e using trimmed.induct with
  | case1 e => exact absurd positive (Nat.lt_irrefl 0)
  | case2 c e nonzero last ih =>
    rw [trimmed, if_neg nonzero, if_pos last]
    obtain ⟨sign, positive, above, value⟩ := ih (by omega)
    refine ⟨sign, positive, by omega, value.trans ?_⟩
    have shift := size_mul_pow (c / 10) 1 e
    rw [Nat.pow_one, Nat.div_mul_cancel (Nat.dvd_of_mod_eq_zero last)] at shift
    exact shift.symm
  | case3 c e nonzero last =>
    rw [trimmed, if_neg nonzero, if_neg last]
    exact ⟨rfl, positive, le_refl e, rfl⟩

end SheetPricing.Decimal

namespace SheetPricing.Binary64
open Decimal

section
variable {units : Nat} {x : ℚ} (positive : 0 < units) (whole : spacing units ∣ units)
include positive whole

/-- What reads back is at least half the number and at most one and a half of it. -/
theorem bounds_of_holds_interval (holds : (interval units).Holds x) :
    (units : ℚ) ≤ 2 * x ∧ 2 * x ≤ 3 * units := by
  have step := Nat.le_of_dvd positive whole
  have low : 2 * units ≤ (interval units).low := by
    unfold interval
    dsimp only
    split <;> omega
  have high : (interval units).high ≤ 6 * units := by
    unfold interval
    dsimp only
    omega
  have low : 2 * (units : ℚ) ≤ (interval units).low := by exact_mod_cast low
  have high : ((interval units).high : ℚ) ≤ 6 * units := by exact_mod_cast high
  have below := holds.low
  have above := holds.high
  constructor <;> linarith

theorem pos_of_readsBack {p : Int} {m : Nat} (reads : ReadsBack units p m) : 0 < m := by
  rcases Nat.eq_zero_or_pos m with rfl | m_pos
  · have units_pos : (0 : ℚ) < units := by exact_mod_cast positive
    have half := (bounds_of_holds_interval positive whole reads).1
    rw [size_eq_mul, Nat.cast_zero, zero_mul] at half
    linarith
  · exact m_pos

/-- The shortest decimal of a positive number reads back, on no grid finer than that of seventeen
digits or than any other grid with a multiple that reads back, and near the number. -/
theorem shortest_spec (negative : Bool) :
    ∃ c e, shortest negative units = ⟨negative, c, e⟩ ∧ ReadsBack units e c ∧
      leadingPlace units - 16 ≤ e ∧
      (∀ q k, q ≤ leadingPlace units → ReadsBack units q k → q ≤ e) ∧
      units < size c e + size 1 (leadingPlace units) := by
  have last := exists_gridHit_finest positive whole
  obtain ⟨found, low, high, before⟩ := shortestFrom_spec last
  unfold shortest
  rw [if_neg positive.ne']
  generalize shortestFrom units (leadingPlace units) 16 = result at *
  obtain ⟨m, e⟩ := result
  dsimp only at *
  obtain ⟨reads, neighbour⟩ := readsBack_of_gridHit found
  have m_pos := pos_of_readsBack positive whole reads
  obtain ⟨sign, _, above, value⟩ := trimmed_spec negative m_pos e
  generalize trimmed negative m e = d at *
  obtain ⟨s, c, f⟩ := d
  dsimp only at *
  refine ⟨c, f, by rw [sign], ?_, by omega, fun q k le other => ?_, ?_⟩
  · rw [ReadsBack, value]
    exact reads
  · by_contra! finer
    obtain ⟨_, hit⟩ := exists_gridHit positive whole other
    rw [before q (by omega) le] at hit
    cases hit
  · have below := (multipleBelow_bounds units e).2
    have least : size (multipleBelow units e) e ≤ size m e := size_le_size (by omega)
    have grid := size_one_mono high
    rw [size_eq_mul] at below
    rw [size_eq_mul] at least
    rw [value]
    push_cast at below
    linarith

end

theorem readsBack_iff {units c : Nat} {e : Int} (positive : 0 < units)
    (fits : Representable units) (negative : Bool) :
    ReadsBack units e c ↔ toBinary64 ⟨negative, c, e⟩ = .finite negative units fits := by
  rw [toBinary64_eq_nearest, nearest_eq_finite_iff size_nonneg, ReadsBack,
    holds_interval_iff positive fits.1]
  exact ⟨fun rounded => ⟨rfl, rounded⟩, fun both => both.2⟩

/-- The shortest decimal of a number reads back as the number. -/
theorem toBinary64_shortest (negative : Bool) (units : Nat) (fits : Representable units) :
    (shortest negative units).toBinary64 = .finite negative units fits := by
  rcases Nat.eq_zero_or_pos units with rfl | positive
  · rfl
  · obtain ⟨c, e, written, reads, _⟩ := shortest_spec positive fits.1 negative
    rw [written]
    exact (readsBack_iff positive fits negative).mp reads

end SheetPricing.Binary64
