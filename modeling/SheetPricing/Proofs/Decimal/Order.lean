import SheetPricing.Proofs.Binary64.Units
import SheetPricing.Proofs.Decimal.Exactness

/-! Rounding to decimal places keeps the order of numbers and goes along with a change of sign. Neither
what is written for a number nor the nearest multiple nor the number nearest to that can change places. -/
namespace SheetPricing.Binary64
open Decimal

attribute [local irreducible] unitsOfOne unitsLimit

section
variable {x y : ℚ} {a b : Binary64} {units other : Nat}

theorem rank_neg (a : Binary64) : (-a).rank = -a.rank := by
  have turned (negative : Bool) (units : Nat) : signed (!negative) units = -signed negative units := by
    cases negative <;> simp [signed]
  cases a with
  | nan => rfl
  | infinity negative => exact turned negative unitsLimit
  | finite negative units fits => exact turned negative units

theorem le_of_rank (number : a ≠ .nan) (numberToo : b ≠ .nan) (ordered : a.rank ≤ b.rank) :
    a.le b = true := by
  rw [le, Bool.or_eq_true]
  rcases ordered.lt_or_eq with less | same
  · exact .inl (lt_iff_rank.mpr ⟨number, numberToo, less⟩)
  · exact .inr (equals_of_rank number numberToo same)

theorem signed_le_of_le {sign negative : Bool} {fits : Representable units}
    {fitsToo : Representable other}
    (ordered : (Binary64.finite sign units fits).le (.finite negative other fitsToo) = true) :
    signed sign units ≤ signed negative other := by
  rw [le, Bool.or_eq_true, lt, equals, decide_eq_true_iff, decide_eq_true_iff] at ordered
  omega

theorem nearest_ne_nan (negative : Bool) (x : ℚ) : nearest negative x ≠ .nan := by
  rw [nearest, ofQuotient]
  split <;> rintro ⟨⟩

theorem nearest_not (negative : Bool) (x : ℚ) : nearest (!negative) x = -nearest negative x := by
  rw [nearest, nearest, ofQuotient, ofQuotient]
  split <;> rfl

theorem rank_nearest (least : 0 ≤ x) (rounded : RoundsTo x units) :
    (nearest false x).rank = min units unitsLimit := by
  rw [nearest_of_roundsTo least rounded]
  split
  · next fits =>
    have := fits.2
    change (units : Int) = _
    omega
  · next large =>
    have : unitsLimit ≤ units := by
      by_contra! inside
      exact large (representable_of_roundsTo least rounded inside)
    change (unitsLimit : Int) = _
    omega

theorem rank_nearest_nonneg (least : 0 ≤ x) : 0 ≤ (nearest false x).rank := by
  obtain ⟨units, rounded⟩ := exists_roundsTo least
  rw [rank_nearest least rounded]
  omega

theorem rank_nearest_mono (least : 0 ≤ x) (ordered : x ≤ y) :
    (nearest false x).rank ≤ (nearest false y).rank := by
  obtain ⟨units, rounded⟩ := exists_roundsTo least
  obtain ⟨other, roundedToo⟩ := exists_roundsTo (least.trans ordered)
  have := rounded.le roundedToo ordered
  rw [rank_nearest least rounded, rank_nearest (least.trans ordered) roundedToo]
  omega

/-- What is written for a number is rounded to the number. -/
theorem roundsTo_shortestSize (negative : Bool) (fits : Representable units) :
    RoundsTo (shortestSize negative units) units := by
  have reads := toBinary64_shortest negative units fits
  rw [toBinary64_eq_nearest, nearest_eq_finite_iff size_nonneg] at reads
  exact reads.2

theorem trimmed_eq (negative : Bool) (c : Nat) (e : Int) : trimmed negative c e
    = ⟨negative, (trimmed false c e).coefficient, (trimmed false c e).exponent⟩ := by
  induction c, e using trimmed.induct with
  | case1 e => simp [trimmed]
  | case2 c e positive ends ih =>
    have step (sign : Bool) : trimmed sign c e = trimmed sign (c / 10) (e + 1) := by
      rw [trimmed, if_neg positive, if_pos ends]
    rw [step negative, step false, ih]
  | case3 c e positive stays =>
    have stop (sign : Bool) : trimmed sign c e = ⟨sign, c, e⟩ := by
      rw [trimmed, if_neg positive, if_neg stays]
    rw [stop negative, stop false]

/-- A number and its opposite are written with the same digits. -/
theorem shortest_eq (negative : Bool) (units : Nat) : shortest negative units
    = ⟨negative, (shortest false units).coefficient, (shortest false units).exponent⟩ := by
  rcases Nat.eq_zero_or_pos units with rfl | positive
  · rfl
  · have nonzero := positive.ne'
    rw [shortest, if_neg nonzero, shortest, if_neg nonzero]
    generalize shortestFrom units (leadingPlace units) 16 = found
    obtain ⟨c, e⟩ := found
    exact trimmed_eq negative c e

/-- More is written for a number of larger size. -/
theorem shortestSize_mono (fits : Representable units) (fitsToo : Representable other)
    (ordered : units ≤ other) : shortestSize false units ≤ shortestSize false other := by
  rcases ordered.eq_or_lt with rfl | less
  · exact le_rfl
  · by_contra! above
    have := (roundsTo_shortestSize false fitsToo).le (roundsTo_shortestSize false fits) above.le
    omega

end

/-- The size of what a count of units is rounded to, in units and before it is read. -/
def roundedSize (units : Nat) (places : Int) : ℚ :=
  size ((shortest false units).roundTo places).coefficient (-places)

section
variable {units other : Nat} {places : Int}

theorem roundedSize_nonneg (units : Nat) (places : Int) : 0 ≤ roundedSize units places := size_nonneg

theorem roundPlaces_eq_nearest (negative : Bool) (fits : Representable units) (places : Int) :
    (Binary64.finite negative units fits).roundPlaces places
      = .ok (nearest negative (roundedSize units places)) := by
  rw [roundPlaces_eq_roundTo negative fits places, toBinary64_eq_nearest, shortest_eq]
  rfl

theorem roundedSize_mono (fits : Representable units) (fitsToo : Representable other)
    (ordered : units ≤ other) : roundedSize units places ≤ roundedSize other places := by
  have near := nearestUp_roundTo (shortest false units) places
  have nearToo := nearestUp_roundTo (shortest false other) places
  exact size_le_size (near.le (size_pos Nat.one_pos) nearToo (shortestSize_mono fits fitsToo ordered))

theorem roundPlaces_mono {x y : Binary64} (finite : x.isFinite = true) (finiteToo : y.isFinite = true)
    (ordered : x.le y = true) (places : Int) : ∃ a b, x.roundPlaces places = .ok a ∧
      y.roundPlaces places = .ok b ∧ a.le b = true := by
  cases x with
  | nan => cases finite
  | infinity => cases finite
  | finite sign units fits =>
  cases y with
  | nan => cases finiteToo
  | infinity => cases finiteToo
  | finite negative other fitsToo =>
  refine ⟨_, _, roundPlaces_eq_nearest sign fits places, roundPlaces_eq_nearest negative fitsToo places,
    le_of_rank (nearest_ne_nan _ _) (nearest_ne_nan _ _) ?_⟩
  have ordered := signed_le_of_le ordered
  have least := rank_nearest_nonneg (roundedSize_nonneg units places)
  have leastToo := rank_nearest_nonneg (roundedSize_nonneg other places)
  have grows {m n : Nat} (fits : Representable m) (fitsToo : Representable n) (less : m ≤ n) :
      (nearest false (roundedSize m places)).rank ≤ (nearest false (roundedSize n places)).rank :=
    rank_nearest_mono (roundedSize_nonneg m places) (roundedSize_mono fits fitsToo less)
  have turned (x : ℚ) : (nearest true x).rank = -(nearest false x).rank := by
    rw [← rank_neg, ← nearest_not]
    rfl
  cases sign <;> cases negative <;> simp only [signed, if_true, if_false, Bool.false_eq_true] at ordered
  · exact grows fits fitsToo (by omega)
  · -- only zeros are at most a number with the other sign
    obtain ⟨rfl, rfl⟩ : units = 0 ∧ other = 0 := by omega
    have zero (sign : Bool) : nearest sign (roundedSize 0 places) = signedZero sign :=
      Except.ok.inj ((roundPlaces_eq_nearest sign representable_zero places).symm.trans
        (roundPlaces_zero sign places))
    rw [zero, zero]
    exact le_rfl
  · rw [turned]
    omega
  · rw [turned, turned]
    exact Int.neg_le_neg (grows fitsToo fits (by omega))


theorem roundPlaces_neg {x : Binary64} (finite : x.isFinite = true) (places : Int) :
    ∃ a, x.roundPlaces places = .ok a ∧ (-x).roundPlaces places = .ok (-a) := by
  cases x with
  | nan => cases finite
  | infinity => cases finite
  | finite negative units fits =>
    refine ⟨_, roundPlaces_eq_nearest negative fits places, ?_⟩
    rw [← nearest_not]
    exact roundPlaces_eq_nearest (!negative) fits places

end

/-- Rounding to a count of decimal places keeps the order of numbers, takes the opposite of a number to
the opposite of what it takes the number to, and changes nothing more where it is done again. -/
theorem roundPlaces_monotone_odd_idempotent (places : Int) :
    (∀ x y : Binary64, x.isFinite = true → y.isFinite = true → x.le y = true →
      ∃ a b, x.roundPlaces places = .ok a ∧ y.roundPlaces places = .ok b ∧ a.le b = true) ∧
    (∀ x : Binary64, x.isFinite = true →
      ∃ a, x.roundPlaces places = .ok a ∧ (-x).roundPlaces places = .ok (-a)) ∧
    (∀ x a : Binary64, x.roundPlaces places = .ok a → a.isFinite = true →
      a.roundPlaces places = .ok a) :=
  ⟨fun _ _ finite finiteToo ordered => roundPlaces_mono finite finiteToo ordered places,
    fun _ finite => roundPlaces_neg finite places,
    fun _ _ ok finite => roundPlaces_roundPlaces ok finite⟩

theorem roundPlaces_monotone_odd_idempotent_of_halves :
    ∃ x y a b : Binary64, x = Decimal.toBinary64 ⟨true, 2675, -3⟩ ∧
      y = Decimal.toBinary64 ⟨false, 125, -3⟩ ∧ x.roundPlaces 2 = .ok a ∧ y.roundPlaces 2 = .ok b ∧
      a.le b = true ∧ a = Decimal.toBinary64 ⟨true, 268, -2⟩ ∧ (-x).roundPlaces 2 = .ok (-a) ∧
      a.roundPlaces 2 = .ok a := by
  obtain ⟨ordered, odd, again⟩ := roundPlaces_monotone_odd_idempotent 2
  obtain ⟨a, b, first, second, le⟩ := ordered (Decimal.toBinary64 ⟨true, 2675, -3⟩)
    (Decimal.toBinary64 ⟨false, 125, -3⟩) (by decide +kernel) (by decide +kernel) (by decide +kernel)
  obtain ⟨c, firstToo, turned⟩ := odd (Decimal.toBinary64 ⟨true, 2675, -3⟩) (by decide +kernel)
  obtain rfl := Except.ok.inj (first.symm.trans firstToo)
  have value : a = Decimal.toBinary64 ⟨true, 268, -2⟩ := by
    have rounded : (Decimal.toBinary64 ⟨true, 2675, -3⟩).roundPlaces 2
        = .ok (Decimal.toBinary64 ⟨true, 268, -2⟩) := by decide +kernel
    exact Except.ok.inj (first.symm.trans rounded)
  have finite : a.isFinite = true := by
    rw [value]
    decide +kernel
  exact ⟨_, _, a, b, rfl, rfl, first, second, le, value, turned,
    again _ a first finite⟩

end SheetPricing.Binary64
