import Mathlib.Algebra.BigOperators.Group.List.Basic
import SheetPricing.Binary64.Sum
import SheetPricing.Proofs.Binary64.Units
import SheetPricing.Proofs.Outcome

/-! Sums of all summands at once. A running total knows which summands came and keeps the exact sum of
the finite ones, so in the end only an intermediate sum that leaves the range can tell one order of the
summands from another. -/
namespace SheetPricing.Binary64

/-- The units of a finite summand; others have none. -/
def summand (x : Binary64) : Int := x.units?.getD 0

/-- The sum of some numbers, worked out from all of them at once. -/
def exactSum (values : List Binary64) : Except SumFailure Binary64 :=
  if .infinity false ∈ values ∧ .infinity true ∈ values then .error .oppositeInfinities
  else if .nan ∈ values then .ok .nan
  else if .infinity false ∈ values then .ok (.infinity false)
  else if .infinity true ∈ values then .ok (.infinity true)
  else .ok (ofUnits (values.map summand).sum)

/-- That a running total is one of some summands. -/
structure RunningSum.Tallies (total : RunningSum) (values : List Binary64) : Prop where
  positive : total.positiveInfinity = true ↔ .infinity false ∈ values
  negative : total.negativeInfinity = true ↔ .infinity true ∈ values
  nan : total.notNumber = true ↔ .nan ∈ values
  parts : (∀ x ∈ values, x.isFinite = true) →
    total.parts.foldr (· + ·) 0 = (values.map summand).sum

section
variable {total next : RunningSum} {values others : List Binary64} {x : Binary64}

theorem RunningSum.tallies_empty : RunningSum.empty.Tallies [] := by
  constructor <;> simp [RunningSum.empty]

theorem RunningSum.Tallies.add (tallies : total.Tallies values) (ok : total.add x = .ok next) :
    next.Tallies (values ++ [x]) := by
  obtain ⟨positive, negative, nan, parts⟩ := tallies
  cases x with
  | nan =>
    obtain rfl := Except.ok.inj ok
    refine ⟨by simpa using positive, by simpa using negative, by simp, fun finite => ?_⟩
    exact absurd (finite .nan (by simp)) (by decide)
  | infinity sign =>
    have infinite (finite : ∀ x ∈ values ++ [infinity sign], x.isFinite = true) : False :=
      absurd (finite (.infinity sign) (by simp)) Bool.false_ne_true
    cases sign with
    | true =>
      obtain rfl := Except.ok.inj ok
      exact ⟨by simpa using positive, by simp, by simpa using nan, fun finite => (infinite finite).elim⟩
    | false =>
      obtain rfl := Except.ok.inj ok
      exact ⟨by simp, by simpa using negative, by simpa using nan, fun finite => (infinite finite).elim⟩
  | finite sign units fits =>
    rw [RunningSum.add] at ok
    split at ok
    · next after kept =>
      obtain rfl := Except.ok.inj ok
      refine ⟨by simpa using positive, by simpa using negative, by simpa using nan, fun finite => ?_⟩
      have before := parts fun x inside => finite x (List.mem_append_left _ inside)
      rw [sum_absorb kept, before, List.map_append, List.sum_append]
      simp [summand, units?, Int.add_comm]
    · cases ok

/-- A running total only fails where a sum on the way is out of range. -/
theorem RunningSum.eq_overflow_of_add {failure : SumFailure} (failed : total.add x = .error failure) :
    failure = .overflow := by
  unfold RunningSum.add at failed
  split at failed
  · cases failed
  · cases failed
  · cases failed
  · split at failed
    · cases failed
    · exact (Except.error.inj failed).symm

theorem RunningSum.Tallies.result_eq (tallies : total.Tallies values) :
    total.result = exactSum values := by
  obtain ⟨positive, negative, nan, parts⟩ := tallies
  simp only [RunningSum.result, exactSum, ← positive, ← negative, ← nan, Bool.and_eq_true]
  split
  · rfl
  split
  · rfl
  next noNan =>
  split
  · rfl
  next noPositive =>
  split
  · rfl
  next noNegative =>
  rw [parts fun x inside => ?_]
  cases x with
  | nan => exact absurd (nan.mpr inside) noNan
  | infinity sign =>
    cases sign with
    | true => exact absurd (negative.mpr inside) noNegative
    | false => exact absurd (positive.mpr inside) noPositive
  | finite sign units fits => rfl

/-- A sum is the exact one rounded, unless a sum on the way is out of range. -/
theorem sum_eq_exactSum (values : List Binary64) :
    sum values = .error .overflow ∨ sum values = exactSum values := by
  suffices every : ∀ more before (total : RunningSum), total.Tallies before →
      (more.foldlM RunningSum.add total >>= RunningSum.result) = .error .overflow ∨
      (more.foldlM RunningSum.add total >>= RunningSum.result) = exactSum (before ++ more) from
    every values [] .empty RunningSum.tallies_empty
  intro more
  induction more with
  | nil =>
    intro before total tallies
    rw [List.foldlM_nil, List.append_nil]
    exact .inr tallies.result_eq
  | cons x more ih =>
    intro before total tallies
    rw [List.foldlM_cons]
    cases added : total.add x with
    | error failure =>
      rw [RunningSum.eq_overflow_of_add added]
      exact .inl rfl
    | ok next =>
      have later := ih (before ++ [x]) next (tallies.add added)
      rwa [List.append_assoc, List.singleton_append] at later

theorem exactSum_perm (permuted : values.Perm others) : exactSum values = exactSum others := by
  simp only [exactSum, permuted.mem_iff, (permuted.map summand).sum_eq]

/-- The sum of one finite number is the number, except that no negative zero is left. -/
theorem sum_singleton {negative : Bool} {units : Nat} (fits : Representable units) :
    sum [.finite negative units fits]
      = .ok (if units = 0 then signedZero false else .finite negative units fits) := by
  have exact : exactSum [.finite negative units fits] = .ok (ofUnits (signed negative units)) := by
    simp [exactSum, summand, units?]
  rcases sum_eq_exactSum [.finite negative units fits] with overflow | same
  · cases overflow
  · rw [same, exact]
    rcases Nat.eq_zero_or_pos units with rfl | positive
    · rw [signed_eq_zero_iff.mpr rfl, if_pos rfl, ofUnits_zero]
    · rw [if_neg positive.ne', ofUnits_signed fits positive]

end
end SheetPricing.Binary64
