import SheetPricing.Binary64.Sum
import SheetPricing.Proofs.Outcome

/-! A number that is not finite passes through signs, sums, differences, products and dividends: the
result is not finite either. Divisors, powers and comparisons need not pass it on. -/
namespace SheetPricing.Binary64

theorem isFinite_of_neg {x : Binary64} (finite : (-x).isFinite = true) : x.isFinite = true := by
  cases x with
  | nan => exact finite
  | infinity negative => exact finite
  | finite negative units fits => rfl

theorem isFinite_of_abs {x : Binary64} (finite : x.abs.isFinite = true) : x.isFinite = true := by
  cases x with
  | nan => exact finite
  | infinity negative => exact finite
  | finite negative units fits => rfl

theorem isFinite_of_add {x y : Binary64} (finite : (x + y).isFinite = true) :
    x.isFinite = true ∧ y.isFinite = true := by
  change (add x y).isFinite = true at finite
  unfold add at finite
  split at finite
  · cases finite
  · cases finite
  · split at finite
    · cases finite
    · cases finite
  · cases finite
  · cases finite
  · exact ⟨rfl, rfl⟩

theorem isFinite_of_sub {x y : Binary64} (finite : (x - y).isFinite = true) :
    x.isFinite = true ∧ y.isFinite = true := by
  have summands := isFinite_of_add (x := x) (y := -y) finite
  exact ⟨summands.1, isFinite_of_neg summands.2⟩

theorem isFinite_of_mul {x y : Binary64} (finite : (x * y).isFinite = true) :
    x.isFinite = true ∧ y.isFinite = true := by
  change (mul x y).isFinite = true at finite
  unfold mul at finite
  split at finite
  · cases finite
  · cases finite
  · cases finite
  · split at finite
    · cases finite
    · cases finite
  · split at finite
    · cases finite
    · cases finite
  · exact ⟨rfl, rfl⟩

theorem isFinite_dividend {x y : Binary64} (finite : (x / y).isFinite = true) :
    x.isFinite = true := by
  change (div x y).isFinite = true at finite
  unfold div at finite
  split at finite
  · cases finite
  · cases finite
  · cases finite
  · split at finite
    · cases finite
    · cases finite
  · rfl
  · rfl

namespace RunningSum

/-- That no summand came that is not finite. -/
def Regular (total : RunningSum) : Prop :=
  total.positiveInfinity = false ∧ total.negativeInfinity = false ∧ total.notNumber = false

theorem regular_of_result {total : RunningSum} {value : Binary64} (ok : total.result = .ok value)
    (finite : value.isFinite = true) : total.Regular := by
  unfold result at ok
  split at ok
  · cases ok
  split at ok
  · obtain rfl := Except.ok.inj ok
    cases finite
  split at ok
  · obtain rfl := Except.ok.inj ok
    cases finite
  split at ok
  · obtain rfl := Except.ok.inj ok
    cases finite
  · next number positive negative =>
    exact ⟨eq_false_of_ne_true positive, eq_false_of_ne_true negative, eq_false_of_ne_true number⟩

theorem regular_of_add {total after : RunningSum} {x : Binary64} (ok : total.add x = .ok after)
    (regular : after.Regular) : total.Regular ∧ x.isFinite = true := by
  cases x with
  | nan =>
    obtain rfl := Except.ok.inj ok
    exact absurd regular.2.2 nofun
  | infinity negative =>
    cases negative
    · obtain rfl := Except.ok.inj ok
      exact absurd regular.1 nofun
    · obtain rfl := Except.ok.inj ok
      exact absurd regular.2.1 nofun
  | finite negative units fits =>
    unfold add at ok
    dsimp only at ok
    split at ok
    · obtain rfl := Except.ok.inj ok
      exact ⟨regular, rfl⟩
    · cases ok

theorem regular_of_foldlM {values : List Binary64} {total after : RunningSum}
    (ok : values.foldlM add total = .ok after) (regular : after.Regular) :
    total.Regular ∧ ∀ x ∈ values, x.isFinite = true := by
  induction values generalizing total with
  | nil =>
    obtain rfl := Except.ok.inj ok
    exact ⟨regular, fun x inside => absurd inside List.not_mem_nil⟩
  | cons value rest ih =>
    rw [List.foldlM_cons] at ok
    obtain ⟨next, added, ok⟩ := ok_of_bind ok
    obtain ⟨middle, later⟩ := ih ok
    obtain ⟨before, here⟩ := regular_of_add added middle
    refine ⟨before, fun x inside => ?_⟩
    rcases List.mem_cons.mp inside with rfl | inside
    · exact here
    · exact later x inside

end RunningSum

/-- A finite sum has finite summands only. -/
theorem isFinite_of_sum {values : List Binary64} {total : Binary64}
    (ok : sum values = .ok total) (finite : total.isFinite = true) :
    ∀ x ∈ values, x.isFinite = true := by
  obtain ⟨running, added, ok⟩ := ok_of_bind ok
  exact (RunningSum.regular_of_foldlM added (RunningSum.regular_of_result ok finite)).2

end SheetPricing.Binary64
