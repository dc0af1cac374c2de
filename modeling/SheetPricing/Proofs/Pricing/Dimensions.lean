import SheetPricing.Pricing.Input
import SheetPricing.Proofs.Binary64.Closest
import SheetPricing.Proofs.Outcome

/-! Reading the four inputs of a price. Either each of them is read as a finite number greater than zero,
or the first one that is not is told, by its field and its label. Only an integer out of range is told
without them. -/
namespace SheetPricing

namespace Binary64

/-- The least integer out of range: it lies half a step above the greatest finite number. -/
def integerLimit : Nat := (2 ^ 54 - 1) * 2 ^ 970

theorem cast_integerLimit : (integerLimit : ℚ) = (2 ^ 54 - 1) * 2 ^ 970 := by
  have few : ((2 ^ 54 - 1 : Nat) : ℚ) = 2 ^ 54 - 1 := by norm_num
  rw [integerLimit, Nat.cast_mul, few, Nat.cast_pow, Nat.cast_ofNat]

section
attribute [local irreducible] unitsOfOne unitsLimit integerLimit

theorem isFinite_ofInt_iff (i : Int) : (ofInt i).isFinite = true ↔ i.natAbs < integerLimit := by
  have rounded := roundsTo_roundUnits (i.natAbs * unitsOfOne) Nat.one_pos
  have inside : (ofInt i).isFinite = true ↔ ¬ unitsLimit ≤ roundUnits (i.natAbs * unitsOfOne) 1 := by
    rw [ofInt, ofQuotient, Nat.not_le]
    split
    · next finite => exact iff_of_true rfl finite
    · next infinite => exact iff_of_false Bool.false_ne_true infinite
  have value : ((i.natAbs * unitsOfOne : Nat) : ℚ) / (1 : Nat) / unitsOfOne = i.natAbs := by
    rw [Nat.cast_one, div_one, Nat.cast_mul, mul_div_cancel_right₀ _ Decimal.unitsOfOne_pos.ne']
  rw [inside, rounded.unitsLimit_le_iff, value, not_le, ← cast_integerLimit, Nat.cast_lt]

end
end Binary64

namespace PerDimension
variable {α β ε : Type} {f : Dimension → α → Except ε β} {values : PerDimension α}

/-- The first check that fails counts; if none does, all results are there. -/
theorem check_cases (f : Dimension → α → Except ε β) (values : PerDimension α) :
    (∃ results, values.check f = .ok results ∧ ∀ d, f d (values.get d) = .ok (results.get d)) ∨
      ∃ before d after error, Dimension.all = before ++ d :: after ∧
        (∀ earlier ∈ before, ∃ result, f earlier (values.get earlier) = .ok result) ∧
        f d (values.get d) = .error error ∧ values.check f = .error error := by
  cases first : f .length values.length with
  | error error =>
    refine .inr ⟨[], .length, _, error, rfl, nofun, first, ?_⟩
    rw [check, first]
    rfl
  | ok length =>
    have one : ∀ d ∈ [Dimension.length], ∃ result, f d (values.get d) = .ok result :=
      List.forall_mem_singleton.mpr ⟨length, first⟩
    cases second : f .width values.width with
    | error error =>
      refine .inr ⟨[.length], .width, _, error, rfl, one, second, ?_⟩
      rw [check, first, ok_bind, second]
      rfl
    | ok width =>
      have two : ∀ d ∈ [Dimension.length, .width], ∃ result, f d (values.get d) = .ok result :=
        List.forall_mem_append.mpr ⟨one, List.forall_mem_singleton.mpr ⟨width, second⟩⟩
      cases third : f .height values.height with
      | error error =>
        refine .inr ⟨[.length, .width], .height, _, error, rfl, two, third, ?_⟩
        rw [check, first, ok_bind, second, ok_bind, third]
        rfl
      | ok height =>
        have three : ∀ d ∈ [Dimension.length, .width, .height],
            ∃ result, f d (values.get d) = .ok result :=
          List.forall_mem_append.mpr ⟨two, List.forall_mem_singleton.mpr ⟨height, third⟩⟩
        cases fourth : f .weight values.weight with
        | error error =>
          refine .inr ⟨[.length, .width, .height], .weight, _, error, rfl, three, fourth, ?_⟩
          rw [check, first, ok_bind, second, ok_bind, third, ok_bind, fourth]
          rfl
        | ok weight =>
          refine .inl ⟨⟨length, width, height, weight⟩, ?_, fun d => ?_⟩
          · rw [check, first, ok_bind, second, ok_bind, third, ok_bind, fourth]
            rfl
          · cases d with
            | length => exact first
            | width => exact second
            | height => exact third
            | weight => exact fourth

end PerDimension

namespace RawInput
attribute [local irreducible] Binary64.integerLimit

/-- An input that can be used: it is read as a finite number greater than zero. -/
structure Usable (input : RawInput) (value : Binary64) : Prop where
  read : input.read = .ok value
  finite : value.isFinite = true
  positive : Binary64.lt 0 value = true

/-- What is told of an input that cannot be used. -/
def refusal (dimension : Dimension) : RawInput → InputError
  | .integer value =>
    if Binary64.integerLimit ≤ value.natAbs then .integerTooLarge
    else .notPositive dimension.name dimension.label
  | _ => .notPositive dimension.name dimension.label

theorem read_cases (input : RawInput) (dimension : Dimension) :
    (∃ value, input.read = .ok value ∧
      input.refusal dimension = .notPositive dimension.name dimension.label) ∨
    input.read = .error .integerTooLarge ∧ input.refusal dimension = .integerTooLarge := by
  cases input with
  | integer value =>
    have range := Binary64.isFinite_ofInt_iff value
    by_cases finite : (Binary64.ofInt value).isFinite = true
    · left
      refine ⟨Binary64.ofInt value, ?_, if_neg (Nat.not_le.mpr (range.mp finite))⟩
      simp only [read, Binary64.ofInt?, finite, if_true]
      rfl
    · right
      refine ⟨?_, if_pos (Nat.not_lt.mp (range.not.mp finite))⟩
      simp only [read, Binary64.ofInt?, finite]
      rfl
  | real value => exact .inl ⟨value, rfl, rfl⟩
  | text value => exact .inl ⟨_, rfl, rfl⟩
  | unreadable => exact .inl ⟨.nan, rfl, rfl⟩

theorem positive_cases (input : RawInput) (dimension : Dimension) :
    (∃ value, input.positive dimension.name dimension.label = .ok value ∧ input.Usable value) ∨
      input.positive dimension.name dimension.label = .error (input.refusal dimension) ∧
        ∀ value, ¬ input.Usable value := by
  rcases input.read_cases dimension with ⟨value, read, told⟩ | ⟨failed, told⟩
  · by_cases usable : (value.isFinite && Binary64.lt 0 value) = true
    · left
      obtain ⟨finite, above⟩ := Bool.and_eq_true_iff.mp usable
      refine ⟨value, ?_, read, finite, above⟩
      rw [positive, read, ok_bind, if_pos usable]
      rfl
    · right
      refine ⟨?_, fun other used => usable ?_⟩
      · rw [positive, read, ok_bind, if_neg usable, told]
        rfl
      · obtain rfl := Except.ok.inj (read.symm.trans used.read)
        exact Bool.and_eq_true_iff.mpr ⟨used.finite, used.positive⟩
  · right
    refine ⟨?_, fun value used => ?_⟩
    · rw [positive, failed, told]
      rfl
    · cases failed.symm.trans used.read

end RawInput

/-- Either all inputs are read as finite numbers greater than zero, or the first one that is not is told
by its field and its label, unless it is an integer out of range. -/
theorem readDimensions_exact (inputs : PerDimension RawInput) :
    (∃ values, readDimensions inputs = .ok values ∧ ∀ d, (inputs.get d).Usable (values.get d)) ∨
      ∃ before d after, Dimension.all = before ++ d :: after ∧
        (∀ earlier ∈ before, ∃ value, (inputs.get earlier).Usable value) ∧
        (∀ value, ¬ (inputs.get d).Usable value) ∧
        readDimensions inputs = .error ((inputs.get d).refusal d) := by
  have usable {d : Dimension} {input : RawInput} {value : Binary64}
      (ok : input.positive d.name d.label = .ok value) : input.Usable value := by
    rcases input.positive_cases d with ⟨other, also, used⟩ | ⟨failed, _⟩
    · obtain rfl := Except.ok.inj (ok.symm.trans also)
      exact used
    · cases ok.symm.trans failed
  rcases inputs.check_cases fun d input => input.positive d.name d.label with
    ⟨values, read, each⟩ | ⟨before, d, after, error, order, earlier, failed, told⟩
  · exact .inl ⟨values, read, fun d => usable (each d)⟩
  · refine .inr ⟨before, d, after, order, fun other inside => ?_, ?_⟩
    · obtain ⟨value, ok⟩ := earlier other inside
      exact ⟨value, usable ok⟩
    · rcases (inputs.get d).positive_cases d with ⟨value, ok, _⟩ | ⟨also, none⟩
      · cases failed.symm.trans ok
      · obtain rfl := Except.error.inj (failed.symm.trans also)
        exact ⟨none, told⟩

end SheetPricing
