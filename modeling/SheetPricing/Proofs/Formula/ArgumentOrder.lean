import SheetPricing.Proofs.Binary64.Total
import SheetPricing.Proofs.Formula.Ahead
import SheetPricing.Proofs.Formula.Extremes
import SheetPricing.Proofs.Formula.Gathering

/-! The order of the arguments of an aggregate. Whatever the order, all values are gathered. The greatest
and the least of them then only depend on whether what comes first is a number, and a sum only on
whether a sum on the way leaves the range. -/
namespace SheetPricing.Formula

open Binary64 (exactSum sum_eq_exactSum exactSum_perm)

section
variable {sheet : Worksheet} {trace : Trace} {path : List Address} {limit depth : Nat}
  {arguments others : List Expr} {gives : Expr → List Binary64} {name : String} {function : Function}
  (called : Function.named? name = some function) (aggregates : function.Aggregates)
include called aggregates

theorem evaluate_of_each
    (each : ∀ e ∈ arguments, ((collectOn sheet limit depth path [e]).on trace).1 = .ok (gives e))
    (founded : Founded sheet trace trace) (apart : Apart path trace) :
    ((evaluate sheet limit (depth + 1) path (.call name arguments)).on trace).1
      = function.aggregate (arguments.flatMap gives) := by
  have values := collectOn_of_each each (.refl trace) founded apart
  rw [on_evaluate_aggregate called aggregates]
  rcases gathered : Action.on _ trace with ⟨failure | found, after⟩
  · rw [gathered] at values
    cases values
  · rw [gathered] at values
    obtain rfl := Except.ok.inj values
    rfl

omit called in
theorem exists_steady (other : function ≠ .sum) :
    ∃ extreme, Steady extreme ∧ ∀ values, function.aggregate values = .ok (extreme values) := by
  rcases aggregates with rfl | rfl | rfl
  · exact absurd rfl other
  · exact ⟨greatest, steady_greatest, fun _ => rfl⟩
  · exact ⟨least, steady_least, fun _ => rfl⟩

/-- An aggregate of arguments that each give values by themselves, in any two orders. A sum is the exact
sum of all values rounded, or the same failure, in either order in which no sum on the way leaves the
range. The greatest and the least value are had in both orders; they are equal as numbers, except that
what is no number is kept in an order in which it comes first. -/
theorem evaluate_perm
    (each : ∀ e ∈ arguments, ((collectOn sheet limit depth path [e]).on trace).1 = .ok (gives e))
    (founded : Founded sheet trace trace) (apart : Apart path trace)
    (permuted : arguments.Perm others) :
    (function = .sum → ∀ order ∈ [arguments, others],
      ((evaluate sheet limit (depth + 1) path (.call name order)).on trace).1
        = .error (.fault (.sum .overflow)) ∨
      ((evaluate sheet limit (depth + 1) path (.call name order)).on trace).1
        = (exactSum (arguments.flatMap gives)).mapError fun failure => .fault (.sum failure)) ∧
    (function ≠ .sum → ∃ value other,
      ((evaluate sheet limit (depth + 1) path (.call name arguments)).on trace).1 = .ok value ∧
      ((evaluate sheet limit (depth + 1) path (.call name others)).on trace).1 = .ok other ∧
      (value = .nan ↔ (arguments.flatMap gives).head? = some .nan) ∧
      (other = .nan ↔ (others.flatMap gives).head? = some .nan) ∧
      (value ≠ .nan → other ≠ .nan → value.equals other = true)) := by
  have eachToo : ∀ e ∈ others,
      ((collectOn sheet limit depth path [e]).on trace).1 = .ok (gives e) :=
    fun e inside => each e (permuted.mem_iff.mpr inside)
  have values : (arguments.flatMap gives).Perm (others.flatMap gives) := permuted.flatMap_right gives
  rw [evaluate_of_each called aggregates each founded apart,
    evaluate_of_each called aggregates eachToo founded apart]
  constructor
  · rintro rfl order inside
    have all : ∀ e ∈ order, ((collectOn sheet limit depth path [e]).on trace).1 = .ok (gives e) := by
      rcases List.mem_pair.mp inside with rfl | rfl
      · exact each
      · exact eachToo
    have same : exactSum (order.flatMap gives) = exactSum (arguments.flatMap gives) := by
      rcases List.mem_pair.mp inside with rfl | rfl
      · rfl
      · exact (exactSum_perm values).symm
    rw [evaluate_of_each called aggregates all founded apart, Function.aggregate, ← same]
    rcases sum_eq_exactSum (order.flatMap gives) with overflow | exact
    · rw [overflow]
      exact .inl rfl
    · rw [exact]
      exact .inr rfl
  · intro other
    obtain ⟨extreme, steady, aggregated⟩ := exists_steady aggregates other
    exact ⟨_, _, aggregated _, aggregated _, steady.nan _, steady.nan _, steady.same _ _ values⟩

end

/-- The values of a range with a one and a two, and of a three. -/
def twoCornersOrThree : Expr → List Binary64
  | .range _ => [1, 2]
  | _ => [3]

theorem evaluate_perm_of_twoCorners :
    ∃ value other,
      ((evaluate twoCorners depthLimit depthLimit [] (.call "MAX" [.range ⟨"A1", "C5"⟩, .number 3])).on
        .empty).1 = .ok value ∧
      ((evaluate twoCorners depthLimit depthLimit [] (.call "MAX" [.number 3, .range ⟨"A1", "C5"⟩])).on
        .empty).1 = .ok other ∧ value.equals other = true := by
  have each : ∀ e ∈ [Expr.range ⟨"A1", "C5"⟩, .number 3],
      ((collectOn twoCorners depthLimit 479 [] [e]).on .empty).1 = .ok (twoCornersOrThree e) :=
    List.forall_mem_cons.mpr ⟨by decide +kernel, List.forall_mem_singleton.mpr (by decide +kernel)⟩
  have called : Function.named? "MAX" = some .max := rfl
  have founded : Founded twoCorners .empty .empty := by rintro _ _ ⟨⟩
  obtain ⟨value, other, first, second, nan, nanToo, same⟩ :=
    (evaluate_perm called (.inr (.inl rfl)) each founded (List.forall_mem_nil _)
      (List.Perm.swap _ _ [])).2 (by decide)
  have number : value ≠ .nan := fun none => absurd (nan.mp none) (by decide +kernel)
  have numberToo : other ≠ .nan := fun none => absurd (nanToo.mp none) (by decide +kernel)
  exact ⟨value, other, first, second, same number numberToo⟩

end SheetPricing.Formula
