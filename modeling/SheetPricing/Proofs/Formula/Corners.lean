import Mathlib.Algebra.Order.Ring.Abs
import SheetPricing.Formula.Engine
import SheetPricing.Proofs.Formula.Step

/-! The order in which the corners of a range are written. A range whose first corner is neither to the
right of nor below its last has the cells of the rectangle between them. Written in any other order it
has no cells at all, and it is never too large either, since its columns and rows are counted with
signs: an aggregate passes over it without a word. -/
namespace SheetPricing.Formula

namespace Corner

/-- That one corner is neither to the right of nor below another. -/
def InOrder (first last : Corner) : Prop := first.column ≤ last.column ∧ first.row ≤ last.row

instance (first last : Corner) : Decidable (first.InOrder last) :=
  inferInstanceAs (Decidable (_ ∧ _))

/-- The upper left corner of the rectangle that two corners span. -/
def low (first last : Corner) : Corner := ⟨min first.column last.column, min first.row last.row⟩

/-- The lower right one. -/
def high (first last : Corner) : Corner := ⟨max first.column last.column, max first.row last.row⟩

/-- How many cells the rectangle has that two corners span, in whatever order. -/
def extent (first last : Corner) : Int :=
  (|(last.column : Int) - first.column| + 1) * (|(last.row : Int) - first.row| + 1)

variable {first last : Corner}

theorem InOrder.low_eq (ordered : first.InOrder last) : first.low last = first := by
  rw [low, Nat.min_eq_left ordered.1, Nat.min_eq_left ordered.2]

theorem InOrder.high_eq (ordered : first.InOrder last) : first.high last = last := by
  rw [high, Nat.max_eq_right ordered.1, Nat.max_eq_right ordered.2]

/-- With signs no more cells are counted than there are. -/
theorem count_le_extent (first last : Corner) : Range.count first last ≤ first.extent last := by
  have columns : |(last.column : Int) - first.column + 1| ≤ |(last.column : Int) - first.column| + 1 :=
    abs_add_le _ 1
  have rows : |(last.row : Int) - first.row + 1| ≤ |(last.row : Int) - first.row| + 1 :=
    abs_add_le _ 1
  calc Range.count first last ≤ |Range.count first last| := le_abs_self _
    _ = |(last.column : Int) - first.column + 1| * |(last.row : Int) - first.row + 1| := abs_mul _ _
    _ ≤ first.extent last := mul_le_mul columns rows (abs_nonneg _) ((abs_nonneg _).trans columns)

end Corner

section
variable {corners : Range} {first last : Corner}

theorem Range.cells_eq_nil (reversed : ¬first.InOrder last) : Range.cells first last = [] := by
  rcases not_and_or.mp reversed with columns | rows
  · have none : Range.span first.column last.column = [] := by
      rw [Range.span, show last.column + 1 - first.column = 0 by omega, List.range'_zero]
    rw [Range.cells, none]
    rfl
  · have none : Range.span first.row last.row = [] := by
      rw [Range.span, show last.row + 1 - first.row = 0 by omega, List.range'_zero]
    rw [Range.cells, none, List.flatMap_nil, ite_self]

/-- A range of a rectangle that is not too large lists the cells between its corners as they are
written. -/
theorem Range.addresses_eq (readFirst : Corner.ofAddress? corners.first = some first)
    (readLast : Corner.ofAddress? corners.last = some last)
    (few : first.extent last ≤ Range.maxCells) :
    corners.addresses = .ok ((Range.cells first last).map Corner.address) := by
  have within := (Corner.count_le_extent first last).trans few
  simp only [Range.addresses, readFirst, readLast, if_neg (Int.not_lt.mpr within)]

end

section
variable {sheet : Worksheet} {name : String} {function : Function}
  (called : Function.named? name = some function) (aggregates : function.Aggregates)
include called aggregates

theorem evaluate_call_congr {arguments others : List Expr}
    (same : ∀ (part : Expr → EvalM Binary64) (read : Address → EvalM Binary64),
      collect sheet part read arguments = collect sheet part read others)
    (limit depth : Nat) (path : List Address) :
    evaluate sheet limit depth path (.call name arguments)
      = evaluate sheet limit depth path (.call name others) := by
  cases depth with
  | zero => rfl
  | succ depth =>
    simp only [evaluate, Expr.step, called]
    rcases aggregates with rfl | rfl | rfl <;> simp only [callValue, same]

/-- An aggregate with a range whose corners span a rectangle that is not too large, among any other
arguments. In order, the range may as well be written with the upper left and the lower right corner
of the rectangle; otherwise it may as well be left out. -/
theorem evaluate_corners {corners ordered : Range} {first last : Corner}
    (readFirst : Corner.ofAddress? corners.first = some first)
    (readLast : Corner.ofAddress? corners.last = some last)
    (readLow : Corner.ofAddress? ordered.first = some (first.low last))
    (readHigh : Corner.ofAddress? ordered.last = some (first.high last))
    (few : first.extent last ≤ Range.maxCells) (before behind : List Expr) (limit depth : Nat)
    (path : List Address) :
    evaluate sheet limit depth path (.call name (before ++ .range corners :: behind))
      = evaluate sheet limit depth path (.call name (before ++
          if first.InOrder last then .range ordered :: behind else behind)) := by
  have spanned := Range.addresses_eq readFirst readLast few
  refine evaluate_call_congr called aggregates (fun part read => ?_) limit depth path
  rw [collect_append, collect_append]
  split
  · next inOrder =>
    rw [inOrder.low_eq] at readLow
    rw [inOrder.high_eq] at readHigh
    have same : members sheet corners = members sheet ordered := by
      rw [members, members, spanned, Range.addresses_eq readLow readHigh few]
    rw [collect, collect, same]
  · next reversed =>
    have none : members sheet corners = .ok [] := by
      rw [members, spanned, Range.cells_eq_nil reversed]
      rfl
    have behind : collect sheet part read (.range corners :: behind)
        = collect sheet part read behind := by
      simp only [collect, none, orThrow, List.mapM_nil, pure_bind, List.nil_append, bind_pure]
    rw [behind]

end

/-- A worksheet with a number at either end of a rectangle. -/
def twoCorners : Worksheet := (Worksheet.put ⟨"", .empty⟩ "A1" (.number 1)).put "C5" (.number 2)

theorem evaluate_corners_of_twoCorners :
    evaluate twoCorners depthLimit depthLimit [] (.call "SUM" [.range ⟨"C5", "A1"⟩])
      = evaluate twoCorners depthLimit depthLimit [] (.call "SUM" []) ∧
    ((evaluate twoCorners depthLimit depthLimit [] (.call "SUM" [])).on .empty).1 = .ok 0 ∧
    ((evaluate twoCorners depthLimit depthLimit [] (.call "SUM" [.range ⟨"A1", "C5"⟩])).on .empty).1
      = .ok 3 := by
  refine ⟨?_, by decide +kernel, by decide +kernel⟩
  have corner : Corner.ofAddress? "C5" = some ⟨3, 5⟩ := by decide +kernel
  have opposite : Corner.ofAddress? "A1" = some ⟨1, 1⟩ := by decide +kernel
  have few : Corner.extent ⟨3, 5⟩ ⟨1, 1⟩ ≤ Range.maxCells := by decide
  exact @evaluate_corners twoCorners "SUM" .sum rfl (.inl rfl) ⟨"C5", "A1"⟩ ⟨"A1", "C5"⟩ ⟨3, 5⟩ ⟨1, 1⟩
    corner opposite opposite corner few [] [] depthLimit depthLimit []

end SheetPricing.Formula
