import SheetPricing.Binary64.Basic

/-!
# Exactly rounded sums

The running total is kept as numbers that do not overlap, so nothing is lost until the exact total
is rounded at the end. Adding a summand passes it through these numbers in turn; when one of the
rounded sums on the way leaves the range, the whole sum fails, also where the exact total would
be in range.
-/
namespace SheetPricing.Binary64

/-- Why a sum has no answer. -/
inductive SumFailure where
  | overflow
  | oppositeInfinities
  deriving DecidableEq, Repr

/-- The total so far: the parts of the finite summands, in units, and which other summands came. -/
structure RunningSum where
  parts : List Int
  positiveInfinity : Bool
  negativeInfinity : Bool
  notNumber : Bool
  deriving DecidableEq

namespace RunningSum

def empty : RunningSum := ⟨[], false, false, false⟩

/-- Pass `x` through the parts: each part keeps what is lost when it is added to what passes, and
the last rounded sum becomes the last part. `none` when a rounded sum is out of range. -/
def absorb (x : Int) : List Int → Option (List Int)
  | [] => some (if x = 0 then [] else [x])
  | part :: rest =>
    (ofUnits (x + part)).units?.bind fun rounded =>
      let lost := x + part - rounded
      (absorb rounded rest).map fun parts => if lost = 0 then parts else lost :: parts

/-- Add one summand. An infinite one or one that is not a number forgets the finite parts. -/
def add (total : RunningSum) : Binary64 → Except SumFailure RunningSum
  | .nan => .ok { total with parts := [], notNumber := true }
  | .infinity true => .ok { total with parts := [], negativeInfinity := true }
  | .infinity false => .ok { total with parts := [], positiveInfinity := true }
  | .finite negative units _ =>
    match absorb (signed negative units) total.parts with
    | some parts => .ok { total with parts }
    | none => .error .overflow

def result (total : RunningSum) : Except SumFailure Binary64 :=
  if total.positiveInfinity && total.negativeInfinity then .error .oppositeInfinities
  else if total.notNumber then .ok .nan
  else if total.positiveInfinity then .ok (.infinity false)
  else if total.negativeInfinity then .ok (.infinity true)
  else .ok (ofUnits (total.parts.foldr (· + ·) 0))

/-- Passing a summand through the parts loses nothing. -/
theorem sum_absorb {x : Int} {parts after : List Int} (kept : absorb x parts = some after) :
    after.foldr (· + ·) 0 = x + parts.foldr (· + ·) 0 := by
  induction parts generalizing x after with
  | nil =>
    simp only [absorb, Option.some.injEq] at kept
    subst kept
    by_cases zero : x = 0 <;> simp [zero]
  | cons part rest ih =>
    simp only [absorb, Option.bind_eq_some_iff, Option.map_eq_some_iff] at kept
    obtain ⟨rounded, _, later, passed, rfl⟩ := kept
    have := ih passed
    by_cases nothing : x + part - rounded = 0
    · simp only [nothing, if_true, List.foldr_cons]; omega
    · simp only [nothing, if_false, List.foldr_cons]; omega

end RunningSum

/-- The sum of a list of numbers, rounded once. -/
def sum (values : List Binary64) : Except SumFailure Binary64 := do
  (← values.foldlM RunningSum.add .empty).result

end SheetPricing.Binary64
