/-!
# Load errors

Why a workbook cannot be had: it is out of reach or not readable.
-/
namespace SheetPricing

structure LoadError where
  message : String
  /-- Where the workbook was looked for, if the place matters. -/
  source : Option String
  deriving DecidableEq, Repr

/-- What ends a load: the workbook cannot be had, or something else is broken. -/
inductive LoadFailure (ε : Type) where
  | unavailable (error : LoadError)
  | broken (error : ε)
  deriving DecidableEq, Repr

end SheetPricing
