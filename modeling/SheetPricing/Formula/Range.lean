import SheetPricing.Formula.Expr

/-!
# Ranges

A range spans the cells from its first corner to its last, row by row and each row from left to
right. Columns are counted by letters without a zero: after `Z` comes `AA`. A range whose corners
are not in this order spans nothing.
-/
namespace SheetPricing.Formula

/-- A corner by the numbers of its column and its row; both begin with one. -/
structure Corner where
  column : Nat
  row : Nat
  deriving DecidableEq, Repr

def columnNumber (letters : List Char) : Nat :=
  letters.foldl (fun number c => 26 * number + (c.toNat - 'A'.toNat + 1)) 0

def columnLetters (number : Nat) : List Char :=
  if number = 0 then []
  else columnLetters ((number - 1) / 26) ++ [Char.ofNat ('A'.toNat + (number - 1) % 26)]
termination_by number
decreasing_by omega

/-- A column has at most three letters. -/
def maxColumnLetters : Nat := 3

/-- A row number has at most this many digits. -/
def maxRowDigits : Nat := 4300

/-- The corner that an address names: letters and then digits of any script. -/
def Corner.ofAddress? (address : Address) : Option Corner :=
  let letters := address.toList.takeWhile Address.isCapital
  let row := address.toList.dropWhile Address.isCapital
  if letters.isEmpty || maxColumnLetters < letters.length then none
  else if row.isEmpty || maxRowDigits < row.length then none
  else (row.mapM Text.digitValue?).map fun digits => ⟨columnNumber letters, ofDigits digits⟩

/-- The address in its own spelling: no leading zeros. -/
def Corner.address (corner : Corner) : Address :=
  String.ofList (columnLetters corner.column) ++ toString corner.row

namespace Range

/-- Why the cells of a range cannot be listed. -/
inductive Problem where
  | invalid
  | tooLarge (count : Int)
  deriving DecidableEq, Repr

/-- At most this many cells are listed. -/
def maxCells : Int := 100000

/-- The numbers from one to another, both included. -/
def span (first last : Nat) : List Nat := List.range' first (last + 1 - first)

/-- The count of cells between two corners. It is reckoned with signs, so that two corners in the
wrong order count as well. -/
def count (first last : Corner) : Int :=
  ((last.column : Int) - first.column + 1) * ((last.row : Int) - first.row + 1)

/-- The cells between two corners. -/
def cells (first last : Corner) : List Corner :=
  let columns := span first.column last.column
  if columns.isEmpty then []
  else (span first.row last.row).flatMap fun row => columns.map fun column => ⟨column, row⟩

/-- The addresses that a range spans. -/
def addresses (range : Range) : Except Problem (List Address) :=
  match Corner.ofAddress? range.first, Corner.ofAddress? range.last with
  | some first, some last =>
    if maxCells < count first last then .error (.tooLarge (count first last))
    else .ok ((cells first last).map Corner.address)
  | _, _ => .error .invalid

end Range
end SheetPricing.Formula
