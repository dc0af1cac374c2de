import SheetPricing.Decimal.Numeral
import SheetPricing.Text.Capital
import SheetPricing.Workbook.Address

/-!
# Coordinates in workbook files

A cell of a file has a coordinate: up to three letters in any case for the column, and the number of
the row. The cell is known under the address that has the same column and row.
-/
namespace SheetPricing.Loading.Coordinate

/-- A column and a row of a text: they are parted before the first plain digit, or else before the
last character. -/
def split (cs : List Char) : List Char × List Char :=
  if cs.any Text.isPlainDigit then
    (cs.takeWhile (!Text.isPlainDigit ·), cs.dropWhile (!Text.isPlainDigit ·))
  else (cs.dropLast, cs.drop (cs.length - 1))

/-- The letters of a column. -/
def column? (cs : List Char) : Option (List Char) :=
  let letters := cs.flatMap Text.capitals
  let last := letters.drop (letters.length - 3)
  if cs.isEmpty || 3 < cs.length || !last.all Address.isCapital then none else some last

/-- The number of a row: digits of any script with blanks around them. -/
def row? (cs : List Char) : Option Nat := do
  let plain ← Numeral.plain? cs
  let joined ← Numeral.joinDigits? none (Text.trimList Text.isNumberBlank plain)
  let (negative, unsigned) := Numeral.takeSign joined
  match Numeral.takeDigits unsigned with
  | ([], _) => none
  | (digits, []) => if negative then none else some (ofDigits digits)
  | _ => none

/-- The column and the row that a coordinate means. -/
def read? (coordinate : String) : Option (String × Nat) := do
  let (column, row) := split coordinate.toList
  return (String.ofList (← column? column), ← row? row)

/-- The address of a cell. Rows are counted from one; there is no cell above them. -/
def address? (column : String) (row : Nat) : Option Address :=
  if row = 0 then none else some (column ++ toString row)

end SheetPricing.Loading.Coordinate
