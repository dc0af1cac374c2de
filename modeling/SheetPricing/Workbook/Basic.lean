import SheetPricing.Table
import SheetPricing.Workbook.Address
import SheetPricing.Workbook.Cell

/-!
# Worksheets and workbooks

A worksheet is a sparse table of cells under their addresses. A workbook is a list of worksheets
with the hash of the file it was read from. Both are values: writing into a worksheet makes a new
one.
-/
namespace SheetPricing

structure Worksheet where
  name : String
  cells : Table Address Cell
  deriving Inhabited

namespace Worksheet

def cell? (sheet : Worksheet) (address : Address) : Option Cell := sheet.cells.get? address

/-- The number at an address without calculation, if there is one. -/
def numeric? (sheet : Worksheet) (address : Address) : Option Binary64 :=
  (sheet.cell? address).bind Cell.numeric?

def put (sheet : Worksheet) (address : Address) (cell : Cell) : Worksheet :=
  { sheet with cells := sheet.cells.put address cell }

/-- Put a number at an address, whatever was there. -/
def setNumber (sheet : Worksheet) (address : Address) (value : Binary64) : Worksheet :=
  sheet.put address (.number value)

@[simp] theorem cell?_put (sheet : Worksheet) (address other : Address) (cell : Cell) :
    (sheet.put address cell).cell? other
      = if other = address then some cell else sheet.cell? other :=
  Table.get?_put sheet.cells address other cell

end Worksheet

structure Workbook where
  sheets : List Worksheet
  hash : String
  deriving Inhabited

namespace Workbook

def sheetNames (workbook : Workbook) : List String := workbook.sheets.map (·.name)

def sheet? (workbook : Workbook) (name : String) : Option Worksheet :=
  workbook.sheets.find? (·.name == name)

def hasSheet (workbook : Workbook) (name : String) : Bool := (workbook.sheet? name).isSome

end Workbook
end SheetPricing
