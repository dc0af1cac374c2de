import SheetPricing.Pricing.Dimension
import SheetPricing.Schema.Field
import SheetPricing.Workbook.Address

/-!
# Pricing configurations

Where the price of a part is found: the workbook, the worksheet, the cells that take the inputs
and the cell that holds the price.
-/
namespace SheetPricing

structure PricingConfig where
  /-- The path of a stored workbook, or its URL. -/
  workbookRef : String
  fileName : String
  sheetName : String
  inputCells : PerDimension Address
  priceCell : Address
  workbookHash : Option String
  deriving DecidableEq, Repr, Inhabited

namespace PricingConfig

open Schema

/-- The cells of a configuration that names none. -/
def defaultCells : PerDimension Address := ⟨"A1", "A2", "A3", "A4"⟩

def defaultPriceCell : Address := "A5"

/-- A cell address in any case, with blanks around it. -/
def asAddress : Json → Except FieldProblem Address
  | .text value =>
    (Address.normalize value).mapError fun invalid => .invalid invalid.message
  | value =>
    if value.isVoid then .error (.invalid (Address.invalidMessage value.shown))
    else .error (.notTrimmable value.kindName)

/-- The name of a worksheet, which is not blank. -/
def asSheetName (value : Json) : Except FieldProblem String := do
  let name ← asText value
  if (Text.trim name).isEmpty then throw (.invalid "Please select a worksheet") else return name

def cellField (fields : Fields) (dimension : Dimension) : Checked Address :=
  optional fields (dimension.name ++ "_cell") (defaultCells.get dimension) asAddress

/-- A configuration from its parts, in the order of its fields. -/
def ofParts (workbookRef fileName sheetName : String) (length width height weight : Address)
    (priceCell : Address) (workbookHash : Option String) : PricingConfig :=
  ⟨workbookRef, fileName, sheetName, ⟨length, width, height, weight⟩, priceCell, workbookHash⟩

def ofFields (fields : Fields) : Checked PricingConfig :=
  (Checked.pure ofParts
    |>.apply (required fields "workbook_ref" asText)
    |>.apply (optional fields "file_name" "" asText)
    |>.apply (required fields "sheet_name" asSheetName)
    |>.apply (cellField fields .length)
    |>.apply (cellField fields .width)
    |>.apply (cellField fields .height)
    |>.apply (cellField fields .weight)
    |>.apply (optional fields "price_cell" defaultPriceCell asAddress)
    |>.apply (optional fields "workbook_hash" none asOptionalText)).mapError Problems.told

def fields (config : PricingConfig) : Fields :=
  [("workbook_ref", .text config.workbookRef), ("file_name", .text config.fileName),
    ("sheet_name", .text config.sheetName)]
    ++ config.inputCells.toList.map (fun (dimension, address) =>
      (dimension.name ++ "_cell", .text address))
    ++ [("price_cell", .text config.priceCell),
      ("workbook_hash", .ofOption .text config.workbookHash)]

end PricingConfig
end SheetPricing
