import SheetPricing.Formula.Engine
import SheetPricing.Json.Rounded
import SheetPricing.Pricing.Config
import SheetPricing.Pricing.Input

/-!
# Prices from a template

A template is a configuration with its workbook. A price is calculated on a worksheet into which
the inputs were written; the workbook itself stays as it is. What cannot be priced has no price
and a report of the reason, next to a record of the calculation.
-/
namespace SheetPricing

structure Template where
  config : PricingConfig
  workbook : Workbook
  deriving Inhabited

structure CalculationRecord where
  sheetName : String
  inputCells : Table Address Binary64
  outputCell : Address
  outputValue : Option Binary64
  formula : Option String
  resolvedCells : Table Address Binary64
  templateHash : Option String
  errors : List String
  deriving DecidableEq

/-- A price, if there is one, with the record of its calculation. -/
structure PriceResult where
  price : Option Binary64
  record : CalculationRecord
  deriving DecidableEq

/-- What ends a calculation without a result. -/
inductive CalculationFault where
  | formula (fault : Formula.Fault)
  | integerTooLarge
  deriving DecidableEq

def CalculationFault.message : CalculationFault → String
  | .formula fault => fault.message
  | .integerTooLarge => InputError.integerTooLarge.message

namespace CalculationRecord

def empty : CalculationRecord := ⟨"", .empty, "", none, none, .empty, none, []⟩

instance : Inhabited CalculationRecord := ⟨empty⟩

/-- A record that ends without a price, for a reason. -/
def rejected (record : CalculationRecord) (reason : String) : PriceResult :=
  ⟨none, { record with errors := record.errors ++ [reason] }⟩

end CalculationRecord

/-- Prices have cents. -/
def pricePlaces : Int := 2

/-- A calculated value as a price: rounded to cents and not negative. Otherwise the reason. -/
def priceOf (value : Amount) : Except String Binary64 :=
  match value.round pricePlaces with
  | .error amount => .error (Formula.Failure.roundingMessage amount pricePlaces)
  | .ok rounded =>
    let price := rounded + 0
    if price.lt 0 then .error s!"Calculated price {price.text} is negative" else .ok price

/-- Any value as a price; nothing has none. -/
def priceOf? (value : Json) : Except String (Option Binary64) :=
  match value, value.amount? with
  | .null, _ => .ok none
  | _, some amount => (priceOf amount).map some
  | _, none => .error (RoundFault.refused value.message (toString pricePlaces)).message

/-- A worksheet with the inputs in their cells. Where two inputs share a cell the later one counts.
-/
def writeInputs (sheet : Worksheet) (cells : PerDimension Address)
    (values : PerDimension Binary64) : Worksheet :=
  cells.toList.foldl
    (fun sheet (dimension, address) => sheet.setNumber address (values.get dimension)) sheet

def inputTable (cells : PerDimension Address) (values : PerDimension Binary64) :
    Table Address Binary64 :=
  .ofList (cells.toList.map fun (dimension, address) => (address, values.get dimension))

/-- What a price cell gives: a value or the report that there is none, the formula, and the cells
that it read. -/
structure Output where
  value : Except String Binary64
  formula : Option String
  resolvedCells : Table Address Binary64

/-- Read the price cell of a worksheet, evaluating its formula. -/
def readOutput (sheet : Worksheet) (address : Address) : Except Formula.Fault Output :=
  match sheet.cell? address with
  | some (.formula text _) =>
    let (outcome, trace) := Formula.run sheet text .empty
    (Formula.told text outcome).map fun value => ⟨value, some text, trace⟩
  | _ =>
    match sheet.numeric? address with
    | some value => .ok ⟨.ok value, none, .empty⟩
    | none =>
      .ok ⟨.error s!"No formula or numeric value found in price cell {address}", none, .empty⟩

namespace Template

/-- The record of a calculation with a template, before anything is calculated. -/
def record (template : Template) : CalculationRecord :=
  { CalculationRecord.empty with
    sheetName := template.config.sheetName
    templateHash := some template.workbook.hash
    outputCell := template.config.priceCell }

def missingReport (inputs : PerDimension (Option RawInput)) : String :=
  let missing := inputs.toList.filter fun (_, input) => input.isNone
  "Missing inputs: " ++ ", ".intercalate (missing.map fun (dimension, _) => dimension.label)

/-- The report of a worksheet that is not in the workbook. -/
def sheetReport (name : String) : String := "Sheet \x22" ++ name ++ "\x22 not found in workbook"

def price (template : Template) (sheet : Worksheet) (values : PerDimension Binary64) :
    Except CalculationFault PriceResult := do
  let cells := template.config.inputCells
  let work := writeInputs sheet cells values
  let output ← (readOutput work template.config.priceCell).mapError .formula
  let record :=
    { template.record with
      inputCells := inputTable cells values
      formula := output.formula
      resolvedCells := output.resolvedCells }
  match output.value.bind (priceOf ∘ .real) with
  | .ok price => return ⟨some price, { record with outputValue := some price }⟩
  | .error reason => return record.rejected reason

/-- The price of a part from its inputs as they were given. -/
def calculate (template : Template) (inputs : PerDimension (Option RawInput)) :
    Except CalculationFault PriceResult :=
  match inputs.all? with
  | none => .ok (template.record.rejected (missingReport inputs))
  | some given =>
    match readDimensions given with
    | .error .integerTooLarge => .error .integerTooLarge
    | .error reason => .ok (template.record.rejected reason.message)
    | .ok values =>
      match template.workbook.sheet? template.config.sheetName with
      | none => .ok (template.record.rejected (sheetReport template.config.sheetName))
      | some sheet => template.price sheet values

end Template
end SheetPricing
