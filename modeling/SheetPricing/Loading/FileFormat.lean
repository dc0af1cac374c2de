import SheetPricing.Loading.DateText
import SheetPricing.Loading.Package
import SheetPricing.Pricing.LoadError
import SheetPricing.Workbook.Basic

/-!
# File formats

What is known of workbook files: the digest that tells their contents apart, and the worksheets they
hold.
-/
namespace SheetPricing.Loading

/-- What is wrong with a file, other than that it is no workbook. -/
inductive BrokenFile where
  | integerTooLarge
  | rowTooLarge (row : Nat)
  | span (fault : DateFault)
  | package (fault : PackageFault)
  deriving DecidableEq, Repr

/-- The last row that a worksheet can have. -/
def lastRow : Nat := 1048576

def BrokenFile.message : BrokenFile → String
  | .integerTooLarge => NumberError.integerTooLarge.message
  | .rowTooLarge row =>
    s!"Row numbers must be between 1 and {lastRow}. Row number supplied was {row}"
  | .span fault => fault.message
  | .package fault => fault.message

/-- What breaks a load, other than that a workbook cannot be had. -/
inductive LoadFault where
  /-- A request failed in a way that trying again does not help. -/
  | request (message : String)
  | file (fault : BrokenFile)
  /-- The path of a file has a character that no path can have. -/
  | nulCharacter
  deriving DecidableEq, Repr

def LoadFault.message : LoadFault → String
  | .request message => message
  | .file fault => fault.message
  | .nulCharacter => "embedded null byte"

/-- Why no worksheets are read from a file. -/
inductive FileFault where
  /-- The file is no workbook. -/
  | unreadable (reason : String)
  | broken (fault : BrokenFile)
  deriving DecidableEq, Repr

structure FileFormat (β : Type) where
  digest : β → String
  /-- The worksheets of a file, or the reason why it is no workbook. -/
  sheets : β → Except FileFault (List Worksheet)
  /-- Whether the bytes of a file make up a text. -/
  isText : β → Bool
  /-- The file that has these bytes. -/
  ofOctets : List Nat → β

/-- The workbook in a file. -/
def FileFormat.open {β : Type} (format : FileFormat β) (data : β) :
    Except (LoadFailure LoadFault) Workbook :=
  match format.sheets data with
  | .ok sheets => .ok ⟨sheets, format.digest data⟩
  | .error (.unreadable reason) =>
    .error (.unavailable ⟨"Not a readable Excel workbook: " ++ reason, none⟩)
  | .error (.broken fault) => .error (.broken (.file fault))

end SheetPricing.Loading
