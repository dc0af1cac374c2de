import SheetPricing.Loading.Loader
import SheetPricing.Pricing.Config
import SheetPricing.Storage.BlobStore

/-!
# The archive of configurations

Each owner has at most one row: the configuration, where its workbook is stored, and the digest of
the workbook. Rows, stored blobs and the loader belong together, for every change of a row changes
them too.
-/
namespace SheetPricing

open Loading Storage

/-- The configuration of an owner as it is stored. -/
structure Row where
  /-- The path of the stored workbook, or its URL. -/
  storagePath : String
  fileName : String
  selectedSheet : String
  inputCells : PerDimension Address
  priceCell : Address
  workbookHash : String
  updatedAt : String
  deriving DecidableEq, Repr

/-- The configuration that a row holds. -/
def Row.config (row : Row) : PricingConfig :=
  ⟨row.storagePath, row.fileName, row.selectedSheet, row.inputCells, row.priceCell,
    some row.workbookHash⟩

/-- The rows by their owners, with the blobs and the loader that they share. -/
structure Archive (β : Type) where
  rows : Table String Row
  blobs : BlobStore β
  loader : Loader β

/-- The moment of a change: the stamp of what is stored then, and the time for the row. -/
structure Moment where
  stamp : String
  time : String
  deriving DecidableEq, Repr

/-- A workbook that is uploaded, with the name of its file if it has one. -/
structure Upload (β : Type) where
  data : β
  name : Option String

/-- Why a configuration cannot be stored. -/
inductive ConfigurationError where
  | sheetNotFound (name : String) (available : List String)
  | noWorkbook
  deriving DecidableEq, Repr

def ConfigurationError.message : ConfigurationError → String
  | .sheetNotFound name available =>
    "Sheet \x22" ++ name ++ "\x22 not found; available sheets: " ++ ", ".intercalate available
  | .noWorkbook => "Upload an Excel workbook before saving the configuration"

/-- Why the archive does not do what it is asked to. -/
inductive ArchiveError where
  | load (failure : LoadFailure LoadFault)
  | configuration (error : ConfigurationError)
  | file (error : FileError)
  | store (error : StoreError)
  /-- The rows could not be written. -/
  | commit (message : String)
  deriving DecidableEq, Repr

/-- Whether the rows can be written, or why not. -/
abbrev Commit := Except String Unit

abbrev ArchiveM (β : Type) := Action ArchiveError (Archive β)

/-- An action on the archive that ends only with a failed load. -/
abbrev ArchiveLoadM (β : Type) := Action (LoadFailure LoadFault) (Archive β)

end SheetPricing
