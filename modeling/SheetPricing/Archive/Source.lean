import SheetPricing.Archive.Operations
import SheetPricing.Pricing.Treatment
import SheetPricing.Pricing.Session

/-!
# Sources from the archive

Sessions get their templates from the archive: the template of an owner is the stored
configuration, the template of a treatment is the worksheet of the treatment in the shared
workbook. Both go through the loader of the archive.
-/
namespace SheetPricing.Archive

open Loading

variable {β : Type}

/-- A source that works on the archive. -/
abbrev ArchiveSource (β : Type) := Source LoadFault (Archive β)

/-- Let an action on the archive act beside a session, which it leaves alone. -/
def besideSession {α : Type} (action : ArchiveLoadM β α) : SourceM LoadFault (Archive β) α :=
  action.within Prod.snd fun (session, _) archive => (session, archive)

/-- The source of what an owner has stored. -/
def ownerSource (format : FileFormat β) (owner : String) : ArchiveSource β where
  config := return (← get).2.config? owner
  workbook config := return (← besideSession (loadWorkbook format config)).workbook

/-- The source of a treatment in the shared workbook at a URL. -/
def treatmentSource (format : FileFormat β) (treatment : Treatment) (url : String) :
    ArchiveSource β where
  config := return some (treatment.config url)
  workbook config :=
    return (← besideSession (withLoader (Loader.loadUrl format config.workbookRef))).workbook

end SheetPricing.Archive
