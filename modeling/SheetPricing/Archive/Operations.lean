import SheetPricing.Archive.Basic

/-!
# Operations on the archive

A configuration is stored with an upload, or with the workbook that is stored already, or with one
at a URL. Whatever fails, the rows and the blobs are as they were: a new blob is removed again
when the rows cannot be written, and an old one only after they were written.
-/
namespace SheetPricing.Archive

open Loading Storage

variable {β : Type}

def row? (archive : Archive β) (owner : String) : Option Row := archive.rows.get? owner

def config? (archive : Archive β) (owner : String) : Option PricingConfig :=
  (archive.row? owner).map Row.config

/-- Let the loader of the archive act. -/
def withLoader {α : Type} (action : LoaderM β α) : ArchiveLoadM β α :=
  action.within Archive.loader fun archive loader => { archive with loader }

/-- An action that fails with a failed load. -/
def orLoadError {α : Type} (action : ArchiveLoadM β α) : ArchiveM β α := action.mapError .load

/-- The error of a stored workbook that cannot be read. -/
def unavailable (ref : String) (error : StoreError) : LoadFailure LoadFault :=
  .unavailable ⟨s!"Stored workbook {ref} is unavailable: {error.message}", some ref⟩

/-- The workbook of a configuration. -/
def loadWorkbook (format : FileFormat β) (config : PricingConfig) : ArchiveLoadM β Parsed := do
  if isUrl config.workbookRef then withLoader (Loader.loadUrl format config.workbookRef)
  else
    match (← get).blobs.read config.workbookRef with
    | .error error => throw (unavailable config.workbookRef error)
    | .ok data => withLoader (Loader.loadBytes format data)

/-- Drop what the loader keeps under a digest. -/
def evict (hash : String) : ArchiveM β Unit :=
  modify fun archive => { archive with loader := archive.loader.evict hash }

/-- Remove a stored blob, if it is there. -/
def deleteBlob (path : String) : ArchiveM β Bool := do
  let archive ← get
  match archive.blobs.delete path with
  | .error error => throw (.store error)
  | .ok (removed, blobs) =>
    set { archive with blobs }
    return removed

/-- A workbook has the worksheet of a configuration. -/
def checkSheet (workbook : Workbook) (name : String) : Except ConfigurationError Unit :=
  if workbook.hasSheet name then .ok () else .error (.sheetNotFound name workbook.sheetNames)

/-- A workbook that is ready to be referred to by a row. -/
structure Placed where
  storagePath : String
  fileName : String
  workbookHash : String
  deriving DecidableEq, Repr

/-- The first text that is not empty. -/
def firstNonempty (texts : List String) (fallback : String) : String :=
  (texts.find? (!·.isEmpty)).getD fallback

/-- Read an upload, check it and store it. One that is refused is not kept by the loader, unless it
is the workbook that is stored already. -/
def placeUpload (format : FileFormat β) (owner : String) (config : PricingConfig)
    (upload : Upload β) (old : Option Row) (moment : Moment) : ArchiveM β Placed := do
  let hash := format.digest upload.data
  let parsed ← orLoadError (withLoader (Loader.loadBytes format upload.data))
  match checkSheet parsed.workbook config.sheetName with
  | .error error =>
    if some hash ≠ old.map Row.workbookHash then evict hash
    throw (.configuration error)
  | .ok () =>
    let name := firstNonempty [upload.name.getD "", config.fileName] "workbook.xlsx"
    let archive ← get
    let (outcome, blobs) := archive.blobs.save owner name moment.stamp upload.data
    set { archive with blobs }
    match outcome with
    | .error error => throw (.file error)
    | .ok path => return ⟨path, name, hash⟩

/-- Check the workbook that a row refers to. -/
def placeStored (format : FileFormat β) (config : PricingConfig) (row : Row) :
    ArchiveM β Placed := do
  let parsed ← orLoadError (loadWorkbook format row.config)
  match checkSheet parsed.workbook config.sheetName with
  | .error error => throw (.configuration error)
  | .ok () => return ⟨row.storagePath, row.fileName, row.workbookHash⟩

/-- Check the workbook at the URL of a configuration. -/
def placeRemote (format : FileFormat β) (config : PricingConfig) : ArchiveM β Placed := do
  let parsed ← orLoadError (withLoader (Loader.loadUrl format config.workbookRef))
  match checkSheet parsed.workbook config.sheetName with
  | .error error => throw (.configuration error)
  | .ok () =>
    let name := firstNonempty [config.fileName] (Text.afterLast '/' config.workbookRef)
    return ⟨config.workbookRef, name, parsed.workbook.hash⟩

/-- Get a workbook ready: the upload, or else the stored one, or else the one at a URL. -/
def place (format : FileFormat β) (owner : String) (config : PricingConfig)
    (upload : Option (Upload β)) (old : Option Row) (moment : Moment) : ArchiveM β Placed :=
  match upload, old with
  | some upload, _ => placeUpload format owner config upload old moment
  | none, some row => placeStored format config row
  | none, none =>
    if isUrl config.workbookRef then placeRemote format config
    else throw (.configuration .noWorkbook)

/-- The row of a configuration with a workbook that is ready. -/
def newRow (config : PricingConfig) (placed : Placed) (moment : Moment) : Row :=
  ⟨placed.storagePath, placed.fileName, config.sheetName, config.inputCells, config.priceCell,
    placed.workbookHash, moment.time⟩

/-- Take back an upload whose row could not be written. -/
def takeBack (placed : Placed) (old : Option Row) : ArchiveM β Unit := do
  discard (deleteBlob placed.storagePath)
  if some placed.workbookHash ≠ old.map Row.workbookHash then evict placed.workbookHash

/-- Remove what only the old row referred to. -/
def cleanUp (placed : Placed) (old : Row) : ArchiveM β Unit := do
  unless isUrl old.storagePath do
    if old.storagePath ≠ placed.storagePath then discard (deleteBlob old.storagePath)
    if old.workbookHash ≠ placed.workbookHash then evict old.workbookHash

/-- Store the configuration of an owner, with a new workbook if one is uploaded. -/
def store (format : FileFormat β) (owner : String) (config : PricingConfig)
    (upload : Option (Upload β)) (moment : Moment) (commit : Commit) :
    ArchiveM β PricingConfig := do
  let old := (← get).row? owner
  let placed ← place format owner config upload old moment
  let row := newRow config placed moment
  match commit with
  | .error message =>
    if upload.isSome then takeBack placed old
    throw (.commit message)
  | .ok () =>
    modify fun archive => { archive with rows := archive.rows.put owner row }
    if let some old := old then cleanUp placed old
    return row.config

/-- Remove the configuration of an owner with its stored workbook. -/
def clear (owner : String) (commit : Commit) : ArchiveM β Unit := do
  match (← get).row? owner with
  | none => return
  | some row =>
    match commit with
    | .error message => throw (.commit message)
    | .ok () =>
      modify fun archive => { archive with rows := archive.rows.erase owner }
      unless isUrl row.storagePath do
        discard (deleteBlob row.storagePath)
        evict row.workbookHash

end SheetPricing.Archive
