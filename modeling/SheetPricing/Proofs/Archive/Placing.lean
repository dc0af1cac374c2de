import SheetPricing.Archive.Operations
import SheetPricing.Proofs.Loading.Loader
import SheetPricing.Proofs.Storage.BlobStore

/-! How a workbook is made ready for a row. Whether it is uploaded, stored already or at a URL, it
is loaded first, then its worksheets are checked, and only then is anything stored. -/
namespace SheetPricing.Archive
open Action Loading Storage
variable {β : Type} {format : FileFormat β} {known : β → Prop} {archive after : Archive β}
  {owner ref : String} {config : PricingConfig} {upload : Option (Upload β)} {old : Option Row}
  {moment : Moment} {parsed : Parsed}

/-- The blobs are well formed, and they and what the loader keeps are known data. -/
structure Sound (format : FileFormat β) (known : β → Prop) (archive : Archive β) : Prop where
  blobs : archive.blobs.WellFormed
  loader : archive.loader.Keeps format known
  held : ∀ names data, archive.blobs.tree.files.get? names = some data → known data

/-- Only the loader has acted. -/
structure Undisturbed (archive after : Archive β) : Prop where
  rows : after.rows = archive.rows
  blobs : after.blobs = archive.blobs

theorem Undisturbed.sound (same : Undisturbed archive after) (sound : archive.Sound format known)
    (keeps : after.loader.Keeps format known) : after.Sound format known :=
  ⟨same.blobs ▸ sound.blobs, keeps, same.blobs ▸ sound.held⟩

theorem undisturbed_withLoader {α : Type} (action : LoaderM β α) (archive : Archive β) :
    Undisturbed archive ((withLoader action).on archive).2 := ⟨rfl, rfl⟩

/-- The workbook of a reference is at hand: it is loaded without any change. -/
inductive Serves (format : FileFormat β) (archive : Archive β) (ref : String) (parsed : Parsed) :
    Prop
  | remote (remote : isUrl ref = true) (cached : archive.loader.cache.get? ref = some parsed)
  | stored (stored : isUrl ref = false) (data : β) (read : archive.blobs.read ref = .ok data)
      (cached : archive.loader.cache.get? (format.digest data) = some parsed)

theorem Serves.congr (serves : Serves format archive ref parsed)
    (blobs : after.blobs = archive.blobs) (loader : after.loader = archive.loader) :
    Serves format after ref parsed := by
  cases serves with
  | remote remote cached => exact .remote remote (by rwa [loader])
  | stored stored data read cached => exact .stored stored data (by rwa [blobs]) (by rwa [loader])

theorem on_loadWorkbook_of_remote (remote : isUrl config.workbookRef = true) :
    (loadWorkbook format config).on archive
      = (withLoader (Loader.loadUrl format config.workbookRef)).on archive := by
  rw [loadWorkbook, if_pos remote]

theorem on_loadWorkbook_of_stored (stored : isUrl config.workbookRef = false) :
    (loadWorkbook format config).on archive = match archive.blobs.read config.workbookRef with
      | .error error => (.error (unavailable config.workbookRef error), archive)
      | .ok data => (withLoader (Loader.loadBytes format data)).on archive := by
  rw [loadWorkbook, stored, if_neg nofun, on_bind, on_get]
  dsimp only
  cases archive.blobs.read config.workbookRef <;> rfl

theorem on_loadWorkbook_of_serves (serves : Serves format archive config.workbookRef parsed) :
    (loadWorkbook format config).on archive = (.ok parsed, archive) := by
  cases serves with
  | remote remote cached =>
    rw [on_loadWorkbook_of_remote remote, withLoader, on_within,
      Loader.on_loadUrl_of_cached cached]
  | stored stored data read cached =>
    rw [on_loadWorkbook_of_stored stored, read]
    dsimp only
    rw [withLoader, on_within, Loader.on_loadBytes_of_cached cached]

theorem loader_of_withLoader {α : Type} {action : LoaderM β α} {value : α}
    (ok : (withLoader action).on archive = (.ok value, after)) :
    action.on archive.loader = (.ok value, after.loader) := by
  rw [withLoader, on_within] at ok
  obtain ⟨value, loader⟩ := Prod.mk.inj ok
  rw [← value, ← loader]

theorem undisturbed_loadWorkbook (format : FileFormat β) (config : PricingConfig)
    (archive : Archive β) : Undisturbed archive ((loadWorkbook format config).on archive).2 := by
  by_cases remote : isUrl config.workbookRef = true
  · rw [on_loadWorkbook_of_remote remote]
    exact undisturbed_withLoader _ _
  · rw [on_loadWorkbook_of_stored (eq_false_of_ne_true remote)]
    split
    · exact ⟨rfl, rfl⟩
    · exact undisturbed_withLoader _ _

theorem serves_of_loadWorkbook
    (ok : (loadWorkbook format config).on archive = (.ok parsed, after)) :
    Serves format after config.workbookRef parsed := by
  by_cases remote : isUrl config.workbookRef = true
  · rw [on_loadWorkbook_of_remote remote] at ok
    exact .remote remote (Loader.cached_of_loadUrl (loader_of_withLoader ok))
  · have stored := eq_false_of_ne_true remote
    rw [on_loadWorkbook_of_stored stored] at ok
    split at ok
    · cases ok
    · next data read =>
      have same := (undisturbed_withLoader (Loader.loadBytes format data) archive).blobs
      rw [ok] at same
      exact .stored stored data (same ▸ read)
        (Loader.cached_of_loadBytes (loader_of_withLoader ok))

namespace Sound
variable (sound : archive.Sound format known)
include sound

theorem loadBytes {data : β} (held : known data) :
    ((withLoader (Loader.loadBytes format data)).on archive).2.Sound format known :=
  (undisturbed_withLoader _ _).sound sound (sound.loader.loadBytes held)

theorem loadUrl (remote : isUrl ref = true) :
    ((withLoader (Loader.loadUrl format ref)).on archive).2.Sound format known :=
  (undisturbed_withLoader _ _).sound sound (sound.loader.loadUrl remote)

theorem loadWorkbook (config : PricingConfig) :
    ((Archive.loadWorkbook format config).on archive).2.Sound format known := by
  by_cases remote : isUrl config.workbookRef = true
  · rw [on_loadWorkbook_of_remote remote]
    exact sound.loadUrl remote
  · rw [on_loadWorkbook_of_stored (eq_false_of_ne_true remote)]
    split
    · exact sound
    · next data read =>
      obtain ⟨names, _, held⟩ := BlobStore.held_of_read read
      exact sound.loadBytes (sound.held names data held)

end Sound

/-- The workbook that is checked before a configuration is stored: the upload, or else the workbook
of the row that is there, or else the one at the URL of the configuration. -/
def checked (format : FileFormat β) (config : PricingConfig) (upload : Option (Upload β))
    (old : Option Row) : ArchiveM β Parsed :=
  match upload, old with
  | some upload, _ => orLoadError (withLoader (Loader.loadBytes format upload.data))
  | none, some row => orLoadError (loadWorkbook format row.config)
  | none, none =>
    if isUrl config.workbookRef then
      orLoadError (withLoader (Loader.loadUrl format config.workbookRef))
    else throw (.configuration .noWorkbook)

/-- What is done when the worksheet is not there. -/
def refuse (format : FileFormat β) (upload : Option (Upload β)) (old : Option Row)
    (error : ConfigurationError) : ArchiveM β Placed := do
  if let some upload := upload then
    let hash := format.digest upload.data
    if some hash ≠ old.map Row.workbookHash then evict hash
  throw (.configuration error)

/-- What is done when the worksheet is there: only an upload has to be stored. -/
def settle (format : FileFormat β) (owner : String) (config : PricingConfig)
    (upload : Option (Upload β)) (old : Option Row) (moment : Moment) (parsed : Parsed) :
    ArchiveM β Placed :=
  match upload, old with
  | some upload, _ => do
    let name := firstNonempty [upload.name.getD "", config.fileName] "workbook.xlsx"
    let archive ← get
    let (outcome, blobs) := archive.blobs.save owner name moment.stamp upload.data
    set { archive with blobs }
    match outcome with
    | .error error => throw (.file error)
    | .ok path => return ⟨path, name, format.digest upload.data⟩
  | none, some row => return ⟨row.storagePath, row.fileName, row.workbookHash⟩
  | none, none =>
    let name := firstNonempty [config.fileName] (Text.afterLast '/' config.workbookRef)
    return ⟨config.workbookRef, name, parsed.workbook.hash⟩

/-- The three ways to get a workbook ready have one shape. -/
theorem place_eq (format : FileFormat β) (owner : String) (config : PricingConfig)
    (upload : Option (Upload β)) (old : Option Row) (moment : Moment) :
    place format owner config upload old moment = (do
      let parsed ← checked format config upload old
      match checkSheet parsed.workbook config.sheetName with
      | .error error => refuse format upload old error
      | .ok () => settle format owner config upload old moment parsed) := by
  rcases upload with _ | upload
  · rcases old with _ | row
    · rw [place, checked]
      split
      · rfl
      · rfl
    · rfl
  · rfl

end SheetPricing.Archive
