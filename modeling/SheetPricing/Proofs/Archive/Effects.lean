import SheetPricing.Proofs.Archive.Remembering

/-! What operations do to the blobs, step by step: an upload is saved, and what is not referred to any
more is deleted. Nothing else happens to the blobs, so what saving and deleting keep is kept. -/
namespace SheetPricing.Archive
open Action Loading Storage
variable {β : Type} {format : FileFormat β} {known : β → Prop} {archive after : Archive β}
  {owner : String} {config : PricingConfig} {upload : Option (Upload β)} {old : Option Row}
  {moment : Moment} {given : Upload β}

/-- The name that an upload is stored under. -/
def savedName (config : PricingConfig) (given : Upload β) : String :=
  firstNonempty [given.name.getD "", config.fileName] "workbook.xlsx"

theorem on_place_of_upload (format : FileFormat β) (owner : String) (config : PricingConfig)
    (given : Upload β) (old : Option Row) (moment : Moment) (archive : Archive β) :
    (place format owner config (some given) old moment).on archive
      = match (Loader.loadBytes format given.data).on archive.loader with
        | (.error failure, loader) => (.error (.load failure), { archive with loader })
        | (.ok parsed, loader) => match checkSheet parsed.workbook config.sheetName with
          | .error error => (.error (.configuration error),
              { archive with loader := withoutSpare (format.digest given.data) old loader })
          | .ok () =>
            match archive.blobs.save owner (savedName config given) moment.stamp given.data with
            | (.error error, blobs) => (.error (.file error), { archive with loader, blobs })
            | (.ok path, blobs) => (.ok ⟨path, savedName config given, format.digest given.data⟩,
                { archive with loader, blobs }) := by
  rw [place_eq, on_bind, checked, orLoadError, on_mapError, withLoader, on_within]
  rcases (Loader.loadBytes format given.data).on archive.loader with ⟨failure | parsed, loader⟩
  · rfl
  · dsimp only [mapError_ok]
    cases checkSheet parsed.workbook config.sheetName with
    | error error =>
      dsimp only
      rw [refuse, withoutSpare]
      dsimp only
      split <;> rfl
    | ok done =>
      dsimp only
      rw [settle, on_bind, on_get, savedName]
      dsimp only
      rcases archive.blobs.save owner _ moment.stamp given.data with ⟨error | path, blobs⟩ <;> rfl

theorem on_place_of_stored {row : Row} {parsed : Parsed}
    (loaded : (loadWorkbook format row.config).on archive = (.ok parsed, after)) (owner : String)
    (config : PricingConfig) (moment : Moment) :
    (place format owner config none (some row) moment).on archive
      = (match checkSheet parsed.workbook config.sheetName with
          | .error error => .error (.configuration error)
          | .ok () => .ok ⟨row.storagePath, row.fileName, row.workbookHash⟩, after) := by
  rw [place_eq, on_bind, checked, orLoadError, on_mapError, loaded]
  dsimp only [mapError_ok]
  cases checkSheet parsed.workbook config.sheetName <;> rfl

/-- Without an upload nothing is saved. -/
theorem blobs_place_of_none (format : FileFormat β) (owner : String) (config : PricingConfig)
    (old : Option Row) (moment : Moment) (archive : Archive β) :
    ((place format owner config none old moment).on archive).2.blobs = archive.blobs := by
  have same : ((checked format config none old).on archive).2.blobs = archive.blobs := by
    rcases old with _ | row
    · rw [checked]
      split
      · exact (undisturbed_withLoader _ _).blobs
      · rfl
    · exact (undisturbed_loadWorkbook format row.config archive).blobs
  rw [place_eq, on_bind]
  generalize (checked format config none old).on archive = loading at same ⊢
  rcases loading with ⟨error | parsed, loaded⟩
  · exact same
  · dsimp only
    cases checkSheet parsed.workbook config.sheetName with
    | error error => exact same
    | ok done => rcases old with _ | row <;> exact same

/-- A configuration can always be removed. -/
theorem clear_ok {used : List String} (orderly : archive.Orderly format known used) (owner : String) :
    ∃ after, (clear owner (.ok ())).on archive = (.ok ⟨⟩, after) := by
  rw [clear, on_bind, on_get]
  dsimp only
  cases current : archive.row? owner with
  | none => exact ⟨archive, rfl⟩
  | some row =>
    dsimp only
    rw [on_bind, on_modify]
    dsimp only
    split
    · exact ⟨_, rfl⟩
    · next stored =>
      obtain ⟨fileName, stamp, member, path⟩ :=
        (orderly.referred owner row current).resolve_left stored
      have erased : ({ archive with rows := archive.rows.erase owner } : Archive β).Sound
          format known := ⟨orderly.blobs, orderly.loader, orderly.held⟩
      obtain ⟨deleted, outcome, _⟩ :=
        deleteBlob_frame erased (orderly.proper stamp member) owner fileName
      rw [on_bind, path, outcome]
      exact ⟨_, rfl⟩

section
variable {P : BlobStore β → Prop}
  (deletes : ∀ blobs path removed final, P blobs → blobs.delete path = .ok (removed, final) → P final)
include deletes

theorem blobs_deleteBlob (path : String) (kept : P archive.blobs) :
    P ((discard (deleteBlob path)).on archive).2.blobs := by
  rw [on_discard, on_deleteBlob]
  cases deleted : archive.blobs.delete path with
  | error error => exact kept
  | ok result => exact deletes _ path result.1 result.2 kept deleted

theorem blobs_cleanUp (placed : Placed) (row : Row) (kept : P archive.blobs) :
    P ((cleanUp placed row).on archive).2.blobs := by
  have last {archive : Archive β} (kept : P archive.blobs) :
      P ((if row.workbookHash ≠ placed.workbookHash then evict row.workbookHash else pure ⟨⟩ :
        ArchiveM β PUnit).on archive).2.blobs := by
    split
    · exact kept
    · exact kept
  rw [cleanUp]
  split
  · exact kept
  · dsimp only
    split
    · have next := blobs_deleteBlob deletes row.storagePath kept
      rw [on_bind]
      generalize (discard (deleteBlob row.storagePath)).on archive = deleted at next ⊢
      rcases deleted with ⟨error | done, final⟩
      · exact next
      · exact last next
    · exact last kept

theorem blobs_writeRow (placed : Placed) (old : Option Row) (row : Row) (kept : P archive.blobs) :
    P ((writeRow owner placed old row).on archive).2.blobs := by
  rw [writeRow, on_bind, on_modify]
  rcases old with _ | before
  · exact kept
  · have written : P ({ archive with rows := archive.rows.put owner row } : Archive β).blobs := kept
    have cleaned := blobs_cleanUp deletes placed before written
    dsimp only
    rw [on_bind]
    generalize (cleanUp placed before).on { archive with rows := archive.rows.put owner row } = final
      at cleaned ⊢
    rcases final with ⟨error | done, final⟩ <;> exact cleaned

/-- What deleting keeps is kept by storing a configuration, if saving its upload keeps it. -/
theorem blobs_store (kept : P archive.blobs)
    (saves : ∀ given ∈ upload,
      P (archive.blobs.save owner (savedName config given) moment.stamp given.data).2) :
    P ((store format owner config upload moment (.ok ())).on archive).2.blobs := by
  have placing : P ((place format owner config upload (archive.row? owner) moment).on
      archive).2.blobs := by
    generalize archive.row? owner = old
    rcases upload with _ | given
    · rwa [blobs_place_of_none]
    · have saved := saves given rfl
      rw [on_place_of_upload]
      rcases (Loader.loadBytes format given.data).on archive.loader with ⟨failure | parsed, loader⟩
      · exact kept
      · dsimp only
        cases checkSheet parsed.workbook config.sheetName with
        | error error => exact kept
        | ok done =>
          dsimp only
          generalize archive.blobs.save owner (savedName config given) moment.stamp given.data
            = saving at saved ⊢
          rcases saving with ⟨error | path, blobs⟩ <;> exact saved
  rw [on_store]
  generalize (place format owner config upload (archive.row? owner) moment).on archive = ready
    at placing ⊢
  rcases ready with ⟨error | placed, ready⟩
  · exact placing
  · exact blobs_writeRow deletes placed _ _ placing

theorem blobs_clear (owner : String) (kept : P archive.blobs) :
    P ((clear owner (.ok ())).on archive).2.blobs := by
  rw [clear, on_bind, on_get]
  dsimp only
  cases archive.row? owner with
  | none => exact kept
  | some row =>
    dsimp only
    rw [on_bind, on_modify]
    dsimp only
    split
    · exact kept
    · have erased : P ({ archive with rows := archive.rows.erase owner } : Archive β).blobs := kept
      have deleted := blobs_deleteBlob deletes row.storagePath erased
      rw [on_bind]
      generalize (discard (deleteBlob row.storagePath)).on
        { archive with rows := archive.rows.erase owner } = final at deleted ⊢
      rcases final with ⟨error | done, final⟩ <;> exact deleted

end

end SheetPricing.Archive
