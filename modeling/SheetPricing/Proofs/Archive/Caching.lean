import SheetPricing.Proofs.Archive.Backing

/-! What the loader of an archive of uploads keeps. A digest comes into the cache when an upload is
read, and it goes again when the upload is rejected, lost to a failing commit, replaced or cleared.
Only an upload that the blob store refuses has no such way out. -/
namespace SheetPricing.Loading.Loader
open Action
variable {β : Type} {format : FileFormat β} {loader after : Loader β} {data : β} {key : String}

theorem contains_evict_iff {hash : String} :
    (loader.evict hash).contains key = true ↔ key ≠ hash ∧ loader.contains key = true := by
  rw [contains, Table.contains, evict, Table.get?_erase]
  split
  · next same => simp [same]
  · next apart => simp [apart, contains, Table.contains]

theorem contains_of_loadBytes
    (held : ((loadBytes format data).on loader).2.contains key = true) :
    loader.contains key = true ∨ key = format.digest data := by
  cases cached : loader.cache.get? (format.digest data) with
  | some found =>
    rw [on_loadBytes_of_cached cached] at held
    exact .inl held
  | none =>
    rw [on_loadBytes_of_new cached] at held
    split at held
    · exact .inl held
    · rw [contains, Table.contains, keep, Table.get?_put] at held
      split at held
      · next same => exact .inr same
      · exact .inl held

/-- Data that cannot be read leave the loader as it was. -/
theorem eq_of_loadBytes_error {failure : LoadFailure LoadFault}
    (failed : (loadBytes format data).on loader = (.error failure, after)) : after = loader := by
  cases cached : loader.cache.get? (format.digest data) with
  | some found =>
    rw [on_loadBytes_of_cached cached] at failed
    cases failed
  | none =>
    rw [on_loadBytes_of_new cached] at failed
    split at failed
    · exact (Prod.mk.inj failed).2.symm
    · cases failed

end SheetPricing.Loading.Loader

namespace SheetPricing.Archive
open Action Loading Storage
variable {β : Type} {format : FileFormat β} {known : β → Prop} {archive after : Archive β}
  {used : List String} {owner key : String} {config : PricingConfig} {given : Upload β}
  {moment : Moment} {commit : Commit} {old : Option Row}

/-- A loader without an upload that comes to nothing, unless the row holds the same already. -/
def withoutSpare (hash : String) (old : Option Row) (loader : Loader β) : Loader β :=
  if some hash ≠ old.map Row.workbookHash then loader.evict hash else loader

/-- A loader without the upload that was replaced by one with another digest. -/
def withoutReplaced (hash : String) (old : Option Row) (loader : Loader β) : Loader β :=
  match old with
  | none => loader
  | some row =>
    if isUrl row.storagePath then loader
    else if row.workbookHash ≠ hash then loader.evict row.workbookHash
    else loader

theorem loader_refuse (error : ConfigurationError) :
    ((refuse format (some given) old error).on archive).2.loader
      = withoutSpare (format.digest given.data) old archive.loader := by
  rw [refuse, withoutSpare]
  dsimp only
  split <;> rfl

theorem loader_takeBack (sound : archive.Sound format known) (owner name hash : String)
    (proper : isStamp moment.stamp = true) (old : Option Row) :
    ((takeBack ⟨storagePath owner name moment.stamp, name, hash⟩ old).on archive).2.loader
      = withoutSpare hash old archive.loader := by
  obtain ⟨deleted, outcome, _, _, loader, _⟩ := deleteBlob_frame sound proper owner name
  rw [takeBack, on_bind, outcome, withoutSpare, ← loader]
  dsimp only
  split <;> rfl

theorem loader_cleanUp (sound : archive.Sound format known) (placed : Placed) {row : Row}
    (proper : ∀ stamp ∈ used, isStamp stamp = true)
    (referred : IsReference used owner row.storagePath) :
    ((cleanUp placed row).on archive).2.loader
      = withoutReplaced placed.workbookHash (some row) archive.loader := by
  rw [cleanUp, withoutReplaced]
  dsimp only
  split
  · rfl
  · next stored =>
    obtain ⟨fileName, stamp, member, path⟩ := referred.resolve_left stored
    split
    · obtain ⟨deleted, outcome, _, _, loader, _⟩ :=
        deleteBlob_frame sound (proper stamp member) owner fileName
      rw [on_bind, path, outcome, ← loader]
      dsimp only
      split <;> rfl
    · split <;> rfl

theorem loader_writeRow (sound : archive.Sound format known) (placed : Placed)
    (proper : ∀ stamp ∈ used, isStamp stamp = true)
    (referred : ∀ row ∈ old, IsReference used owner row.storagePath) (row : Row) :
    ((writeRow owner placed old row).on archive).2.loader
      = withoutReplaced placed.workbookHash old archive.loader := by
  rw [writeRow, on_bind, on_modify]
  rcases old with _ | before
  · rfl
  · have soundWritten : ({ archive with rows := archive.rows.put owner row } : Archive β).Sound
        format known := ⟨sound.blobs, sound.loader, sound.held⟩
    have cleaned := loader_cleanUp soundWritten placed proper (referred before rfl)
    dsimp only
    rw [on_bind]
    rw [← cleaned]
    rcases (cleanUp placed before).on { archive with rows := archive.rows.put owner row } with
      ⟨_ | _, _⟩ <;> rfl

/-- An upload is saved or refused; the loader is left alone. -/
theorem settle_upload (sound : archive.Sound format known) (held : known given.data)
    (owner : String) (config : PricingConfig) (old : Option Row) (moment : Moment)
    (parsed : Parsed) :
    (∃ error after, (settle format owner config (some given) old moment parsed).on archive
        = (.error (.file error), after) ∧ after.loader = archive.loader) ∨
      ∃ name after, (settle format owner config (some given) old moment parsed).on archive
          = (.ok ⟨storagePath owner name moment.stamp, name, format.digest given.data⟩, after) ∧
        after.Sound format known ∧ after.loader = archive.loader := by
  have uploads : ∀ other ∈ some given, known other.data := by
    rintro other ⟨⟩
    exact held
  rcases settle_cases sound owner config uploads old moment parsed with
    ⟨error, after, failed, _⟩ | ⟨placed, after, ok, soundAfter, settled⟩
  · have refused := failed
    rw [settle, on_bind, on_get] at refused
    dsimp only at refused
    generalize firstNonempty [given.name.getD "", config.fileName] "workbook.xlsx" = name at refused
    rcases saved : archive.blobs.save owner name moment.stamp given.data with ⟨fault | path, blobs⟩
    · rw [saved] at refused
      cases refused
      exact .inl ⟨fault, _, failed, rfl⟩
    · rw [saved] at refused
      cases refused
  · cases settled with
    | uploaded _ _ name rows loader root files => exact .inr ⟨name, after, ok, soundAfter, loader⟩

/-- What the loader keeps after an upload, by what has become of the upload. -/
inductive Settles (hash : String) (old : Option Row) (before loaded : Loader β) :
    Except ArchiveError PricingConfig → Loader β → Prop
  | unreadable (failure : LoadFailure LoadFault) :
      Settles hash old before loaded (.error (.load failure)) before
  | rejected (error : ConfigurationError) :
      Settles hash old before loaded (.error (.configuration error)) (withoutSpare hash old loaded)
  | refused (error : FileError) (kept : loaded.contains hash = true) :
      Settles hash old before loaded (.error (.file error)) loaded
  | lost (message : String) :
      Settles hash old before loaded (.error (.commit message)) (withoutSpare hash old loaded)
  | stored (config : PricingConfig) :
      Settles hash old before loaded (.ok config) (withoutReplaced hash old loaded)

theorem settles_store (owner : String) (config : PricingConfig) (given : Upload β)
    (commit : Commit) (orderly : archive.Orderly format known used) (held : known given.data)
    (proper : isStamp moment.stamp = true) :
    Settles (format.digest given.data) (archive.row? owner) archive.loader
      ((Loader.loadBytes format given.data).on archive.loader).2
      ((store format owner config (some given) moment commit).on archive).1
      ((store format owner config (some given) moment commit).on archive).2.loader := by
  have referred := orderly.referred owner
  have sound := orderly.toSound.loadBytes held
  rw [on_store, place_eq, on_bind]
  generalize archive.row? owner = old at referred ⊢
  have checking : (checked format config (some given) old).on archive
      = (((Loader.loadBytes format given.data).on archive.loader).1.mapError .load,
        ((withLoader (Loader.loadBytes format given.data)).on archive).2) := rfl
  have loading : ((withLoader (Loader.loadBytes format given.data)).on archive).2.loader
      = ((Loader.loadBytes format given.data).on archive.loader).2 := rfl
  rw [checking]
  generalize ((withLoader (Loader.loadBytes format given.data)).on archive).2 = ready at *
  rcases outcome : (Loader.loadBytes format given.data).on archive.loader with
    ⟨failure | parsed, loaded⟩
  · rw [outcome] at loading
    dsimp only [mapError_error]
    rw [loading, Loader.eq_of_loadBytes_error outcome]
    exact .unreadable failure
  · rw [outcome] at loading
    dsimp only [mapError_ok] at loading ⊢
    subst loading
    cases checkSheet parsed.workbook config.sheetName with
    | error error =>
      have failed := (refuse_frame sound (some given) old error).1
      have loader : ((refuse format (some given) old error).on ready).2.loader
          = withoutSpare (format.digest given.data) old ready.loader := loader_refuse error
      dsimp only
      generalize (refuse format (some given) old error).on ready = refused at failed loader ⊢
      obtain ⟨_, final⟩ := refused
      subst failed
      dsimp only at loader ⊢
      rw [loader]
      exact .rejected error
    | ok done =>
      dsimp only
      rcases settle_upload sound held owner config old moment parsed with
        ⟨error, final, failed, same⟩ | ⟨name, placed, saved, soundPlaced, same⟩
      · have kept : ready.loader.contains (format.digest given.data) = true := by
          rw [Loader.contains, Table.contains, Loader.cached_of_loadBytes outcome]
          rfl
        rw [failed, ← same]
        exact .refused error (same ▸ kept)
      · rw [saved, ← same]
        cases commit with
        | error message =>
          have loader := loader_takeBack soundPlaced owner name (format.digest given.data)
            proper old
          obtain ⟨taken, back, _⟩ := takeBack_frame soundPlaced owner name
            (format.digest given.data) proper old
          rw [back] at loader
          dsimp only at loader ⊢
          rw [Option.isSome_some, if_pos rfl, on_bind, back]
          dsimp only [on_throw]
          rw [loader]
          exact .lost message
        | ok done =>
          obtain ⟨final, written, _⟩ := writeRow_frame soundPlaced
            ⟨storagePath owner name moment.stamp, name, format.digest given.data⟩
            orderly.proper referred (newRow config
              ⟨storagePath owner name moment.stamp, name, format.digest given.data⟩ moment)
          have loader := loader_writeRow soundPlaced
            ⟨storagePath owner name moment.stamp, name, format.digest given.data⟩
            orderly.proper referred (newRow config
              ⟨storagePath owner name moment.stamp, name, format.digest given.data⟩ moment)
          dsimp only
          rw [written] at loader ⊢
          dsimp only at loader ⊢
          rw [loader]
          exact .stored _

/-- A stored workbook that is loaded has the digest of a blob that is there. -/
theorem contains_of_loadWorkbook (stored : isUrl config.workbookRef = false)
    (held : ((loadWorkbook format config).on archive).2.loader.contains key = true) :
    archive.loader.contains key = true ∨
      ∃ names data, archive.blobs.tree.files.get? names = some data ∧ key = format.digest data := by
  rw [on_loadWorkbook_of_stored stored] at held
  split at held
  · exact .inl held
  · next data read =>
    obtain ⟨names, _, file⟩ := BlobStore.held_of_read read
    exact (Loader.contains_of_loadBytes held).imp_right fun same => ⟨names, data, file, same⟩

/-- Without an upload, storing a configuration does to the loader what checking it does. -/
theorem loader_store_of_none (format : FileFormat β) (owner : String) (config : PricingConfig)
    (moment : Moment) (commit : Commit) (archive : Archive β) :
    ((store format owner config none moment commit).on archive).2.loader
      = ((checked format config none (archive.row? owner)).on archive).2.loader := by
  rw [on_store, place_eq, on_bind]
  generalize archive.row? owner = old
  rcases (checked format config none old).on archive with ⟨error | parsed, loaded⟩
  · rfl
  · dsimp only
    cases checkSheet parsed.workbook config.sheetName with
    | error error => rfl
    | ok done =>
      rcases old with _ | row
      · rcases commit with message | done <;> rfl
      · rcases commit with message | done
        · rfl
        · have same : ∀ before ∈ some row, before.storagePath = row.storagePath ∧
              before.workbookHash = row.workbookHash := by
            rintro before ⟨⟩
            exact ⟨rfl, rfl⟩
          have placed : (settle format owner config none (some row) moment parsed).on loaded
              = (.ok ⟨row.storagePath, row.fileName, row.workbookHash⟩, loaded) := rfl
          dsimp only
          rw [placed]
          dsimp only
          rw [on_writeRow_of_same _ same]

/-- Clearing a configuration with a stored workbook drops the workbook. -/
theorem loader_clear (orderly : archive.Orderly format known used) {row : Row}
    (current : archive.row? owner = some row) (stored : isUrl row.storagePath = false) :
    ((clear owner (.ok ())).on archive).2.loader = archive.loader.evict row.workbookHash := by
  have notUrl : ¬ isUrl row.storagePath = true := by
    rw [stored]
    exact Bool.false_ne_true
  obtain ⟨fileName, stamp, member, path⟩ :=
    (orderly.referred owner row current).resolve_left notUrl
  have erased : ({ archive with rows := archive.rows.erase owner } : Archive β).Sound format known :=
    ⟨orderly.blobs, orderly.loader, orderly.held⟩
  obtain ⟨deleted, outcome, _, _, loader, _⟩ :=
    deleteBlob_frame erased (orderly.proper stamp member) owner fileName
  rw [clear, on_bind, on_get]
  dsimp only
  rw [current]
  dsimp only
  rw [on_bind, on_modify]
  dsimp only
  rw [if_neg notUrl, on_bind, path, outcome]
  exact congrArg (Loader.evict · row.workbookHash) loader

/-- Some row has the digest. -/
def Listed (archive : Archive β) (hash : String) : Prop :=
  ∃ owner row, archive.row? owner = some row ∧ row.workbookHash = hash

/-- The blobs have the digests of their rows, no row has a URL, and what the loader keeps is listed
or left behind. -/
structure Tidy (format : FileFormat β) (left : String → Prop) (archive : Archive β) : Prop where
  hashed : ∀ names data, archive.blobs.tree.files.get? names = some data → ∃ owner row,
    archive.row? owner = some row ∧ Holds archive.blobs row.storagePath names ∧
      format.digest data = row.workbookHash
  cached : ∀ key, archive.loader.contains key = true → archive.Listed key ∨ left key
  stored : ∀ owner row, archive.row? owner = some row → isUrl row.storagePath = false

namespace Tidy
variable {left more : String → Prop}

theorem listed (tidy : archive.Tidy format left) {names : List String} {data : β}
    (held : archive.blobs.tree.files.get? names = some data) :
    archive.Listed (format.digest data) := by
  obtain ⟨owner, row, current, _, digest⟩ := tidy.hashed names data held
  exact ⟨owner, row, current, digest.symm⟩

/-- The rows are the same, and no file is new. -/
theorem fewer (tidy : archive.Tidy format left) (rows : after.rows = archive.rows)
    (root : after.blobs.root = archive.blobs.root)
    (files : ∀ names data, after.blobs.tree.files.get? names = some data →
      archive.blobs.tree.files.get? names = some data)
    (cached : ∀ key, after.loader.contains key = true →
      archive.loader.contains key = true ∨ archive.Listed key ∨ more key) :
    after.Tidy format fun key => left key ∨ more key := by
  have same (owner : String) : after.row? owner = archive.row? owner := by rw [row?, row?, rows]
  refine ⟨?_, ?_, ?_⟩
  · intro names data held
    obtain ⟨owner, row, current, holds, digest⟩ := tidy.hashed names data (files names data held)
    exact ⟨owner, row, (same owner).trans current, (holds_congr root).mpr holds, digest⟩
  · intro key held
    have listed : after.Listed key ↔ archive.Listed key := by simp only [Listed, same]
    rw [listed]
    rcases cached key held with before | listed | new
    · exact (tidy.cached key before).imp_right .inl
    · exact .inl listed
    · exact .inr (.inr new)
  · intro owner row current
    exact tidy.stored owner row ((same owner).symm.trans current)

end Tidy

theorem Reverted.fewer {stamps : List String} (reverted : Reverted archive after owner stamps)
    {names : List String} {data : β} (held : after.blobs.tree.files.get? names = some data) :
    archive.blobs.tree.files.get? names = some data := by
  rcases reverted.files with same | ⟨stamp, _, name, other, files⟩
  · rwa [same] at held
  · rw [files, Table.get?_erase] at held
    split at held
    · cases held
    · next elsewhere => rwa [Table.get?_put, if_neg elsewhere] at held

theorem contains_of_withoutSpare {hash : String} {loader : Loader β}
    (held : (withoutSpare hash old loader).contains key = true) :
    loader.contains key = true ∧ (key = hash → ∃ row ∈ old, row.workbookHash = hash) := by
  rw [withoutSpare] at held
  split at held
  · obtain ⟨apart, before⟩ := Loader.contains_evict_iff.mp held
    exact ⟨before, fun same => absurd same apart⟩
  · next same =>
    obtain ⟨row, current, hash⟩ := Option.map_eq_some_iff.mp (not_not.mp same).symm
    exact ⟨held, fun _ => ⟨row, current, hash⟩⟩

theorem contains_of_withoutReplaced {hash : String} {loader : Loader β}
    (stored : ∀ row ∈ old, isUrl row.storagePath = false)
    (held : (withoutReplaced hash old loader).contains key = true) :
    loader.contains key = true ∧ ∀ row ∈ old, row.workbookHash = key → hash = key := by
  rcases old with _ | row
  · exact ⟨held, by rintro row ⟨⟩⟩
  · rw [withoutReplaced, stored row rfl, if_neg Bool.false_ne_true] at held
    split at held
    · obtain ⟨apart, before⟩ := Loader.contains_evict_iff.mp held
      refine ⟨before, ?_⟩
      rintro _ ⟨⟩ same
      exact absurd same.symm apart
    · next same =>
      refine ⟨held, ?_⟩
      rintro _ ⟨⟩ here
      exact (not_not.mp same).symm.trans here

/-- An upload with the digest is read and then refused by the blob store. -/
def Spurned (format : FileFormat β) (archive : Archive β) (event : Event β) (hash : String) :
    Prop :=
  ∃ owner config given moment commit error,
    event = .operation (.store owner config (some given) moment commit) ∧
      ((store format owner config (some given) moment commit).on archive).1
        = .error (.file error) ∧ hash = format.digest given.data

namespace Tidy
variable {left : String → Prop} (tidy : archive.Tidy format left)
include tidy

/-- A row is written that has no URL, and a file is there before or belongs to the new row. -/
theorem put {more : String → Prop} {row : Row} (rows : after.rows = archive.rows.put owner row)
    (root : after.blobs.root = archive.blobs.root) (stored : isUrl row.storagePath = false)
    (files : ∀ names data, after.blobs.tree.files.get? names = some data →
      (Holds archive.blobs row.storagePath names ∧ format.digest data = row.workbookHash) ∨
        (archive.blobs.tree.files.get? names = some data ∧
          ∀ before, archive.row? owner = some before → Holds archive.blobs before.storagePath names →
            Holds archive.blobs row.storagePath names ∧ row.workbookHash = before.workbookHash))
    (cached : ∀ key, after.loader.contains key = true →
      key = row.workbookHash ∨ (archive.loader.contains key = true ∨ archive.Listed key) ∧
        ∀ before, archive.row? owner = some before → before.workbookHash = key →
          row.workbookHash = key) :
    after.Tidy format fun key => left key ∨ more key := by
  have here : after.row? owner = some row := by rw [row?_put rows, if_pos rfl]
  refine ⟨?_, ?_, ?_⟩
  · intro names data held
    rcases files names data held with ⟨holds, digest⟩ | ⟨before, other⟩
    · exact ⟨owner, row, here, (holds_congr root).mpr holds, digest⟩
    · obtain ⟨holder, found, current, holds, digest⟩ := tidy.hashed names data before
      by_cases same : holder = owner
      · subst same
        obtain ⟨again, hash⟩ := other found current holds
        exact ⟨holder, row, here, (holds_congr root).mpr again, digest.trans hash.symm⟩
      · refine ⟨holder, found, ?_, (holds_congr root).mpr holds, digest⟩
        rw [row?_put rows, if_neg same, current]
  · intro key held
    have kept (listed : archive.Listed key) (replaced : ∀ before, archive.row? owner = some before →
        before.workbookHash = key → row.workbookHash = key) : after.Listed key := by
      obtain ⟨holder, found, current, hash⟩ := listed
      by_cases same : holder = owner
      · subst same
        exact ⟨holder, row, here, replaced found current hash⟩
      · exact ⟨holder, found, by rw [row?_put rows, if_neg same, current], hash⟩
    rcases cached key held with new | ⟨before | listed, replaced⟩
    · exact .inl ⟨owner, row, here, new.symm⟩
    · rcases tidy.cached key before with listed | behind
      · exact .inl (kept listed replaced)
      · exact .inr (.inl behind)
    · exact .inl (kept listed replaced)
  · intro other found current
    rw [row?_put rows] at current
    split at current
    · exact Option.some.inj current ▸ stored
    · exact tidy.stored other found current

theorem storeUpload (orderly : archive.Orderly format known used) (held : known given.data)
    (proper : isStamp moment.stamp = true) :
    ((store format owner config (some given) moment commit).on archive).2.Tidy format fun key =>
      left key ∨ Spurned format archive
        (.operation (.store owner config (some given) moment commit)) key := by
  have uploads : ∀ other ∈ some given, known other.data := by
    rintro other ⟨⟩
    exact held
  have stamps : ∀ stamp ∈ stampsOf (some given) moment, isStamp stamp = true := by
    intro stamp member
    exact List.mem_singleton.mp member ▸ proper
  have loaded {key : String}
      (kept : ((Loader.loadBytes format given.data).on archive.loader).2.contains key = true) :
      archive.loader.contains key = true ∨ key = format.digest given.data :=
    Loader.contains_of_loadBytes kept
  have settles := settles_store owner config given commit orderly held proper
  rcases outcome : (store format owner config (some given) moment commit).on archive with
    ⟨error | written, after⟩
  · obtain ⟨reverted, _⟩ := store_error orderly uploads stamps outcome
    rw [outcome] at settles
    refine tidy.fewer reverted.rows reverted.root (fun _ _ => reverted.fewer) fun key contains => ?_
    have spare (contains : (withoutSpare (format.digest given.data) (archive.row? owner)
        ((Loader.loadBytes format given.data).on archive.loader).2).contains key = true) :
        archive.loader.contains key = true ∨ archive.Listed key := by
      obtain ⟨kept, listed⟩ := contains_of_withoutSpare contains
      refine (loaded kept).imp_right fun same => ?_
      obtain ⟨row, current, hash⟩ := listed same
      exact ⟨owner, row, current, hash.trans same.symm⟩
    generalize after.loader = final at settles contains
    generalize failed : (Except.error error : Except ArchiveError PricingConfig) = result at settles
    cases settles with
    | unreadable failure => exact .inl contains
    | rejected error => exact (spare contains).imp_right .inl
    | refused fault kept =>
      refine (loaded contains).imp_right fun same => .inr ?_
      exact ⟨owner, config, given, moment, commit, fault, rfl, by rw [outcome, failed], same⟩
    | lost message => exact (spare contains).imp_right .inl
    | stored config => cases failed
  · obtain ⟨parsed, row, _, stored⟩ := store_ok orderly uploads stamps outcome
    rw [outcome] at settles
    cases stored.origin with
    | uploaded other name here path hash saved gone kept =>
      obtain rfl := Option.some.inj here
      have held (names : List String) : Holds archive.blobs row.storagePath names ↔
          names = archive.blobs.place owner name moment.stamp := by
        rw [path, holds_storagePath_iff _ _ _ proper]
      have blob : isUrl row.storagePath = false := by rw [path, isUrl_storagePath]
      refine tidy.put stored.rows stored.root blob (fun names data file => ?_) fun key contains => ?_
      · by_cases new : names = archive.blobs.place owner name moment.stamp
        · rw [new, saved] at file
          exact .inl ⟨(held names).mpr new, hash ▸ congrArg format.digest (Option.some.inj file).symm⟩
        · by_cases left : Abandoned archive.blobs (archive.row? owner) row.storagePath names
          · rw [gone names new left] at file
            cases file
          · rw [kept names new left] at file
            refine .inr ⟨file, fun before current holds =>
              absurd ⟨before, current, ?_, holds⟩ left⟩
            intro same
            rw [same, held] at holds
            exact new holds
      · generalize after.loader = final at settles contains
        cases settles with
        | stored config =>
          obtain ⟨kept, replaced⟩ := contains_of_withoutReplaced
            (fun before current => tidy.stored owner before current) contains
          rw [hash]
          rcases loaded kept with before | same
          · exact .inr ⟨.inl before, replaced⟩
          · exact .inl same
    | stored old without => cases without
    | remote without => cases without

theorem storeAgain (orderly : archive.Orderly format known used)
    (plain : isUrl config.workbookRef = false) :
    ((store format owner config none moment commit).on archive).2.Tidy format fun key =>
      left key ∨ Spurned format archive (.operation (.store owner config none moment commit)) key := by
  have uploads : ∀ given ∈ (none : Option (Upload β)), known given.data := by
    rintro _ ⟨⟩
  have stamps : ∀ stamp ∈ stampsOf (none : Option (Upload β)) moment, isStamp stamp = true := by
    rintro _ ⟨⟩
  have loader := loader_store_of_none format owner config moment commit archive
  have cached (key : String) (contains :
      ((store format owner config none moment commit).on archive).2.loader.contains key = true) :
      archive.loader.contains key = true ∨ archive.Listed key := by
    rw [loader] at contains
    cases current : archive.row? owner with
    | none =>
      rw [current, checked, plain] at contains
      exact .inl contains
    | some row =>
      rw [current] at contains
      have stored : isUrl row.config.workbookRef = false := tidy.stored owner row current
      rcases contains_of_loadWorkbook stored contains with before | ⟨names, data, file, rfl⟩
      · exact .inl before
      · exact .inr (tidy.listed file)
  rcases outcome : (store format owner config none moment commit).on archive with
    ⟨error | written, after⟩
  · obtain ⟨reverted, _⟩ := store_error orderly uploads stamps outcome
    rw [outcome] at cached
    exact tidy.fewer reverted.rows reverted.root (fun _ _ => reverted.fewer)
      fun key contains => (cached key contains).imp_right .inl
  · obtain ⟨parsed, row, _, stored⟩ := store_ok orderly uploads stamps outcome
    rw [outcome] at cached
    cases stored.origin with
    | uploaded given name here => cases here
    | stored old without current path hash files =>
      have blob : isUrl row.storagePath = false := by rw [path, tidy.stored owner old current]
      refine tidy.put stored.rows stored.root blob (fun names data file => ?_) fun key contains => ?_
      · rw [files] at file
        refine .inr ⟨file, fun before here holds => ?_⟩
        obtain rfl := Option.some.inj (current.symm.trans here)
        exact ⟨path ▸ holds, hash⟩
      · refine .inr ⟨cached key contains, fun before here same => ?_⟩
        obtain rfl := Option.some.inj (current.symm.trans here)
        exact hash.trans same
    | remote without new =>
      obtain ⟨loaded, ok⟩ := stored.checked
      rw [new, checked, plain] at ok
      cases ok

theorem clear (orderly : archive.Orderly format known used) (owner : String) (commit : Commit) :
    ((Archive.clear owner commit).on archive).2.Tidy format left := by
  cases current : archive.row? owner with
  | none =>
    rw [Archive.clear, on_bind, on_get]
    dsimp only
    rw [current]
    exact tidy
  | some row =>
    have blob := tidy.stored owner row current
    rcases commit with message | done
    · rw [Archive.clear, on_bind, on_get]
      dsimp only
      rw [current]
      exact tidy
    · have loader := loader_clear orderly current blob
      rcases clear_cases orderly owner (.ok ()) with
        ⟨error, failed⟩ | ⟨after, ok, sound, rows, root, gone, kept⟩
      · rw [failed]
        exact tidy
      · rw [ok] at loader ⊢
        have others {other : String} (apart : other ≠ owner) :
            after.row? other = archive.row? other := by
          rw [row?, rows, Table.get?_erase, if_neg apart]
          rfl
        refine ⟨?_, ?_, ?_⟩
        · intro names data held
          by_cases refers : archive.Refers owner names
          · rw [gone names refers] at held
            cases held
          · rw [kept names refers] at held
            obtain ⟨holder, found, here, holds, digest⟩ := tidy.hashed names data held
            have apart : holder ≠ owner := by
              rintro rfl
              exact refers ⟨found, here, holds⟩
            exact ⟨holder, found, (others apart).trans here, (holds_congr root).mpr holds, digest⟩
        · intro key contains
          dsimp only at loader
          rw [loader] at contains
          obtain ⟨dropped, before⟩ := Loader.contains_evict_iff.mp contains
          refine (tidy.cached key before).imp_left ?_
          rintro ⟨holder, found, here, hash⟩
          have apart : holder ≠ owner := by
            rintro rfl
            obtain rfl := Option.some.inj (current.symm.trans here)
            exact dropped hash.symm
          exact ⟨holder, found, (others apart).trans here, hash⟩
        · intro other found here
          by_cases same : other = owner
          · rw [same, row?, rows, Table.get?_erase, if_pos rfl] at here
            cases here
          · exact tidy.stored other found ((others same).symm.trans here)

end Tidy

/-- Nothing in what is asked has a URL. -/
def Event.IsLocal : Event β → Prop
  | .operation (.store _ config upload _ _) => upload.isSome ∨ isUrl config.workbookRef = false
  | .operation (.load config) => isUrl config.workbookRef = false
  | _ => True

theorem Tidy.apply {left : String → Prop} (tidy : archive.Tidy format left)
    (orderly : archive.Orderly format known used) (event : Event β) (plain : event.IsLocal)
    (proper : ∀ stamp ∈ event.stamps, isStamp stamp = true)
    (held : ∀ data ∈ event.uploads, known data) :
    (event.apply format archive).Tidy format fun key =>
      left key ∨ Spurned format archive event key := by
  have weaken {final : Archive β} (tidy : final.Tidy format left) :
      final.Tidy format fun key => left key ∨ Spurned format archive event key :=
    ⟨tidy.hashed, fun key contains => (tidy.cached key contains).imp_right .inl, tidy.stored⟩
  cases event with
  | refusal error => exact weaken ⟨tidy.hashed, tidy.cached, tidy.stored⟩
  | loss path =>
    refine weaken ⟨fun names data file => ?_, tidy.cached, tidy.stored⟩
    change (archive.blobs.tree.files.erase path.resolve.names).get? names = some data at file
    rw [Table.get?_erase] at file
    split at file
    · cases file
    · exact tidy.hashed names data file
  | operation asked =>
    cases asked with
    | store owner config upload moment commit =>
      rw [Event.apply, Operation.act, on_discard]
      rcases upload with _ | given
      · exact tidy.storeAgain orderly (plain.resolve_left Bool.false_ne_true)
      · exact tidy.storeUpload orderly (held given.data (List.mem_singleton_self _))
          (proper moment.stamp (List.mem_singleton_self _))
    | clear owner commit => exact weaken (tidy.clear orderly owner commit)
    | get owner => exact weaken tidy
    | load config =>
      have same := undisturbed_loadWorkbook format config archive
      rw [Event.apply, Operation.act, on_discard]
      refine tidy.fewer same.rows (same.blobs ▸ rfl) (fun names data file => ?_)
        fun key contains => ?_
      · rwa [orLoadError, on_mapError, same.blobs] at file
      · refine (contains_of_loadWorkbook plain contains).imp_right ?_
        rintro ⟨names, data, file, rfl⟩
        exact .inl (tidy.listed file)
    | clearCache =>
      refine weaken ⟨tidy.hashed, fun key contains => ?_, tidy.stored⟩
      cases contains

theorem tidy_opened (root : Path) (timeout : Amount) (retries : Int) (replies : List (Reply β))
    (left : String → Prop) : (opened root timeout retries replies).Tidy format left where
  hashed names data held := by
    change (BlobStore.empty root).tree.files.get? names = some data at held
    rw [BlobStore.files_empty] at held
    cases held
  cached _ contains := by cases contains
  stored _ _ current := by cases current

/-- The digest is that of an upload that the blob store refused in a run. -/
def LeftBehind (format : FileFormat β) (start : Archive β) (events : List (Event β))
    (hash : String) : Prop :=
  ∃ before event rest, events = before ++ event :: rest ∧
    Spurned format (run format before start) event hash

theorem Tidy.run {start : Archive β} (orderly : start.Orderly format known used)
    (tidy : ∀ left, start.Tidy format left) (events : List (Event β))
    (plain : ∀ event ∈ events, event.IsLocal)
    (proper : ∀ stamp ∈ events.flatMap Event.stamps, isStamp stamp = true)
    (held : ∀ data ∈ events.flatMap Event.uploads, known data) :
    (Archive.run format events start).Tidy format (LeftBehind format start events) := by
  -- What is left behind is told by the state before an event, so the last event is split off.
  induction events using List.reverseRecOn with
  | nil => exact tidy _
  | append_singleton events event ih =>
    have inside {found : Event β} (member : found ∈ events) : found ∈ events ++ [event] :=
      List.mem_append_left _ member
    have last : event ∈ events ++ [event] := List.mem_append_right _ (List.mem_singleton_self _)
    rw [List.flatMap_append, List.flatMap_singleton] at proper held
    have properBefore := fun stamp member => proper stamp (List.mem_append_left _ member)
    have heldBefore := fun data member => held data (List.mem_append_left _ member)
    have before := ih (fun found member => plain found (inside member)) properBefore heldBefore
    have next := before.apply (orderly.run events properBefore heldBefore) event (plain event last)
      (fun stamp member => proper stamp (List.mem_append_right _ member))
      (fun data member => held data (List.mem_append_right _ member))
    have whole : Archive.run format (events ++ [event]) start
        = event.apply format (Archive.run format events start) := by
      rw [Archive.run, List.foldl_append]
      rfl
    rw [whole]
    refine ⟨next.hashed, fun key contains => (next.cached key contains).imp_right ?_, next.stored⟩
    rintro (⟨earlier, found, rest, rfl, spurned⟩ | spurned)
    · exact ⟨earlier, found, rest ++ [event], by simp, spurned⟩
    · exact ⟨events, event, [], rfl, spurned⟩

/-- In every run without URLs, successful or not, each workbook that the loader keeps is that of some
row, or it was uploaded and the blob store refused to save it. Nothing drops such an upload when it
is refused. -/
theorem listed_or_refused_of_cached {root : Path} {timeout : Amount} {retries : Int}
    {replies : List (Reply β)} {events : List (Event β)}
    (plain : ∀ event ∈ events, event.IsLocal)
    (proper : ∀ stamp ∈ events.flatMap Event.stamps, isStamp stamp = true) :
    (∀ key, (run format events (opened root timeout retries replies)).loader.contains key = true →
      (run format events (opened root timeout retries replies)).Listed key ∨
        LeftBehind format (opened root timeout retries replies) events key) ∧
      ∀ owner config given moment commit error, isStamp moment.stamp = true →
        ((store format owner config (some given) moment commit).on
          (run format events (opened root timeout retries replies))).1 = .error (.file error) →
        ((store format owner config (some given) moment commit).on
          (run format events (opened root timeout retries replies))).2.loader.contains
            (format.digest given.data) = true := by
  have start : (opened root timeout retries replies).Orderly format (fun _ => True) [] :=
    orderly_opened root timeout retries fun _ _ _ _ => trivial
  have tidy := Tidy.run start (tidy_opened root timeout retries replies) events plain proper
    fun _ _ => trivial
  refine ⟨tidy.cached, fun owner config given moment commit error stamp failed => ?_⟩
  have orderly := start.run events proper fun _ _ => trivial
  have settles := settles_store owner config given commit orderly trivial stamp
  rw [failed] at settles
  generalize ((store format owner config (some given) moment commit).on
    (run format events (opened root timeout retries replies))).2.loader = final at settles ⊢
  cases settles with
  | refused _ kept => exact kept

/-- One upload is stored, and another one cannot be written. -/
def refusedEvents : List (Event Json) :=
  [.operation (sampleStore "anna" "Prijzen" 1 '1' (.ok ())),
    .refusal (some ⟨.notDirectory, "/data/pricing/bert"⟩),
    .operation (sampleStore "bert" "Prijzen" 2 '2' (.ok ()))]

theorem listed_or_refused_of_cached_of_refusedEvents :
    let after := run cellFormat refusedEvents (sampleStart [])
    after.rows.keys = ["anna"] ∧
      after.loader.cache.keys = [1, 2].map (fun n => cellFormat.digest (oneCellFile "Prijzen" n)) ∧
      ∀ key, after.loader.contains key = true →
        after.Listed key ∨ LeftBehind cellFormat (sampleStart []) refusedEvents key := by
  intro after
  have state : (after.rows.keys, after.loader.cache.keys)
      = (["anna"], [1, 2].map fun n => cellFormat.digest (oneCellFile "Prijzen" n)) := by
    decide +kernel
  obtain ⟨owners, keys⟩ := Prod.mk.inj state
  have plain : ∀ event ∈ refusedEvents, event.IsLocal := by
    simp [refusedEvents, Event.IsLocal, sampleStore]
  exact ⟨owners, keys, (listed_or_refused_of_cached plain (by decide)).1⟩

end SheetPricing.Archive
