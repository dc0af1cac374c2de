import SheetPricing.Proofs.Archive.Placing

/-! What storing and clearing a configuration changes. An operation that fails leaves all rows and
blobs as they were, if its stamp is new; one that succeeds changes the row of its owner and the
blobs that the row referred to before or refers to now. -/
namespace SheetPricing.Archive
open Action Loading Storage
variable {β : Type} {format : FileFormat β} {known : β → Prop} {archive after : Archive β}
  {owner : String} {config : PricingConfig} {upload : Option (Upload β)} {old : Option Row}
  {moment : Moment} {parsed : Parsed} {placed : Placed}

/-- The rows and the files with their contents are the same; directories may have been made. -/
structure Intact (archive after : Archive β) : Prop where
  rows : after.rows = archive.rows
  root : after.blobs.root = archive.blobs.root
  files : after.blobs.tree.files = archive.blobs.tree.files

theorem Undisturbed.intact (same : Undisturbed archive after) : Intact archive after :=
  ⟨same.rows, same.blobs ▸ rfl, same.blobs ▸ rfl⟩

theorem Intact.trans {last : Archive β} (first : Intact archive after)
    (second : Intact after last) : Intact archive last :=
  ⟨second.rows.trans first.rows, second.root.trans first.root, second.files.trans first.files⟩

theorem on_deleteBlob (path : String) (archive : Archive β) : (deleteBlob path).on archive
    = match archive.blobs.delete path with
      | .error error => (.error (.store error), archive)
      | .ok (removed, blobs) => (.ok removed, { archive with blobs }) := by
  rw [deleteBlob, on_bind, on_get]
  dsimp only
  rcases archive.blobs.delete path with error | ⟨removed, blobs⟩ <;> rfl

/-- Removing a blob changes nothing but the blobs, even if it fails. -/
theorem deleteBlob_blobs (path : String) (archive : Archive β) :
    ∃ blobs, ((discard (deleteBlob path)).on archive).2 = { archive with blobs } := by
  rw [on_discard, on_deleteBlob]
  rcases archive.blobs.delete path with error | ⟨removed, blobs⟩
  · exact ⟨archive.blobs, rfl⟩
  · exact ⟨blobs, rfl⟩

theorem checked_frame (sound : archive.Sound format known) (config : PricingConfig)
    (held : ∀ given ∈ upload, known given.data) (old : Option Row) :
    Undisturbed archive ((checked format config upload old).on archive).2 ∧
      ((checked format config upload old).on archive).2.Sound format known := by
  rcases upload with _ | given
  · rcases old with _ | row
    · rw [checked]
      split
      · next remote => exact ⟨undisturbed_withLoader _ _, sound.loadUrl remote⟩
      · exact ⟨⟨rfl, rfl⟩, sound⟩
    · exact ⟨undisturbed_loadWorkbook format row.config archive, sound.loadWorkbook row.config⟩
  · exact ⟨undisturbed_withLoader _ _, sound.loadBytes (held given rfl)⟩

theorem sound_evict (sound : archive.Sound format known) (hash : String) :
    ({ archive with loader := archive.loader.evict hash } : Archive β).Sound format known :=
  ⟨sound.blobs, sound.loader.evict hash, sound.held⟩

theorem refuse_frame (sound : archive.Sound format known) (upload : Option (Upload β))
    (old : Option Row) (error : ConfigurationError) :
    ((refuse format upload old error).on archive).1 = .error (.configuration error) ∧
      Undisturbed archive ((refuse format upload old error).on archive).2 ∧
      ((refuse format upload old error).on archive).2.Sound format known := by
  rcases upload with _ | given
  · exact ⟨rfl, ⟨rfl, rfl⟩, sound⟩
  · rw [refuse]
    dsimp only
    split
    · exact ⟨rfl, ⟨rfl, rfl⟩, sound_evict sound _⟩
    · exact ⟨rfl, ⟨rfl, rfl⟩, sound⟩

/-- Deleting a stored blob succeeds, and only the file of the blob is gone. -/
theorem deleteBlob_frame (sound : archive.Sound format known) {stamp : String}
    (proper : isStamp stamp = true) (owner fileName : String) :
    ∃ after,
      (discard (deleteBlob (storagePath owner fileName stamp))).on archive = (.ok ⟨⟩, after) ∧
      after.Sound format known ∧ after.rows = archive.rows ∧ after.loader = archive.loader ∧
      after.blobs.root = archive.blobs.root ∧
      after.blobs.tree.files
        = archive.blobs.tree.files.erase (archive.blobs.place owner fileName stamp) := by
  obtain ⟨removed, blobs, deleted, formed, root, files⟩ :=
    sound.blobs.delete_storagePath proper owner fileName
  refine ⟨{ archive with blobs }, ?_, ⟨formed, sound.loader, ?_⟩, rfl, rfl, root, files⟩
  · rw [on_discard, on_deleteBlob, deleted]
    rfl
  · intro names data held
    rw [files, Table.get?_erase] at held
    split at held
    · cases held
    · exact sound.held names data held

theorem isUrl_storagePath (owner fileName stamp : String) :
    isUrl (storagePath owner fileName stamp) = false := by
  have first : (storagePath owner fileName stamp).toList.head? = some 'p' := by
    rw [storagePath_eq, branch, ownerNames, List.cons_append]
    cases rest : (Path.ofText (safeName owner)).names ++ [leaf fileName stamp] with
    | nil => simp at rest
    | cons name others =>
      rw [String.intercalate_cons_cons, String.append_assoc, String.toList_append]
      rfl
  obtain ⟨characters, text⟩ := List.head?_eq_some_iff.mp first
  rw [isUrl, Text.lowered, text]
  rfl

/-- The blob that a storage path refers to is held by the file with these names. -/
def Holds (blobs : BlobStore β) (path : String) (names : List String) : Prop :=
  isUrl path = false ∧ blobs.resolve path = .ok ⟨blobs.root.anchor, names⟩

theorem holds_storagePath_iff (blobs : BlobStore β) (owner fileName : String) {stamp : String}
    (proper : isStamp stamp = true) (names : List String) :
    Holds blobs (storagePath owner fileName stamp) names ↔
      names = blobs.place owner fileName stamp := by
  rw [Holds, isUrl_storagePath, BlobStore.resolve_storagePath blobs owner fileName proper]
  simp [eq_comm]

theorem holds_congr {blobs other : BlobStore β} (root : other.root = blobs.root) {path : String}
    {names : List String} : Holds other path names ↔ Holds blobs path names := by
  rw [Holds, Holds, root, BlobStore.resolve_congr root]

/-- What a row of an owner may refer to: a URL, or a blob that was saved under one of the stamps. -/
def IsReference (used : List String) (owner path : String) : Prop :=
  isUrl path = true ∨ ∃ fileName, ∃ stamp ∈ used, path = storagePath owner fileName stamp

/-- Dropping what is kept under a digest leaves what is kept under another key. -/
theorem evict_frame (sound : archive.Sound format known) (hash key : String) (drop : Prop)
    [Decidable drop] (apart : drop → hash ≠ key) :
    ∃ after, (if drop then evict hash else pure ⟨⟩ : ArchiveM β PUnit).on archive
        = (.ok ⟨⟩, after) ∧ Undisturbed archive after ∧ after.Sound format known ∧
      after.loader.cache.get? key = archive.loader.cache.get? key := by
  split
  · next dropped =>
    refine ⟨_, rfl, ⟨rfl, rfl⟩, sound_evict sound hash, ?_⟩
    change (archive.loader.cache.erase hash).get? key = _
    rw [Table.get?_erase, if_neg (Ne.symm (apart dropped))]
  · exact ⟨archive, rfl, ⟨rfl, rfl⟩, sound, rfl⟩

/-- The blob under some names is referred to by the row that was there before, not by the new
one. -/
def Abandoned (blobs : BlobStore β) (old : Option Row) (path : String) (names : List String) :
    Prop :=
  ∃ row ∈ old, row.storagePath ≠ path ∧ Holds blobs row.storagePath names

theorem abandoned_congr {blobs other : BlobStore β} (root : other.root = blobs.root) {path : String}
    {names : List String} :
    Abandoned other old path names ↔ Abandoned blobs old path names := by
  simp only [Abandoned, holds_congr root]

theorem not_abandoned_place {used : List String} (proper : ∀ stamp ∈ used, isStamp stamp = true)
    (referred : ∀ row ∈ old, IsReference used owner row.storagePath) (blobs : BlobStore β)
    (fileName stamp : String) :
    ¬ Abandoned blobs old (storagePath owner fileName stamp)
      (blobs.place owner fileName stamp) := by
  rintro ⟨row, current, moved, stored, resolved⟩
  rcases referred row current with remote | ⟨other, later, member, path⟩
  · exact absurd (stored.symm.trans remote) Bool.false_ne_true
  · have holds : Holds blobs (storagePath owner other later)
        (blobs.place owner fileName stamp) := by
      rw [← path]
      exact ⟨stored, resolved⟩
    -- What is at the place of the new blob has its path too.
    rw [holds_storagePath_iff _ _ _ (proper later member)] at holds
    exact moved (path.trans (BlobStore.storagePath_of_place holds).symm)

theorem cleanUp_frame (sound : archive.Sound format known) (placed : Placed) {used : List String}
    {old : Row} (proper : ∀ stamp ∈ used, isStamp stamp = true)
    (referred : IsReference used owner old.storagePath) :
    ∃ after, (cleanUp placed old).on archive = (.ok ⟨⟩, after) ∧ after.Sound format known ∧
      after.rows = archive.rows ∧ after.blobs.root = archive.blobs.root ∧
      after.loader.cache.get? placed.workbookHash
        = archive.loader.cache.get? placed.workbookHash ∧
      (∀ names, Abandoned archive.blobs (some old) placed.storagePath names →
        after.blobs.tree.files.get? names = none) ∧
      ∀ names, ¬ Abandoned archive.blobs (some old) placed.storagePath names →
        after.blobs.tree.files.get? names = archive.blobs.tree.files.get? names := by
  have only (names : List String) : Abandoned archive.blobs (some old) placed.storagePath names ↔
      old.storagePath ≠ placed.storagePath ∧ Holds archive.blobs old.storagePath names := by
    simp [Abandoned]
  rw [cleanUp]
  split
  · next remote =>
    refine ⟨archive, rfl, sound, rfl, rfl, rfl, fun names left => ?_, fun _ _ => rfl⟩
    exact absurd (((only names).mp left).2.1.symm.trans remote) Bool.false_ne_true
  · next stored =>
    obtain ⟨fileName, stamp, member, path⟩ := referred.resolve_left stored
    have held (names : List String) : Holds archive.blobs old.storagePath names ↔
        names = archive.blobs.place owner fileName stamp := by
      rw [path, holds_storagePath_iff _ _ _ (proper stamp member)]
    dsimp only
    split
    · next moved =>
      obtain ⟨deleted, outcome, soundDeleted, rows, loader, root, files⟩ :=
        deleteBlob_frame sound (proper stamp member) owner fileName
      obtain ⟨after, evicted, same, soundAfter, cache⟩ :=
        evict_frame soundDeleted old.workbookHash placed.workbookHash
          (old.workbookHash ≠ placed.workbookHash) id
      rw [on_bind, path, outcome]
      refine ⟨after, evicted, soundAfter, same.rows.trans rows, ?_, ?_, ?_, ?_⟩
      · rw [same.blobs, root]
      · rw [cache, loader]
      · intro names left
        have here := (held names).mp ((only names).mp left).2
        rw [same.blobs, files, Table.get?_erase, if_pos here]
      · intro names kept
        have elsewhere : names ≠ archive.blobs.place owner fileName stamp := fun here =>
          kept ((only names).mpr ⟨moved, (held names).mpr here⟩)
        rw [same.blobs, files, Table.get?_erase, if_neg elsewhere]
    · next unmoved =>
      obtain ⟨after, evicted, same, soundAfter, cache⟩ :=
        evict_frame sound old.workbookHash placed.workbookHash
          (old.workbookHash ≠ placed.workbookHash) id
      refine ⟨after, evicted, soundAfter, same.rows, ?_, cache, ?_, ?_⟩
      · rw [same.blobs]
      · exact fun names left => absurd ((only names).mp left).1 unmoved
      · intro names _
        rw [same.blobs]

theorem takeBack_frame (sound : archive.Sound format known) (owner name hash : String)
    (proper : isStamp moment.stamp = true) (old : Option Row) :
    ∃ after, (takeBack ⟨storagePath owner name moment.stamp, name, hash⟩ old).on archive
        = (.ok ⟨⟩, after) ∧ after.Sound format known ∧ after.rows = archive.rows ∧
      after.blobs.root = archive.blobs.root ∧ after.blobs.tree.files
        = archive.blobs.tree.files.erase (archive.blobs.place owner name moment.stamp) := by
  obtain ⟨deleted, outcome, soundDeleted, rows, loader, root, files⟩ :=
    deleteBlob_frame sound proper owner name
  rw [takeBack, on_bind, outcome]
  dsimp only
  split
  · exact ⟨_, rfl, sound_evict soundDeleted hash, rows, root, files⟩
  · exact ⟨deleted, rfl, soundDeleted, rows, root, files⟩

/-- What is ready when it can be referred to: an upload was saved, and anything else is as it
was. -/
inductive Settled (format : FileFormat β) (owner : String) (config : PricingConfig)
    (moment : Moment) (parsed : Parsed) (archive after : Archive β) :
    Option (Upload β) → Option Row → Placed → Prop
  | uploaded (given : Upload β) (old : Option Row) (name : String)
      (rows : after.rows = archive.rows) (loader : after.loader = archive.loader)
      (root : after.blobs.root = archive.blobs.root)
      (files : after.blobs.tree.files
        = archive.blobs.tree.files.put (archive.blobs.place owner name moment.stamp) given.data) :
      Settled format owner config moment parsed archive after (some given) old
        ⟨storagePath owner name moment.stamp, name, format.digest given.data⟩
  | stored (row : Row) (same : after = archive) :
      Settled format owner config moment parsed archive after none (some row)
        ⟨row.storagePath, row.fileName, row.workbookHash⟩
  | remote (name : String) (same : after = archive) :
      Settled format owner config moment parsed archive after none none
        ⟨config.workbookRef, name, parsed.workbook.hash⟩

theorem settle_cases (sound : archive.Sound format known) (owner : String) (config : PricingConfig)
    (held : ∀ given ∈ upload, known given.data) (old : Option Row) (moment : Moment)
    (parsed : Parsed) :
    (∃ error after, (settle format owner config upload old moment parsed).on archive
        = (.error error, after) ∧ Intact archive after ∧ after.Sound format known) ∨
      ∃ placed after, (settle format owner config upload old moment parsed).on archive
          = (.ok placed, after) ∧ after.Sound format known ∧
        Settled format owner config moment parsed archive after upload old placed := by
  rcases upload with _ | given
  · rcases old with _ | row
    · exact .inr ⟨_, archive, rfl, sound, .remote _ rfl⟩
    · exact .inr ⟨_, archive, rfl, sound, .stored row rfl⟩
  · rw [settle, on_bind, on_get]
    dsimp only
    generalize firstNonempty [given.name.getD "", config.fileName] "workbook.xlsx" = name
    rcases sound.blobs.save_cases owner name moment.stamp given.data with
      ⟨error, blobs, saved, formed, root, files⟩ | ⟨blobs, saved, formed, root, files⟩
    · rw [saved]
      refine .inl ⟨.file error, { archive with blobs }, rfl, ⟨rfl, root, files⟩, formed,
        sound.loader, ?_⟩
      rw [files]
      exact sound.held
    · rw [saved]
      refine .inr ⟨_, { archive with blobs }, rfl, ⟨formed, sound.loader, ?_⟩,
        .uploaded given old name rfl rfl root files⟩
      intro names data held'
      rw [files, Table.get?_put] at held'
      split at held'
      · exact Option.some.inj held' ▸ held given rfl
      · exact sound.held names data held'

theorem hasSheet_of_checkSheet {workbook : Workbook} {name : String}
    (ok : checkSheet workbook name = .ok ()) : workbook.hasSheet name = true := by
  rw [checkSheet] at ok
  split at ok
  · assumption
  · cases ok

theorem place_cases (sound : archive.Sound format known) (owner : String) (config : PricingConfig)
    (held : ∀ given ∈ upload, known given.data) (old : Option Row) (moment : Moment) :
    (∃ error after, (place format owner config upload old moment).on archive
        = (.error error, after) ∧ Intact archive after ∧ after.Sound format known) ∨
      ∃ parsed loaded placed after,
        (checked format config upload old).on archive = (.ok parsed, loaded) ∧
        parsed.workbook.hasSheet config.sheetName = true ∧
        (place format owner config upload old moment).on archive = (.ok placed, after) ∧
        Undisturbed archive loaded ∧ after.Sound format known ∧
        Settled format owner config moment parsed loaded after upload old placed := by
  obtain ⟨same, soundLoaded⟩ := checked_frame sound config held old
  rw [place_eq, on_bind]
  rcases outcome : (checked format config upload old).on archive with ⟨error | parsed, loaded⟩
  · rw [outcome] at same soundLoaded
    exact .inl ⟨error, loaded, rfl, same.intact, soundLoaded⟩
  · rw [outcome] at same soundLoaded
    dsimp only at same soundLoaded ⊢
    cases sheet : checkSheet parsed.workbook config.sheetName with
    | error error =>
      obtain ⟨failed, again, soundAfter⟩ := refuse_frame soundLoaded upload old error
      exact .inl ⟨_, _, Prod.ext failed rfl, same.intact.trans again.intact, soundAfter⟩
    | ok done =>
      rcases settle_cases soundLoaded owner config held old moment parsed with
        ⟨error, after, failed, intact, soundAfter⟩ | ⟨placed, after, ok, soundAfter, settled⟩
      · exact .inl ⟨error, after, failed, same.intact.trans intact, soundAfter⟩
      · exact .inr ⟨parsed, loaded, placed, after, rfl, hasSheet_of_checkSheet sheet, ok, same,
          soundAfter, settled⟩

/-- What a failed operation leaves: the same rows, and the same files unless a blob was saved and
removed again. -/
structure Reverted (archive after : Archive β) (owner : String) (stamps : List String) : Prop where
  rows : after.rows = archive.rows
  root : after.blobs.root = archive.blobs.root
  files : after.blobs.tree.files = archive.blobs.tree.files ∨
    ∃ stamp ∈ stamps, ∃ name data, after.blobs.tree.files
      = (archive.blobs.tree.files.put (archive.blobs.place owner name stamp) data).erase
        (archive.blobs.place owner name stamp)

theorem Intact.reverted (intact : Intact archive after) (owner : String) (stamps : List String) :
    Reverted archive after owner stamps := ⟨intact.rows, intact.root, .inl intact.files⟩

/-- An archive that operations under these stamps have led to. -/
structure Orderly (format : FileFormat β) (known : β → Prop) (used : List String)
    (archive : Archive β) : Prop extends Sound format known archive where
  proper : ∀ stamp ∈ used, isStamp stamp = true
  stamped : ∀ names data, archive.blobs.tree.files.get? names = some data →
    ∃ stamp ∈ used, Stamped stamp names
  referred : ∀ owner row, archive.row? owner = some row → IsReference used owner row.storagePath

/-- There is no file under a new stamp. -/
theorem Orderly.absent {used : List String} (orderly : archive.Orderly format known used)
    {stamp : String} (proper : isStamp stamp = true) (new : stamp ∉ used) {names : List String}
    (stamped : Stamped stamp names) : archive.blobs.tree.files.get? names = none := by
  cases held : archive.blobs.tree.files.get? names with
  | none => rfl
  | some data =>
    obtain ⟨earlier, member, before⟩ := orderly.stamped names data held
    obtain rfl := stamped.unique before proper (orderly.proper earlier member)
    exact absurd member new

/-- With a new stamp, what was saved and removed again leaves no trace. -/
theorem Reverted.intact {used stamps : List String} (reverted : Reverted archive after owner stamps)
    (orderly : archive.Orderly format known used) (proper : ∀ stamp ∈ stamps, isStamp stamp = true)
    (new : ∀ stamp ∈ stamps, stamp ∉ used) : Intact archive after := by
  refine ⟨reverted.rows, reverted.root, ?_⟩
  rcases reverted.files with same | ⟨stamp, member, name, data, files⟩
  · exact same
  · have absent := orderly.absent (proper stamp member) (new stamp member)
      (BlobStore.stamped_place archive.blobs owner name stamp)
    rw [files, Table.erase_put absent]

/-- Write a row and remove what only the row before it referred to. -/
def writeRow (owner : String) (placed : Placed) (old : Option Row) (row : Row) :
    ArchiveM β PricingConfig := do
  modify fun archive => { archive with rows := archive.rows.put owner row }
  if let some old := old then cleanUp placed old
  return row.config

theorem on_store (format : FileFormat β) (owner : String) (config : PricingConfig)
    (upload : Option (Upload β)) (moment : Moment) (commit : Commit) (archive : Archive β) :
    (store format owner config upload moment commit).on archive
      = match (place format owner config upload (archive.row? owner) moment).on archive with
        | (.error error, after) => (.error error, after)
        | (.ok placed, ready) => match commit with
          | .error message => (do
              if upload.isSome then takeBack placed (archive.row? owner)
              throw (.commit message) : ArchiveM β PricingConfig).on ready
          | .ok () => (writeRow owner placed (archive.row? owner)
              (newRow config placed moment)).on ready := by
  rw [store, on_bind, on_get]
  dsimp only
  rw [on_bind]
  rcases (place format owner config upload (archive.row? owner) moment).on archive with
    ⟨error | placed, ready⟩
  · rfl
  · rcases commit with message | done <;> rfl

theorem writeRow_frame (sound : archive.Sound format known) (placed : Placed) {used : List String}
    {old : Option Row} (proper : ∀ stamp ∈ used, isStamp stamp = true)
    (referred : ∀ row ∈ old, IsReference used owner row.storagePath) (row : Row) :
    ∃ after, (writeRow owner placed old row).on archive = (.ok row.config, after) ∧
      after.Sound format known ∧ after.rows = archive.rows.put owner row ∧
      after.blobs.root = archive.blobs.root ∧
      after.loader.cache.get? placed.workbookHash
        = archive.loader.cache.get? placed.workbookHash ∧
      (∀ names, Abandoned archive.blobs old placed.storagePath names →
        after.blobs.tree.files.get? names = none) ∧
      ∀ names, ¬ Abandoned archive.blobs old placed.storagePath names →
        after.blobs.tree.files.get? names = archive.blobs.tree.files.get? names := by
  have soundWritten : ({ archive with rows := archive.rows.put owner row } : Archive β).Sound
      format known := ⟨sound.blobs, sound.loader, sound.held⟩
  rw [writeRow, on_bind, on_modify]
  rcases old with _ | old
  · refine ⟨_, rfl, soundWritten, rfl, rfl, rfl, fun names left => ?_, fun _ _ => rfl⟩
    obtain ⟨_, none, _⟩ := left
    cases none
  · obtain ⟨after, cleaned, soundAfter, rows, rest⟩ :=
      cleanUp_frame soundWritten placed proper (referred old rfl)
    refine ⟨after, ?_, soundAfter, rows, rest⟩
    dsimp only
    rw [on_bind, cleaned]
    rfl

/-- Nothing is cleaned up after a row that refers to what the row before it referred to. -/
theorem on_writeRow_of_same {old : Option Row} (row : Row)
    (same : ∀ before ∈ old, before.storagePath = placed.storagePath ∧
      before.workbookHash = placed.workbookHash) :
    (writeRow owner placed old row).on archive
      = (.ok row.config, { archive with rows := archive.rows.put owner row }) := by
  rw [writeRow, on_bind, on_modify]
  rcases old with _ | before
  · rfl
  · obtain ⟨path, hash⟩ := same before rfl
    have nothing : (cleanUp placed before : ArchiveM β Unit) = pure () := by
      rw [cleanUp]
      split
      · rfl
      · rw [path, hash]
        simp
    dsimp only
    rw [nothing]
    rfl

/-- The stamps that are used up: that of an upload, which is saved under it. -/
def stampsOf (upload : Option (Upload β)) (moment : Moment) : List String :=
  (upload.map fun _ => moment.stamp).toList

theorem store_error {used : List String} (orderly : archive.Orderly format known used)
    (held : ∀ given ∈ upload, known given.data)
    (proper : ∀ stamp ∈ stampsOf upload moment, isStamp stamp = true)
    {commit : Commit} {error : ArchiveError}
    (failed : (store format owner config upload moment commit).on archive = (.error error, after)) :
    Reverted archive after owner (stampsOf upload moment) ∧ after.Sound format known := by
  have referred := orderly.referred owner
  rw [on_store] at failed
  generalize archive.row? owner = old at failed referred
  rcases place_cases orderly.toSound owner config held old moment with
    ⟨_, _, placing, intact, soundPlaced⟩ |
    ⟨parsed, loaded, placed, ready, _, _, placing, same, soundReady, settled⟩
  · rw [placing] at failed
    cases failed
    exact ⟨intact.reverted _ _, soundPlaced⟩
  · rw [placing] at failed
    cases commit with
    | ok done =>
      obtain ⟨_, written, _⟩ := writeRow_frame soundReady placed orderly.proper referred
        (newRow config placed moment)
      cases written.symm.trans failed
    | error message =>
      dsimp only at failed
      -- Only an upload has changed anything that is to be taken back.
      cases settled with
      | uploaded given old name rows loader root files =>
        obtain ⟨taken, back, soundTaken, rowsTaken, rootTaken, filesTaken⟩ :=
          takeBack_frame soundReady owner name (format.digest given.data)
            (proper _ (List.mem_singleton_self _)) old
        rw [Option.isSome_some, if_pos rfl, on_bind, back] at failed
        cases failed
        refine ⟨⟨?_, ?_, .inr ⟨moment.stamp, List.mem_singleton_self _, name, given.data, ?_⟩⟩,
          soundTaken⟩
        · rw [rowsTaken, rows, same.rows]
        · rw [rootTaken, root, same.blobs]
        · rw [filesTaken, files, BlobStore.place_congr root, same.blobs]
      | stored row unchanged =>
        subst unchanged
        cases failed
        exact ⟨same.intact.reverted _ _, soundReady⟩
      | remote name unchanged =>
        subst unchanged
        cases failed
        exact ⟨same.intact.reverted _ _, soundReady⟩

/-- Where the workbook of a new row comes from, and what that means for the blobs. -/
inductive Origin (format : FileFormat β) (owner : String) (upload : Option (Upload β))
    (moment : Moment) (archive after : Archive β) (parsed : Parsed) (row : Row) : Prop
  | uploaded (given : Upload β) (name : String) (here : upload = some given)
      (path : row.storagePath = storagePath owner name moment.stamp)
      (hash : row.workbookHash = format.digest given.data)
      (saved : after.blobs.tree.files.get? (archive.blobs.place owner name moment.stamp)
        = some given.data)
      (gone : ∀ names ≠ archive.blobs.place owner name moment.stamp,
        Abandoned archive.blobs (archive.row? owner) row.storagePath names →
          after.blobs.tree.files.get? names = none)
      (kept : ∀ names ≠ archive.blobs.place owner name moment.stamp,
        ¬ Abandoned archive.blobs (archive.row? owner) row.storagePath names →
          after.blobs.tree.files.get? names = archive.blobs.tree.files.get? names)
  | stored (old : Row) (none : upload = none) (here : archive.row? owner = some old)
      (path : row.storagePath = old.storagePath) (hash : row.workbookHash = old.workbookHash)
      (blobs : after.blobs.tree.files = archive.blobs.tree.files)
  | remote (none : upload = none) (new : archive.row? owner = .none)
      (url : isUrl row.storagePath = true) (hash : row.workbookHash = parsed.workbook.hash)
      (blobs : after.blobs.tree.files = archive.blobs.tree.files)

/-- What a successful operation has done. -/
structure Stored (format : FileFormat β) (known : β → Prop) (owner : String)
    (config : PricingConfig) (upload : Option (Upload β)) (moment : Moment)
    (archive after : Archive β) (parsed : Parsed) (row : Row) : Prop where
  checked : ∃ loaded, (checked format config upload (archive.row? owner)).on archive
    = (.ok parsed, loaded)
  sheet : parsed.workbook.hasSheet config.sheetName = true
  selected : row.selectedSheet = config.sheetName
  rows : after.rows = archive.rows.put owner row
  root : after.blobs.root = archive.blobs.root
  sound : after.Sound format known
  serves : Serves format after row.storagePath parsed
  origin : Origin format owner upload moment archive after parsed row

theorem ok_of_orLoadError {α : Type} {action : ArchiveLoadM β α} {value : α}
    (ok : (orLoadError action).on archive = (.ok value, after)) :
    action.on archive = (.ok value, after) := by
  rw [orLoadError, on_mapError] at ok
  obtain ⟨outcome, state⟩ := Prod.mk.inj ok
  exact Prod.ext (ok_of_mapError outcome) state

/-- A checked workbook is at hand afterwards. -/
theorem serves_of_checked
    (ok : (checked format config upload old).on archive = (.ok parsed, after)) :
    (∀ given, upload = some given →
        after.loader.cache.get? (format.digest given.data) = some parsed) ∧
      (∀ row, upload = none → old = some row → Serves format after row.storagePath parsed) ∧
      (upload = none → old = none → isUrl config.workbookRef = true ∧
        Serves format after config.workbookRef parsed) := by
  rcases upload with _ | given
  · rcases old with _ | row
    · rw [checked] at ok
      split at ok
      · next remote =>
        have cached := Loader.cached_of_loadUrl (loader_of_withLoader (ok_of_orLoadError ok))
        refine ⟨?_, ?_, fun _ _ => ⟨remote, .remote remote cached⟩⟩
        · rintro given ⟨⟩
        · rintro row _ ⟨⟩
      · cases ok
    · have serves := serves_of_loadWorkbook (ok_of_orLoadError ok)
      refine ⟨?_, ?_, ?_⟩
      · rintro given ⟨⟩
      · rintro other _ ⟨⟩
        exact serves
      · rintro _ ⟨⟩
  · have cached := Loader.cached_of_loadBytes (loader_of_withLoader (ok_of_orLoadError ok))
    refine ⟨?_, ?_, ?_⟩
    · rintro other ⟨⟩
      exact cached
    · rintro row ⟨⟩
    · rintro ⟨⟩

section
variable {loaded ready : Archive β} (current : archive.row? owner = old)
  (checking : (checked format config upload old).on archive = (.ok parsed, loaded))
  (sheet : parsed.workbook.hasSheet config.sheetName = true) (same : Undisturbed archive loaded)
include current checking sheet same

theorem stored_of_upload {used : List String} (orderly : archive.Orderly format known used)
    (proper : isStamp moment.stamp = true) {given : Upload β} {name : String}
    (here : upload = some given) (soundReady : ready.Sound format known)
    (rows : ready.rows = loaded.rows) (loader : ready.loader = loaded.loader)
    (root : ready.blobs.root = loaded.blobs.root)
    (files : ready.blobs.tree.files
      = loaded.blobs.tree.files.put (loaded.blobs.place owner name moment.stamp) given.data)
    {stored : PricingConfig} {row : Row}
    (new : row = newRow config
      ⟨storagePath owner name moment.stamp, name, format.digest given.data⟩ moment)
    (ok : (writeRow owner ⟨storagePath owner name moment.stamp, name, format.digest given.data⟩ old
      row).on ready = (.ok stored, after)) :
    stored = row.config ∧
      Stored format known owner config upload moment archive after parsed row := by
  have referred := orderly.referred owner
  rw [current] at referred
  obtain ⟨final, written, soundAfter, rowsAfter, rootAfter, cache, gone, kept⟩ :=
    writeRow_frame soundReady ⟨storagePath owner name moment.stamp, name, format.digest given.data⟩
      orderly.proper referred row
  obtain ⟨outcome, rfl⟩ := Prod.mk.inj (written.symm.trans ok)
  have rootReady : ready.blobs.root = archive.blobs.root := by rw [root, same.blobs]
  have place := BlobStore.place_congr rootReady owner name moment.stamp
  have path : row.storagePath = storagePath owner name moment.stamp := by rw [new, newRow]
  rw [same.blobs] at files
  have saved : final.blobs.tree.files.get? (archive.blobs.place owner name moment.stamp)
      = some given.data := by
    -- Cleaning up leaves the new blob alone.
    have present := not_abandoned_place orderly.proper referred ready.blobs name moment.stamp
    rw [← place, kept _ present, files, place, Table.get?_put, if_pos rfl]
  have serves : Serves format final (storagePath owner name moment.stamp) parsed := by
    have read : final.blobs.read (storagePath owner name moment.stamp) = .ok given.data := by
      apply soundAfter.blobs.read_storagePath proper
      rwa [BlobStore.place_congr (rootAfter.trans rootReady)]
    have cached : final.loader.cache.get? (format.digest given.data) = some parsed := by
      rw [cache, loader, (serves_of_checked checking).1 given here]
    exact .stored (isUrl_storagePath owner name moment.stamp) given.data read cached
  refine ⟨(Except.ok.inj outcome).symm, ⟨loaded, ?_⟩, sheet, ?_, ?_, ?_, soundAfter, ?_,
    .uploaded given name here path ?_ saved ?_ ?_⟩
  · rw [current]
    exact checking
  · rw [new, newRow]
  · rw [rowsAfter, rows, same.rows]
  · rw [rootAfter, rootReady]
  · rw [path]
    exact serves
  · rw [new, newRow]
  · intro names _ left
    rw [current, path] at left
    exact gone names ((abandoned_congr rootReady).mpr left)
  · intro names elsewhere left
    rw [current, path] at left
    rw [kept names fun here => left ((abandoned_congr rootReady).mp here), files,
      Table.get?_put, if_neg elsewhere]

theorem stored_of_same (soundLoaded : loaded.Sound format known) {placed : Placed}
    (settled : Settled format owner config moment parsed loaded loaded upload old placed)
    (without : upload = none) {stored : PricingConfig} {row : Row}
    (new : row = newRow config placed moment)
    (ok : (writeRow owner placed old row).on loaded = (.ok stored, after)) :
    stored = row.config ∧
      Stored format known owner config upload moment archive after parsed row := by
  obtain ⟨_, kept, remote⟩ := serves_of_checked checking
  have unchanged : ∀ before ∈ old, before.storagePath = placed.storagePath ∧
      before.workbookHash = placed.workbookHash := by
    cases settled with
    | uploaded => cases without
    | stored before =>
      rintro other ⟨⟩
      exact ⟨rfl, rfl⟩
    | remote => rintro other ⟨⟩
  have files : loaded.blobs.tree.files = archive.blobs.tree.files := by rw [same.blobs]
  rw [on_writeRow_of_same row unchanged] at ok
  obtain ⟨outcome, rfl⟩ := Prod.mk.inj ok
  subst new
  refine ⟨(Except.ok.inj outcome).symm, ⟨loaded, ?_⟩, sheet, rfl, ?_, ?_,
    ⟨soundLoaded.blobs, soundLoaded.loader, soundLoaded.held⟩, ?_, ?_⟩
  · rw [current]
    exact checking
  · rw [same.rows]
  · rw [same.blobs]
  · cases settled with
    | uploaded => cases without
    | stored before => exact (kept before rfl rfl).congr rfl rfl
    | remote => exact (remote rfl rfl).2.congr rfl rfl
  · cases settled with
    | uploaded => cases without
    | stored before => exact .stored before rfl current rfl rfl files
    | remote => exact .remote rfl current (remote rfl rfl).1 rfl files

end

theorem store_ok {used : List String} (orderly : archive.Orderly format known used)
    (held : ∀ given ∈ upload, known given.data)
    (proper : ∀ stamp ∈ stampsOf upload moment, isStamp stamp = true)
    {commit : Commit} {stored : PricingConfig}
    (ok : (store format owner config upload moment commit).on archive = (.ok stored, after)) :
    ∃ parsed row, stored = row.config ∧
      Stored format known owner config upload moment archive after parsed row := by
  rw [on_store] at ok
  generalize current : archive.row? owner = old at ok
  rcases place_cases orderly.toSound owner config held old moment with
    ⟨_, _, placing, _⟩ |
    ⟨parsed, loaded, placed, ready, checking, sheet, placing, same, soundReady, settled⟩
  · rw [placing] at ok
    cases ok
  · rw [placing] at ok
    cases commit with
    | error message =>
      dsimp only at ok
      split at ok
      · rw [on_bind] at ok
        split at ok <;> cases ok
      · cases ok
    | ok done =>
      dsimp only at ok
      refine ⟨parsed, newRow config placed moment, ?_⟩
      cases settled with
      | uploaded given old name rows loader root files =>
        exact stored_of_upload current checking sheet same orderly
          (proper _ (List.mem_singleton_self _)) rfl soundReady rows loader root files rfl ok
      | stored row unchanged =>
        subst unchanged
        exact stored_of_same current checking sheet same soundReady (.stored row rfl) rfl rfl ok
      | remote name unchanged =>
        subst unchanged
        exact stored_of_same current checking sheet same soundReady (.remote name rfl) rfl rfl ok

/-- The row of an owner refers to the blob under some names. -/
def Refers (archive : Archive β) (owner : String) (names : List String) : Prop :=
  ∃ row, archive.row? owner = some row ∧ Holds archive.blobs row.storagePath names

/-- A configuration is removed with its blob, unless nothing has changed. -/
theorem clear_cases {used : List String} (orderly : archive.Orderly format known used)
    (owner : String) (commit : Commit) :
    (∃ error, (clear owner commit).on archive = (.error error, archive)) ∨
      ∃ after, (clear owner commit).on archive = (.ok ⟨⟩, after) ∧ after.Sound format known ∧
        after.rows = archive.rows.erase owner ∧ after.blobs.root = archive.blobs.root ∧
        (∀ names, archive.Refers owner names → after.blobs.tree.files.get? names = none) ∧
        ∀ names, ¬ archive.Refers owner names →
          after.blobs.tree.files.get? names = archive.blobs.tree.files.get? names := by
  rw [clear, on_bind, on_get]
  dsimp only
  cases current : archive.row? owner with
  | none =>
    refine .inr ⟨archive, rfl, orderly.toSound, (Table.erase_eq_self current).symm, rfl, ?_, ?_⟩
    · rintro names ⟨row, here, _⟩
      cases current.symm.trans here
    · exact fun _ _ => rfl
  | some row =>
    cases commit with
    | error message => exact .inl ⟨.commit message, rfl⟩
    | ok done =>
      right
      have refers (names : List String) : archive.Refers owner names ↔
          Holds archive.blobs row.storagePath names := by
        simp [Refers, current]
      have soundErased : ({ archive with rows := archive.rows.erase owner } : Archive β).Sound
          format known := ⟨orderly.blobs, orderly.loader, orderly.held⟩
      dsimp only
      rw [on_bind, on_modify]
      dsimp only
      split
      · next remote =>
        refine ⟨_, rfl, soundErased, rfl, rfl, fun names left => ?_, fun _ _ => rfl⟩
        exact absurd (((refers names).mp left).1.symm.trans remote) Bool.false_ne_true
      · next stored =>
        obtain ⟨fileName, stamp, member, path⟩ :=
          (orderly.referred owner row current).resolve_left stored
        obtain ⟨deleted, outcome, soundDeleted, rows, loader, root, files⟩ :=
          deleteBlob_frame soundErased (orderly.proper stamp member) owner fileName
        have held (names : List String) : archive.Refers owner names ↔
            names = archive.blobs.place owner fileName stamp := by
          rw [refers, path, holds_storagePath_iff _ _ _ (orderly.proper stamp member)]
        rw [on_bind, path, outcome]
        refine ⟨_, rfl, sound_evict soundDeleted _, rows, root, ?_, ?_⟩
        · intro names left
          rw [files, Table.get?_erase, if_pos ((held names).mp left)]
        · intro names kept
          rw [files, Table.get?_erase, if_neg fun here => kept ((held names).mpr here)]

end SheetPricing.Archive
