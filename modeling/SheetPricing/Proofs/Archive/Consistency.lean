import SheetPricing.Proofs.Archive.Backing

/-! Every run of operations under new stamps keeps rows and blobs consistent, and a stored
configuration loads the workbook that was checked when it was stored. -/
namespace SheetPricing.Archive
open Action Loading Storage
variable {β : Type} {format : FileFormat β} {known : β → Prop} {archive after : Archive β}
  {used : List String}

theorem backed_opened (root : Path) (timeout : Amount) (retries : Int) (replies : List (Reply β)) :
    (opened root timeout retries replies).Backed format known where
  hashed _ _ _ _ current := nomatch current
  apart := by
    rintro owner other names ⟨row, current, _⟩
    cases current
  named names data held := by
    change (BlobStore.empty root).tree.files.get? names = some data at held
    rw [BlobStore.files_empty] at held
    cases held
  vouched _ _ current := nomatch current

theorem complete_opened (root : Path) (timeout : Amount) (retries : Int)
    (replies : List (Reply β)) : (opened root timeout retries replies).Complete := by
  rintro owner names ⟨row, current, _⟩
  cases current

theorem Backed.loss (backed : archive.Backed format known) (path : Path) :
    ((Event.loss path).apply format archive).Backed format known := by
  refine backed.fewer rfl rfl fun names data held => ?_
  change (archive.blobs.tree.files.erase path.resolve.names).get? names = some data at held
  rw [Table.get?_erase] at held
  split at held
  · cases held
  · exact held

/-- What every event under new stamps carries on to the events behind it holds after a run. -/
theorem Orderly.run_induction_rest (orderly : archive.Orderly format known used)
    (P : List (Event β) → Archive β → Prop) (events : List (Event β))
    (proper : ∀ stamp ∈ events.flatMap Event.stamps, isStamp stamp = true)
    (distinct : (used ++ events.flatMap Event.stamps).Nodup)
    (held : ∀ data ∈ events.flatMap Event.uploads, known data)
    (step : ∀ used archive event rest, archive.Orderly format known used →
      P (event :: rest) archive → (∀ stamp ∈ event.stamps, isStamp stamp = true) →
      (∀ stamp ∈ event.stamps, stamp ∉ used) → (∀ data ∈ event.uploads, known data) →
      P rest (event.apply format archive))
    (start : P events archive) : P [] (Archive.run format events archive) := by
  -- The stamps of the first event are used up when the rest begins, and none of them comes again.
  induction events generalizing used archive with
  | nil => exact start
  | cons event rest ih =>
    rw [List.flatMap_cons] at proper held distinct
    have properHere := fun stamp member => proper stamp (List.mem_append_left _ member)
    have heldHere := fun data member => held data (List.mem_append_left _ member)
    have new : ∀ stamp ∈ event.stamps, stamp ∉ used := by
      intro stamp member earlier
      exact (List.nodup_append.mp distinct).2.2 stamp earlier stamp
        (List.mem_append_left _ member) rfl
    rw [← List.append_assoc] at distinct
    exact ih (orderly.apply event properHere heldHere)
      (fun stamp member => proper stamp (List.mem_append_right _ member)) distinct
      (fun data member => held data (List.mem_append_right _ member))
      (step used archive event rest orderly start properHere new heldHere)

/-- What every event under new stamps preserves holds after a run. -/
theorem Orderly.run_induction (orderly : archive.Orderly format known used)
    (P : Archive β → Prop) (events : List (Event β))
    (proper : ∀ stamp ∈ events.flatMap Event.stamps, isStamp stamp = true)
    (distinct : (used ++ events.flatMap Event.stamps).Nodup)
    (held : ∀ data ∈ events.flatMap Event.uploads, known data)
    (step : ∀ used archive, archive.Orderly format known used → P archive → ∀ event ∈ events,
      (∀ stamp ∈ event.stamps, isStamp stamp = true) → (∀ stamp ∈ event.stamps, stamp ∉ used) →
      (∀ data ∈ event.uploads, known data) → P (event.apply format archive))
    (start : P archive) : P (Archive.run format events archive) := by
  refine (orderly.run_induction_rest (fun rest archive => rest ⊆ events ∧ P archive) events proper
    distinct held ?_ ⟨List.Subset.refl events, start⟩).2
  rintro used archive event rest orderly ⟨among, here⟩ proper new held
  exact ⟨fun other inside => among (List.mem_cons_of_mem _ inside),
    step used archive orderly here event (among List.mem_cons_self) proper new held⟩

theorem Backed.apply (backed : archive.Backed format known)
    (orderly : archive.Orderly format known used)
    (noUrl : ∀ data, isUrl (format.digest data) = false) (event : Event β)
    (proper : ∀ stamp ∈ event.stamps, isStamp stamp = true)
    (new : ∀ stamp ∈ event.stamps, stamp ∉ used) (held : ∀ data ∈ event.uploads, known data) :
    (event.apply format archive).Backed format known := by
  cases event with
  | loss path => exact backed.loss path
  | refusal error => exact backed.intact ⟨rfl, rfl, rfl⟩
  | operation asked =>
    rcases perform_cases orderly backed noUrl asked proper new held with
      intact | ⟨_, _, change, _⟩
    · exact backed.intact intact
    · exact change.backed_after backed

theorem Complete.apply (complete : archive.Complete) (backed : archive.Backed format known)
    (orderly : archive.Orderly format known used)
    (noUrl : ∀ data, isUrl (format.digest data) = false) (event : Event β)
    (lossless : ∀ path, event ≠ .loss path) (proper : ∀ stamp ∈ event.stamps, isStamp stamp = true)
    (new : ∀ stamp ∈ event.stamps, stamp ∉ used) (held : ∀ data ∈ event.uploads, known data) :
    (event.apply format archive).Complete := by
  cases event with
  | loss path => exact absurd rfl (lossless path)
  | refusal error => exact complete.intact ⟨rfl, rfl, rfl⟩
  | operation asked =>
    rcases perform_cases orderly backed noUrl asked proper new held with
      intact | ⟨_, _, change, present⟩
    · exact complete.intact intact
    · exact change.complete_after backed complete (present complete)

/-- Rows and blobs as they should be. -/
structure Consistent (format : FileFormat β) (archive : Archive β) : Prop where
  /-- An owner has one row at most. -/
  owners : archive.rows.keys.Nodup
  /-- A row that has no URL has a blob with its digest, and with the worksheet that it selects. -/
  stored : ∀ owner row, archive.row? owner = some row → isUrl row.storagePath = false →
    ∃ data workbook, archive.blobs.read row.storagePath = .ok data ∧
      format.digest data = row.workbookHash ∧ format.open data = .ok workbook ∧
      workbook.hasSheet row.selectedSheet = true
  /-- No two rows have one blob. -/
  apart : ∀ owner other row otherRow, archive.row? owner = some row →
    archive.row? other = some otherRow → owner ≠ other → isUrl row.storagePath = false →
    isUrl otherRow.storagePath = false →
    archive.blobs.resolve row.storagePath ≠ archive.blobs.resolve otherRow.storagePath
  /-- Every blob is that of a row. -/
  named : ∀ names data, archive.blobs.tree.files.get? names = some data →
    ∃ owner row, archive.row? owner = some row ∧ isUrl row.storagePath = false ∧
      archive.blobs.resolve row.storagePath = .ok ⟨archive.blobs.root.anchor, names⟩

theorem consistent_of_backed (orderly : archive.Orderly format known used)
    (backed : archive.Backed format known) (complete : archive.Complete)
    (told : ∀ a b, known a → known b → format.digest a = format.digest b →
      format.sheets a = format.sheets b) : archive.Consistent format := by
  have refers {owner : String} {row : Row} (current : archive.row? owner = some row)
      (blob : isUrl row.storagePath = false) : ∃ fileName, ∃ stamp, isStamp stamp = true ∧
        row.storagePath = storagePath owner fileName stamp ∧
        Holds archive.blobs row.storagePath (archive.blobs.place owner fileName stamp) := by
    have notUrl : ¬ isUrl row.storagePath = true := by
      rw [blob]
      nofun
    obtain ⟨fileName, stamp, member, path⟩ :=
      (orderly.referred owner row current).resolve_left notUrl
    refine ⟨fileName, stamp, orderly.proper stamp member, path, ?_⟩
    rw [path, holds_storagePath_iff _ _ _ (orderly.proper stamp member)]
  refine ⟨archive.rows.distinct, ?_, ?_, ?_⟩
  · intro owner row current blob
    obtain ⟨fileName, stamp, proper, path, holds⟩ := refers current blob
    obtain ⟨data, held⟩ := Option.isSome_iff_exists.mp (complete owner _ ⟨row, current, holds⟩)
    have digest := backed.hashed owner row _ data current holds held
    have read : archive.blobs.read row.storagePath = .ok data := by
      rw [path]
      exact orderly.blobs.read_storagePath proper held
    -- The worksheets were seen in some file with the digest, which need not be the stored one.
    obtain ⟨other, workbook, known, same, opened, sheet⟩ := backed.vouched owner row current blob
    have equal := digest.trans same.symm
    have sheets := told data other (orderly.held _ data held) known equal
    refine ⟨data, workbook, read, digest, ?_, sheet⟩
    rwa [FileFormat.open, sheets, equal]
  · intro owner other row otherRow current currentOther differ blob blobOther same
    obtain ⟨fileName, stamp, proper, path, holds⟩ := refers current blob
    apply differ
    exact backed.apart owner other _ ⟨row, current, holds⟩
      ⟨otherRow, currentOther, blobOther, same.symm.trans holds.2⟩
  · intro names data held
    obtain ⟨owner, row, current, blob, resolved⟩ := backed.named names data held
    exact ⟨owner, row, current, blob, resolved⟩

/-- The data that a run can come upon. -/
def Occurs (events : List (Event β)) (replies : List (Reply β)) (data : β) : Prop :=
  data ∈ events.flatMap Event.uploads ∨ ∃ status reason, .response status reason data ∈ replies

/-- An upload, then one that names no worksheet, one that cannot be written, one whose row cannot be
written, and a configuration with the URL of a file that is downloaded. -/
def sampleEvents : List (Event Json) :=
  [.operation (sampleStore "anna" "Prijzen" 1 '1' (.ok ())),
    .operation (sampleStore "bert" "Blad1" 2 '2' (.ok ())),
    .refusal (some ⟨.notDirectory, "/data/pricing/bert"⟩),
    .operation (sampleStore "bert" "Prijzen" 2 '3' (.ok ())), .refusal none,
    .operation (sampleStore "anna" "Prijzen" 2 '4' (.error "commit failed")),
    .operation (.store "carl" ⟨"https://example.com/prijzen.xlsx", "", "Prijzen",
      PricingConfig.defaultCells, PricingConfig.defaultPriceCell, none⟩ none ⟨"", "2024-01-31"⟩
      (.ok ())),
    .operation .clearCache]

section
variable {owner : String} {config : PricingConfig} {upload : Option (Upload β)} {moment : Moment}
  {parsed : Parsed} {row : Row}
  (stored : Stored format known owner config upload moment archive after parsed row)
  (noUrl : ∀ data, isUrl (format.digest data) = false)
include stored noUrl

theorem Stored.hash_of_upload (sound : archive.Sound format known) {given : Upload β}
    (here : upload = some given) (held : known given.data)
    (hash : row.workbookHash = format.digest given.data) :
    row.workbookHash = parsed.workbook.hash := by
  obtain ⟨loaded, ok⟩ := stored.checked
  have uploads : ∀ other ∈ upload, known other.data := by
    rintro other there
    obtain rfl := Option.some.inj (here.symm.trans there)
    exact held
  have soundLoaded := (checked_frame sound config uploads (archive.row? owner)).2
  rw [ok] at soundLoaded
  have cached := (serves_of_checked ok).1 given here
  rw [hash, soundLoaded.loader.hash cached (noUrl given.data)]

/-- The blob of a row still has the digest that the row says. -/
theorem Stored.hash_of_blob (backed : archive.Backed format known) {old : Row}
    (here : archive.row? owner = some old) (path : row.storagePath = old.storagePath)
    (files : after.blobs.tree.files = archive.blobs.tree.files)
    (blob : isUrl old.storagePath = false) : old.workbookHash = parsed.workbook.hash := by
  have serves := stored.serves
  rw [path] at serves
  cases serves with
  | remote url => exact absurd (blob.symm.trans url) nofun
  | stored _ data read cached =>
    obtain ⟨names, resolved, held⟩ := BlobStore.held_of_read read
    have holds : Holds archive.blobs old.storagePath names :=
      (holds_congr stored.root).mp ⟨blob, resolved⟩
    rw [files] at held
    rw [stored.sound.loader.hash cached (noUrl data)]
    exact (backed.hashed owner old names data here holds held).symm

end

/-- A stored configuration loads the very workbook whose worksheets were checked for it, in any run.
The digest that it says is that of this workbook where the workbook was uploaded or downloaded for
it, and also where it was stored already under a new stamp. A row with a URL keeps the digest that
it had. -/
theorem loads_checked_of_store {root : Path} {timeout : Amount} {retries : Int}
    {replies : List (Reply β)} {events : List (Event β)} {owner : String} {config : PricingConfig}
    {upload : Option (Upload β)} {moment : Moment} {commit : Commit} {stored : PricingConfig}
    (noUrl : ∀ data, isUrl (format.digest data) = false)
    (proper : ∀ stamp ∈ events.flatMap Event.stamps ++ stampsOf upload moment, isStamp stamp = true)
    (ok : (store format owner config upload moment commit).on
      (run format events (opened root timeout retries replies)) = (.ok stored, after)) :
    ∃ parsed, (∃ loaded, (checked format config upload
          ((run format events (opened root timeout retries replies)).row? owner)).on
        (run format events (opened root timeout retries replies)) = (.ok parsed, loaded)) ∧
      parsed.workbook.hasSheet config.sheetName = true ∧
      after.config? owner = some stored ∧
      (loadWorkbook format stored).on after = (.ok parsed, after) ∧
      (upload.isSome ∨ (run format events (opened root timeout retries replies)).row? owner = none →
        stored.workbookHash = some parsed.workbook.hash) ∧
      ∀ row, upload = none →
        (run format events (opened root timeout retries replies)).row? owner = some row →
        stored.workbookHash = some row.workbookHash ∧
          (isUrl row.storagePath = false → (events.flatMap Event.stamps).Nodup →
            row.workbookHash = parsed.workbook.hash) := by
  have start : (opened root timeout retries replies).Orderly format (fun _ => True) [] :=
    orderly_opened root timeout retries fun _ _ _ _ => trivial
  have properRun := fun stamp member => proper stamp (List.mem_append_left _ member)
  have orderly := start.run events properRun fun _ _ => trivial
  have backed (distinct : (events.flatMap Event.stamps).Nodup) :=
    start.run_induction (fun archive => archive.Backed format fun _ => True) events properRun
      distinct (fun _ _ => trivial)
      (fun used archive orderly backed event _ => backed.apply orderly noUrl event)
      (backed_opened root timeout retries replies)
  obtain ⟨parsed, row, rfl, stored⟩ := store_ok orderly (fun _ _ => trivial)
    (fun stamp member => proper stamp (List.mem_append_right _ member)) ok
  refine ⟨parsed, stored.checked, stored.sheet, ?_, ?_, ?_, ?_⟩
  · rw [config?, row?_put stored.rows, if_pos rfl]
    rfl
  · exact on_loadWorkbook_of_serves stored.serves
  · intro either
    cases stored.origin with
    | uploaded given name here path hash =>
      have same := stored.hash_of_upload noUrl orderly.toSound here trivial hash
      exact congrArg some same
    | stored old without here =>
      rcases either with given | new
      · rw [without] at given
        cases given
      · cases here.symm.trans new
    | remote without new url hash => exact congrArg some hash
  · intro old without here
    cases stored.origin with
    | uploaded given name given' => cases without.symm.trans given'
    | stored other _ there path hash files =>
      obtain rfl := Option.some.inj (here.symm.trans there)
      exact ⟨congrArg some hash, fun blob distinct =>
        stored.hash_of_blob noUrl (backed distinct) here path files blob⟩
    | remote _ new => cases new.symm.trans here

theorem loads_checked_of_store_of_upload :
    let before := run cellFormat [.operation (sampleStore "anna" "Prijzen" 1 '1' (.ok ()))]
      (sampleStart [])
    let config : PricingConfig :=
      ⟨"", "", "Prijzen", PricingConfig.defaultCells, PricingConfig.defaultPriceCell, none⟩
    let step := (store cellFormat "anna" config (some ⟨oneCellFile "Prijzen" 2, none⟩)
      ⟨"20240131_080002_000000", "2024-01-31"⟩ (.ok ())).on before
    ∃ stored parsed, step.1 = .ok stored ∧
      (loadWorkbook cellFormat stored).on step.2 = (.ok parsed, step.2) ∧
      stored.workbookHash = some parsed.workbook.hash := by
  intro before config step
  have succeeded : step.1.toOption.isSome = true := by decide +kernel
  rcases outcome : step with ⟨error | stored, after⟩
  · rw [outcome] at succeeded
    cases succeeded
  · obtain ⟨parsed, _, _, _, loads, hash, _⟩ :=
      loads_checked_of_store isUrl_digest (by decide) outcome
    exact ⟨stored, parsed, rfl, loads, hash (.inl rfl)⟩

end SheetPricing.Archive
