import SheetPricing.Proofs.Archive.Consistency
import SheetPricing.Proofs.Loading.Agreement
import SheetPricing.Proofs.Pricing.Config

/-! What an owner stores with an upload is got back. The row and the blob of an owner stay what they
are while other owners store and clear, while operations of the owner fail and while workbooks are
loaded, for another owner's change leaves both alone and a failed operation leaves everything
alone. -/
namespace SheetPricing.Archive
open Action Loading Storage Schema
variable {β : Type} {format : FileFormat β} {known : β → Prop} {archive after : Archive β}
  {used names : List String} {owner : String} {config : PricingConfig}
  {upload : Option (Upload β)} {moment : Moment} {commit : Commit} {row : Row} {data : β}

/-- What an owner stored with a workbook is there: the configuration, the data of the workbook, and
the workbook that they hold. -/
structure Kept (format : FileFormat β) (archive : Archive β) (owner : String)
    (stored : PricingConfig) (data : β) : Prop where
  config : archive.config? owner = some stored
  blob : archive.blobs.read stored.workbookRef = .ok data
  workbook : ∃ workbook, format.open data = .ok workbook ∧
    ((loadWorkbook format stored).on archive).1.map Parsed.workbook = .ok workbook

namespace Event

/-- Whether an event leaves an owner alone: no file gets lost, and no change to the configuration of
the owner succeeds. -/
def spares (format : FileFormat β) (owner : String) : Event β → Archive β → Bool
  | .operation asked, archive =>
    asked.owner? ≠ some owner || ((asked.act format).on archive).1.toOption.isNone
  | .refusal _, _ => true
  | .loss _, _ => false

end Event

/-- Whether all events of a run leave an owner alone. -/
def spares (format : FileFormat β) (owner : String) : List (Event β) → Archive β → Bool
  | [], _ => true
  | event :: rest, archive =>
    event.spares format owner archive && spares format owner rest (event.apply format archive)

/-- An owner has a row, and a file with these names holds the data that it refers to. -/
structure Archived (archive : Archive β) (owner : String) (row : Row) (names : List String)
    (data : β) : Prop where
  current : archive.row? owner = some row
  holds : Holds archive.blobs row.storagePath names
  file : archive.blobs.tree.files.get? names = some data

namespace Archived
variable (here : Archived archive owner row names data)
include here

theorem intact (intact : Intact archive after) : Archived after owner row names data where
  current := by
    rw [row?, intact.rows]
    exact here.current
  holds := (holds_congr intact.root).mpr here.holds
  file := by
    rw [intact.files]
    exact here.file

theorem change {changed : String} (change : Change format known archive after changed)
    (backed : archive.Backed format known) (apart : owner ≠ changed) :
    Archived after owner row names data where
  current := by
    rw [change.others owner apart]
    exact here.current
  holds := (holds_congr change.root).mpr here.holds
  file := by
    rw [change.files_of_other backed apart ⟨row, here.current, here.holds⟩]
    exact here.file

theorem apply (backed : archive.Backed format known) (orderly : archive.Orderly format known used)
    (noUrl : ∀ data, isUrl (format.digest data) = false) (event : Event β)
    (spared : event.spares format owner archive = true)
    (proper : ∀ stamp ∈ event.stamps, isStamp stamp = true)
    (new : ∀ stamp ∈ event.stamps, stamp ∉ used) (held : ∀ data ∈ event.uploads, known data) :
    Archived (event.apply format archive) owner row names data := by
  cases event with
  | loss path => cases spared
  | refusal error => exact here.intact ⟨rfl, rfl, rfl⟩
  | operation asked =>
    rcases Bool.or_eq_true_iff.mp spared with other | failed
    · have apart : asked.owner? ≠ some owner := of_decide_eq_true other
      rcases perform_cases orderly backed noUrl asked proper new held with
        intact | ⟨changed, named, change, _⟩
      · exact here.intact intact
      · exact here.change change backed fun same => apart (same ▸ named)
    · rcases outcome : (asked.act format).on archive with ⟨error | done, after⟩
      · rw [Event.apply, outcome]
        exact here.intact (orderly.intact_of_error asked proper new held outcome)
      · rw [outcome] at failed
        cases failed

theorem read (orderly : archive.Orderly format known used) :
    archive.blobs.read row.storagePath = .ok data := by
  obtain ⟨blob, resolved⟩ := here.holds
  have notUrl : ¬ isUrl row.storagePath = true := by
    rw [blob]
    nofun
  obtain ⟨fileName, stamp, member, path⟩ :=
    (orderly.referred owner row here.current).resolve_left notUrl
  have proper := orderly.proper stamp member
  have place : names = archive.blobs.place owner fileName stamp := by
    rw [← holds_storagePath_iff _ _ _ proper, ← path]
    exact here.holds
  rw [path]
  exact orderly.blobs.read_storagePath proper (place ▸ here.file)

theorem kept (orderly : archive.Orderly format known used)
    (noUrl : ∀ data, isUrl (format.digest data) = false)
    (told : ∀ a b, known a → known b → format.digest a = format.digest b →
      format.sheets a = format.sheets b)
    {workbook : Workbook} (opened : format.open data = .ok workbook) :
    Kept format archive owner row.config data where
  config := by
    rw [config?, here.current]
    rfl
  blob := here.read orderly
  workbook := by
    refine ⟨workbook, opened, ?_⟩
    have loads := Loader.workbook_of_loadBytes told noUrl orderly.loader
      (orderly.held names data here.file)
    have blob : archive.blobs.read row.config.workbookRef = .ok data := here.read orderly
    have stored : isUrl row.config.workbookRef = false := here.holds.1
    rw [on_loadWorkbook_of_stored stored, blob]
    dsimp only
    rw [withLoader, on_within, loads, opened]

end Archived

/-- What spares an owner leaves what it has stored as it is. -/
theorem archived_run {later : List (Event β)} (here : Archived archive owner row names data)
    (orderly : archive.Orderly format known used) (backed : archive.Backed format known)
    (noUrl : ∀ data, isUrl (format.digest data) = false)
    (proper : ∀ stamp ∈ later.flatMap Event.stamps, isStamp stamp = true)
    (distinct : (used ++ later.flatMap Event.stamps).Nodup)
    (held : ∀ data ∈ later.flatMap Event.uploads, known data)
    (spared : spares format owner later archive = true) :
    Archived (run format later archive) owner row names data := by
  refine (orderly.run_induction_rest (fun rest archive => Archived archive owner row names data ∧
    archive.Backed format known ∧ spares format owner rest archive = true) later proper distinct
    held ?_ ⟨here, backed, spared⟩).1
  rintro used archive event rest orderly ⟨here, backed, spared⟩ proper new held
  obtain ⟨event, rest⟩ := Bool.and_eq_true_iff.mp spared
  exact ⟨here.apply backed orderly noUrl _ event proper new held,
    backed.apply orderly noUrl _ proper new held, rest⟩

theorem value_of_writeRow {placed : Placed} {old : Option Row} {stored : PricingConfig}
    (ok : ((writeRow owner placed old row).on archive).1 = .ok stored) : stored = row.config := by
  obtain ⟨_, written, _, ok⟩ := exists_of_on_bind ok
  rcases old with _ | before
  · exact (Except.ok.inj ok).symm
  · obtain ⟨_, _, _, ok⟩ := exists_of_on_bind ok
    exact (Except.ok.inj ok).symm

/-- The row that is written has the sheet and the cells that are given, with the workbook that is
ready. -/
theorem placed_of_store {stored : PricingConfig}
    (ok : (store format owner config upload moment commit).on archive = (.ok stored, after)) :
    ∃ placed, stored = (newRow config placed moment).config ∧
      ((place format owner config upload (archive.row? owner) moment).on archive).1
        = .ok placed := by
  rw [on_store] at ok
  split at ok
  · cases ok
  · next placed ready placing =>
    rw [placing]
    refine ⟨placed, ?_, rfl⟩
    cases commit with
    | ok done => exact value_of_writeRow (congrArg Prod.fst ok)
    | error message =>
      dsimp only at ok
      split at ok
      · obtain ⟨_, _, _, failed⟩ := exists_of_on_bind (congrArg Prod.fst ok)
        cases failed
      · cases ok

theorem eq_of_place_stored {placed : Placed}
    (ok : ((place format owner config none (some row) moment).on archive).1 = .ok placed) :
    placed = ⟨row.storagePath, row.fileName, row.workbookHash⟩ := by
  rw [place, placeStored] at ok
  obtain ⟨parsed, _, _, ok⟩ := exists_of_on_bind ok
  split at ok
  · cases ok
  · exact (Except.ok.inj ok).symm

theorem archived_of_store {given : Upload β} {stored : PricingConfig}
    (orderly : archive.Orderly format known used) (backed : archive.Backed format known)
    (noUrl : ∀ data, isUrl (format.digest data) = false)
    (told : ∀ a b, known a → known b → format.digest a = format.digest b →
      format.sheets a = format.sheets b)
    (proper : ∀ stamp ∈ stampsOf (some given) moment, isStamp stamp = true)
    (new : ∀ stamp ∈ stampsOf (some given) moment, stamp ∉ used) (held : known given.data)
    (ok : (store format owner config (some given) moment commit).on archive
      = (.ok stored, after)) :
    ∃ row names workbook, stored = row.config ∧ row.workbookHash = format.digest given.data ∧
      format.open given.data = .ok workbook ∧ Archived after owner row names given.data ∧
      after.Orderly format known (used ++ stampsOf (some given) moment) ∧
      after.Backed format known := by
  have uploaded : ∀ other ∈ some given, known other.data := by
    rintro other ⟨⟩
    exact held
  obtain ⟨parsed, row, same, written⟩ := store_ok orderly uploaded proper ok
  cases written.origin with
  | uploaded _ name here path hash saved =>
    obtain rfl := Option.some.inj here
    have opened : format.open given.data = .ok parsed.workbook := by
      obtain ⟨loaded, checked⟩ := written.checked
      have read := loader_of_withLoader (ok_of_orLoadError checked)
      have loads := Loader.workbook_of_loadBytes told noUrl orderly.loader held
      rw [read] at loads
      exact loads.symm
    have here : Archived after owner row (archive.blobs.place owner name moment.stamp) given.data := by
      refine ⟨?_, ?_, saved⟩
      · rw [row?_put written.rows, if_pos rfl]
      · rw [holds_congr written.root, path,
          holds_storagePath_iff _ _ _ (proper _ (List.mem_singleton_self _))]
    exact ⟨row, _, parsed.workbook, same, hash, opened, here, orderly.stored proper written,
      (written.change orderly proper new backed noUrl).backed_after backed⟩
  | stored _ without => cases without
  | remote without => cases without

/-- A configuration that is stored without an upload refers to what the one before it did. -/
theorem archived_of_store_again {stored : PricingConfig}
    (here : Archived archive owner row names data) (orderly : archive.Orderly format known used)
    (ok : (store format owner config none moment commit).on archive = (.ok stored, after)) :
    ∃ again, stored = again.config ∧ again.config = ⟨row.storagePath, row.fileName,
        config.sheetName, config.inputCells, config.priceCell, some row.workbookHash⟩ ∧
      Archived after owner again names data ∧ after.Orderly format known used := by
  have noUpload : ∀ other ∈ (none : Option (Upload β)), known other.data := by
    rintro other ⟨⟩
  have noStamp : ∀ stamp ∈ stampsOf (none : Option (Upload β)) moment, isStamp stamp = true :=
    List.forall_mem_nil _
  obtain ⟨parsed, again, same, written⟩ := store_ok orderly noUpload noStamp ok
  obtain ⟨placed, parts, placing⟩ := placed_of_store ok
  rw [here.current] at placing
  rw [eq_of_place_stored placing] at parts
  have orderlyAfter := orderly.stored noStamp written
  rw [show stampsOf (none : Option (Upload β)) moment = [] from rfl, List.append_nil] at orderlyAfter
  refine ⟨again, same, same.symm.trans parts, ⟨?_, ?_, ?_⟩, orderlyAfter⟩
  · rw [row?_put written.rows, if_pos rfl]
  · have path : again.storagePath = row.storagePath :=
      congrArg PricingConfig.workbookRef (same.symm.trans parts)
    rw [holds_congr written.root, path]
    exact here.holds
  · cases written.origin with
    | uploaded _ _ given => cases given
    | stored _ _ _ _ _ files =>
      rw [files]
      exact here.file
    | remote _ new => cases here.current.symm.trans new

/-- A configuration that an owner stores with an upload is got back as it was given, with the data
of the upload and the workbook in them, whatever other owners do and whatever fails afterwards. When
the owner stores another configuration without an upload, the sheet and the cells are those of the
new one, and the workbook stays. -/
theorem kept_of_store {root : Path} {timeout : Amount} {retries : Int} {replies : List (Reply β)}
    {events later whole : List (Event β)} {fields : Fields} {given : Upload β}
    {stored : PricingConfig}
    (course : whole = events ++ .operation (.store owner config (some given) moment commit) :: later)
    (noUrl : ∀ data, isUrl (format.digest data) = false)
    (told : ∀ a b, Occurs whole replies a → Occurs whole replies b →
      format.digest a = format.digest b → format.sheets a = format.sheets b)
    (proper : ∀ stamp ∈ whole.flatMap Event.stamps, isStamp stamp = true)
    (distinct : (whole.flatMap Event.stamps).Nodup)
    (accepted : PricingConfig.ofFields fields = .ok config)
    (ok : (store format owner config (some given) moment commit).on
      (run format events (opened root timeout retries replies)) = (.ok stored, after))
    (spared : spares format owner later after = true) :
    stored.sheetName = config.sheetName ∧ stored.inputCells = config.inputCells ∧
      stored.priceCell = config.priceCell ∧
      stored.workbookHash = some (format.digest given.data) ∧
      PricingConfig.ofFields stored.fields = .ok stored ∧
      Kept format (run format later after) owner stored given.data ∧
      ∀ next moment commit again last,
        (store format owner next none moment commit).on (run format later after)
          = (.ok again, last) →
        again.workbookRef = stored.workbookRef ∧ again.fileName = stored.fileName ∧
          again.workbookHash = stored.workbookHash ∧ again.sheetName = next.sheetName ∧
          again.inputCells = next.inputCells ∧ again.priceCell = next.priceCell ∧
          Kept format last owner again given.data := by
  have start : (opened root timeout retries replies).Orderly format (Occurs whole replies) [] :=
    orderly_opened root timeout retries fun status reason body inside =>
      .inr ⟨status, reason, inside⟩
  have stamps : whole.flatMap Event.stamps = events.flatMap Event.stamps
      ++ (stampsOf (some given) moment ++ later.flatMap Event.stamps) := by
    rw [course, List.flatMap_append, List.flatMap_cons]
    rfl
  have uploads : whole.flatMap Event.uploads
      = events.flatMap Event.uploads ++ ([given.data] ++ later.flatMap Event.uploads) := by
    rw [course, List.flatMap_append, List.flatMap_cons]
    rfl
  have held : ∀ data ∈ whole.flatMap Event.uploads, Occurs whole replies data :=
    fun data member => .inl member
  rw [uploads, List.forall_mem_append, List.forall_mem_append] at held
  rw [stamps, List.forall_mem_append, List.forall_mem_append] at proper
  rw [stamps, ← List.append_assoc] at distinct
  obtain ⟨heldBefore, heldHere, heldLater⟩ := held
  obtain ⟨properBefore, properHere, properLater⟩ := proper
  have earlier := List.nodup_append.mp (List.nodup_append.mp distinct).1
  have backed := start.run_induction (fun archive => archive.Backed format (Occurs whole replies))
    events properBefore earlier.1 heldBefore
    (fun used archive orderly backed event _ => backed.apply orderly noUrl event)
    (backed_opened root timeout retries replies)
  obtain ⟨row, names, workbook, rfl, hash, opened, here, orderlyAfter, backedAfter⟩ :=
    archived_of_store (start.run events properBefore heldBefore) backed noUrl told properHere
      (fun stamp member before => earlier.2.2 stamp before stamp member rfl)
      (heldHere _ (List.mem_singleton_self _)) ok
  have final := archived_run here orderlyAfter backedAfter noUrl properLater distinct heldLater
    spared
  have orderlyFinal := orderlyAfter.run later properLater heldLater
  obtain ⟨placed, parts, _⟩ := placed_of_store ok
  have sheet : row.config.sheetName = config.sheetName := by rw [parts]; rfl
  have cells : row.config.inputCells = config.inputCells := by rw [parts]; rfl
  have price : row.config.priceCell = config.priceCell := by rw [parts]; rfl
  have plain := PricingConfig.accepted_of_ofFields accepted
  have again : row.config.Accepted :=
    ⟨cells ▸ plain.cells, price ▸ plain.price, sheet ▸ plain.sheet⟩
  refine ⟨sheet, cells, price, congrArg some hash, again.ofFields_fields,
    final.kept orderlyFinal noUrl told opened, ?_⟩
  intro next moment commit stored last ok
  obtain ⟨rowNext, rfl, parts, hereNext, orderlyLast⟩ :=
    archived_of_store_again final orderlyFinal ok
  have kept := hereNext.kept orderlyLast noUrl told opened
  rw [parts] at kept ⊢
  exact ⟨rfl, rfl, rfl, rfl, rfl, rfl, kept⟩

/-- A configuration for a worksheet. -/
def numberConfig (sheet : String) : PricingConfig :=
  ⟨"", "", sheet, PricingConfig.defaultCells, PricingConfig.defaultPriceCell, none⟩

/-- An owner stores a number, in some minute of a day. -/
def numberStore (owner sheet : String) (number : Int) (minute : Char) (commit : Commit) :
    Operation Int :=
  .store owner (numberConfig sheet) (some ⟨number, none⟩)
    ⟨String.ofList ("20240131_08000".toList ++ minute :: "_000000".toList), "2024-01-31"⟩ commit

/-- Another owner comes and goes, and the owner fails to write a row, to name a worksheet, to clear
and to write a blob, while nothing is kept in mind. -/
def numberLater : List (Event Int) :=
  [.operation (numberStore "bert" "Prijzen" 2 '3' (.ok ())),
    .operation (numberStore "anna" "Prijzen" 1 '4' (.error "commit failed")),
    .operation (numberStore "anna" "Blad1" 1 '5' (.ok ())), .operation .clearCache,
    .operation (.clear "anna" (.error "commit failed")),
    .refusal (some ⟨.notDirectory, "/data/pricing/anna"⟩),
    .operation (numberStore "anna" "Prijzen" 1 '6' (.ok ())),
    .operation (.clear "bert" (.ok ()))]

theorem kept_of_store_of_numberLater :
    let events := [.operation (numberStore "bert" "Prijzen" 1 '1' (.ok ()))]
    let step := (store numberFormat "anna" (numberConfig "Prijzen") (some ⟨2, none⟩)
      ⟨"20240131_080002_000000", "2024-01-31"⟩ (.ok ())).on
      (run numberFormat events (opened (Path.ofText "/data") (.real 5) 0 []))
    ∃ stored, step.1 = .ok stored ∧
      Kept numberFormat (run numberFormat numberLater step.2) "anna" stored 2 := by
  intro events step
  have state : (step.1.toOption.isSome, spares numberFormat "anna" numberLater step.2)
      = (true, true) := by
    decide +kernel
  have accepted : PricingConfig.ofFields [("workbook_ref", .text ""),
      ("sheet_name", .text "Prijzen"), ("price_cell", .text " a5 ")]
      = .ok (numberConfig "Prijzen") := by decide +kernel
  let whole := events ++ .operation (.store "anna" (numberConfig "Prijzen") (some ⟨2, none⟩)
    ⟨"20240131_080002_000000", "2024-01-31"⟩ (.ok ())) :: numberLater
  have number {data : Int} (occurs : Occurs whole [] data) : data ∈ [1, 2] := by
    rcases occurs with upload | ⟨status, reason, reply⟩
    · have uploads : data ∈ [1, 2, 2, 1, 1, 1] := upload
      simp only [List.mem_cons, List.not_mem_nil, or_false] at uploads ⊢
      omega
    · cases reply
  have digests : ∀ a ∈ [1, 2], ∀ b ∈ [1, 2],
      numberFormat.digest a = numberFormat.digest b → a = b := by decide +kernel
  have told (a b : Int) (first : Occurs whole [] a) (second : Occurs whole [] b)
      (same : numberFormat.digest a = numberFormat.digest b) :
      numberFormat.sheets a = numberFormat.sheets b := by
    rw [digests a (number first) b (number second) same]
  have noUrl (data : Int) : isUrl (numberFormat.digest data) = false :=
    isUrl_digest (oneCellFile "Prijzen" data)
  have proper : ∀ stamp ∈ whole.flatMap Event.stamps, isStamp stamp = true := by decide
  have distinct : (whole.flatMap Event.stamps).Nodup := by decide
  have course : whole = events ++ .operation (.store "anna" (numberConfig "Prijzen")
    (some ⟨2, none⟩) ⟨"20240131_080002_000000", "2024-01-31"⟩ (.ok ())) :: numberLater := rfl
  obtain ⟨succeeded, spared⟩ := Prod.mk.inj state
  cases outcome : step.1 with
  | error error =>
    rw [outcome] at succeeded
    cases succeeded
  | ok stored =>
    have ok : step = (.ok stored, step.2) := Prod.ext outcome rfl
    obtain ⟨_, _, _, _, _, kept, _⟩ :=
      kept_of_store course noUrl told proper distinct accepted ok spared
    exact ⟨stored, rfl, kept⟩

end SheetPricing.Archive
