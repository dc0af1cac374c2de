import SheetPricing.Proofs.Loading.Agreement
import SheetPricing.Proofs.Service.Confinement

/-! A service as one owner sees it. All that the answers to an owner depend on is what the owner has
stored: a row as it is shown, and its workbook. -/
namespace SheetPricing

/-- A row up to where its workbook is stored and when it was written. -/
def Row.shown (row : Row) : Row := { row with storagePath := "", updatedAt := "" }

end SheetPricing

namespace SheetPricing.Service
open Action App Archive Loading Storage
variable {β : Type} {format : FileFormat β} {known : β → Prop} {used : List String}
  {houses places : List (List String)} {app after : App β} {moment : Moment} {owner : String}

/-- What a response tells, up to where workbooks are stored and when rows were written. -/
def Answer.shown : Answer → Answer
  | .stored row => .stored row.shown
  | .worksheets config names => .worksheets { config with workbookRef := "" } names
  | answer => answer

def Response.shown (response : Response) : Response := response.map Answer.shown

/-- Whether the upload that is asked to be stored can be saved. -/
def Errand.Fits (root : Path) (owner : String) (moment : Moment) (fits : Bool) : Errand β → Prop
  | .store submission => ∀ given ∈ submission.upload,
      fits = true ↔ (blobAt root owner (savedName submission.config given) moment.stamp).Fits
  | _ => True

/-- What an owner has stored: a row as it is shown, and its workbook. -/
structure Holding where
  row : Row
  workbook : Workbook

/-- A price does not depend on where the workbook is stored. -/
theorem calculate_of_shown (row : Row) (workbook : Workbook) (inputs : PerDimension (Option RawInput)) :
    Template.calculate ⟨row.shown.config, workbook⟩ inputs
      = Template.calculate ⟨row.config, workbook⟩ inputs := rfl

theorem shown_priceAnswer (outcome : Except (PriceFailure LoadFault) PriceResult) :
    Response.shown (priceAnswer outcome) = priceAnswer outcome := by
  cases outcome <;> rfl

namespace Holding

def template (holding : Holding) : Template := ⟨holding.row.config, holding.workbook⟩

/-- The holding of a configuration with a workbook, which has to have the worksheet. -/
def checked (config : PricingConfig) (workbook : Workbook) (fileName hash : String) :
    Except Rejection Holding :=
  match checkSheet workbook config.sheetName with
  | .error error => .error (.refusedConfig error)
  | .ok () => .ok ⟨newRow config ⟨"", fileName, hash⟩ ⟨"", ""⟩, workbook⟩

/-- What a submission makes of what an owner has; `fits` says whether an upload can be saved. -/
def submitted (format : FileFormat β) (fits : Bool) (submission : Submission β) :
    Option Holding → Except Rejection Holding := fun before =>
  match submission.upload, before with
  | some given, _ => do
    let workbook ← (format.open given.data).mapError (rejectChange ∘ .load)
    let holding ← checked submission.config workbook (savedName submission.config given)
      (format.digest given.data)
    if fits then return holding else throw .broken
  | none, some holding =>
    checked submission.config holding.workbook holding.row.fileName holding.row.workbookHash
  | none, none => .error (.refusedConfig .noWorkbook)

end Holding

/-- The answer to an owner who has something stored or nothing, with what the owner has then. -/
def Errand.answer (format : FileFormat β) (fits : Bool) (before : Option Holding) :
    Errand β → Response × Option Holding
  | .config =>
    (match before with
      | some holding => .ok (.stored holding.row)
      | none => .error .notConfigured, before)
  | .store submission =>
    match Holding.submitted format fits submission before with
    | .ok holding => (.ok (.stored holding.row), some holding)
    | .error rejection => (.error rejection, before)
  | .clear => (.ok .cleared, none)
  | .sheets =>
    (match before with
      | some holding => .ok (.worksheets holding.row.config holding.workbook.sheetNames)
      | none => .error .notConfigured, before)
  | .price inputs =>
    (priceAnswer (Session.priced inputs (.ok (before.map Holding.template))), before)

/-- What an owner has stored in an archive. -/
def Has (format : FileFormat β) (known : β → Prop) (archive : Archive β) (owner : String) :
    Option Holding → Prop
  | none => archive.row? owner = none
  | some holding => ∃ row, archive.row? owner = some row ∧ row.shown = holding.row ∧
      ∃ data, known data ∧ format.open data = .ok holding.workbook ∧
        format.digest data = row.workbookHash

theorem Has.congr {archive final : Archive β} {holding : Option Holding}
    (has : Has format known archive owner holding)
    (same : final.row? owner = archive.row? owner) : Has format known final owner holding := by
  cases holding with
  | none => exact same.trans has
  | some holding =>
    obtain ⟨row, current, rest⟩ := has
    exact ⟨row, same.trans current, rest⟩

/-- Storing ends as it was told: it is rejected for the same reason, or the owner has what was told. -/
inductive Ends (format : FileFormat β) (known : β → Prop) (owner : String) :
    Except Rejection Holding → Except ArchiveError PricingConfig × Archive β → Prop
  | rejected (error : ArchiveError) (archive : Archive β) :
    Ends format known owner (.error (rejectChange error)) (.error error, archive)
  | stored (holding : Holding) (config : PricingConfig) (archive : Archive β)
    (has : Has format known archive owner (some holding)) :
    Ends format known owner (.ok holding) (.ok config, archive)

section
variable (steady : Steady format known used houses places app)
  (noUrl : ∀ data, isUrl (format.digest data) = false)
  (told : ∀ a b, known a → known b → format.digest a = format.digest b →
    format.sheets a = format.sheets b)
include steady noUrl told

/-- The workbook of what an owner has is loaded. -/
theorem Steady.load_holding {holding : Holding}
    (has : Has format known app.archive owner (some holding)) :
    ∃ row parsed archive, app.archive.row? owner = some row ∧ row.shown = holding.row ∧
      (loadWorkbook format row.config).on app.archive = (.ok parsed, archive) ∧
      parsed.workbook = holding.workbook := by
  obtain ⟨row, current, shown, data, held, opened, digest⟩ := has
  obtain ⟨parsed, archive, seen, loaded, heldToo, openedToo, digestToo⟩ :=
    steady.inStep.archive.load_row noUrl told current
  have same := Loader.open_eq_of_digest told heldToo held (digestToo.trans digest.symm)
  rw [opened, openedToo] at same
  exact ⟨row, parsed, archive, current, shown, loaded, Except.ok.inj same⟩

/-- A price is calculated with the row and the workbook of what an owner has. -/
theorem Steady.priced_loadOwner {holding : Option Holding}
    (has : Has format known app.archive owner holding) (inputs : PerDimension (Option RawInput)) :
    Session.priced inputs (loadOwner format owner app).1
      = Session.priced inputs (.ok (holding.map Holding.template)) := by
  rcases holding with _ | holding
  · have absent : app.archive.row? owner = none := has
    rw [steady.inStep.loadOwner_of_none absent]
    rfl
  · obtain ⟨row, current, shown, data, held, opened, digest⟩ := has
    obtain ⟨template, _, _, loaded, _, ⟨config, seen, heldToo, openedToo, digestToo⟩, _⟩ :=
      steady.inStep.loadOwner_of_row noUrl told current
    have same := Loader.open_eq_of_digest told heldToo held (digestToo.trans digest.symm)
    rw [opened, openedToo] at same
    rw [loaded, Option.map_some, Session.priced, Session.priced, Holding.template, ← shown,
      calculate_of_shown, ← config, ← Except.ok.inj same]

/-- What is stored already is stored again with another configuration. -/
theorem Steady.ends_store_stored {holding : Holding}
    (has : Has format known app.archive owner (some holding)) (config : PricingConfig) (fits : Bool) :
    Ends format known owner (Holding.submitted format fits ⟨config, none⟩ (some holding))
      ((store format owner config none moment (.ok ())).on app.archive) := by
  obtain ⟨row, parsed, archive, current, shown, loaded, workbook⟩ :=
    steady.load_holding noUrl told has
  obtain ⟨there, sameRow, _, data, held, opened, digest⟩ := has
  obtain rfl := Option.some.inj (sameRow.symm.trans current)
  have expected : Holding.submitted format fits ⟨config, none⟩ (some holding)
      = Holding.checked config holding.workbook there.fileName there.workbookHash := by
    change Holding.checked config holding.workbook holding.row.fileName holding.row.workbookHash = _
    rw [← shown]
    rfl
  rw [expected, on_store, current, on_place_of_stored loaded owner config moment, workbook,
    Holding.checked]
  cases checkSheet holding.workbook config.sheetName with
  | error error => exact .rejected (.configuration error) _
  | ok done =>
    dsimp only
    rw [on_writeRow_of_same]
    · refine .stored _ _ _ ⟨newRow config ⟨there.storagePath, there.fileName, there.workbookHash⟩
        moment, ?_, rfl, data, held, opened, digest⟩
      rw [row?, Table.get?_put, if_pos rfl]
    · rintro before ⟨⟩
      exact ⟨rfl, rfl⟩

section
variable {config : PricingConfig} {given : Upload β} {fits : Bool}
  (granted : Task.Granted known houses places used moment (.store owner ⟨config, some given⟩))
  (fitting : fits = true ↔
    (blobAt app.archive.blobs.root owner (savedName config given) moment.stamp).Fits)
include granted fitting

omit noUrl told in
/-- An upload that fits is saved. -/
theorem Steady.save_cases :
    (fits = false ∧ ∃ error blobs, app.archive.blobs.save owner (savedName config given)
        moment.stamp given.data = (.error error, blobs)) ∨
      fits = true ∧ ∃ blobs, app.archive.blobs.save owner (savedName config given) moment.stamp
        given.data = (.ok (storagePath owner (savedName config given) moment.stamp), blobs) := by
  have formed := steady.inStep.archive.blobs
  have saves := steady.ready.save_eq_ok_iff formed steady.apart
    (granted.housed _ (List.mem_singleton_self _)) (granted.placed _ (List.mem_singleton_self _))
    given.data
  rcases formed.save_cases owner (savedName config given) moment.stamp given.data with
    ⟨error, blobs, failed, _⟩ | ⟨blobs, ok, _⟩
  · rw [← fitting, failed] at saves
    refine .inl ⟨eq_false_of_ne_true fun room => ?_, error, blobs, failed⟩
    cases saves.mpr room
  · rw [← fitting, ok] at saves
    exact .inr ⟨saves.mp rfl, blobs, ok⟩

/-- An upload is refused for what it holds or because it cannot be saved, or else it is stored. -/
theorem Steady.ends_store_upload (before : Option Holding) :
    Ends format known owner (Holding.submitted format fits ⟨config, some given⟩ before)
      ((store format owner config (some given) moment (.ok ())).on app.archive) := by
  have orderly := steady.inStep.archive.toOrderly
  have held := granted.uploads given rfl
  have loading := Loader.workbook_of_loadBytes told noUrl orderly.loader held
  have placing := on_place_of_upload format owner config given (app.archive.row? owner) moment
    app.archive
  have sound := place_cases orderly.toSound owner config granted.uploads (app.archive.row? owner)
    moment
  dsimp only at sound
  rw [placing] at sound
  rw [on_store, placing]
  change Ends format known owner (do
    let workbook ← (format.open given.data).mapError (rejectChange ∘ .load)
    let holding ← Holding.checked config workbook (savedName config given)
      (format.digest given.data)
    if fits then return holding else throw .broken) _
  generalize (Loader.loadBytes format given.data).on app.archive.loader = loaded at loading sound ⊢
  rcases loaded with ⟨failure | parsed, loader⟩
  · rw [← loading]
    exact .rejected _ _
  have opened : format.open given.data = .ok parsed.workbook := loading.symm
  rw [opened, mapError_ok, ok_bind, Holding.checked]
  dsimp only at sound ⊢
  cases sheet : checkSheet parsed.workbook config.sheetName with
  | error error => exact .rejected (.configuration error) _
  | ok done =>
    rw [sheet] at sound
    dsimp only at sound ⊢
    rw [ok_bind]
    rcases steady.save_cases granted fitting with
      ⟨rfl, error, blobs, failed⟩ | ⟨rfl, blobs, ok⟩
    · rw [failed]
      exact .rejected (.file error) _
    · rw [ok] at sound ⊢
      rcases sound with ⟨_, _, failed, _⟩ | ⟨_, _, _, ready, _, _, placed, _, soundReady, _⟩
      · cases failed
      obtain ⟨_, rfl⟩ := Prod.mk.inj placed
      have writing (placed : Placed) := writeRow_frame soundReady placed orderly.proper
        (orderly.referred owner) (newRow config placed moment)
      obtain ⟨final, written, _, rows, _⟩ := writing
        ⟨storagePath owner (savedName config given) moment.stamp, savedName config given,
          format.digest given.data⟩
      dsimp only
      rw [written]
      refine .stored _ _ _ ⟨newRow config ⟨storagePath owner (savedName config given) moment.stamp,
        savedName config given, format.digest given.data⟩ moment, ?_, rfl, given.data, held, opened,
        rfl⟩
      rw [row?, rows, Table.get?_put, if_pos rfl]

end

/-- Storing ends as the owner's holding and the submission tell. -/
theorem Steady.ends_store {holding : Option Holding}
    (has : Has format known app.archive owner holding) {submission : Submission β} {fits : Bool}
    (granted : Task.Granted known houses places used moment (.store owner submission))
    (fitting : (Errand.store submission).Fits app.archive.blobs.root owner moment fits) :
    Ends format known owner (Holding.submitted format fits submission holding)
      ((store format owner submission.config submission.upload moment (.ok ())).on app.archive) := by
  rcases submission with ⟨config, _ | given⟩
  · rcases holding with _ | holding
    · have absent : app.archive.row? owner = none := has
      rw [on_store, absent, place, granted.noUrl rfl]
      exact .rejected (.configuration .noWorkbook) _
    · exact steady.ends_store_stored noUrl told has config fits
  · exact steady.ends_store_upload noUrl told granted (fitting given rfl) holding

/-- The answer to an owner and what the owner has then are told by what the owner had. -/
theorem Steady.answers {holding : Option Holding} (has : Has format known app.archive owner holding)
    (errand : Errand β) (fits : Bool)
    (granted : (errand.task owner).Granted known houses places used moment)
    (fitting : errand.Fits app.archive.blobs.root owner moment fits) :
    Response.shown (((errand.task owner).perform format moment).on app).1
        = (errand.answer format fits holding).1 ∧
      Has format known (((errand.task owner).perform format moment).on app).2.archive owner
        (errand.answer format fits holding).2 := by
  cases errand with
  | config =>
    rw [Errand.task, Task.perform, on_showConfig]
    rcases holding with _ | holding
    · have absent : app.archive.row? owner = none := has
      rw [absent]
      exact ⟨rfl, has⟩
    · obtain ⟨row, current, shown, rest⟩ := has
      rw [current, Errand.answer, ← shown]
      exact ⟨rfl, row, current, shown, rest⟩
  | store submission =>
    have ends := steady.ends_store noUrl told has granted fitting
    have kept (error : ArchiveError) (archive : Archive β)
        (ended : (store format owner submission.config submission.upload moment (.ok ())).on
          app.archive = (.error error, archive)) : archive.rows = app.archive.rows :=
      (store_error steady.inStep.archive.toOrderly granted.uploads granted.proper ended).1.rows
    rw [Errand.task, Task.perform, archive_storeSubmission, Errand.answer, on_storeSubmission]
    generalize (store format owner submission.config submission.upload moment (.ok ())).on
      app.archive = ended at ends kept ⊢
    generalize Holding.submitted format fits submission holding = expected at ends ⊢
    cases ends with
    | rejected error archive =>
      exact ⟨rfl, has.congr (congrArg (Table.get? · owner) (kept error archive rfl))⟩
    | stored new config archive has =>
      obtain ⟨row, current, shown, rest⟩ := has
      dsimp only
      rw [on_showConfig, current, ← shown]
      exact ⟨rfl, row, current, shown, rest⟩
  | clear =>
    obtain ⟨archive, ended⟩ := clear_ok steady.inStep.archive.toOrderly owner
    rw [Errand.task, Task.perform, archive_clearConfig, on_clearConfig, ended]
    exact ⟨rfl, (steady.clear_frame noUrl owner ended).1⟩
  | sheets =>
    have same := undisturbed_perform format moment (.sheets owner) app (by rintro _ _ ⟨⟩)
      (by rintro _ ⟨⟩)
    refine ⟨?_, has.congr (congrArg (Table.get? · owner) same.rows)⟩
    rw [Errand.task, Task.perform, on_showSheets]
    rcases holding with _ | holding
    · have absent : app.archive.row? owner = none := has
      rw [absent]
      rfl
    · obtain ⟨row, parsed, archive, current, shown, loaded, workbook⟩ :=
        steady.load_holding noUrl told has
      rw [current]
      dsimp only
      rw [loaded, Errand.answer, ← shown, ← workbook]
      rfl
  | price inputs =>
    have same := undisturbed_perform format moment (.price owner inputs) app (by rintro _ _ ⟨⟩)
      (by rintro _ ⟨⟩)
    refine ⟨?_, has.congr (congrArg (Table.get? · owner) same.rows)⟩
    rw [Errand.task, Task.perform, on_ownerPrice, steady.priced_loadOwner noUrl told has]
    exact shown_priceAnswer _

end

end SheetPricing.Service
