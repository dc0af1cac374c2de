import SheetPricing.Proofs.Archive.Remembering
import SheetPricing.Proofs.Archive.Supply
import SheetPricing.Proofs.Service.Task

/-! What each task does to the service. A session that holds a template holds that of the row of its
owner: a change of a row that succeeds empties the session, one that fails leaves the row as it was,
and a session fills itself from the row only. -/
namespace SheetPricing.Service
open Action App Archive Loading Storage
variable {β : Type} {format : FileFormat β} {known : β → Prop} {used : List String} {app : App β}
  {moment : Moment} {owner : String}

theorem on_showConfig (owner : String) (app : App β) : (showConfig owner).on app
    = (match app.archive.row? owner with
        | some row => .ok (.stored row)
        | none => .error .notConfigured, app) := by
  rw [showConfig, on_bind, on_get]
  dsimp only
  cases app.archive.row? owner <;> rfl

theorem on_storeSubmission (format : FileFormat β) (moment : Moment) (owner : String)
    (submission : Submission β) (app : App β) :
    (storeSubmission format moment owner submission).on app
      = match (store format owner submission.config submission.upload moment (.ok ())).on
          app.archive with
        | (.error error, archive) => (.error (rejectChange error), { app with archive })
        | (.ok _, archive) => (showConfig owner).on { app with
            archive := archive
            owners := Registry.update app.owners owner Session.invalidate } := by
  rw [storeSubmission, on_bind, on_discard, onArchive, on_mapError, on_within]
  rcases (store format owner submission.config submission.upload moment (.ok ())).on app.archive with
    ⟨_ | _, _⟩ <;> rfl

theorem on_clearConfig (owner : String) (app : App β) : (clearConfig owner).on app
    = match (clear owner (.ok ())).on app.archive with
      | (.error error, archive) => (.error (rejectChange error), { app with archive })
      | (.ok _, archive) => (.ok .cleared, { app with
          archive := archive
          owners := Registry.update app.owners owner Session.invalidate }) := by
  rw [clearConfig, on_bind, onArchive, on_mapError, on_within]
  rcases (clear owner (.ok ())).on app.archive with ⟨_ | _, _⟩ <;> rfl

theorem on_showSheets (format : FileFormat β) (owner : String) (app : App β) :
    (showSheets format owner).on app
      = match app.archive.row? owner with
        | none => (.error .notConfigured, app)
        | some row => match (loadWorkbook format row.config).on app.archive with
          | (.error failure, archive) => (.error (rejectLoad failure), { app with archive })
          | (.ok parsed, archive) => (.ok (.worksheets row.config parsed.workbook.sheetNames),
              { app with archive }) := by
  rw [showSheets, on_bind, on_get]
  dsimp only
  rw [config?]
  rcases app.archive.row? owner with _ | row
  · rfl
  · dsimp only [Option.map_some]
    rw [on_bind, onArchive, on_mapError, on_within]
    rcases (loadWorkbook format row.config).on app.archive with ⟨_ | _, _⟩ <;> rfl

/-- The template for the price of an owner, with the session and the archive afterwards. -/
def loadOwner (format : FileFormat β) (owner : String) (app : App β) :
    Except (LoadFailure LoadFault) (Option Template) × Session × Archive β :=
  (Session.load (some (ownerSource format owner))).on (Registry.session app.owners owner, app.archive)

theorem on_ownerPrice (format : FileFormat β) (owner : String)
    (inputs : PerDimension (Option RawInput)) (app : App β) :
    (ownerPrice format owner inputs).on app
      = (priceAnswer (Session.priced inputs (loadOwner format owner app).1), { app with
          owners := Registry.update app.owners owner fun _ => (loadOwner format owner app).2.1
          archive := (loadOwner format owner app).2.2 }) := by
  have calculated := Session.on_calculate (some (ownerSource format owner)) inputs
    (Registry.session app.owners owner, app.archive)
  rw [ownerPrice, on_bind, on_get]
  dsimp only
  rw [priceIn, calculated]
  dsimp only
  rw [on_bind, on_set]
  dsimp only
  rw [on_ofExcept]
  rfl

/-- The template for the price of a treatment, with the session and the archive afterwards. -/
def loadTreatment (format : FileFormat β) (treatment : Treatment) (url : String) (app : App β) :
    Except (LoadFailure LoadFault) (Option Template) × Session × Archive β :=
  (Session.load (some (treatmentSource format treatment url))).on
    (Registry.session app.treatments treatment.sheetName, app.archive)

theorem on_treatmentPrice (format : FileFormat β) (treatment : Treatment)
    (inputs : PerDimension (Option RawInput)) (app : App β) :
    (treatmentPrice format treatment inputs).on app
      = match Treatment.templateUrl? "" app.settings.templateUrl with
        | none => (.error .noTemplate, app)
        | some url =>
          (priceAnswer (Session.priced inputs (loadTreatment format treatment url app).1), { app with
            treatments := Registry.update app.treatments treatment.sheetName
              fun _ => (loadTreatment format treatment url app).2.1
            archive := (loadTreatment format treatment url app).2.2 }) := by
  rw [treatmentPrice, on_bind, on_get]
  dsimp only
  cases Treatment.templateUrl? "" app.settings.templateUrl with
  | none => rfl
  | some url =>
    have calculated := Session.on_calculate (some (treatmentSource format treatment url)) inputs
      (Registry.session app.treatments treatment.sheetName, app.archive)
    dsimp only
    rw [priceIn, calculated]
    dsimp only
    rw [on_bind, on_set]
    dsimp only
    rw [on_ofExcept]
    rfl

/-- A template with the configuration of a row and a workbook with its digest. -/
structure IsTemplateOf (format : FileFormat β) (known : β → Prop) (row : Row)
    (template : Template) : Prop where
  config : template.config = row.config
  read : ∃ data, known data ∧ format.open data = .ok template.workbook ∧
    format.digest data = row.workbookHash

/-- The archive is reliable, and a session that holds a template holds that of the row of its
owner. -/
structure InStep (format : FileFormat β) (known : β → Prop) (used : List String) (app : App β) :
    Prop where
  archive : app.archive.Reliable format known used
  held : ∀ owner template, (Registry.session app.owners owner).template = some template →
    ∃ row, app.archive.row? owner = some row ∧ IsTemplateOf format known row template

/-- What is stored under a stamp. -/
def Task.stamps (moment : Moment) : Task β → List String
  | .store _ submission => stampsOf submission.upload moment
  | _ => []

/-- What is uploaded. -/
def Task.uploads : Task β → List β
  | .store _ submission => (submission.upload.map Upload.data).toList
  | _ => []

/-- Only a treatment needs the shared template, which is at a URL. -/
def App.HasTemplateUrl (app : App β) : Prop :=
  ∀ url, Treatment.templateUrl? "" app.settings.templateUrl = some url → isUrl url = true

namespace InStep
variable (inStep : InStep format known used app)
include inStep

/-- The rows are the same, and so are the sessions of all owners. -/
theorem undisturbed {archive : Archive β} {more : List String}
    (reliable : archive.Reliable format known more) (rows : archive.rows = app.archive.rows)
    (treatments : Registry) : InStep format known more { app with archive, treatments } := by
  refine ⟨reliable, fun owner template held => ?_⟩
  obtain ⟨row, current, same⟩ := inStep.held owner template held
  exact ⟨row, by rw [row?, rows]; exact current, same⟩

/-- The row of an owner may have changed, and the session is emptied. -/
theorem invalidated {archive : Archive β} {more : List String}
    (reliable : archive.Reliable format known more)
    (others : ∀ other ≠ owner, archive.row? other = app.archive.row? other) :
    InStep format known more { app with
      archive := archive
      owners := Registry.update app.owners owner Session.invalidate } := by
  refine ⟨reliable, fun other template held => ?_⟩
  dsimp only at held
  rw [Registry.session_update] at held
  split at held
  · cases held
  · next apart =>
    obtain ⟨row, current, same⟩ := inStep.held other template held
    exact ⟨row, (others other apart).trans current, same⟩

/-- The rows are the same, and the session holds the template of the row if it holds any. -/
theorem filled {archive : Archive β} {session : Session}
    (reliable : archive.Reliable format known used) (rows : archive.rows = app.archive.rows)
    (filling : ∀ template, session.template = some template →
      ∃ row, app.archive.row? owner = some row ∧ IsTemplateOf format known row template) :
    InStep format known used { app with
      owners := Registry.update app.owners owner fun _ => session
      archive := archive } := by
  have same (other : String) : archive.row? other = app.archive.row? other := by
    rw [row?, row?, rows]
  refine ⟨reliable, fun other template held => ?_⟩
  dsimp only at held ⊢
  rw [Registry.session_update] at held
  rw [same]
  split at held
  · next here => exact here ▸ filling template held
  · exact inStep.held other template held

/-- An owner without a row has no template. -/
theorem loadOwner_of_none (absent : app.archive.row? owner = none) :
    loadOwner format owner app = (.ok none, Registry.session app.owners owner, app.archive) := by
  have empty : (Registry.session app.owners owner).template = none := by
    cases held : (Registry.session app.owners owner).template with
    | none => rfl
    | some template =>
      obtain ⟨row, current, _⟩ := inStep.held owner template held
      cases absent.symm.trans current
  have supplies := Session.supplies_ownerSource format owner app.archive
  rw [config?, absent, Option.map_none] at supplies
  exact Session.on_load_of_nothing supplies empty

variable (noUrl : ∀ data, isUrl (format.digest data) = false)
  (told : ∀ a b, known a → known b → format.digest a = format.digest b →
    format.sheets a = format.sheets b)
include noUrl

theorem loaded (config : PricingConfig) :
    ((loadWorkbook format config).on app.archive).2.Reliable format known used := by
  have reliable := inStep.archive.perform noUrl (.load config) nofun nofun nofun nofun
  have unused : (Operation.load config : Operation β).stamps = [] := rfl
  rwa [Operation.act, on_discard, orLoadError, on_mapError, unused, List.append_nil] at reliable

include told

/-- The template of an owner with a row is that of the row, whether it is held or loaded. -/
theorem loadOwner_of_row {row : Row} (current : app.archive.row? owner = some row) :
    ∃ template session archive,
      loadOwner format owner app = (.ok (some template), session, archive) ∧
      session.template = some template ∧ IsTemplateOf format known row template ∧
      archive.rows = app.archive.rows ∧ archive.Reliable format known used := by
  cases held : (Registry.session app.owners owner).template with
  | some template =>
    obtain ⟨other, there, same⟩ := inStep.held owner template held
    obtain rfl := Option.some.inj (there.symm.trans current)
    exact ⟨template, _, _, Session.on_load_of_held held, held, same, rfl, inStep.archive⟩
  | none =>
    obtain ⟨parsed, after, data, ok, found, opened, digest⟩ :=
      inStep.archive.load_row noUrl told current
    have reliable := inStep.loaded noUrl row.config
    have rows := (undisturbed_loadWorkbook format row.config app.archive).rows
    rw [ok] at reliable rows
    have supplies := Session.supplies_ownerSource format owner app.archive
    rw [config?, current, Option.map_some] at supplies
    refine ⟨⟨row.config, parsed.workbook⟩, { Registry.session app.owners owner with
      template := some ⟨row.config, parsed.workbook⟩ }, after, ?_, rfl,
      ⟨rfl, data, found, opened, digest⟩, rows, reliable⟩
    rw [loadOwner, Session.on_load_of_supplies supplies held, ok]

theorem ownerPrice (owner : String) (inputs : PerDimension (Option RawInput)) :
    InStep format known used ((App.ownerPrice format owner inputs).on app).2 := by
  rw [on_ownerPrice]
  cases current : app.archive.row? owner with
  | none =>
    rw [inStep.loadOwner_of_none current]
    exact inStep.filled inStep.archive rfl (inStep.held owner)
  | some row =>
    obtain ⟨template, session, archive, loaded, holds, same, rows, reliable⟩ :=
      inStep.loadOwner_of_row noUrl told current
    rw [loaded]
    refine inStep.filled reliable rows fun other held => ?_
    obtain rfl := Option.some.inj (holds.symm.trans held)
    exact ⟨row, current, same⟩

omit told

theorem treatmentPrice (shared : app.HasTemplateUrl) (treatment : Treatment)
    (inputs : PerDimension (Option RawInput)) :
    InStep format known used ((App.treatmentPrice format treatment inputs).on app).2 := by
  rw [on_treatmentPrice]
  cases template : Treatment.templateUrl? "" app.settings.templateUrl with
  | none => exact inStep
  | some url =>
    dsimp only
    rw [loadTreatment]
    cases held : (Registry.session app.treatments treatment.sheetName).template with
    | some kept =>
      rw [Session.on_load_of_held held]
      exact inStep.undisturbed inStep.archive rfl _
    | none =>
      have reliable := inStep.loaded noUrl (treatment.config url)
      have rows := (undisturbed_loadWorkbook format (treatment.config url) app.archive).rows
      have remote : isUrl (treatment.config url).workbookRef = true := shared url template
      rw [on_loadWorkbook_of_remote remote] at reliable rows
      rw [Session.on_load_of_supplies (Session.supplies_treatmentSource format treatment url _) held]
      generalize (withLoader (Loader.loadUrl format (treatment.config url).workbookRef)).on
        app.archive = outcome at reliable rows
      rcases outcome with ⟨failure | parsed, after⟩
      · exact inStep.undisturbed reliable rows _
      · exact inStep.undisturbed reliable rows _

theorem showSheets (owner : String) :
    InStep format known used ((App.showSheets format owner).on app).2 := by
  rw [on_showSheets]
  cases app.archive.row? owner with
  | none => exact inStep
  | some row =>
    have reliable := inStep.loaded noUrl row.config
    have rows := (undisturbed_loadWorkbook format row.config app.archive).rows
    dsimp only
    generalize (loadWorkbook format row.config).on app.archive = outcome at reliable rows
    rcases outcome with ⟨failure | parsed, after⟩
    · exact inStep.undisturbed reliable rows _
    · exact inStep.undisturbed reliable rows _

theorem clearConfig (owner : String) :
    InStep format known used ((App.clearConfig owner).on app).2 := by
  have reliable := inStep.archive.perform noUrl (.clear owner (.ok ())) nofun nofun nofun nofun
  have unused : (Operation.clear owner (.ok ()) : Operation β).stamps = [] := rfl
  rw [Operation.act, unused, List.append_nil] at reliable
  rw [on_clearConfig]
  rcases clear_cases inStep.archive.toOrderly owner (.ok ()) with
    ⟨error, failed⟩ | ⟨after, ok, _, rows, _⟩
  · rw [failed]
    exact inStep
  · rw [ok] at reliable ⊢
    refine inStep.invalidated reliable fun other apart => ?_
    rw [row?, row?, rows, Table.get?_erase, if_neg apart]

theorem storeSubmission (owner : String) (submission : Submission β)
    (proper : ∀ stamp ∈ stampsOf submission.upload moment, isStamp stamp = true)
    (new : ∀ stamp ∈ stampsOf submission.upload moment, stamp ∉ used)
    (held : ∀ data ∈ (submission.upload.map Upload.data).toList, known data) :
    InStep format known (used ++ stampsOf submission.upload moment)
      ((Service.storeSubmission format moment owner submission).on app).2 := by
  have reliable := inStep.archive.perform noUrl
    (.store owner submission.config submission.upload moment (.ok ())) nofun proper new held
  have uploads : ∀ given ∈ submission.upload, known given.data := fun given inside =>
    held given.data (Option.mem_toList.mpr (Option.map_eq_some_iff.mpr ⟨given, inside, rfl⟩))
  rw [Operation.act, on_discard] at reliable
  rw [on_storeSubmission]
  rcases outcome : (store format owner submission.config submission.upload moment (.ok ())).on
    app.archive with ⟨error | config, after⟩
  · rw [outcome] at reliable
    have reverted := (store_error inStep.archive.toOrderly uploads proper outcome).1
    exact inStep.undisturbed reliable reverted.rows _
  · rw [outcome] at reliable
    obtain ⟨_, row, _, stored⟩ := store_ok inStep.archive.toOrderly uploads proper outcome
    dsimp only at reliable ⊢
    rw [on_showConfig]
    refine inStep.invalidated reliable fun other apart => ?_
    rw [row?, row?, stored.rows, Table.get?_put, if_neg apart]

include told

/-- Whatever is asked for, sessions and rows stay in step. -/
theorem perform (shared : app.HasTemplateUrl) (task : Task β)
    (proper : ∀ stamp ∈ task.stamps moment, isStamp stamp = true)
    (new : ∀ stamp ∈ task.stamps moment, stamp ∉ used)
    (held : ∀ data ∈ task.uploads, known data) :
    InStep format known (used ++ task.stamps moment) ((task.perform format moment).on app).2 := by
  have unused (kept : InStep format known used ((task.perform format moment).on app).2)
      (none : task.stamps moment = []) :
      InStep format known (used ++ task.stamps moment) ((task.perform format moment).on app).2 := by
    rwa [none, List.append_nil]
  cases task with
  | health => exact unused inStep rfl
  | database => exact unused inStep rfl
  | config owner =>
    refine unused ?_ rfl
    rw [Task.perform, on_showConfig]
    exact inStep
  | store owner submission =>
    exact inStep.storeSubmission noUrl owner submission proper new held
  | clear owner => exact unused (inStep.clearConfig noUrl owner) rfl
  | sheets owner => exact unused (inStep.showSheets noUrl owner) rfl
  | price owner inputs => exact unused (inStep.ownerPrice noUrl told owner inputs) rfl
  | treatment kind inputs => exact unused (inStep.treatmentPrice noUrl shared kind inputs) rfl

end InStep

/-- Nothing changes the settings. -/
theorem settings_perform (format : FileFormat β) (moment : Moment) (task : Task β) (app : App β) :
    ((task.perform format moment).on app).2.settings = app.settings := by
  cases task with
  | health => rfl
  | database => rfl
  | config owner => rw [Task.perform, on_showConfig]
  | store owner submission =>
    rw [Task.perform, on_storeSubmission]
    split
    · rfl
    · rw [on_showConfig]
  | clear owner =>
    rw [Task.perform, on_clearConfig]
    split <;> rfl
  | sheets owner =>
    rw [Task.perform, on_showSheets]
    split
    · rfl
    · split <;> rfl
  | price owner inputs => rw [Task.perform, on_ownerPrice]
  | treatment kind inputs =>
    rw [Task.perform, on_treatmentPrice]
    split <;> rfl

end SheetPricing.Service
