import SheetPricing.Proofs.Service.Admission

/-! One workbook for treatments and owners. A session holds the workbook that the loader keeps under
its URL, and what is kept there stays. So the price of a treatment and the price of an owner who asks
for the same worksheet and cells of the shared template are one. -/
namespace SheetPricing

theorem Treatment.named?_sheetName (kind : Treatment) : named? kind.sheetName = some kind := by
  cases kind <;> decide

/-- A row that asks for what a treatment is priced with: the shared template, the worksheet of the
treatment and the cells that all treatments have. -/
structure Row.IsPreset (row : Row) (kind : Treatment) (url : String) : Prop where
  workbook : row.storagePath = url
  sheet : row.selectedSheet = kind.sheetName
  inputs : row.inputCells = Treatment.inputCells
  price : row.priceCell = Treatment.priceCell

end SheetPricing

namespace SheetPricing.Service
open Action App Archive Loading Storage
variable {β : Type} {format : FileFormat β} {app : App β} {moment : Moment} {url : String}
  {settings : Settings}

/-- What sessions hold is at hand in the loader: the template of a treatment under the shared URL, and
that of an owner under the URL of the row, if the row has one. -/
structure Faithful (format : FileFormat β) (url : String) (app : App β) : Prop where
  keeps : app.archive.loader.Keeps format fun _ => True
  digested : app.archive.Digested
  treatments : ∀ (kind : Treatment) (template : Template),
    (Registry.session app.treatments kind.sheetName).template = some template →
      template.config = kind.config url ∧ app.archive.loader.Offers url template.workbook
  owners : ∀ owner row template, app.archive.row? owner = some row → isUrl row.storagePath = true →
    (Registry.session app.owners owner).template = some template →
      template.config = row.config ∧ app.archive.loader.Offers row.storagePath template.workbook

theorem faithful_start (format : FileFormat β) (settings : Settings) (root : Path)
    (replies : List (Reply β)) (url : String) :
    Faithful format url (.start settings root replies) where
  keeps := ⟨fun _ _ cached => (by cases cached), fun _ _ _ _ => trivial⟩
  digested _ _ current := by cases current
  treatments _ _ held := by cases held
  owners _ _ _ current := by cases current

namespace Faithful
variable (faithful : Faithful format url app) {owner : String} {template : Template} {row : Row}
include faithful

/-- What a treatment is priced with is at hand afterwards. -/
theorem offers_of_loadTreatment {kind : Treatment}
    (loaded : (loadTreatment format kind url app).1 = .ok (some template)) :
    template.config = kind.config url ∧
      (loadTreatment format kind url app).2.2.loader.Offers url template.workbook := by
  rw [loadTreatment] at loaded ⊢
  cases held : (Registry.session app.treatments kind.sheetName).template with
  | some kept =>
    rw [Session.on_load_of_held held] at loaded ⊢
    obtain rfl := Option.some.inj (Except.ok.inj loaded)
    exact faithful.treatments kind kept held
  | none =>
    rw [Session.on_load_of_supplies (Session.supplies_treatmentSource format kind url _) held]
      at loaded ⊢
    rcases outcome : (withLoader (Loader.loadUrl format (kind.config url).workbookRef)).on app.archive
      with ⟨failure | parsed, after⟩
    · rw [outcome] at loaded
      cases loaded
    · rw [outcome] at loaded
      obtain rfl := Option.some.inj (Except.ok.inj loaded)
      exact ⟨rfl, parsed, Loader.cached_of_loadUrl (loader_of_withLoader outcome), rfl⟩

/-- What an owner with a URL is priced with is at hand afterwards. -/
theorem offers_of_loadOwner (current : app.archive.row? owner = some row)
    (remote : isUrl row.storagePath = true)
    (loaded : (loadOwner format owner app).1 = .ok (some template)) :
    template.config = row.config ∧
      (loadOwner format owner app).2.2.loader.Offers row.storagePath template.workbook := by
  have supplies := Session.supplies_ownerSource format owner app.archive
  rw [config?, current, Option.map_some] at supplies
  rw [loadOwner] at loaded ⊢
  cases held : (Registry.session app.owners owner).template with
  | some kept =>
    rw [Session.on_load_of_held held] at loaded ⊢
    obtain rfl := Option.some.inj (Except.ok.inj loaded)
    exact faithful.owners owner row kept current remote held
  | none =>
    rw [Session.on_load_of_supplies supplies held] at loaded ⊢
    rcases outcome : (loadWorkbook format row.config).on app.archive with ⟨failure | parsed, after⟩
    · rw [outcome] at loaded
      cases loaded
    · rw [outcome] at loaded
      obtain rfl := Option.some.inj (Except.ok.inj loaded)
      cases serves_of_loadWorkbook outcome with
      | remote _ cached => exact ⟨rfl, parsed, cached, rfl⟩
      | stored blob => exact absurd (blob.symm.trans remote) Bool.false_ne_true

section
variable {archive : Archive β} (remote : isUrl url = true)
  (lasting : Loader.Lasting format app.archive.loader archive.loader) (digested : archive.Digested)
include remote lasting digested

/-- A session that holds something for a row with a URL held it before, for the same row. -/
theorem carried {owners : Registry}
    (before : ∀ owner row template, archive.row? owner = some row → isUrl row.storagePath = true →
      (Registry.session owners owner).template = some template →
        app.archive.row? owner = some row ∧
          (Registry.session app.owners owner).template = some template) :
    Faithful format url { app with archive, owners } where
  keeps := lasting.keeps
  digested := digested
  treatments kind template held := by
    obtain ⟨config, offers⟩ := faithful.treatments kind template held
    exact ⟨config, offers.retained lasting.retains remote⟩
  owners owner row template current there held := by
    obtain ⟨same, earlier⟩ := before owner row template current there held
    obtain ⟨config, offers⟩ := faithful.owners owner row template same there earlier
    exact ⟨config, offers.retained lasting.retains there⟩

theorem undisturbed (rows : RemoteFrom app.archive archive) :
    Faithful format url { app with archive } :=
  faithful.carried remote lasting digested fun owner row _ current there held =>
    ⟨rows owner row current there, held⟩

/-- The row of an owner may have changed, and the session is emptied. -/
theorem invalidated
    (others : ∀ other ≠ owner, ∀ row, archive.row? other = some row → isUrl row.storagePath = true →
      app.archive.row? other = some row) :
    Faithful format url { app with
      archive := archive
      owners := Registry.update app.owners owner Session.invalidate } := by
  refine faithful.carried remote lasting digested fun other row template current there held => ?_
  rw [Registry.session_update] at held
  split at held
  · cases held
  · next apart => exact ⟨others other apart row current there, held⟩

end

variable (noUrl : ∀ data, isUrl (format.digest data) = false) (remote : isUrl url = true)
include noUrl remote

theorem treatmentPrice (shared : Treatment.templateUrl? "" app.settings.templateUrl = some url)
    (kind : Treatment) (inputs : PerDimension (Option RawInput)) :
    Faithful format url ((App.treatmentPrice format kind inputs).on app).2 ∧
      app.archive.loader.Retains
        ((App.treatmentPrice format kind inputs).on app).2.archive.loader := by
  have ⟨rows, lasting⟩ : (loadTreatment format kind url app).2.2.rows = app.archive.rows ∧
      app.archive.loader.Lasting format (loadTreatment format kind url app).2.2.loader := by
    rcases archive_loadTreatment format kind url app with kept | loaded
    · exact kept.symm ▸ ⟨rfl, faithful.keeps.lasting⟩
    · exact loaded.symm ▸ ⟨(undisturbed_withLoader _ _).rows,
        faithful.keeps.lasting_loadUrl noUrl remote⟩
  have next := faithful.undisturbed remote lasting (faithful.digested.of_rows rows)
    (remoteFrom_of_rows rows)
  rw [on_treatmentPrice, shared]
  dsimp only
  refine ⟨⟨next.keeps, next.digested, fun other template held => ?_, next.owners⟩,
    lasting.retains⟩
  dsimp only at held
  rw [Registry.session_update] at held
  split at held
  · next same =>
    have named := Treatment.named?_sheetName other
    rw [same, Treatment.named?_sheetName] at named
    obtain rfl := Option.some.inj named
    exact faithful.offers_of_loadTreatment
      (Session.held_of_on_load (Session.supplies_treatmentSource format kind url app.archive) held)
  · exact next.treatments other template held

theorem ownerPrice (owner : String) (inputs : PerDimension (Option RawInput)) :
    Faithful format url ((App.ownerPrice format owner inputs).on app).2 ∧
      app.archive.loader.Retains ((App.ownerPrice format owner inputs).on app).2.archive.loader := by
  have ⟨rows, lasting⟩ : (loadOwner format owner app).2.2.rows = app.archive.rows ∧
      app.archive.loader.Lasting format (loadOwner format owner app).2.2.loader := by
    rcases archive_loadOwner format owner app with kept | ⟨row, _, loaded⟩
    · exact kept.symm ▸ ⟨rfl, faithful.keeps.lasting⟩
    · exact loaded.symm ▸ ⟨(undisturbed_loadWorkbook format row.config app.archive).rows,
        lasting_loadWorkbook faithful.keeps noUrl row.config⟩
  have next := faithful.undisturbed remote lasting (faithful.digested.of_rows rows)
    (remoteFrom_of_rows rows)
  rw [on_ownerPrice]
  refine ⟨⟨next.keeps, next.digested, next.treatments,
    fun other row template current there held => ?_⟩, lasting.retains⟩
  dsimp only at held
  rw [Registry.session_update] at held
  split at held
  · next same =>
    subst same
    rw [row?, rows] at current
    exact faithful.offers_of_loadOwner current there
      (Session.held_of_on_load (Session.supplies_ownerSource format other app.archive) held)
  · exact next.owners other row template current there held

theorem storeSubmission (moment : Moment) (owner : String) (submission : Submission β) :
    Faithful format url ((Service.storeSubmission format moment owner submission).on app).2 ∧
      app.archive.loader.Retains
        ((Service.storeSubmission format moment owner submission).on app).2.archive.loader := by
  obtain ⟨lasting, digested, others, failing⟩ := lasting_store faithful.keeps noUrl faithful.digested
    owner submission.config submission.upload moment
  rw [archive_storeSubmission, on_storeSubmission]
  refine ⟨?_, lasting.retains⟩
  generalize (store format owner submission.config submission.upload moment (.ok ())).on app.archive
    = outcome at *
  obtain ⟨error | config, archive⟩ := outcome
  · exact faithful.undisturbed remote lasting digested (failing error rfl)
  · dsimp only
    rw [on_showConfig]
    refine faithful.invalidated remote lasting digested fun other apart row current _ => ?_
    exact (others other apart).symm.trans current

omit noUrl in
theorem clearConfig (owner : String) :
    Faithful format url ((App.clearConfig owner).on app).2 ∧
      app.archive.loader.Retains ((App.clearConfig owner).on app).2.archive.loader := by
  obtain ⟨lasting, digested, rows⟩ := lasting_clear faithful.keeps faithful.digested owner
  rw [archive_clearConfig, on_clearConfig]
  refine ⟨?_, lasting.retains⟩
  generalize (clear owner (.ok ())).on app.archive = outcome at *
  obtain ⟨error | done, archive⟩ := outcome
  · exact faithful.undisturbed remote lasting digested rows
  · exact faithful.invalidated remote lasting digested fun other _ => rows other

theorem showSheets (owner : String) :
    Faithful format url ((App.showSheets format owner).on app).2 ∧
      app.archive.loader.Retains ((App.showSheets format owner).on app).2.archive.loader := by
  rw [on_showSheets]
  cases app.archive.row? owner with
  | none => exact ⟨faithful, faithful.keeps.lasting.retains⟩
  | some row =>
    have lasting := lasting_loadWorkbook faithful.keeps noUrl row.config
    have rows := (undisturbed_loadWorkbook format row.config app.archive).rows
    dsimp only
    generalize (loadWorkbook format row.config).on app.archive = outcome at lasting rows
    obtain ⟨failure | parsed, archive⟩ := outcome
    all_goals
      exact ⟨faithful.undisturbed remote lasting (faithful.digested.of_rows rows)
        (remoteFrom_of_rows rows), lasting.retains⟩

/-- Whatever is asked for, what sessions hold stays at hand. -/
theorem perform (shared : Treatment.templateUrl? "" app.settings.templateUrl = some url)
    (moment : Moment) (task : Task β) :
    Faithful format url ((task.perform format moment).on app).2 ∧
      app.archive.loader.Retains ((task.perform format moment).on app).2.archive.loader := by
  have unchanged : Faithful format url app ∧ app.archive.loader.Retains app.archive.loader :=
    ⟨faithful, faithful.keeps.lasting.retains⟩
  cases task with
  | health => exact unchanged
  | database => exact unchanged
  | config owner =>
    rw [Task.perform, on_showConfig]
    exact unchanged
  | store owner submission => exact faithful.storeSubmission noUrl remote moment owner submission
  | clear owner => exact faithful.clearConfig remote owner
  | sheets owner => exact faithful.showSheets noUrl remote owner
  | price owner inputs => exact faithful.ownerPrice noUrl remote owner inputs
  | treatment kind inputs => exact faithful.treatmentPrice noUrl remote shared kind inputs

/-- So it does over every run of requests. -/
theorem serve (shared : Treatment.templateUrl? "" app.settings.templateUrl = some url)
    (visits : List (Visit β)) :
    Faithful format url (Service.serve format visits app) ∧
      app.archive.loader.Retains (Service.serve format visits app).archive.loader := by
  induction visits generalizing app with
  | nil => exact ⟨faithful, faithful.keeps.lasting.retains⟩
  | cons visit rest ih =>
    have same := settings_respond format visit.moment visit.request app
    have ⟨next, kept⟩ : Faithful format url
        (respond format visit.moment visit.request app).2 ∧ app.archive.loader.Retains
          (respond format visit.moment visit.request app).2.archive.loader := by
      rw [respond_eq]
      split
      · exact ⟨faithful, faithful.keeps.lasting.retains⟩
      · exact faithful.perform noUrl remote shared visit.moment _
    have sharedNext : Treatment.templateUrl? ""
        (respond format visit.moment visit.request app).2.settings.templateUrl = some url := by
      rw [same]
      exact shared
    obtain ⟨final, retains⟩ := ih next sharedNext
    rw [serve_cons]
    exact ⟨final, fun place parsed there held =>
      retains place parsed there (kept place parsed there held)⟩

end Faithful
section
variable {request : Request β} {inputs : PerDimension (Option RawInput)} {task : Task β}

/-- The inputs that a body holds if it is said to be JSON. -/
def Body.inputs? : Body β → Option (PerDimension (Option RawInput))
  | .text content =>
    match Json.readEncoded bodyLimits content with
    | .ok value => (readInputs value).toOption
    | .error _ => none
  | _ => none

/-- A body of which inputs were read holds them, whatever else the request says. -/
theorem inputs?_of_payload {isText : β → Bool} {payload : Payload}
    (ok : request.payload isText = .ok payload) (read : payload.inputs = .ok inputs) :
    request.body.inputs? = some inputs := by
  rw [Request.payload] at ok
  cases held : request.body with
  | empty =>
    rw [held] at ok
    obtain rfl := Except.ok.inj ok
    cases read
  | text content =>
    rw [held] at ok
    dsimp only at ok
    split at ok
    · obtain rfl := Except.ok.inj ok
      cases read
    split at ok
    · obtain rfl := Except.ok.inj ok
      cases read
    rw [Body.inputs?]
    cases decoded : Json.readEncoded bodyLimits content with
    | error fault =>
      rw [decoded] at ok
      cases fault <;> cases ok
    | ok value =>
      rw [decoded] at ok
      obtain rfl := Except.ok.inj ok
      rw [Payload.inputs] at read
      dsimp only
      rw [read]
      rfl
  | parts boundary form =>
    rw [held] at ok
    dsimp only at ok
    split at ok
    · obtain rfl := Except.ok.inj ok
      cases read
    · cases ok

/-- What a request for the price of a treatment asks for, if it is not rejected. -/
theorem task_of_treatment {kind : Treatment}
    (route : Route.ofPath? settings.basePath request.path = some (.treatment kind.sheetName))
    (asked : ask format settings request = .ok task) :
    ∃ inputs, request.body.inputs? = some inputs ∧ task = .treatment kind inputs := by
  rw [ask, route] at asked
  dsimp only at asked
  rw [askAt] at asked
  split at asked
  · obtain ⟨payload, read, asked⟩ := ok_of_bind asked
    obtain ⟨_, _, asked⟩ := ok_of_bind asked
    obtain ⟨⟨treatment, inputs⟩, taken, asked⟩ := ok_of_bind asked
    have chosen := ok_of_mapError taken
    rw [treatmentInputs, Treatment.named?_sheetName] at chosen
    cases given : payload.inputs with
    | error complaint =>
      rw [given] at chosen
      cases chosen
    | ok found =>
      rw [given] at chosen
      cases chosen
      exact ⟨inputs, inputs?_of_payload read given, (Except.ok.inj asked).symm⟩
  · cases asked

/-- What a request for the price of an owner asks for, if it is not rejected. -/
theorem task_of_calculate {name : String}
    (route : Route.ofPath? settings.basePath request.path = some .calculate)
    (acts : owner settings request = .ok name) (asked : ask format settings request = .ok task) :
    ∃ inputs, request.body.inputs? = some inputs ∧ task = .price name inputs := by
  rw [ask, route] at asked
  dsimp only at asked
  rw [askAt, acts] at asked
  split at asked
  · obtain ⟨payload, read, asked⟩ := ok_of_bind asked
    rw [ok_bind] at asked
    obtain ⟨inputs, given, asked⟩ := ok_of_bind asked
    exact ⟨inputs, inputs?_of_payload read (ok_of_mapError given), (Except.ok.inj asked).symm⟩
  · cases asked

/-- A response that is no report of a template that cannot be loaded. -/
def Response.Loads (response : Response) : Prop :=
  ∀ error, response ≠ .ok (.price (CalculationRecord.empty.rejected (Session.loadReport error)))

/-- A price that is answered with success was calculated with the template that was found. -/
theorem template_of_priceAnswer {outcome : Except (LoadFailure LoadFault) (Option Template)}
    (found : outcome ≠ .ok none)
    (success : Response.status (priceAnswer (Session.priced inputs outcome)) = 200)
    (loads : Response.Loads (priceAnswer (Session.priced inputs outcome))) :
    ∃ template result, outcome = .ok (some template) ∧ template.calculate inputs = .ok result ∧
      priceAnswer (Session.priced inputs outcome) = .ok (.price result) := by
  rcases outcome with (error | error) | _ | template
  · exact absurd rfl (loads error)
  · cases success
  · exact absurd rfl found
  · rw [Session.priced] at success ⊢
    cases calculated : template.calculate inputs with
    | error fault =>
      rw [calculated] at success
      cases success
    | ok result => exact ⟨template, result, rfl, calculated, rfl⟩

/-- A response in a run, with the run before it and after it. -/
theorem respond_of_exchanges {visits : List (Visit β)} {i : Nat} {response : Response}
    (found : (exchanges format visits app)[i]? = some (request, response)) :
    ∃ moment, (respond format moment request (serve format (visits.take i) app)).1 = response ∧
      ∃ rest, serve format visits app
        = serve format rest (respond format moment request (serve format (visits.take i) app)).2 := by
  induction visits generalizing app i with
  | nil => cases found
  | cons visit rest ih =>
    rw [exchanges] at found
    cases i with
    | zero =>
      cases found
      exact ⟨visit.moment, rfl, rest, serve_cons format visit rest app⟩
    | succ i =>
      obtain ⟨moment, answered, later, served⟩ := ih found
      rw [List.take_succ_cons, serve_cons, serve_cons]
      exact ⟨moment, answered, later, served⟩

section
variable (noUrl : ∀ data, isUrl (format.digest data) = false) (remote : isUrl url = true)
  (shared : Treatment.templateUrl? "" app.settings.templateUrl = some url)
  (faithful : Faithful format url app) {response : Response}
  (answered : (respond format moment request app).1 = response) (success : response.status = 200)
  (loads : response.Loads)
include noUrl remote shared faithful answered success loads

/-- A treatment is priced with a workbook that is at hand under the shared URL from then on. -/
theorem Faithful.template_of_treatment {kind : Treatment}
    (route : Route.ofPath? app.settings.basePath request.path = some (.treatment kind.sheetName)) :
    ∃ (template : Template) (inputs : PerDimension (Option RawInput)) (result : PriceResult),
      template.config = kind.config url ∧ request.body.inputs? = some inputs ∧
      template.calculate inputs = .ok result ∧ response = .ok (.price result) ∧
      ∀ rest, (Service.serve format rest
        (respond format moment request app).2).archive.loader.Offers url template.workbook := by
  rw [respond_eq] at answered ⊢
  cases asked : ask format app.settings request with
  | error rejection =>
    rw [asked] at answered
    subst answered
    exact absurd success rejection.status_ne
  | ok task =>
    obtain ⟨inputs, held, rfl⟩ := task_of_treatment route asked
    rw [asked] at answered
    dsimp only at answered ⊢
    rw [Task.perform] at answered ⊢
    have next := (faithful.treatmentPrice noUrl remote shared kind inputs).1
    rw [on_treatmentPrice, shared] at answered next ⊢
    dsimp only at answered next ⊢
    subst answered
    have supplies := Session.supplies_treatmentSource format kind url app.archive
    obtain ⟨template, result, loaded, calculated, answer⟩ :=
      template_of_priceAnswer (Session.on_load_ne_none supplies) success loads
    obtain ⟨config, offers⟩ := faithful.offers_of_loadTreatment loaded
    refine ⟨template, inputs, result, config, held, calculated, answer, fun rest => ?_⟩
    exact offers.retained (next.serve noUrl remote shared rest).2 remote

/-- An owner with a row at a URL is priced with a workbook that is at hand there from then on. -/
theorem Faithful.template_of_calculate {name : String} {row : Row}
    (route : Route.ofPath? app.settings.basePath request.path = some .calculate)
    (acts : owner app.settings request = .ok name)
    (current : app.archive.row? name = some row) (there : isUrl row.storagePath = true) :
    ∃ (template : Template) (inputs : PerDimension (Option RawInput)) (result : PriceResult),
      template.config = row.config ∧ request.body.inputs? = some inputs ∧
      template.calculate inputs = .ok result ∧ response = .ok (.price result) ∧
      ∀ rest, (Service.serve format rest
        (respond format moment request app).2).archive.loader.Offers row.storagePath
          template.workbook := by
  rw [respond_eq] at answered ⊢
  cases asked : ask format app.settings request with
  | error rejection =>
    rw [asked] at answered
    subst answered
    exact absurd success rejection.status_ne
  | ok task =>
    obtain ⟨inputs, held, rfl⟩ := task_of_calculate route acts asked
    rw [asked] at answered
    dsimp only at answered ⊢
    rw [Task.perform] at answered ⊢
    have next := (faithful.ownerPrice noUrl remote name inputs).1
    rw [on_ownerPrice] at answered next ⊢
    dsimp only at answered next ⊢
    subst answered
    have supplies := Session.supplies_ownerSource format name app.archive
    rw [config?, current, Option.map_some] at supplies
    obtain ⟨template, result, loaded, calculated, answer⟩ :=
      template_of_priceAnswer (Session.on_load_ne_none supplies) success loads
    obtain ⟨config, offers⟩ := faithful.offers_of_loadOwner current there loaded
    refine ⟨template, inputs, result, config, held, calculated, answer, fun rest => ?_⟩
    exact offers.retained (next.serve noUrl remote shared rest).2 there

end

end

/-- In every run of requests, a treatment and an owner whose row asks for the same worksheet and cells
of the shared template have one price and one record of it for one body, in whichever order they
come and whatever is uploaded, replaced and cleared between them or served at the URL later. -/
theorem price_eq_of_isPreset {root : Path} {replies : List (Reply β)} {visits : List (Visit β)}
    {i j : Nat} {preset live : Request β} {presetResponse liveResponse : Response}
    {kind : Treatment} {name : String} {row : Row}
    (noUrl : ∀ data, isUrl (format.digest data) = false)
    (shared : Treatment.templateUrl? "" settings.templateUrl = some url) (remote : isUrl url = true)
    (presetAnswered : (exchanges format visits (.start settings root replies))[i]?
      = some (preset, presetResponse))
    (presetRoute : Route.ofPath? settings.basePath preset.path = some (.treatment kind.sheetName))
    (presetSuccess : presetResponse.status = 200) (presetLoads : presetResponse.Loads)
    (liveAnswered : (exchanges format visits (.start settings root replies))[j]?
      = some (live, liveResponse))
    (liveRoute : Route.ofPath? settings.basePath live.path = some .calculate)
    (acts : owner settings live = .ok name)
    (current : (serve format (visits.take j) (.start settings root replies)).archive.row? name
      = some row)
    (asks : row.IsPreset kind url)
    (liveSuccess : liveResponse.status = 200) (liveLoads : liveResponse.Loads)
    (body : preset.body = live.body) :
    ∃ result, presetResponse = .ok (.price result) ∧ liveResponse = .ok (.price result) := by
  have start := faithful_start format settings root replies url
  have settingsAt (before : List (Visit β)) :
      (serve format before (.start settings root replies)).settings = settings :=
    settings_serve format before _
  have faithfulAt (before : List (Visit β)) :
      Faithful format url (serve format before (.start settings root replies)) :=
    (start.serve noUrl remote shared before).1
  obtain ⟨moment, answered, rest, served⟩ := respond_of_exchanges presetAnswered
  obtain ⟨momentToo, answeredToo, restToo, servedToo⟩ := respond_of_exchanges liveAnswered
  obtain ⟨template, inputs, result, config, given, calculated, response, offers⟩ :=
    (faithfulAt (visits.take i)).template_of_treatment noUrl remote (by rw [settingsAt, shared])
      answered presetSuccess presetLoads (by rw [settingsAt, presetRoute])
  obtain ⟨templateToo, inputsToo, resultToo, configToo, givenToo, calculatedToo, responseToo,
      offersToo⟩ :=
    (faithfulAt (visits.take j)).template_of_calculate noUrl remote (by rw [settingsAt, shared])
      answeredToo liveSuccess liveLoads (by rw [settingsAt, liveRoute]) (by rw [settingsAt, acts])
      current (by rw [asks.workbook, remote])
  -- Both workbooks are at hand under one URL at the end of the run.
  have atEnd := offers rest
  have atEndToo := offersToo restToo
  rw [← served] at atEnd
  rw [← servedToo, asks.workbook] at atEndToo
  rw [body, givenToo] at given
  obtain rfl := Option.some.inj given
  have one : template.calculate inputsToo = templateToo.calculate inputsToo :=
    Template.calculate_congr (atEnd.unique atEndToo)
      (by rw [config, configToo]; exact asks.sheet.symm)
      (by rw [config, configToo]; exact asks.inputs.symm)
      (by rw [config, configToo]; exact asks.price.symm) inputsToo
  rw [calculated, calculatedToo] at one
  obtain rfl := Except.ok.inj one
  exact ⟨result, response, responseToo⟩

/-- Files with the worksheet of one treatment, whose price is a number for each unit of length. -/
def galvanizingFile (number : Int) : Json :=
  .object [("sheets", .list [.list [.text Treatment.galvanizing.sheetName,
    .object [("L17", .text s!"=D67*{number}")]]])]

def galvanizingFormat : FileFormat Int where
  digest number := cellFormat.digest (galvanizingFile number)
  sheets number := cellFormat.sheets (galvanizingFile number)
  isText _ := false
  ofOctets octets := octets.length

/-- A configuration for the worksheet and the cells of a treatment, with something more in its form. -/
def presetForm (stamp : String) (more : List (String × Part Int)) : Visit Int where
  moment := ⟨stamp, "2024-01-31"⟩
  request := sampleRequest "PUT" "/pricing/config" "anna" "multipart/form-data; boundary=b" <|
    .parts "b" ⟨[("selected_sheet", .text "Verzinken"), ("length_cell", .text "D67"),
      ("width_cell", .text "D68"), ("height_cell", .text "D69"), ("weight_cell", .text "D74"),
      ("price_cell", .text "L17")] ++ more⟩

/-- The price of a treatment, an upload that is cleared away again, and the price with the URL. -/
def presetVisits : List (Visit Int) :=
  [sampleVisit sampleTreatment,
    presetForm "20240131_080001_000000" [("file", .file "prijzen.xlsx" 5)],
    sampleVisit (sampleRequest "DELETE" "/pricing/config" "anna" "" .empty),
    presetForm "" [("workbook_url", .text "https://example.com/prijzen.xlsx")],
    sampleVisit (samplePrice "anna")]

/-- The price in a response, if there is one. -/
def Response.price? : Response → Option Binary64
  | .ok (.price result) => result.price
  | _ => none

theorem Response.loads_of_price? {response : Response} (priced : response.price?.isSome = true) :
    response.Loads := by
  rintro error rfl
  cases priced

theorem price_eq_of_presetVisits :
    let start := App.start sharedSettings (Path.ofText "/data")
      [.response 200 "OK" 3, .response 200 "OK" 4]
    ∃ result, (exchanges galvanizingFormat presetVisits start)[0]?
        = some (sampleTreatment, .ok (.price result)) ∧
      (exchanges galvanizingFormat presetVisits start)[4]?
        = some (samplePrice "anna", .ok (.price result)) ∧ result.price = some 30 := by
  intro start
  have answers : (exchanges galvanizingFormat presetVisits start).map
      (fun exchange => (exchange.2.status, exchange.2.price?))
      = [(200, some 30), (200, none), (204, none), (200, none), (200, some 30)] := by decide +kernel
  have stored : ((serve galvanizingFormat (presetVisits.take 4) start).archive.row? "anna").map
      (fun row => (row.storagePath, row.selectedSheet, row.inputCells, row.priceCell))
      = some ("https://example.com/prijzen.xlsx", Treatment.galvanizing.sheetName,
        Treatment.inputCells, Treatment.priceCell) := by decide +kernel
  have routes : (Route.ofPath? sharedSettings.basePath sampleTreatment.path,
      Route.ofPath? sharedSettings.basePath (samplePrice "anna").path)
      = (some (.treatment Treatment.galvanizing.sheetName), some .calculate) := by decide +kernel
  have named : (owner sharedSettings (samplePrice "anna")).toOption = some "anna" := by decide +kernel
  have acts : owner sharedSettings (samplePrice "anna") = .ok "anna" := by
    rcases acting : owner sharedSettings (samplePrice "anna") with rejection | name
    · rw [acting] at named
      cases named
    · rw [acting] at named
      exact congrArg Except.ok (Option.some.inj named)
  obtain ⟨presetRoute, liveRoute⟩ := Prod.mk.inj routes
  obtain ⟨row, current, same⟩ := Option.map_eq_some_iff.mp stored
  have asks : row.IsPreset .galvanizing "https://example.com/prijzen.xlsx" := by
    simp only [Prod.mk.injEq] at same
    exact ⟨same.1, same.2.1, same.2.2.1, same.2.2.2⟩
  obtain ⟨presetResponse, preset⟩ : ∃ response,
      (exchanges galvanizingFormat presetVisits start)[0]? = some (sampleTreatment, response) :=
    ⟨_, rfl⟩
  obtain ⟨liveResponse, live⟩ : ∃ response,
      (exchanges galvanizingFormat presetVisits start)[4]? = some (samplePrice "anna", response) :=
    ⟨_, rfl⟩
  have first := congrArg (·[0]?) answers
  have last := congrArg (·[4]?) answers
  rw [List.getElem?_map, preset] at first
  rw [List.getElem?_map, live] at last
  obtain ⟨presetSuccess, presetPrice⟩ := Prod.mk.inj (Option.some.inj first)
  obtain ⟨liveSuccess, livePrice⟩ := Prod.mk.inj (Option.some.inj last)
  have noUrl (number : Int) : isUrl (galvanizingFormat.digest number) = false := isUrl_digest _
  obtain ⟨result, rfl, rfl⟩ := price_eq_of_isPreset noUrl rfl (by decide) preset presetRoute
    presetSuccess (Response.loads_of_price? (by rw [presetPrice]; rfl)) live liveRoute acts current
    asks liveSuccess (Response.loads_of_price? (by rw [livePrice]; rfl)) rfl
  exact ⟨result, preset, live, presetPrice⟩

end SheetPricing.Service
