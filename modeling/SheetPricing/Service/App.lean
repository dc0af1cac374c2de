import SheetPricing.Archive.Source
import SheetPricing.Pricing.Registry
import SheetPricing.Service.Settings
import SheetPricing.Service.Submission

/-!
# The service

The service keeps the archive, a session for each owner and a session for each treatment. A
request is answered in one step: who asks is checked before anything changes, and a change of a
configuration invalidates the session of its owner.

Main statements: `respond_of_ofPath?_eq_none` (nothing happens at an unknown path),
`respond_snd_of_checkKey_eq_error` (a request that does not show the API key changes nothing).
-/
namespace SheetPricing.Service

open Loading Archive

structure App (β : Type) where
  settings : Settings
  archive : Archive β
  owners : Registry
  treatments : Registry

/-- What answers a request. -/
abbrev Handler (β : Type) := Action Rejection (App β)

namespace App

variable {β : Type}

/-- A service without configurations, templates and workbooks. -/
def start (settings : Settings) (root : Storage.Path) (replies : List (Reply β)) : App β where
  settings
  archive :=
    ⟨.empty, .empty root, .new (.real settings.fetchTimeout) settings.fetchRetries replies⟩
  owners := .empty
  treatments := .empty

/-- The API key that requests have to show, if there is one. -/
def key? (settings : Settings) : Option String := settings.apiKey.filter (!·.isEmpty)

/-- A request shows the API key, if there is one. -/
def checkKey (settings : Settings) (request : Request β) : Except Rejection Unit :=
  match key? settings with
  | none => .ok ()
  | some key =>
    match (request.header? "X-API-Key").filter (!·.isEmpty) with
    | none => .error .missingKey
    | some given => if given = key then .ok () else .error .wrongKey

/-- The owner that a request acts for. -/
def owner (settings : Settings) (request : Request β) : Except Rejection String := do
  checkKey settings request
  let name := Text.trim ((request.header? "X-Owner-Id").getD "")
  if name.isEmpty then throw .missingOwner else return name

/-- Let the archive act; what goes wrong rejects the request. -/
def onArchive {ε α : Type} (reject : ε → Rejection) (action : Action ε (Archive β) α) :
    Handler β α :=
  (action.within App.archive fun app archive => { app with archive }).mapError reject

def onSession (owner : String) (change : Session → Session) : Handler β Unit :=
  modify fun app => { app with owners := Registry.update app.owners owner change }

/-- What a failure to store or to clear a configuration means. -/
def rejectChange : ArchiveError → Rejection
  | .load (.unavailable error) => .unusableWorkbook error
  | .configuration error => .refusedConfig error
  | _ => .broken

/-- What a failure to load the stored workbook means. -/
def rejectLoad : LoadFailure LoadFault → Rejection
  | .unavailable error => .unreachableWorkbook error
  | .broken _ => .broken

def health : Handler β Answer := do
  let app ← get
  return .health
    { service := app.settings.projectName
      version := app.settings.version
      templateConfigured := (app.settings.templateUrl.filter (!·.isEmpty)).isSome
      templatesLoaded := Registry.loadedKeys app.treatments
      cachedWorkbooks := app.archive.loader.cache.size }

def showConfig (owner : String) : Handler β Answer := do
  match (← get).archive.row? owner with
  | some row => return .stored row
  | none => throw .notConfigured

/-- Store the configuration that a form submits, and show it. -/
def storeConfig (format : FileFormat β) (moment : Moment) (form : Form β) (owner : String) :
    Handler β Answer := do
  let submission ← Action.ofExcept (Submission.ofForm form)
  discard (onArchive rejectChange
    (Archive.store format owner submission.config submission.upload moment (.ok ())))
  onSession owner Session.invalidate
  showConfig owner

/-- Remove the configuration of an owner. -/
def clearConfig (owner : String) : Handler β Answer := do
  onArchive rejectChange (Archive.clear owner (.ok ()))
  onSession owner Session.invalidate
  return .cleared

/-- Show the worksheets of an owner's workbook. -/
def showSheets (format : FileFormat β) (owner : String) : Handler β Answer := do
  match (← get).archive.config? owner with
  | none => throw .notConfigured
  | some config =>
    let parsed ← onArchive rejectLoad (Archive.loadWorkbook format config)
    return .worksheets config parsed.workbook.sheetNames

/-- A price or what its failure means. -/
def priceAnswer : Except (PriceFailure LoadFault) PriceResult → Response
  | .ok result => .ok (.price result)
  | .error _ => .error .broken

/-- The price in the session of a key, with the session and the archive afterwards. -/
def priceIn (registry : Registry) (key : String) (source : ArchiveSource β)
    (inputs : PerDimension (Option RawInput)) (archive : Archive β) :
    Response × Registry × Archive β :=
  let (outcome, session, archive) :=
    (Session.calculate (some source) inputs).on (Registry.session registry key, archive)
  (priceAnswer outcome, Registry.update registry key fun _ => session, archive)

/-- Calculate a price with the template of an owner. -/
def ownerPrice (format : FileFormat β) (owner : String)
    (inputs : PerDimension (Option RawInput)) : Handler β Answer := do
  let app ← get
  let (response, owners, archive) :=
    priceIn app.owners owner (ownerSource format owner) inputs app.archive
  set { app with owners, archive }
  Action.ofExcept response

/-- Calculate a price with the shared template. -/
def treatmentPrice (format : FileFormat β) (treatment : Treatment)
    (inputs : PerDimension (Option RawInput)) : Handler β Answer := do
  let app ← get
  match Treatment.templateUrl? "" app.settings.templateUrl with
  | none => throw .noTemplate
  | some url =>
    let (response, treatments, archive) :=
      priceIn app.treatments treatment.sheetName (treatmentSource format treatment url) inputs
        app.archive
    set { app with treatments, archive }
    Action.ofExcept response

/-- The places that are invalid in a request for a price with the shared template. -/
def treatmentInputs (name : String) (payload : Payload) :
    Except Complaint (Treatment × PerDimension (Option RawInput)) :=
  match Treatment.named? name, payload.inputs with
  | some treatment, .ok inputs => .ok (treatment, inputs)
  | some _, .error complaint => .error complaint
  | none, .ok _ => .error ⟨["path.sheet"], true⟩
  | none, .error complaint => .error (complaint.withPlace "path.sheet")

/-- Answer a request at a route. A body that cannot be read is rejected before it is checked who
asks. -/
def handle (format : FileFormat β) (moment : Moment) (request : Request β) :
    Route → Handler β Answer
  | .health => if request.method = "GET" then health else throw .wrongMethod
  | .database => if request.method = "GET" then return .database none else throw .wrongMethod
  | .config => do
    if request.method = "GET" then
      showConfig (← Action.ofExcept (owner (← get).settings request))
    else if request.method = "PUT" then
      let form ← Action.ofExcept ((request.form format.ofOctets).mapError .unreadableForm)
      storeConfig format moment form (← Action.ofExcept (owner (← get).settings request))
    else if request.method = "DELETE" then
      clearConfig (← Action.ofExcept (owner (← get).settings request))
    else throw .wrongMethod
  | .sheets => do
    if request.method = "GET" then
      showSheets format (← Action.ofExcept (owner (← get).settings request))
    else throw .wrongMethod
  | .calculate => do
    if request.method = "POST" then
      let payload ← Action.ofExcept (request.payload format.isText)
      let owner ← Action.ofExcept (owner (← get).settings request)
      ownerPrice format owner (← Action.ofExcept (payload.inputs.mapError Complaint.rejection))
    else throw .wrongMethod
  | .treatment name => do
    if request.method = "POST" then
      let payload ← Action.ofExcept (request.payload format.isText)
      Action.ofExcept (checkKey (← get).settings request)
      let (treatment, inputs) ←
        Action.ofExcept ((treatmentInputs name payload).mapError Complaint.rejection)
      treatmentPrice format treatment inputs
    else throw .wrongMethod

/-- Answer a request. -/
def respond (format : FileFormat β) (moment : Moment) (request : Request β) (app : App β) :
    Response × App β :=
  match Route.ofPath? app.settings.basePath request.path with
  | none => (.error .unknownPath, app)
  | some route => (handle format moment request route).on app

theorem owner_eq_error {settings : Settings} {request : Request β} {rejection : Rejection}
    (refused : checkKey settings request = .error rejection) :
    owner settings request = .error rejection := by
  simp [owner, refused, bind, Except.bind]

theorem respond_of_ofPath?_eq_none (format : FileFormat β) (moment : Moment) {request : Request β}
    (app : App β) (unknown : Route.ofPath? app.settings.basePath request.path = none) :
    respond format moment request app = (.error .unknownPath, app) := by
  simp [respond, unknown]

theorem respond_snd_of_checkKey_eq_error (format : FileFormat β) (moment : Moment)
    {request : Request β} {app : App β} {rejection : Rejection}
    (refused : checkKey app.settings request = .error rejection) :
    (respond format moment request app).2 = app := by
  have noOwner := owner_eq_error refused
  unfold respond
  split
  · rfl
  · next route _ =>
    cases route <;> simp only [handle, health] <;> repeat' split
    all_goals simp only [Action.on_bind, Action.on_get, Action.on_ofExcept, Action.on_pure,
      Action.on_throw, noOwner]
    · cases request.form format.ofOctets <;> simp only [Action.mapError_ok,
        Action.mapError_error, noOwner]
    all_goals cases request.payload format.isText <;> simp only [noOwner, refused]

end App
end SheetPricing.Service
