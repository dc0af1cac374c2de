import SheetPricing.Proofs.Outcome
import SheetPricing.Service.App

/-! What a request asks for. Who asks and what was submitted are read off the request and the settings
alone; only what is left acts on the service. -/
namespace SheetPricing.Service
open Action App Loading
variable {β : Type} {format : FileFormat β} {moment : Moment}

/-- What a request asks for, once it is accepted. -/
inductive Task (β : Type) where
  | health
  | database
  | config (owner : String)
  | store (owner : String) (submission : Submission β)
  | clear (owner : String)
  | sheets (owner : String)
  | price (owner : String) (inputs : PerDimension (Option RawInput))
  | treatment (treatment : Treatment) (inputs : PerDimension (Option RawInput))

/-- What a request at a route asks for, or why it is rejected. -/
def askAt (format : FileFormat β) (settings : Settings) (request : Request β) :
    Route → Except Rejection (Task β)
  | .health => if request.method = "GET" then .ok .health else .error .wrongMethod
  | .database => if request.method = "GET" then .ok .database else .error .wrongMethod
  | .config =>
    if request.method = "GET" then (owner settings request).map .config
    else if request.method = "PUT" then do
      let form ← (request.form format.ofOctets).mapError .unreadableForm
      let name ← owner settings request
      return .store name (← Submission.ofForm form)
    else if request.method = "DELETE" then (owner settings request).map .clear
    else .error .wrongMethod
  | .sheets =>
    if request.method = "GET" then (owner settings request).map .sheets else .error .wrongMethod
  | .calculate =>
    if request.method = "POST" then do
      let payload ← request.payload format.isText
      let name ← owner settings request
      return .price name (← payload.inputs.mapError Complaint.rejection)
    else .error .wrongMethod
  | .treatment name =>
    if request.method = "POST" then do
      let payload ← request.payload format.isText
      checkKey settings request
      let (treatment, inputs) ← (treatmentInputs name payload).mapError Complaint.rejection
      return .treatment treatment inputs
    else .error .wrongMethod

/-- What a request asks for, or why it is rejected. -/
def ask (format : FileFormat β) (settings : Settings) (request : Request β) :
    Except Rejection (Task β) :=
  match Route.ofPath? settings.basePath request.path with
  | none => .error .unknownPath
  | some route => askAt format settings request route

/-- Store what was submitted for an owner, and show it. -/
def storeSubmission (format : FileFormat β) (moment : Moment) (owner : String)
    (submission : Submission β) : Handler β Answer := do
  discard (onArchive rejectChange
    (Archive.store format owner submission.config submission.upload moment (.ok ())))
  onSession owner Session.invalidate
  showConfig owner

namespace Task

def perform (format : FileFormat β) (moment : Moment) : Task β → Handler β Answer
  | .health => App.health
  | .database => return .database none
  | .config owner => showConfig owner
  | .store owner submission => storeSubmission format moment owner submission
  | .clear owner => clearConfig owner
  | .sheets owner => showSheets format owner
  | .price owner inputs => ownerPrice format owner inputs
  | .treatment kind inputs => treatmentPrice format kind inputs

end Task

theorem on_handle (format : FileFormat β) (moment : Moment) (request : Request β) (route : Route)
    (app : App β) : (handle format moment request route).on app
      = match askAt format app.settings request route with
        | .error rejection => (.error rejection, app)
        | .ok task => (task.perform format moment).on app := by
  cases route with
  | health =>
    rw [handle, askAt]
    split <;> rfl
  | database =>
    rw [handle, askAt]
    split <;> rfl
  | config =>
    rw [handle, askAt]
    split
    · rw [on_bind, on_get]
      dsimp only
      rw [on_bind, on_ofExcept]
      rcases owner app.settings request with _ | name <;> rfl
    split
    · rw [on_bind, on_ofExcept]
      rcases request.form format.ofOctets with _ | form
      · rfl
      · dsimp only [mapError_ok]
        rw [on_bind, on_get]
        dsimp only
        rw [on_bind, on_ofExcept, ok_bind]
        rcases owner app.settings request with _ | name
        · rfl
        · dsimp only
          rw [ok_bind, storeConfig, on_bind, on_ofExcept]
          rcases Submission.ofForm form with _ | submission <;> rfl
    split
    · rw [on_bind, on_get]
      dsimp only
      rw [on_bind, on_ofExcept]
      rcases owner app.settings request with _ | name <;> rfl
    · rfl
  | sheets =>
    rw [handle, askAt]
    split
    · rw [on_bind, on_get]
      dsimp only
      rw [on_bind, on_ofExcept]
      rcases owner app.settings request with _ | name <;> rfl
    · rfl
  | calculate =>
    rw [handle, askAt]
    split
    · rw [on_bind, on_ofExcept]
      rcases request.payload format.isText with _ | payload
      · rfl
      · dsimp only
        rw [on_bind, on_get]
        dsimp only
        rw [on_bind, on_ofExcept, ok_bind]
        rcases owner app.settings request with _ | name
        · rfl
        · dsimp only
          rw [ok_bind, on_bind, on_ofExcept]
          rcases payload.inputs.mapError Complaint.rejection with _ | inputs <;> rfl
    · rfl
  | treatment name =>
    rw [handle, askAt]
    split
    · rw [on_bind, on_ofExcept]
      rcases request.payload format.isText with _ | payload
      · rfl
      · dsimp only
        rw [on_bind, on_get]
        dsimp only
        rw [on_bind, on_ofExcept, ok_bind]
        rcases checkKey app.settings request with _ | _
        · rfl
        · dsimp only
          rw [ok_bind, on_bind, on_ofExcept]
          rcases (treatmentInputs name payload).mapError Complaint.rejection with
            _ | ⟨treatment, inputs⟩ <;> rfl
    · rfl

/-- A request is rejected at once, or what it asks for is done. -/
theorem respond_eq (format : FileFormat β) (moment : Moment) (request : Request β) (app : App β) :
    respond format moment request app
      = match ask format app.settings request with
        | .error rejection => (.error rejection, app)
        | .ok task => (task.perform format moment).on app := by
  rw [respond, ask]
  cases Route.ofPath? app.settings.basePath request.path with
  | none => rfl
  | some route => exact on_handle format moment request route app

end SheetPricing.Service
