import SheetPricing.Proofs.Service.Isolation

/-! Requests that do not show the API key. Wherever configurations and prices are asked for, the key is
asked for before anything is done; only a method that the place does not have and a body that cannot
be read are rejected earlier, whatever key is shown. A request that is rejected leaves no trace in a
run: without it, all others are answered the same. -/
namespace SheetPricing.Service
open Action App Loading Storage
variable {β : Type} {format : FileFormat β} {settings : Settings} {app : App β} {key : String}
  {request : Request β} {route : Route} {rejection : Rejection} {visit : Visit β}

/-- The methods of a place. -/
def Route.methods : Route → List String
  | .config => ["GET", "PUT", "DELETE"]
  | .calculate => ["POST"]
  | .treatment _ => ["POST"]
  | _ => ["GET"]

/-- The places that configurations and prices are asked for at. -/
def Route.isPricing : Route → Bool
  | .health => false
  | .database => false
  | _ => true

/-- A request that is rejected as it stands, whoever asks: its method is not one of the place, or its
body cannot be read as what the place takes. -/
inductive Malformed (format : FileFormat β) (request : Request β) : Route → Rejection → Prop
  | method {route : Route} (unknown : request.method ∉ route.methods) :
      Malformed format request route .wrongMethod
  | form {fault : FormFault} (put : request.method = "PUT")
      (unreadable : request.form format.ofOctets = .error fault) :
      Malformed format request .config (.unreadableForm fault)
  | payload {route : Route} {rejection : Rejection} (post : request.method = "POST")
      (taken : "POST" ∈ route.methods)
      (unreadable : request.payload format.isText = .error rejection) :
      Malformed format request route rejection

/-- The rejection of a request that does not show the key: without any, or with another one. -/
def keyRejection (request : Request β) : Rejection :=
  match (request.header? "X-API-Key").filter (!·.isEmpty) with
  | none => .missingKey
  | some _ => .wrongKey

theorem status_keyRejection (request : Request β) : (keyRejection request).status = 401 := by
  rw [keyRejection]
  split <;> rfl

/-- A key that is empty counts as none. -/
theorem checkKey_of_header_ne (asked : settings.apiKey = some key) (nonempty : key ≠ "")
    (other : request.header? "X-API-Key" ≠ some key) :
    checkKey settings request = .error (keyRejection request) := by
  have needed : key? settings = some key := by
    rw [key?, asked, Option.filter_some, if_pos (by simpa using nonempty)]
  rw [checkKey, needed, keyRejection]
  dsimp only
  cases given : (request.header? "X-API-Key").filter (!·.isEmpty) with
  | none => rfl
  | some shown =>
    have header := (Option.filter_eq_some_iff.mp given).1
    exact if_neg fun same : shown = key => other (same ▸ header)

/-- At the places of the prices, the key is asked for once the body is read. -/
theorem askAt_of_checkKey_eq_error (format : FileFormat β) (pricing : route.isPricing = true)
    (refused : checkKey settings request = .error rejection) :
    ∃ told, askAt format settings request route = .error told ∧
      (told = rejection ∨ Malformed format request route told) := by
  have noOwner := owner_eq_error refused
  cases route with
  | health => cases pricing
  | database => cases pricing
  | config =>
    rw [askAt, noOwner]
    split
    · exact ⟨rejection, rfl, .inl rfl⟩
    split
    · next put =>
      cases read : request.form format.ofOctets with
      | error fault => exact ⟨.unreadableForm fault, rfl, .inr (.form put read)⟩
      | ok form => exact ⟨rejection, rfl, .inl rfl⟩
    split
    · exact ⟨rejection, rfl, .inl rfl⟩
    · next noGet noPut noDelete =>
      exact ⟨.wrongMethod, rfl, .inr (.method (by simp [Route.methods, noGet, noPut, noDelete]))⟩
  | sheets =>
    rw [askAt, noOwner]
    split
    · exact ⟨rejection, rfl, .inl rfl⟩
    · next noGet => exact ⟨.wrongMethod, rfl, .inr (.method (by simpa [Route.methods] using noGet))⟩
  | calculate =>
    rw [askAt, noOwner]
    split
    · next post =>
      cases read : request.payload format.isText with
      | error told => exact ⟨told, rfl, .inr (.payload post (List.mem_singleton_self _) read)⟩
      | ok payload => exact ⟨rejection, rfl, .inl rfl⟩
    · next noPost => exact ⟨.wrongMethod, rfl, .inr (.method (by simpa [Route.methods] using noPost))⟩
  | treatment name =>
    rw [askAt, refused]
    split
    · next post =>
      cases read : request.payload format.isText with
      | error told => exact ⟨told, rfl, .inr (.payload post (List.mem_singleton_self _) read)⟩
      | ok payload => exact ⟨rejection, rfl, .inl rfl⟩
    · next noPost => exact ⟨.wrongMethod, rfl, .inr (.method (by simpa [Route.methods] using noPost))⟩

theorem serve_append (format : FileFormat β) (before after : List (Visit β)) (app : App β) :
    serve format (before ++ after) app = serve format after (serve format before app) :=
  List.foldl_append

theorem exchanges_append (format : FileFormat β) (before after : List (Visit β)) (app : App β) :
    exchanges format (before ++ after) app
      = exchanges format before app ++ exchanges format after (serve format before app) := by
  induction before generalizing app with
  | nil => rfl
  | cons visit rest ih => rw [List.cons_append, exchanges, exchanges, ih, serve_cons, List.cons_append]

/-- A rejected request changes nothing. -/
theorem respond_of_ask_eq_error (moment : Moment)
    (refused : ask format app.settings request = .error rejection) :
    respond format moment request app = (.error rejection, app) := by
  rw [respond_eq, refused]

/-- Whoever asks about configurations or prices without the key, in whatever run, is rejected, and all
other requests are answered as if that one had not been made. -/
theorem exchanges_eq_of_header_ne (format : FileFormat β) (before after : List (Visit β))
    (asked : app.settings.apiKey = some key) (nonempty : key ≠ "")
    (place : Route.ofPath? app.settings.basePath visit.request.path = some route)
    (pricing : route.isPricing = true)
    (other : visit.request.header? "X-API-Key" ≠ some key) :
    ∃ rejection,
      (rejection = keyRejection visit.request ∧ rejection.status = 401 ∨
        Malformed format visit.request route rejection) ∧
      exchanges format (before ++ visit :: after) app
        = exchanges format before app
          ++ (visit.request, .error rejection) :: exchanges format after (serve format before app) ∧
      exchanges format (before ++ after) app
        = exchanges format before app ++ exchanges format after (serve format before app) ∧
      serve format (before ++ visit :: after) app = serve format (before ++ after) app := by
  obtain ⟨rejection, refused, why⟩ := askAt_of_checkKey_eq_error format pricing
    (checkKey_of_header_ne asked nonempty other)
  have rejected : ask format (serve format before app).settings visit.request = .error rejection := by
    rw [settings_serve, ask, place]
    exact refused
  have nothing := respond_of_ask_eq_error visit.moment rejected
  refine ⟨rejection, why.imp_left fun same => ⟨same, same ▸ status_keyRejection _⟩, ?_,
    exchanges_append format before after app, ?_⟩
  · rw [exchanges_append, exchanges, nothing]
  · rw [serve_append, serve_append, serve_cons, nothing]

/-- A service that asks for a key. -/
def guardedSettings : Settings := { Settings.default with apiKey := some "geheim" }

/-- A visit that shows the key. -/
def withKey (visit : Visit Int) : Visit Int :=
  { visit with request.headers := ("X-API-Key", "geheim") :: visit.request.headers }

/-- A try to remove the configuration of an owner, with a key that is wrong. -/
def sampleIntrusion : Visit Int :=
  sampleVisit ⟨"DELETE", "/pricing/config", [("X-API-Key", "raad"), ("X-Owner-Id", "anna")], .empty⟩

theorem exchanges_eq_of_sampleIntrusion :
    let start := App.start guardedSettings (Path.ofText "/data") ([] : List (Reply Int))
    let before := [withKey (sampleUpload "anna" 1 '1')]
    let after := [withKey (sampleVisit (samplePrice "anna"))]
    (exchanges numberFormat (before ++ sampleIntrusion :: after) start).map
        (fun exchange => exchange.2.status) = [200, 401, 200] ∧
      (exchanges numberFormat (before ++ sampleIntrusion :: after) start).eraseIdx 1
        = exchanges numberFormat (before ++ after) start := by
  intro start before after
  have place : Route.ofPath? start.settings.basePath sampleIntrusion.request.path = some .config := by
    decide +kernel
  have other : sampleIntrusion.request.header? "X-API-Key" ≠ some "geheim" := by decide +kernel
  have statuses : (exchanges numberFormat (before ++ sampleIntrusion :: after) start).map
      (fun exchange => exchange.2.status) = [200, 401, 200] := by decide +kernel
  obtain ⟨_, _, all, less, _⟩ := exchanges_eq_of_header_ne numberFormat before after
    (rfl : start.settings.apiKey = some "geheim") (by decide) place rfl other
  refine ⟨statuses, ?_⟩
  rw [all, less]
  rfl

end SheetPricing.Service
