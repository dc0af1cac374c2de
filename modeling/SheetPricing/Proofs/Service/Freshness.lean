import SheetPricing.Proofs.Service.Step

/-! Prices over a run of requests. However rows were changed before, by any owners and with whatever
success, a price is calculated with the workbook, the worksheet and the price cell of the row that
is there. -/
namespace SheetPricing.Service
open Action App Archive Loading Storage
variable {β : Type} {format : FileFormat β} {known : β → Prop} {used : List String} {app : App β}
  {settings : Settings}

/-- A request with the moment that it comes at. -/
structure Visit (β : Type) where
  moment : Moment
  request : Request β

namespace Visit

/-- The stamps that a visit stores something under. -/
def stamps (format : FileFormat β) (settings : Settings) (visit : Visit β) : List String :=
  match ask format settings visit.request with
  | .error _ => []
  | .ok task => task.stamps visit.moment

def uploads (format : FileFormat β) (settings : Settings) (visit : Visit β) : List β :=
  match ask format settings visit.request with
  | .error _ => []
  | .ok task => task.uploads

end Visit

/-- The service after requests, one after another. -/
def serve (format : FileFormat β) (visits : List (Visit β)) (app : App β) : App β :=
  visits.foldl (fun app visit => (respond format visit.moment visit.request app).2) app

theorem serve_cons (format : FileFormat β) (visit : Visit β) (rest : List (Visit β)) (app : App β) :
    serve format (visit :: rest) app
      = serve format rest (respond format visit.moment visit.request app).2 := by
  rw [serve, List.foldl_cons, serve]

theorem settings_respond (format : FileFormat β) (moment : Moment) (request : Request β)
    (app : App β) : (respond format moment request app).2.settings = app.settings := by
  rw [respond_eq]
  split
  · rfl
  · exact settings_perform format moment _ app

theorem settings_serve (format : FileFormat β) (visits : List (Visit β)) (app : App β) :
    (serve format visits app).settings = app.settings := by
  induction visits generalizing app with
  | nil => rfl
  | cons visit rest ih => rw [serve_cons, ih, settings_respond]

section
variable (noUrl : ∀ data, isUrl (format.digest data) = false)
  (told : ∀ a b, known a → known b → format.digest a = format.digest b →
    format.sheets a = format.sheets b)
include noUrl told

theorem InStep.respond (inStep : InStep format known used app) (shared : app.HasTemplateUrl)
    (visit : Visit β) (proper : ∀ stamp ∈ visit.stamps format app.settings, isStamp stamp = true)
    (new : ∀ stamp ∈ visit.stamps format app.settings, stamp ∉ used)
    (held : ∀ data ∈ visit.uploads format app.settings, known data) :
    InStep format known (used ++ visit.stamps format app.settings)
      (App.respond format visit.moment visit.request app).2 := by
  rw [respond_eq]
  cases asked : ask format app.settings visit.request with
  | error rejection =>
    rw [Visit.stamps, asked, List.append_nil]
    exact inStep
  | ok task =>
    rw [Visit.stamps, asked] at proper new ⊢
    rw [Visit.uploads, asked] at held
    exact inStep.perform noUrl told shared task proper new held

theorem InStep.serve (inStep : InStep format known used app) (shared : app.HasTemplateUrl)
    (visits : List (Visit β))
    (proper : ∀ stamp ∈ visits.flatMap (Visit.stamps format app.settings), isStamp stamp = true)
    (distinct : (used ++ visits.flatMap (Visit.stamps format app.settings)).Nodup)
    (held : ∀ data ∈ visits.flatMap (Visit.uploads format app.settings), known data) :
    InStep format known (used ++ visits.flatMap (Visit.stamps format app.settings))
      (Service.serve format visits app) := by
  induction visits generalizing used app with
  | nil => simpa [Service.serve] using inStep
  | cons visit rest ih =>
    have same := settings_respond format visit.moment visit.request app
    rw [List.flatMap_cons] at proper distinct held
    have new : ∀ stamp ∈ visit.stamps format app.settings, stamp ∉ used := fun stamp member earlier =>
      (List.nodup_append.mp distinct).2.2 stamp earlier stamp (List.mem_append_left _ member) rfl
    have next := inStep.respond noUrl told shared visit
      (fun stamp member => proper stamp (List.mem_append_left _ member)) new
      (fun data member => held data (List.mem_append_left _ member))
    rw [← List.append_assoc] at distinct
    rw [serve_cons, List.flatMap_cons, ← List.append_assoc, ← same]
    rw [← same] at next distinct proper held
    exact ih next (fun url template => shared url (same ▸ template))
      (fun stamp member => proper stamp (List.mem_append_right _ member)) distinct
      (fun data member => held data (List.mem_append_right _ member))

end

/-- A service that has answered no request yet. -/
theorem inStep_start (settings : Settings) (root : Path) {replies : List (Reply β)}
    (answers : ∀ status reason body, .response status reason body ∈ replies → known body) :
    InStep format known [] (.start settings root replies) :=
  ⟨reliable_opened root _ _ answers, fun _ _ held => by cases held⟩

/-- The data that are uploaded, or downloaded, in a run of requests. -/
def Seen (format : FileFormat β) (settings : Settings) (visits : List (Visit β))
    (replies : List (Reply β)) (data : β) : Prop :=
  data ∈ visits.flatMap (Visit.uploads format settings) ∨
    ∃ status reason, .response status reason data ∈ replies

theorem inStep_serve (root : Path) {replies : List (Reply β)} {visits : List (Visit β)}
    (noUrl : ∀ data, isUrl (format.digest data) = false)
    (told : ∀ a b, Seen format settings visits replies a → Seen format settings visits replies b →
      format.digest a = format.digest b → format.sheets a = format.sheets b)
    (shared : ∀ url, Treatment.templateUrl? "" settings.templateUrl = some url → isUrl url = true)
    (proper : ∀ stamp ∈ visits.flatMap (Visit.stamps format settings), isStamp stamp = true)
    (distinct : (visits.flatMap (Visit.stamps format settings)).Nodup) :
    InStep format (Seen format settings visits replies)
      (visits.flatMap (Visit.stamps format settings))
      (serve format visits (.start settings root replies)) :=
  (inStep_start settings root fun status reason _ inside => .inr ⟨status, reason, inside⟩).serve
    noUrl told shared visits proper distinct fun _ member => .inl member

/-- A price that was calculated as a row says. -/
structure FreshPrice (row : Row) (result : PriceResult) : Prop where
  workbook : result.record.templateHash = some row.workbookHash
  sheet : result.record.sheetName = row.selectedSheet
  cell : result.record.outputCell = row.priceCell

theorem freshPrice_of_calculate {row : Row} {template : Template}
    (same : IsTemplateOf format known row template) {inputs : PerDimension (Option RawInput)}
    {result : PriceResult} (ok : template.calculate inputs = .ok result) :
    FreshPrice row result := by
  obtain ⟨data, _, opened, digest⟩ := same.read
  obtain ⟨hash, sheet, cell⟩ := Template.record_of_calculate ok
  rw [Loader.hash_of_open opened, digest] at hash
  rw [same.config] at sheet cell
  exact ⟨hash, sheet, cell⟩

section
variable (inStep : InStep format known used app)
  (noUrl : ∀ data, isUrl (format.digest data) = false)
  (told : ∀ a b, known a → known b → format.digest a = format.digest b →
    format.sheets a = format.sheets b)
  {owner : String} {inputs : PerDimension (Option RawInput)} {answer : Answer}
include inStep noUrl told

/-- The answer to a request for a price, when sessions and rows are in step. -/
theorem InStep.price_cases (ok : ((App.ownerPrice format owner inputs).on app).1 = .ok answer) :
    ∃ result, answer = .price result ∧
      (∀ row, app.archive.row? owner = some row → FreshPrice row result) ∧
      (app.archive.row? owner = none →
        result.price = none ∧ result.record.errors = [Session.notLoaded]) := by
  rw [on_ownerPrice] at ok
  cases current : app.archive.row? owner with
  | none =>
    rw [inStep.loadOwner_of_none current] at ok
    refine ⟨_, (Except.ok.inj ok).symm, ?_, fun _ => ⟨rfl, rfl⟩⟩
    rintro row ⟨⟩
  | some row =>
    obtain ⟨template, _, _, loaded, _, same, _⟩ := inStep.loadOwner_of_row noUrl told current
    rw [loaded] at ok
    dsimp only at ok
    rw [Session.priced] at ok
    cases calculated : template.calculate inputs with
    | error fault =>
      rw [calculated] at ok
      cases ok
    | ok result =>
      rw [calculated] at ok
      refine ⟨result, (Except.ok.inj ok).symm, ?_, ?_⟩
      · rintro other ⟨⟩
        exact freshPrice_of_calculate same calculated
      · rintro ⟨⟩

theorem InStep.rows_ownerPrice (owner : String) (inputs : PerDimension (Option RawInput)) :
    ((App.ownerPrice format owner inputs).on app).2.archive.rows = app.archive.rows := by
  rw [on_ownerPrice]
  cases current : app.archive.row? owner with
  | none => rw [inStep.loadOwner_of_none current]
  | some row =>
    obtain ⟨_, _, _, loaded, _, _, rows, _⟩ := inStep.loadOwner_of_row noUrl told current
    rw [loaded]
    exact rows

end

/-- A request for a price is rejected, or it asks for the price of its owner. -/
theorem ask_calculate (format : FileFormat β) {request : Request β}
    (route : Route.ofPath? settings.basePath request.path = some .calculate) :
    (∃ rejection, ask format settings request = .error rejection) ∨
      ∃ name inputs, owner settings request = .ok name ∧
        ask format settings request = .ok (.price name inputs) := by
  rw [ask, route]
  dsimp only
  rw [askAt]
  split
  · rcases request.payload format.isText with rejection | payload
    · exact .inl ⟨rejection, rfl⟩
    rw [ok_bind]
    rcases owner settings request with rejection | name
    · exact .inl ⟨rejection, rfl⟩
    rw [ok_bind]
    rcases payload.inputs.mapError Complaint.rejection with rejection | inputs
    · exact .inl ⟨rejection, rfl⟩
    · exact .inr ⟨name, inputs, rfl, rfl⟩
  · exact .inl ⟨.wrongMethod, rfl⟩

theorem Rejection.status_ne (rejection : Rejection) : rejection.status ≠ 200 := by
  intro success
  cases rejection <;> cases success

/-- What is shown to an owner is the row. -/
theorem respond_config {request : Request β} {name : String}
    (asked : ask format app.settings request = .ok (.config name)) {row : Row}
    (current : app.archive.row? name = some row) (moment : Moment) :
    (respond format moment request app).1 = .ok (.stored row) := by
  rw [respond_eq, asked]
  dsimp only
  rw [Task.perform, on_showConfig, current]

/-- In every run of requests where each upload is saved under a new stamp and the digests tell the
occurring files apart, a price that is answered with success was calculated with the workbook, the
worksheet and the price cell of the row of its owner, which is what is shown to the owner then; an
owner without a row is told that there is none. -/
theorem fresh_price_of_serve {root : Path} {replies : List (Reply β)} {visits : List (Visit β)}
    {moment : Moment} {request : Request β} {response : Response} {after : App β}
    (noUrl : ∀ data, isUrl (format.digest data) = false)
    (told : ∀ a b, Seen format settings visits replies a → Seen format settings visits replies b →
      format.digest a = format.digest b → format.sheets a = format.sheets b)
    (shared : ∀ url, Treatment.templateUrl? "" settings.templateUrl = some url → isUrl url = true)
    (proper : ∀ stamp ∈ visits.flatMap (Visit.stamps format settings), isStamp stamp = true)
    (distinct : (visits.flatMap (Visit.stamps format settings)).Nodup)
    (route : Route.ofPath? settings.basePath request.path = some .calculate)
    (responds : respond format moment request (serve format visits (.start settings root replies))
      = (response, after)) (success : response.status = 200) :
    ∃ name result, owner settings request = .ok name ∧ response = .ok (.price result) ∧
      (∀ row,
        (serve format visits (.start settings root replies)).archive.row? name = some row →
          FreshPrice row result ∧
          ∀ shown time, ask format settings shown = .ok (.config name) →
            (respond format time shown (serve format visits (.start settings root replies))).1
              = .ok (.stored row) ∧
            (respond format time shown after).1 = .ok (.stored row)) ∧
      ((serve format visits (.start settings root replies)).archive.row? name = none →
        result.price = none ∧ result.record.errors = [Session.notLoaded]) := by
  have inStep := inStep_serve root noUrl told shared proper distinct
  have same := settings_serve format visits (.start settings root replies)
  have sameAfter := settings_respond format moment request
    (serve format visits (.start settings root replies))
  generalize serve format visits (.start settings root replies) = app
    at inStep same sameAfter responds ⊢
  change app.settings = settings at same
  subst same
  rw [responds] at sameAfter
  rw [respond_eq] at responds
  rcases ask_calculate format route with ⟨rejection, refused⟩ | ⟨name, inputs, acts, asked⟩
  · rw [refused] at responds
    obtain ⟨rfl, _⟩ := Prod.mk.inj responds
    exact absurd success rejection.status_ne
  · rw [asked] at responds
    dsimp only at responds
    rw [Task.perform] at responds
    have rows := inStep.rows_ownerPrice noUrl told name inputs
    rw [responds] at rows
    rcases response with rejection | answer
    · exact absurd success rejection.status_ne
    obtain ⟨result, rfl, fresh, absent⟩ :=
      inStep.price_cases noUrl told (congrArg Prod.fst responds)
    refine ⟨name, result, acts, rfl, fun row current => ⟨fresh row current, ?_⟩, absent⟩
    intro shown time asked
    refine ⟨respond_config asked current time, respond_config (sameAfter.symm ▸ asked) ?_ time⟩
    rw [row?, rows]
    exact current

/-- A request of an owner at a path. -/
def sampleRequest (method path owner type : String) (body : Body Int) : Request Int :=
  ⟨method, path, [("X-Owner-Id", owner), ("Content-Type", type)], body⟩

/-- A form with the file that has a number, sent in some minute of a day. -/
def sampleUpload (owner : String) (number : Int) (minute : Char) : Visit Int where
  moment :=
    ⟨String.ofList ("20240131_08000".toList ++ minute :: "_000000".toList), "2024-01-31"⟩
  request := sampleRequest "PUT" "/pricing/config" owner "multipart/form-data; boundary=b" <|
    .parts "b" ⟨[("selected_sheet", .text "Prijzen"), ("file", .file "prijzen.xlsx" number)]⟩

def samplePrice (owner : String) : Request Int :=
  sampleRequest "POST" "/pricing/calculate" owner "application/json" <|
    .text "\x7b\"length\": 10, \"width\": 20, \"height\": 30, \"weight\": 61\x7d"

/-- A price between two uploads. -/
def sampleVisits : List (Visit Int) :=
  [sampleUpload "anna" 1 '1', ⟨⟨"", ""⟩, samplePrice "anna"⟩, sampleUpload "anna" 2 '2']

theorem fresh_price_of_serve_of_uploads :
    let before := serve numberFormat sampleVisits (.start .default (Path.ofText "/data") [])
    ∃ row result, before.archive.row? "anna" = some row ∧
      row.workbookHash = numberFormat.digest 2 ∧
      (respond numberFormat ⟨"", ""⟩ (samplePrice "anna") before).1 = .ok (.price result) ∧
      FreshPrice row result := by
  intro before
  have saved : (sampleVisits.flatMap (Visit.uploads numberFormat .default),
      sampleVisits.flatMap (Visit.stamps numberFormat .default))
      = ([1, 2], ["20240131_080001_000000", "20240131_080002_000000"]) := by decide +kernel
  obtain ⟨uploads, stamps⟩ := Prod.mk.inj saved
  have state : ((before.archive.row? "anna").map Row.workbookHash,
      Response.status (respond numberFormat ⟨"", ""⟩ (samplePrice "anna") before).1)
      = (some (numberFormat.digest 2), 200) := by decide +kernel
  have acts : (owner .default (samplePrice "anna")).toOption = some "anna" := by decide +kernel
  have route : Route.ofPath? Settings.default.basePath (samplePrice "anna").path
      = some .calculate := by decide +kernel
  have digests : ∀ a ∈ [1, 2], ∀ b ∈ [1, 2],
      numberFormat.digest a = numberFormat.digest b → a = b := by decide +kernel
  have told (a b : Int) (first : Seen numberFormat .default sampleVisits [] a)
      (second : Seen numberFormat .default sampleVisits [] b)
      (same : numberFormat.digest a = numberFormat.digest b) :
      numberFormat.sheets a = numberFormat.sheets b := by
    rw [Seen, uploads] at first second
    have unscripted (number : Int) :
        ¬ ∃ status reason, .response status reason number ∈ ([] : List (Reply Int)) := by simp
    rw [digests a (first.resolve_right (unscripted a)) b (second.resolve_right (unscripted b)) same]
  obtain ⟨hash, success⟩ := Prod.mk.inj state
  obtain ⟨row, current, hash⟩ := Option.map_eq_some_iff.mp hash
  have proper : ∀ stamp ∈ sampleVisits.flatMap (Visit.stamps numberFormat .default),
      isStamp stamp = true := by
    rw [stamps]
    decide
  have distinct : (sampleVisits.flatMap (Visit.stamps numberFormat .default)).Nodup := by
    rw [stamps]
    decide
  have shared : ∀ url, Treatment.templateUrl? "" Settings.default.templateUrl = some url →
      isUrl url = true := by
    rintro url ⟨⟩
  have noUrl (number : Int) : isUrl (numberFormat.digest number) = false := isUrl_digest _
  rcases answered : respond numberFormat ⟨"", ""⟩ (samplePrice "anna") before with ⟨response, after⟩
  rw [answered] at success
  obtain ⟨name, result, actsToo, answer, fresh, _⟩ :=
    fresh_price_of_serve noUrl told shared proper distinct route answered success
  rw [actsToo] at acts
  obtain rfl := Option.some.inj acts
  exact ⟨row, result, current, hash, answer, (fresh row current).1⟩

end SheetPricing.Service
