import SheetPricing.Proofs.Service.Visiting

/-! Owners do not notice each other. Two runs that differ in the requests for other owners only give
one owner the same responses, and so do the treatments: step by step, what the owner has and what
the treatments hold stay the same in both. -/
namespace SheetPricing.Service
open Action App Archive Loading Storage
variable {β : Type} {format : FileFormat β} {known : β → Prop} {used usedToo : List String}
  {houses places housesToo placesToo : List (List String)} {app other after : App β}
  {moment momentToo : Moment} {settings : Settings} {owner : String} {visit : Visit β}
  {visits others rest : List (Visit β)}

/-- Two services in which an owner has the same, and the treatments hold and will get the same. -/
structure Alike (format : FileFormat β) (known : β → Prop) (owner : String) (app other : App β) :
    Prop where
  settings : other.settings = app.settings
  holding : ∃ holding, Has format known app.archive owner holding ∧
    Has format known other.archive owner holding
  treatments : other.treatments = app.treatments
  loader : app.archive.loader.Agree other.archive.loader
  root : other.archive.blobs.root = app.archive.blobs.root

theorem alike_start (format : FileFormat β) (known : β → Prop) (owner : String) (settings : Settings)
    (root : Path) (replies : List (Reply β)) :
    Alike format known owner (.start settings root replies) (.start settings root replies) :=
  ⟨rfl, ⟨none, rfl, rfl⟩, rfl, .refl _, rfl⟩

/-- What is done for another owner does not count. -/
theorem Alike.of_confined (alike : Alike format known owner app other) {name : String}
    (confined : Confined name app after) (apart : owner ≠ name)
    (settings : after.settings = app.settings) : Alike format known owner after other := by
  obtain ⟨holding, has, hasToo⟩ := alike.holding
  exact ⟨alike.settings.trans settings.symm, ⟨holding, has.congr (confined.others owner apart), hasToo⟩,
    alike.treatments.trans confined.treatments.symm,
    alike.loader.of_sameRemote confined.remote (.refl _), alike.root.trans confined.root.symm⟩

/-- Whether an upload can be saved does not depend on the moment. -/
theorem Errand.exists_fits (errand : Errand β) (root : Path) (owner : String)
    (proper : ∀ stamp ∈ (errand.task owner).stamps moment, isStamp stamp = true)
    (properToo : ∀ stamp ∈ (errand.task owner).stamps momentToo, isStamp stamp = true) :
    ∃ fits, errand.Fits root owner moment fits ∧ errand.Fits root owner momentToo fits := by
  cases errand with
  | store submission =>
    rcases submission with ⟨config, _ | given⟩
    · exact ⟨true, by rintro given ⟨⟩, by rintro given ⟨⟩⟩
    · have same := fits_blobAt_iff (proper _ (List.mem_singleton_self _))
        (properToo _ (List.mem_singleton_self _)) root owner (savedName config given)
      by_cases fits : (blobAt root owner (savedName config given) moment.stamp).Fits
      · refine ⟨true, ?_, ?_⟩
        · rintro _ ⟨⟩
          exact iff_of_true rfl fits
        · rintro _ ⟨⟩
          exact iff_of_true rfl (same.mp fits)
      · refine ⟨false, ?_, ?_⟩
        · rintro _ ⟨⟩
          exact iff_of_false Bool.false_ne_true fits
        · rintro _ ⟨⟩
          exact iff_of_false Bool.false_ne_true fun later => fits (same.mpr later)
  | config => exact ⟨true, trivial, trivial⟩
  | clear => exact ⟨true, trivial, trivial⟩
  | sheets => exact ⟨true, trivial, trivial⟩
  | price inputs => exact ⟨true, trivial, trivial⟩

/-- A request at one of the places of owners that names another owner. -/
def concernsOther (settings : Settings) (owner : String) (request : Request β) : Bool :=
  (Route.ofPath? settings.basePath request.path).any Route.isForOwners &&
    namedOwner request != "" && namedOwner request != owner

/-- Only the report about the service is for none of the owners and treatments. -/
def isReport (settings : Settings) (request : Request β) : Bool :=
  Route.ofPath? settings.basePath request.path == some .health

section
variable (steady : Steady format known used houses places app)
  (steadyToo : Steady format known usedToo housesToo placesToo other)
  (noUrl : ∀ data, isUrl (format.digest data) = false)
  (told : ∀ a b, known a → known b → format.digest a = format.digest b →
    format.sheets a = format.sheets b)
  (alike : Alike format known owner app other)
include steady steadyToo noUrl told alike

/-- What an owner is answered depends on nothing that other owners do. -/
theorem Alike.errand (errand : Errand β)
    (granted : (errand.task owner).Granted known houses places used moment)
    (grantedToo : (errand.task owner).Granted known housesToo placesToo usedToo momentToo) :
    Response.shown (((errand.task owner).perform format moment).on app).1
        = Response.shown (((errand.task owner).perform format momentToo).on other).1 ∧
      Alike format known owner (((errand.task owner).perform format moment).on app).2
        (((errand.task owner).perform format momentToo).on other).2 := by
  obtain ⟨holding, has, hasToo⟩ := alike.holding
  obtain ⟨fits, fitting, fittingToo⟩ :=
    errand.exists_fits app.archive.blobs.root owner granted.proper grantedToo.proper
  rw [← alike.root] at fittingToo
  obtain ⟨answer, next⟩ := steady.answers noUrl told has errand fits granted fitting
  obtain ⟨answerToo, nextToo⟩ := steadyToo.answers noUrl told hasToo errand fits grantedToo fittingToo
  have confined := steady.confined noUrl errand granted
  have confinedToo := steadyToo.confined noUrl errand grantedToo
  refine ⟨answer.trans answerToo.symm, ?_, ⟨_, next, nextToo⟩, ?_, ?_, ?_⟩
  · rw [settings_perform, settings_perform, alike.settings]
  · rw [confined.treatments, confinedToo.treatments, alike.treatments]
  · exact alike.loader.of_sameRemote confined.remote confinedToo.remote
  · rw [confined.root, confinedToo.root, alike.root]

/-- The price of a treatment depends on nothing that owners do. -/
theorem Alike.treatmentPrice (shared : app.HasTemplateUrl) (kind : Treatment)
    (inputs : PerDimension (Option RawInput)) :
    ((App.treatmentPrice format kind inputs).on app).1
        = ((App.treatmentPrice format kind inputs).on other).1 ∧
      Alike format known owner ((App.treatmentPrice format kind inputs).on app).2
        ((App.treatmentPrice format kind inputs).on other).2 := by
  rw [on_treatmentPrice, on_treatmentPrice, alike.settings]
  cases template : Treatment.templateUrl? "" app.settings.templateUrl with
  | none => exact ⟨rfl, alike⟩
  | some url =>
    dsimp only
    rw [loadTreatment, loadTreatment, alike.treatments]
    obtain ⟨holding, has, hasToo⟩ := alike.holding
    cases held : (Registry.session app.treatments kind.sheetName).template with
    | some kept =>
      rw [Session.on_load_of_held held, Session.on_load_of_held held]
      exact ⟨rfl, rfl, ⟨holding, has, hasToo⟩, rfl, alike.loader, alike.root⟩
    | none =>
      have remote : isUrl (kind.config url).workbookRef = true := shared url template
      have loads := alike.loader.loadUrl told noUrl steady.inStep.archive.loader
        steadyToo.inStep.archive.loader remote
      have supplies (archive : Archive β) := Session.supplies_treatmentSource format kind url archive
      rw [Session.on_load_of_supplies (supplies _) held, Session.on_load_of_supplies (supplies _) held,
        withLoader, on_within, on_within]
      generalize (Loader.loadUrl format (kind.config url).workbookRef).on app.archive.loader = first
        at loads ⊢
      generalize (Loader.loadUrl format (kind.config url).workbookRef).on other.archive.loader = second
        at loads ⊢
      obtain ⟨outcome, loader⟩ := first
      obtain ⟨outcomeToo, loaderToo⟩ := second
      obtain ⟨same, agree⟩ := loads
      rcases outcome with failure | parsed <;> rcases outcomeToo with failureToo | parsedToo
      · cases same
        exact ⟨rfl, rfl, ⟨holding, has, hasToo⟩, rfl, agree, alike.root⟩
      · cases same
      · cases same
      · have workbook : parsedToo.workbook = parsed.workbook := Except.ok.inj same
        dsimp only
        rw [workbook]
        exact ⟨rfl, rfl, ⟨holding, has, hasToo⟩, rfl, agree, alike.root⟩

/-- A request that is in both runs is answered alike. -/
theorem Alike.respond {visitToo : Visit β} {restToo : List (Visit β)} (shared : app.HasTemplateUrl)
    (course : Course format known app.settings houses places used (visit :: rest))
    (courseToo : Course format known app.settings housesToo placesToo usedToo (visitToo :: restToo))
    (same : visitToo.request = visit.request)
    (kept : concernsOther app.settings owner visit.request = false) :
    (isReport app.settings visit.request = false →
      Response.shown (App.respond format visit.moment visit.request app).1
        = Response.shown (App.respond format visitToo.moment visitToo.request other).1) ∧
      Alike format known owner (App.respond format visit.moment visit.request app).2
        (App.respond format visitToo.moment visitToo.request other).2 := by
  rw [respond_eq, respond_eq, alike.settings]
  have granted {task : Task β} (asked : ask format app.settings visit.request = .ok task) :=
    course.granted asked
  have grantedToo {task : Task β} (asked : ask format app.settings visitToo.request = .ok task) :=
    courseToo.granted asked
  rw [same] at grantedToo ⊢
  cases asked : ask format app.settings visit.request with
  | error rejection => exact ⟨fun _ => rfl, alike⟩
  | ok task =>
    obtain ⟨route, found, asks⟩ := asks_of_ask asked
    cases asks with
    | errand errand forOwners named =>
      have mine : namedOwner visit.request = owner := by
        rw [concernsOther, found, Option.any_some, forOwners] at kept
        simpa [named] using kept
      rw [mine] at asked ⊢
      obtain ⟨answers, next⟩ :=
        alike.errand steady steadyToo noUrl told errand (granted asked) (grantedToo asked)
      exact ⟨fun _ => answers, next⟩
    | health =>
      rw [isReport, found]
      refine ⟨?_, alike⟩
      rintro ⟨⟩
    | database => exact ⟨fun _ => rfl, alike⟩
    | treatment name kind inputs =>
      obtain ⟨answers, next⟩ :=
        alike.treatmentPrice steady steadyToo noUrl told shared kind inputs
      exact ⟨fun _ => congrArg Response.shown answers, next⟩

omit steadyToo told in
/-- A request for another owner changes nothing that counts. -/
theorem Alike.respond_other
    (course : Course format known app.settings houses places used (visit :: rest))
    (concerns : concernsOther app.settings owner visit.request = true) :
    Alike format known owner (App.respond format visit.moment visit.request app).2 other := by
  have settings := settings_respond format visit.moment visit.request app
  rw [respond_eq] at settings ⊢
  cases asked : ask format app.settings visit.request with
  | error rejection => exact alike
  | ok task =>
    rw [asked] at settings
    obtain ⟨route, found, asks⟩ := asks_of_ask asked
    rw [concernsOther, found, Option.any_some] at concerns
    cases asks with
    | errand errand forOwners named =>
      have apart : namedOwner visit.request ≠ owner := by
        simp only [Bool.and_eq_true, bne_iff_ne] at concerns
        exact concerns.2
      exact alike.of_confined (steady.confined noUrl errand (course.granted asked)) apart.symm settings
    | health => cases concerns
    | database => cases concerns
    | treatment name kind inputs => cases concerns

end

/-- The requests of a run with their responses. -/
def exchanges (format : FileFormat β) : List (Visit β) → App β → List (Request β × Response)
  | [], _ => []
  | visit :: rest, app =>
    (visit.request, (respond format visit.moment visit.request app).1) ::
      exchanges format rest (respond format visit.moment visit.request app).2

/-- An answer up to when a row was written. -/
def Answer.undated : Answer → Answer
  | .stored row => .stored { row with updatedAt := "" }
  | answer => answer

/-- What is sent back, up to when a row was written. -/
def sent (exchange : Request β × Response) : Nat × Content :=
  (exchange.2.status, Response.content exchange.1.method (exchange.2.map Answer.undated))

/-- What is sent back tells nothing of where workbooks are stored. -/
theorem sent_eq_of_shown (request : Request β) {first second : Response}
    (same : first.shown = second.shown) : sent (request, first) = sent (request, second) := by
  have whole (response : Response) : sent (request, response)
      = (response.shown.status, Response.content request.method response.shown) := by
    rcases response with rejection | answer
    · rfl
    · cases answer <;> rfl
  rw [whole, whole, same]

/-- What is sent back to an owner, and for treatments, in a run of requests. -/
def sentFor (format : FileFormat β) (settings : Settings) (owner : String) (visits : List (Visit β))
    (app : App β) : List (Nat × Content) :=
  ((exchanges format visits app).filter fun exchange =>
    !concernsOther settings owner exchange.1 && !isReport settings exchange.1).map sent

theorem sentFor_cons_of_concernsOther (format : FileFormat β) (rest : List (Visit β)) (app : App β)
    (concerns : concernsOther settings owner visit.request = true) :
    sentFor format settings owner (visit :: rest) app
      = sentFor format settings owner rest (respond format visit.moment visit.request app).2 := by
  simp [sentFor, exchanges, concerns]

theorem sentFor_cons (format : FileFormat β) (rest : List (Visit β)) (app : App β)
    (kept : concernsOther settings owner visit.request = false) :
    sentFor format settings owner (visit :: rest) app
      = (if isReport settings visit.request = true then []
          else [sent (visit.request, (respond format visit.moment visit.request app).1)])
        ++ sentFor format settings owner rest (respond format visit.moment visit.request app).2 := by
  cases report : isReport settings visit.request <;> simp [sentFor, exchanges, kept, report]

/-- Runs with the same requests but for those for other owners. -/
theorem Alike.sentFor_eq (alike : Alike format known owner app other)
    (steady : Steady format known used houses places app)
    (steadyToo : Steady format known usedToo housesToo placesToo other)
    (noUrl : ∀ data, isUrl (format.digest data) = false)
    (told : ∀ a b, known a → known b → format.digest a = format.digest b →
      format.sheets a = format.sheets b)
    (same : app.settings = settings) (shared : app.HasTemplateUrl)
    (course : Course format known settings houses places used visits)
    (courseToo : Course format known settings housesToo placesToo usedToo others)
    (removed : others.map Visit.request
      = (visits.map Visit.request).filter fun request => !concernsOther settings owner request) :
    sentFor format settings owner visits app = sentFor format settings owner others other := by
  induction visits generalizing app other used usedToo others with
  | nil =>
    obtain rfl := List.map_eq_nil_iff.mp removed
    rfl
  | cons visit rest ih =>
    subst same
    have settings := settings_respond format visit.moment visit.request app
    have sharedNext : (App.respond format visit.moment visit.request app).2.HasTemplateUrl :=
      fun url template => shared url (settings ▸ template)
    have next := course.respond steady rfl noUrl told shared
    rw [List.map_cons] at removed
    cases concerns : concernsOther app.settings owner visit.request with
    | true =>
      rw [List.filter_cons_of_neg (by simp [concerns])] at removed
      rw [sentFor_cons_of_concernsOther format rest app concerns]
      exact ih (alike.respond_other steady noUrl course concerns) next steadyToo settings sharedNext
        course.tail courseToo removed
    | false =>
      rw [List.filter_cons_of_pos (by simp [concerns])] at removed
      obtain ⟨visitToo, restToo, rfl, sameRequest, removed⟩ := List.map_eq_cons_iff.mp removed
      have nextToo := courseToo.respond steadyToo alike.settings noUrl told fun url template =>
        shared url (alike.settings ▸ template)
      obtain ⟨answers, alikeNext⟩ :=
        alike.respond steady steadyToo noUrl told shared course courseToo sameRequest concerns
      rw [sentFor_cons format rest app concerns,
        sentFor_cons format restToo other (sameRequest ▸ concerns),
        ih alikeNext next nextToo settings sharedNext course.tail courseToo.tail removed, sameRequest]
      rw [sameRequest] at answers
      split
      · rfl
      · next counts => rw [sent_eq_of_shown visit.request (answers (eq_false_of_ne_true counts))]

/-- Every upload is saved under a stamp that is new: no other upload has it, and the name of its blob,
which begins with it, is not that of a directory. Only an owner whose name spells such a stamp could
have a directory where a blob of another one is saved. -/
structure FreshStamps (format : FileFormat β) (settings : Settings) (root : Path)
    (visits : List (Visit β)) : Prop where
  proper : ∀ stamp ∈ visits.flatMap (Visit.stamps format settings), isStamp stamp = true
  distinct : (visits.flatMap (Visit.stamps format settings)).Nodup
  unused : ∀ blob ∈ visits.flatMap (Visit.blobs format settings), ∀ name ∈ blob.getLast?,
    name ∉ root.names ∧
      ∀ directory ∈ visits.flatMap (Visit.directories format settings), name ∉ directory

instance (format : FileFormat β) (settings : Settings) (root : Path) (visits : List (Visit β)) :
    Decidable (FreshStamps format settings root visits) :=
  decidable_of_iff
    ((∀ stamp ∈ visits.flatMap (Visit.stamps format settings), isStamp stamp = true) ∧
      (visits.flatMap (Visit.stamps format settings)).Nodup ∧
      ∀ blob ∈ visits.flatMap (Visit.blobs format settings), ∀ name ∈ blob.getLast?,
        name ∉ root.names ∧
          ∀ directory ∈ visits.flatMap (Visit.directories format settings), name ∉ directory)
    ⟨fun all => ⟨all.1, all.2.1, all.2.2⟩, fun fresh => ⟨fresh.proper, fresh.distinct, fresh.unused⟩⟩

namespace FreshStamps
variable {root : Path} (fresh : FreshStamps format settings root visits)
include fresh

/-- The directories of all owners and the one that they are in. -/
theorem apart : Apart root.names
    (["pricing"] :: visits.flatMap (Visit.directories format settings))
    (visits.flatMap (Visit.blobs format settings)) := by
  have saved : ∀ blob ∈ visits.flatMap (Visit.blobs format settings),
      ∃ owner fileName stamp, blob = branch owner fileName stamp := by
    intro blob inside
    obtain ⟨visit, _, inside⟩ := List.mem_flatMap.mp inside
    exact visit.exists_branch inside
  refine apart_of_notMem saved fun blob inside name last => ?_
  obtain ⟨notRoot, notDirectory⟩ := fresh.unused blob inside name last
  refine ⟨notRoot, fun directory member => ?_⟩
  rcases List.mem_cons.mp member with rfl | member
  · obtain ⟨owner, fileName, stamp, rfl⟩ := saved blob inside
    obtain rfl : leaf fileName stamp = name := by simpa [branch] using last
    rw [List.mem_singleton]
    exact leaf_ne (by decide) _ _
  · exact notDirectory directory member

theorem steady_start {replies : List (Reply β)}
    (answers : ∀ status reason body, .response status reason body ∈ replies → known body) :
    Steady format known [] (["pricing"] :: visits.flatMap (Visit.directories format settings))
      (visits.flatMap (Visit.blobs format settings)) (.start settings root replies) where
  inStep := inStep_start settings root answers
  ready := BlobStore.ready_empty root _ List.mem_cons_self
  apart := fresh.apart
  stored owner row current := by cases current

theorem course (plain : ∀ visit ∈ visits, visit.isLocal format settings = true)
    (held : ∀ data ∈ visits.flatMap (Visit.uploads format settings), known data) :
    Course format known settings
      (["pricing"] :: visits.flatMap (Visit.directories format settings))
      (visits.flatMap (Visit.blobs format settings)) [] visits where
  plain := plain
  proper := fresh.proper
  distinct := fresh.distinct
  held := held
  housed _ inside := List.mem_cons_of_mem _ inside
  placed _ inside := inside

end FreshStamps

/-- A service with a shared template. -/
def sharedSettings : Settings :=
  { Settings.default with templateUrl := some "https://example.com/prijzen.xlsx" }

/-- A request that comes when nothing is saved. -/
def sampleVisit (request : Request Int) : Visit Int := ⟨⟨"", ""⟩, request⟩

def sampleTreatment : Request Int :=
  sampleRequest "POST" "/pricing/template/Verzinken/calculate" "" "application/json" <|
    .text "\x7b\"length\": 10, \"width\": 20, \"height\": 30, \"weight\": 61\x7d"

/-- Two more owners upload too: one has the same directory, and one is named like a treatment. -/
def crowdedVisits : List (Visit Int) :=
  [sampleUpload "anna" 1 '1', sampleUpload "team/anna" 1 '2', sampleUpload "Verzinken" 2 '3',
    sampleVisit (sampleRequest "DELETE" "/pricing/config" "team/anna" "" .empty),
    sampleVisit sampleTreatment, sampleVisit (samplePrice "anna")]

/-- The same without the other owners, somewhat later. -/
def lonelyVisits : List (Visit Int) :=
  [sampleUpload "anna" 1 '4', sampleVisit sampleTreatment, sampleVisit (samplePrice "anna")]

end SheetPricing.Service
