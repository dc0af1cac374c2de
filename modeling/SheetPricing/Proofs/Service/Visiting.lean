import SheetPricing.Proofs.Service.Account
import SheetPricing.Proofs.Service.Freshness

/-! Who a request is made for, and runs of requests that nothing is in the way of. In such a run the
service stays steady. -/
namespace SheetPricing.Service
open Action App Archive Loading Storage
variable {β : Type} {format : FileFormat β} {known : β → Prop} {used : List String}
  {houses places : List (List String)} {app : App β} {settings : Settings} {visit : Visit β}
  {rest : List (Visit β)} {request : Request β} {route : Route} {task : Task β}

/-- The owner that a request names, if any. -/
def namedOwner (request : Request β) : String :=
  Text.trim ((request.header? "X-Owner-Id").getD "")

/-- The places where requests are made for owners. -/
def Route.isForOwners : Route → Bool
  | .config => true
  | .sheets => true
  | .calculate => true
  | _ => false

/-- What is asked for at a route: something for the owner that is named, or for nobody. -/
inductive Asks (request : Request β) : Route → Task β → Prop
  | errand {route : Route} (errand : Errand β) (forOwners : route.isForOwners = true)
    (named : namedOwner request ≠ "") : Asks request route (errand.task (namedOwner request))
  | health : Asks request .health .health
  | database : Asks request .database .database
  | treatment (name : String) (kind : Treatment) (inputs : PerDimension (Option RawInput)) :
    Asks request (.treatment name) (.treatment kind inputs)

theorem eq_namedOwner {name : String} (acts : App.owner settings request = .ok name) :
    name = namedOwner request ∧ name ≠ "" := by
  obtain ⟨_, _, named⟩ := ok_of_bind acts
  dsimp only at named
  split at named
  · cases named
  · next filled =>
    obtain rfl := Except.ok.inj named
    refine ⟨rfl, ?_⟩
    rintro empty
    rw [empty] at filled
    exact filled rfl

theorem asks_of_askAt (asked : askAt format settings request route = .ok task) :
    Asks request route task := by
  have mine {name : String} (acts : App.owner settings request = .ok name) (errand : Errand β)
      (forOwners : route.isForOwners = true) : Asks request route (errand.task name) := by
    obtain ⟨rfl, named⟩ := eq_namedOwner acts
    exact .errand errand forOwners named
  cases route with
  | health =>
    rw [askAt] at asked
    split at asked
    · cases asked
      exact .health
    · cases asked
  | database =>
    rw [askAt] at asked
    split at asked
    · cases asked
      exact .database
    · cases asked
  | config =>
    rw [askAt] at asked
    split at asked
    · obtain ⟨name, acts, rfl⟩ := exists_of_map asked
      exact mine acts .config rfl
    split at asked
    · obtain ⟨form, _, asked⟩ := ok_of_bind asked
      obtain ⟨name, acts, asked⟩ := ok_of_bind asked
      obtain ⟨submission, _, asked⟩ := ok_of_bind asked
      cases asked
      exact mine acts (.store submission) rfl
    split at asked
    · obtain ⟨name, acts, rfl⟩ := exists_of_map asked
      exact mine acts .clear rfl
    · cases asked
  | sheets =>
    rw [askAt] at asked
    split at asked
    · obtain ⟨name, acts, rfl⟩ := exists_of_map asked
      exact mine acts .sheets rfl
    · cases asked
  | calculate =>
    rw [askAt] at asked
    split at asked
    · obtain ⟨payload, _, asked⟩ := ok_of_bind asked
      obtain ⟨name, acts, asked⟩ := ok_of_bind asked
      obtain ⟨inputs, _, asked⟩ := ok_of_bind asked
      cases asked
      exact mine acts (.price inputs) rfl
    · cases asked
  | treatment name =>
    rw [askAt] at asked
    split at asked
    · obtain ⟨payload, _, asked⟩ := ok_of_bind asked
      obtain ⟨_, _, asked⟩ := ok_of_bind asked
      obtain ⟨⟨kind, inputs⟩, _, asked⟩ := ok_of_bind asked
      cases asked
      exact .treatment name kind inputs
    · cases asked

theorem asks_of_ask (asked : ask format settings request = .ok task) :
    ∃ route, Route.ofPath? settings.basePath request.path = some route ∧
      Asks request route task := by
  rw [ask] at asked
  split at asked
  · cases asked
  · next route found => exact ⟨route, found, asks_of_askAt asked⟩

namespace Visit

/-- The directories that a visit saves something in. -/
def directories (format : FileFormat β) (settings : Settings) (visit : Visit β) :
    List (List String) :=
  match ask format settings visit.request with
  | .error _ => []
  | .ok task => task.directories

/-- What a visit saves something as. -/
def blobs (format : FileFormat β) (settings : Settings) (visit : Visit β) : List (List String) :=
  match ask format settings visit.request with
  | .error _ => []
  | .ok task => task.blobs visit.moment

theorem exists_branch {names : List String} (visit : Visit β)
    (inside : names ∈ visit.blobs format settings) :
    ∃ owner fileName stamp, names = branch owner fileName stamp := by
  rw [blobs] at inside
  split at inside
  · cases inside
  next task _ =>
    cases task with
    | store owner submission =>
      rw [Task.blobs, Option.mem_toList] at inside
      obtain ⟨given, _, rfl⟩ := Option.map_eq_some_iff.mp inside
      exact ⟨owner, _, _, rfl⟩
    | _ => cases inside

/-- Whether no URL of a workbook is given for an owner. -/
def isLocal (format : FileFormat β) (settings : Settings) (visit : Visit β) : Bool :=
  match ask format settings visit.request with
  | .error _ => true
  | .ok task => task.isLocal

end Visit

/-- Visits with nothing in the way when some stamps are used up already: every upload is known and
saved under a new stamp, in a directory and as a blob that are provided for. -/
structure Course (format : FileFormat β) (known : β → Prop) (settings : Settings)
    (houses places : List (List String)) (used : List String) (visits : List (Visit β)) : Prop where
  plain : ∀ visit ∈ visits, visit.isLocal format settings = true
  proper : ∀ stamp ∈ visits.flatMap (Visit.stamps format settings), isStamp stamp = true
  distinct : (used ++ visits.flatMap (Visit.stamps format settings)).Nodup
  held : ∀ data ∈ visits.flatMap (Visit.uploads format settings), known data
  housed : ∀ names ∈ visits.flatMap (Visit.directories format settings), names ∈ houses
  placed : ∀ names ∈ visits.flatMap (Visit.blobs format settings), names ∈ places

namespace Course
variable (course : Course format known settings houses places used (visit :: rest))
include course

theorem granted (asked : ask format settings visit.request = .ok task) :
    task.Granted known houses places used visit.moment := by
  obtain ⟨plain, proper, distinct, held, housed, placed⟩ := course
  have plain := plain visit List.mem_cons_self
  rw [Visit.isLocal, asked] at plain
  rw [List.flatMap_cons, Visit.stamps, asked] at proper distinct
  rw [List.flatMap_cons, Visit.uploads, asked] at held
  rw [List.flatMap_cons, Visit.directories, asked] at housed
  rw [List.flatMap_cons, Visit.blobs, asked] at placed
  exact ⟨plain,
    fun stamp member => proper stamp (List.mem_append_left _ member),
    fun stamp member earlier => (List.nodup_append.mp distinct).2.2 stamp earlier stamp
      (List.mem_append_left _ member) rfl,
    fun data member => held data (List.mem_append_left _ member),
    fun names member => housed names (List.mem_append_left _ member),
    fun names member => placed names (List.mem_append_left _ member)⟩

theorem tail : Course format known settings houses places (used ++ visit.stamps format settings)
    rest := by
  obtain ⟨plain, proper, distinct, held, housed, placed⟩ := course
  rw [List.flatMap_cons] at proper distinct held housed placed
  rw [← List.append_assoc] at distinct
  exact ⟨fun visit member => plain visit (List.mem_cons_of_mem _ member),
    fun stamp member => proper stamp (List.mem_append_right _ member), distinct,
    fun data member => held data (List.mem_append_right _ member),
    fun names member => housed names (List.mem_append_right _ member),
    fun names member => placed names (List.mem_append_right _ member)⟩

/-- Whatever a visit asks for, the service stays steady. -/
theorem respond (steady : Steady format known used houses places app) (same : app.settings = settings)
    (noUrl : ∀ data, isUrl (format.digest data) = false)
    (told : ∀ a b, known a → known b → format.digest a = format.digest b →
      format.sheets a = format.sheets b) (shared : app.HasTemplateUrl) :
    Steady format known (used ++ visit.stamps format settings) houses places
      (App.respond format visit.moment visit.request app).2 := by
  rw [respond_eq, same]
  cases asked : ask format settings visit.request with
  | error rejection =>
    rw [Visit.stamps, asked, List.append_nil]
    exact steady
  | ok task =>
    rw [Visit.stamps, asked]
    exact steady.perform noUrl told shared task (course.granted asked)

end Course

end SheetPricing.Service
